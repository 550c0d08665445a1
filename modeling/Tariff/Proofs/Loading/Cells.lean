import Tariff.Proofs.Catalogue.WellFormed
import Tariff.Proofs.Loading.Delta
import Tariff.Proofs.Rearranged
import Tariff.Proofs.Week.Slots

/-!
# Cells

A record is about one cell of the tables: a key, a model, a plan or a group of rules.
Whether it is taken depends on that cell alone, and what it does stays in that cell.  Records
about different cells may therefore trade places, and so may two intervals of one model.

Main results:

- Theorem {lit}`Tables.Sound.take_congr`: tables that agree in the cell of a record take it
  alike and agree there afterwards.
- Theorem {lit}`Tables.agreeAt_take`: a record leaves all cells but its own alone.
- Theorem {lit}`Tables.Sound.take_take`: two records that are free to trade places are taken
  in either order, with the same outcomes.
-/

namespace Tariff

/-! ## Adding an entry to a catalogue -/

namespace Catalogue

variable {α : Type} {c c' d : Catalogue α} {k : Key} {id : Nat} {span : Span} {value : α}
  {o : Outcome}

/-- An entry that is added leaves mode and policy alone, and all keys but its own. -/
theorem add_frame (hadd : c.add k id span value = (d, .ok o)) :
    d.mode = c.mode ∧ d.policy = c.policy ∧
      ∀ j, j ≠ k → d.timeline? j = c.timeline? j ∧ d.isInvalidated j = c.isInvalidated j := by
  obtain ⟨_, hcase⟩ := (add_ok_iff c k id span value o d).1 hadd
  rcases hcase with ⟨_, _, rfl⟩ | ⟨_, ch, l, _, _, rfl⟩ |
    ⟨_, s, existing, hl, ⟨_, _, rfl⟩ | ⟨_, _, rfl⟩⟩
  · exact ⟨rfl, rfl, fun _ _ => ⟨rfl, rfl⟩⟩
  · refine ⟨rfl, rfl, fun j hj => ⟨?_, rfl⟩⟩
    rw [timeline?_put_prepare, if_neg hj]
  · exact ⟨rfl, rfl, fun j _ => ⟨timeline?_prepare_of_overlap hl j, rfl⟩⟩
  · refine ⟨rfl, rfl, fun j hj => ⟨?_, ?_⟩⟩
    · rw [timeline?_drop_prepare, if_neg hj]
    · rw [Bool.eq_iff_iff, isInvalidated_drop]
      exact or_iff_right hj

/-- Catalogues that agree about a key add an entry for it alike and agree about it then. -/
theorem add_congr (hmode : c.mode = c'.mode) (hpolicy : c.policy = c'.policy)
    (htimeline : c.timeline? k = c'.timeline? k)
    (hdropped : c.isInvalidated k = c'.isInvalidated k)
    (hadd : c.add k id span value = (d, .ok o)) :
    ∃ d', c'.add k id span value = (d', .ok o) ∧ d.timeline? k = d'.timeline? k ∧
      d.isInvalidated k = d'.isInvalidated k := by
  have htarget : c.target k = c'.target k := by
    unfold target
    rw [htimeline, hmode]
  obtain ⟨hspan, hcase⟩ := (add_ok_iff c k id span value o d).1 hadd
  rw [hdropped, htarget, hmode, hpolicy] at hcase
  rcases hcase with ⟨hk, ho, rfl⟩ | ⟨hk, ch, l, hl, ho, rfl⟩ |
    ⟨hk, s, existing, hl, ⟨hp, ho, rfl⟩ | ⟨hp, ho, rfl⟩⟩
  · exact ⟨c', (add_ok_iff c' k id span value o c').2 ⟨hspan, .inl ⟨hk, ho, rfl⟩⟩, htimeline,
      hdropped⟩
  · refine ⟨(c'.prepare k).put k l, (add_ok_iff c' k id span value o _).2
      ⟨hspan, .inr (.inl ⟨hk, ch, l, hl, ho, rfl⟩)⟩, ?_, hdropped⟩
    rw [timeline?_put_prepare, timeline?_put_prepare, if_pos rfl, if_pos rfl]
  · refine ⟨c'.prepare k, (add_ok_iff c' k id span value o _).2
      ⟨hspan, .inr (.inr ⟨hk, s, existing, hl, .inl ⟨hp, ho, rfl⟩⟩)⟩, ?_, hdropped⟩
    rw [timeline?_prepare, timeline?_prepare, if_pos rfl, if_pos rfl, htarget]
  · refine ⟨(c'.prepare k).drop k, (add_ok_iff c' k id span value o _).2
      ⟨hspan, .inr (.inr ⟨hk, s, existing, hl, .inr ⟨hp, ho, rfl⟩⟩)⟩, ?_, ?_⟩
    · rw [timeline?_drop_prepare, timeline?_drop_prepare, if_pos rfl, if_pos rfl]
    · rw [Bool.eq_iff_iff, isInvalidated_drop, isInvalidated_drop]
      exact iff_of_true (.inl rfl) (.inl rfl)

end Catalogue

/-! ## Adding a rule to a book -/

namespace RuleBook

variable {b b' : RuleBook} {group : String} {conditions results : List String}

/-- When a rule is added, and what it does. -/
theorem add_eq_ok_iff :
    b.add group conditions results = .ok b' ↔
      conditions.length ≤ maxConditions ∧ results.length ≤ maxResults ∧ ∃ g cs,
        b.groupFor group conditions.length results.length = .ok g ∧
          readConditions group conditions = .ok cs ∧
            b' = ⟨b.groups.set group { g with rules := g.rules ++ [⟨cs, results⟩] }⟩ := by
  unfold add
  by_cases hc : maxConditions < conditions.length
  · rw [if_pos hc]
    refine iff_of_false (fun heq => nomatch heq) ?_
    rintro ⟨hle, _⟩
    omega
  · by_cases hr : maxResults < results.length
    · rw [if_neg hc, if_pos hr]
      refine iff_of_false (fun heq => nomatch heq) ?_
      rintro ⟨_, hle, _⟩
      omega
    · rw [if_neg hc, if_neg hr, and_iff_right (by omega), and_iff_right (by omega)]
      cases b.groupFor group conditions.length results.length with
      | error f => simp
      | ok g =>
        cases readConditions group conditions with
        | error f => simp
        | ok cs => simp [eq_comm]

/-- A rule that is added leaves the other groups alone. -/
theorem get?_groups_add_of_ne (h : b.add group conditions results = .ok b') {name : String}
    (hname : name ≠ group) : b'.groups.get? name = b.groups.get? name := by
  obtain ⟨_, _, g, cs, _, _, rfl⟩ := add_eq_ok_iff.1 h
  exact (Directory.get?_set _ group _ name).trans (if_neg hname)

/-- Books that agree about a group add a rule to it alike and agree about it then. -/
theorem add_congr {d : RuleBook} (hgroup : b.groups.get? group = d.groups.get? group)
    (h : b.add group conditions results = .ok b') :
    ∃ d', d.add group conditions results = .ok d' ∧
      b'.groups.get? group = d'.groups.get? group := by
  obtain ⟨hc, hr, g, cs, hg, hcs, rfl⟩ := add_eq_ok_iff.1 h
  have hg' : d.groupFor group conditions.length results.length = .ok g := by
    rw [← hg]
    unfold groupFor
    rw [hgroup]
  refine ⟨_, add_eq_ok_iff.2 ⟨hc, hr, g, cs, hg', hcs, rfl⟩, ?_⟩
  simp only
  rw [Directory.get?_set, Directory.get?_set, if_pos rfl, if_pos rfl]

end RuleBook

/-! ## Cells of the tables -/

/-- A part of the tables that records are about. -/
inductive Cell where
  | key (k : Key)
  | model (name : String)
  | plan (name : String)
  | group (name : String)
deriving DecidableEq

/-- What a record is about. -/
def Record.cell : Record → Cell
  | .validity v => .key v.key
  | .interval model .. => .model model
  | .mapping plan _ => .plan plan
  | .rule group .. => .group group

/-- The order of the records about the cell does not matter. -/
def Cell.IsLoose : Cell → Prop
  | model _ => True
  | key _ | plan _ | group _ => False

namespace Tables

/-! ## When a record is taken, and what it does -/

variable {t t' u : Tables} {o : Catalogue.Outcome}

/-- A validity entry is taken exactly if it is sound, and then changes the catalogue alone. -/
theorem take_validity_eq_ok_iff (v : Validity) :
    t.take (.validity v) = .ok (o, u) ↔
      v.IsSound ∧ ∃ c, t.catalogue.add v.key v.id.toNat v.span v.results = (c, .ok o) ∧
        u = { t with catalogue := c } := by
  rw [← checkEntry_eq_ok_iff]
  unfold take applyValidity applyEntry
  simp only [bind, Except.bind]
  cases checkEntry v.key v.span v.results with
  | error f => simp
  | ok _ =>
    simp only
    obtain ⟨c, added⟩ := t.catalogue.add v.key v.id.toNat v.span v.results
    cases added with
    | error f => simp
    | ok o' => simp [eq_comm, and_comm]

/-- An interval is taken exactly if its name and its times can be read and its model takes it,
and then changes that model alone. -/
theorem take_interval_eq_ok_iff (model : String) (day : UInt8) (start stop result : String) :
    t.take (.interval model day start stop result) = .ok (o, u) ↔
      checkName model = .ok () ∧ ∃ first last m,
        WeekModels.readTime start = .ok first ∧ WeekModels.readTime stop = .ok last ∧
          ((t.weeks.model? model).getD (WeekModel.empty model)).add day.toNat first last result =
              .ok m ∧
            o = .added ∧
              u = { t with weeks := { t.weeks with models := t.weeks.models.set model m } } := by
  unfold take addInterval WeekModels.add
  simp only [bind, Except.bind]
  cases checkName model with
  | error f => simp [Except.map]
  | ok _ =>
    cases WeekModels.readTime start with
    | error f => simp [Except.map]
    | ok first =>
      cases WeekModels.readTime stop with
      | error f => simp [Except.map]
      | ok last =>
        simp only
        cases hm : ((t.weeks.model? model).getD (WeekModel.empty model)).add day.toNat first last
          result with
        | error f => simp [Except.map, hm]
        | ok m => simp [Except.map, hm, eq_comm]

/-- A plan is taken exactly if both its names are short, and then is mapped. -/
theorem take_mapping_eq_ok_iff (plan model : String) :
    t.take (.mapping plan model) = .ok (o, u) ↔
      checkName plan = .ok () ∧ checkName model = .ok () ∧ o = .added ∧
        u = { t with weeks := t.weeks.mapPlan plan model } := by
  unfold take addMapping
  simp only [bind, Except.bind]
  cases checkName plan with
  | error f => simp [Except.map]
  | ok _ =>
    cases checkName model with
    | error f => simp [Except.map]
    | ok _ => simp [Except.map, eq_comm]

/-- A rule is taken exactly if its group has a short name and takes it, and then changes the
rules alone. -/
theorem take_rule_eq_ok_iff (group : String) (conditions results : List String) :
    t.take (.rule group conditions results) = .ok (o, u) ↔
      checkName group = .ok () ∧ ∃ b, t.rules.add group conditions results = .ok b ∧
        o = .added ∧ u = { t with rules := b } := by
  unfold take addRule
  simp only [bind, Except.bind]
  cases checkName group with
  | error f => simp [Except.map]
  | ok _ =>
    simp only
    cases t.rules.add group conditions results with
    | error f => simp [Except.map]
    | ok b => simp [Except.map, eq_comm]

/-! ## Agreement in a cell -/

/-- Two tables hold the same in a cell.  Of a model its slots count. -/
def AgreeAt (t t' : Tables) : Cell → Prop
  | .key k =>
    t.catalogue.timeline? k = t'.catalogue.timeline? k ∧
      t.catalogue.isInvalidated k = t'.catalogue.isInvalidated k
  | .model name =>
    (t.weeks.model? name).map WeekModel.slots = (t'.weeks.model? name).map WeekModel.slots
  | .plan name => t.weeks.plans.get? name = t'.weeks.plans.get? name
  | .group name => t.rules.groups.get? name = t'.rules.groups.get? name

/-- Tables agree with themselves at every cell. -/
theorem AgreeAt.refl (t : Tables) (c : Cell) : t.AgreeAt t c := by
  cases c with
  | key k => exact ⟨rfl, rfl⟩
  | model | plan | group => exact rfl

/-- Agreement at a cell goes both ways. -/
theorem AgreeAt.symm {c : Cell} (h : t.AgreeAt t' c) : t'.AgreeAt t c := by
  cases c with
  | key k => exact ⟨h.1.symm, h.2.symm⟩
  | model | plan | group => exact Eq.symm h

/-- Agreement at a cell is passed on. -/
theorem AgreeAt.trans {c : Cell} (h : t.AgreeAt t' c) (h' : t'.AgreeAt u c) : t.AgreeAt u c := by
  cases c with
  | key k => exact ⟨h.1.trans h'.1, h.2.trans h'.2⟩
  | model | plan | group => exact Eq.trans h h'

/-- A record leaves all cells but its own alone. -/
theorem agreeAt_take {r : Record} (h : t.take r = .ok (o, u)) {c : Cell} (hc : c ≠ r.cell) :
    u.AgreeAt t c := by
  cases r with
  | validity v =>
    obtain ⟨_, d, hadd, rfl⟩ := (take_validity_eq_ok_iff v).1 h
    cases c with
    | key k => exact (Catalogue.add_frame hadd).2.2 k fun hk => hc (congrArg Cell.key hk)
    | model | plan | group => exact rfl
  | interval model day start stop result =>
    obtain ⟨_, first, last, m, _, _, _, _, rfl⟩ :=
      (take_interval_eq_ok_iff model day start stop result).1 h
    cases c with
    | model name =>
      have hname : name ≠ model := fun heq => hc (congrArg Cell.model heq)
      unfold AgreeAt WeekModels.model?
      simp only
      rw [Directory.get?_set, if_neg hname]
    | key => exact ⟨rfl, rfl⟩
    | plan | group => exact rfl
  | mapping plan model =>
    obtain ⟨_, _, _, rfl⟩ := (take_mapping_eq_ok_iff plan model).1 h
    cases c with
    | plan name =>
      have hname : name ≠ plan := fun heq => hc (congrArg Cell.plan heq)
      unfold AgreeAt WeekModels.mapPlan
      simp only
      rw [Directory.get?_set, if_neg hname]
    | key => exact ⟨rfl, rfl⟩
    | model | group => exact rfl
  | rule group conditions results =>
    obtain ⟨_, b, hb, _, rfl⟩ := (take_rule_eq_ok_iff group conditions results).1 h
    cases c with
    | group name =>
      have hname : name ≠ group := fun heq => hc (congrArg Cell.group heq)
      exact RuleBook.get?_groups_add_of_ne hb hname
    | key => exact ⟨rfl, rfl⟩
    | model | plan => exact rfl

/-! ## Tables that come from records -/

/-- What holds of tables that were built from records under some options. -/
structure Sound (options : Options) (t : Tables) : Prop where
  mode : t.catalogue.mode = options.mode
  policy : t.catalogue.policy = options.policy
  catalogue : t.catalogue.WellFormed
  built : ∀ name m, t.weeks.model? name = some m → m.Built
  modelsDiffer : t.weeks.models.KeysDiffer
  plansDiffer : t.weeks.plans.KeysDiffer
  groupsDiffer : t.rules.groups.KeysDiffer

/-- Empty tables are sound. -/
theorem sound_empty (options : Options) : (Tables.empty options).Sound options :=
  ⟨rfl, rfl, Catalogue.wellFormed_empty options.mode options.policy,
    (fun _ _ h => nomatch h), Directory.keysDiffer_empty, Directory.keysDiffer_empty,
    Directory.keysDiffer_empty⟩

namespace Sound

variable {options : Options}

/-- The model that intervals of a name come to. -/
theorem built_getD (h : t.Sound options) (name : String) :
    ((t.weeks.model? name).getD (WeekModel.empty name)).Built := by
  cases hm : t.weeks.model? name with
  | none => exact .empty name
  | some m => exact h.built name m hm

/-- Adding an entry keeps tables sound. -/
theorem addEntry (h : t.Sound options) {key : Key} {id : Nat} {span : Span}
    {results : List String} {c : Catalogue (List String)}
    (hadd : t.catalogue.add key id span results = (c, .ok o)) :
    { t with catalogue := c }.Sound options := by
  obtain ⟨hmode, hpolicy, _⟩ := Catalogue.add_frame hadd
  exact { h with
    mode := hmode.trans h.mode
    policy := hpolicy.trans h.policy
    catalogue := h.catalogue.add hadd }

/-- Taking in a record keeps tables sound. -/
theorem take (h : t.Sound options) {r : Record} (htake : t.take r = .ok (o, u)) :
    u.Sound options := by
  cases r with
  | validity v =>
    obtain ⟨_, c, hadd, rfl⟩ := (take_validity_eq_ok_iff v).1 htake
    exact h.addEntry hadd
  | interval model day start stop result =>
    obtain ⟨_, first, last, m, _, _, hadd, _, rfl⟩ :=
      (take_interval_eq_ok_iff model day start stop result).1 htake
    refine { h with built := ?_, modelsDiffer := h.modelsDiffer.set model m }
    intro name n hn
    rw [WeekModels.model?, Directory.get?_set] at hn
    by_cases hname : name = model
    · rw [if_pos hname, Option.some_inj] at hn
      rw [← hn]
      exact (h.built_getD model).add day.toNat first last result hadd
    · rw [if_neg hname] at hn
      exact h.built name n hn
  | mapping plan model =>
    obtain ⟨_, _, _, rfl⟩ := (take_mapping_eq_ok_iff plan model).1 htake
    exact { h with plansDiffer := h.plansDiffer.set plan model }
  | rule group conditions results =>
    obtain ⟨_, b, hb, _, rfl⟩ := (take_rule_eq_ok_iff group conditions results).1 htake
    obtain ⟨_, _, g, cs, _, _, rfl⟩ := RuleBook.add_eq_ok_iff.1 hb
    exact { h with groupsDiffer := h.groupsDiffer.set group _ }

/-- Tables that agree about a model have the same slots there. -/
theorem slots_getD {name : String} (hagree : t.AgreeAt t' (.model name)) :
    ((t.weeks.model? name).getD (WeekModel.empty name)).slots =
      ((t'.weeks.model? name).getD (WeekModel.empty name)).slots := by
  unfold AgreeAt at hagree
  simp only at hagree
  cases hm : t.weeks.model? name with
  | none =>
    rw [hm, Option.map_none, eq_comm, Option.map_eq_none_iff] at hagree
    rw [hagree]
  | some m =>
    rw [hm, Option.map_some, eq_comm, Option.map_eq_some_iff] at hagree
    obtain ⟨m', hm', hslots⟩ := hagree
    rw [hm']
    exact hslots.symm

/-- Tables that agree in the cell of a record take it alike and agree there afterwards. -/
theorem take_congr (h : t.Sound options) (h' : t'.Sound options) {r : Record}
    (hagree : t.AgreeAt t' r.cell) (htake : t.take r = .ok (o, u)) :
    ∃ u', t'.take r = .ok (o, u') ∧ u.AgreeAt u' r.cell := by
  cases r with
  | validity v =>
    obtain ⟨hsound, c, hadd, rfl⟩ := (take_validity_eq_ok_iff v).1 htake
    obtain ⟨c', hadd', hc⟩ := Catalogue.add_congr (h.mode.trans h'.mode.symm)
      (h.policy.trans h'.policy.symm) hagree.1 hagree.2 hadd
    exact ⟨_, (take_validity_eq_ok_iff v).2 ⟨hsound, c', hadd', rfl⟩, hc⟩
  | interval model day start stop result =>
    obtain ⟨hname, first, last, m, hfirst, hlast, hadd, ho, rfl⟩ :=
      (take_interval_eq_ok_iff model day start stop result).1 htake
    obtain ⟨m', hadd', hslots⟩ :=
      (h.built_getD model).add_congr (h'.built_getD model) (slots_getD hagree) hadd
    refine ⟨_, (take_interval_eq_ok_iff model day start stop result).2
      ⟨hname, first, last, m', hfirst, hlast, hadd', ho, rfl⟩, ?_⟩
    unfold AgreeAt Record.cell WeekModels.model?
    simp only
    rw [Directory.get?_set, Directory.get?_set, if_pos rfl, if_pos rfl, Option.map_some,
      Option.map_some, hslots]
  | mapping plan model =>
    obtain ⟨hplan, hmodel, ho, rfl⟩ := (take_mapping_eq_ok_iff plan model).1 htake
    refine ⟨_, (take_mapping_eq_ok_iff plan model).2 ⟨hplan, hmodel, ho, rfl⟩, ?_⟩
    unfold AgreeAt Record.cell WeekModels.mapPlan
    simp only
    rw [Directory.get?_set, Directory.get?_set, if_pos rfl, if_pos rfl]
  | rule group conditions results =>
    obtain ⟨hname, b, hb, ho, rfl⟩ := (take_rule_eq_ok_iff group conditions results).1 htake
    obtain ⟨b', hb', hgroup⟩ := RuleBook.add_congr hagree hb
    exact ⟨_, (take_rule_eq_ok_iff group conditions results).2 ⟨hname, b', hb', ho, rfl⟩, hgroup⟩

/-! ## Records that trade places -/

variable {a b : Record} {x y : Catalogue.Outcome} {ta tab : Tables}

/-- Records about different cells are taken in either order. -/
theorem take_take_of_cell_ne (h : t.Sound options) (hcell : a.cell ≠ b.cell)
    (ha : t.take a = .ok (x, ta)) (hb : ta.take b = .ok (y, tab)) :
    ∃ tb tba, t.take b = .ok (y, tb) ∧ tb.take a = .ok (x, tba) ∧ ∀ c, tab.AgreeAt tba c := by
  have hta : ta.Sound options := h.take ha
  obtain ⟨tb, hb', hagreeb⟩ := hta.take_congr h (agreeAt_take ha (Ne.symm hcell)) hb
  obtain ⟨tba, ha', hagreea⟩ :=
    h.take_congr (h.take hb') (agreeAt_take hb' hcell).symm ha
  refine ⟨tb, tba, hb', ha', fun c => ?_⟩
  by_cases hca : c = a.cell
  · subst hca
    exact (agreeAt_take hb hcell).trans hagreea
  · by_cases hcb : c = b.cell
    · subst hcb
      exact hagreeb.trans (agreeAt_take ha' (Ne.symm hcell)).symm
    · have hab : tab.AgreeAt t c := (agreeAt_take hb hcb).trans (agreeAt_take ha hca)
      have hba : tba.AgreeAt t c := (agreeAt_take ha' hca).trans (agreeAt_take hb' hcb)
      exact hab.trans hba.symm

/-- Two intervals of one model are taken in either order. -/
theorem take_take_interval (h : t.Sound options) {model : String} {day day' : UInt8}
    {start stop result start' stop' result' : String}
    (ha : t.take (.interval model day start stop result) = .ok (x, ta))
    (hb : ta.take (.interval model day' start' stop' result') = .ok (y, tab)) :
    ∃ tb tba, t.take (.interval model day' start' stop' result') = .ok (y, tb) ∧
      tb.take (.interval model day start stop result) = .ok (x, tba) ∧
        ∀ c, tab.AgreeAt tba c := by
  obtain ⟨hname, first, last, m, hfirst, hlast, hm, rfl, rfl⟩ :=
    (take_interval_eq_ok_iff model day start stop result).1 ha
  obtain ⟨_, first', last', n, hfirst', hlast', hn, rfl, rfl⟩ :=
    (take_interval_eq_ok_iff model day' start' stop' result').1 hb
  have hget : ∀ (d : Directory String WeekModel) (m : WeekModel),
      (d.set model m).get? model = some m := by
    intro d m
    rw [Directory.get?_set, if_pos rfl]
  unfold WeekModels.model? at hn
  simp only at hn
  rw [hget, Option.getD_some] at hn
  obtain ⟨m', n', hm', hn', hslots⟩ := (h.built_getD model).add_add hm hn
  have hb' := (take_interval_eq_ok_iff (t := t) model day' start' stop' result').2
    ⟨hname, first', last', m', hfirst', hlast', hm', rfl, rfl⟩
  have ha' := (take_interval_eq_ok_iff model day start stop result
    (t := { t with weeks := { t.weeks with models := t.weeks.models.set model m' } })).2
    ⟨hname, first, last, n', hfirst, hlast, by
      unfold WeekModels.model?
      simp only
      rw [hget, Option.getD_some]
      exact hn', rfl, rfl⟩
  refine ⟨_, _, hb', ha', fun c => ?_⟩
  by_cases hc : c = .model model
  · subst hc
    unfold AgreeAt WeekModels.model?
    simp only
    rw [hget, hget, Option.map_some, Option.map_some, hslots]
  · have hab : AgreeAt _ t c := (agreeAt_take hb hc).trans (agreeAt_take ha hc)
    have hba : AgreeAt _ t c := (agreeAt_take ha' hc).trans (agreeAt_take hb' hc)
    exact hab.trans hba.symm

/-- Two records that are free to trade places are taken in either order, with the same
outcomes. -/
theorem take_take (h : t.Sound options) (hfree : Rearranged.Free Record.cell Cell.IsLoose a b)
    (ha : t.take a = .ok (x, ta)) (hb : ta.take b = .ok (y, tab)) :
    ∃ tb tba, t.take b = .ok (y, tb) ∧ tb.take a = .ok (x, tba) ∧ ∀ c, tab.AgreeAt tba c := by
  by_cases hcell : a.cell = b.cell
  · -- Only intervals are about cells that are loose.
    have hloose : a.cell.IsLoose := (hfree.resolve_left (not_not_intro hcell)).1
    cases a with
    | validity | mapping | rule => cases hloose
    | interval model day start stop result =>
      cases b with
      | validity | mapping | rule => cases hcell
      | interval model' day' start' stop' result' =>
        cases hcell
        exact h.take_take_interval ha hb
  · exact h.take_take_of_cell_ne hcell ha hb

end Sound

end Tables
end Tariff
