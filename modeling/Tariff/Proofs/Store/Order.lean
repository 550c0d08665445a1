import Tariff.Proofs.Loading.Order
import Tariff.Proofs.Store.Operation

/-!
# Loads in another order

Two new stores that load the same records, one of them in another order, cannot be told
apart as long as the order is kept that matters: that of the entries for one key, of the
mappings of one plan and of the rules of one group.

Main results:

- Theorem {lit}`Tables.Same.stats`: tables that agree in every cell have the same sizes.
- Theorem {lit}`Store.Interchangeable.answers`: stores with such tables answer all questions
  alike.
- Theorem {lit}`Store.loadRecords_of_reordered`: loads of reordered records fail both, or give
  the same summary and the same answers.
-/

namespace Tariff

/-! ## Answers from the tables -/

namespace Tables.Same

variable {options : Options} {t t' : Tables}

/-- The value of a key is the same. -/
theorem first? (h : t.Same options t') (k : Key) (instant : Int) :
    t.catalogue.first? k instant = t'.catalogue.first? k instant := by
  unfold Catalogue.first?
  rw [(h.agree (.key k)).1]

/-- All values of a key are the same. -/
theorem all (h : t.Same options t') (k : Key) (instant : Int) :
    t.catalogue.all k instant = t'.catalogue.all k instant := by
  unfold Catalogue.all
  rw [(h.agree (.key k)).1]

/-- The same keys have been dropped. -/
theorem isInvalidated (h : t.Same options t') (k : Key) :
    t.catalogue.isInvalidated k = t'.catalogue.isInvalidated k :=
  (h.agree (.key k)).2

/-- The groups have the same rules in the same order. -/
theorem rules (h : t.Same options t') (group : String) :
    t.rules.rules group = t'.rules.rules group := by
  have hgroup : t.rules.groups.get? group = t'.rules.groups.get? group := h.agree (.group group)
  unfold RuleBook.rules
  rw [hgroup]

/-- What depends on the slots of a model alone is the same of both models of a name. -/
theorem map_model? (h : t.Same options t') {β : Type} {f : WeekModel → β}
    (hf : ∀ {m m' : WeekModel}, m.Built → m'.Built → m.slots = m'.slots → f m = f m')
    (name : String) : (t.weeks.model? name).map f = (t'.weeks.model? name).map f := by
  have hslots : (t.weeks.model? name).map WeekModel.slots =
      (t'.weeks.model? name).map WeekModel.slots := h.agree (.model name)
  cases hm : t.weeks.model? name with
  | none =>
    rw [hm, Option.map_none, eq_comm, Option.map_eq_none_iff] at hslots
    rw [hslots]
  | some m =>
    rw [hm, Option.map_some, eq_comm, Option.map_eq_some_iff] at hslots
    obtain ⟨m', hm', hslots⟩ := hslots
    rw [hm', Option.map_some, Option.map_some,
      hf (h.sound.built name m hm) (h.sound'.built name m' hm') hslots.symm]

/-- A model cuts all spans the same. -/
theorem cut (h : t.Same options t') (name : String) :
    (t.weeks.model? name).map WeekModel.cut = (t'.weeks.model? name).map WeekModel.cut :=
  h.map_model? (fun hm hm' hslots =>
    funext fun offset => funext fun start => funext fun stop =>
      hm.cut_congr hm' hslots offset start stop) name

/-- A model leaves the same gaps. -/
theorem gaps (h : t.Same options t') (name : String) (day : Nat) :
    (t.weeks.model? name).map (·.gaps day) = (t'.weeks.model? name).map (·.gaps day) :=
  h.map_model? (fun hm hm' hslots => hm.gaps_congr hm' hslots day) name

/-- Each plan is rated by models that are cut alike. -/
theorem cut_plan (h : t.Same options t') (plan : String) :
    (t.weeks.modelForPlan? plan).map WeekModel.cut =
      (t'.weeks.modelForPlan? plan).map WeekModel.cut := by
  have hplan : t.weeks.plans.get? plan = t'.weeks.plans.get? plan := h.agree (.plan plan)
  unfold WeekModels.modelForPlan?
  rw [hplan]
  cases t'.weeks.plans.get? plan with
  | none => rfl
  | some name => exact h.cut name

/-- Tables that agree in every cell have the same sizes. -/
theorem stats (h : t.Same options t') : t.stats = t'.stats := by
  obtain ⟨hkeys, hentries⟩ : t.catalogue.keyCount = t'.catalogue.keyCount ∧
      t.catalogue.entryCount = t'.catalogue.entryCount :=
    h.sound.catalogue.nested.counts_congr h.sound'.catalogue.nested
      fun k => (h.agree (.key k)).1
  have hmodels : t.weeks.models.size = t'.weeks.models.size := by
    refine h.sound.modelsDiffer.size_eq h.sound'.modelsDiffer fun name => ?_
    have hthere := congrArg Option.isSome (h.agree (.model name))
    rw [Option.isSome_map, Option.isSome_map] at hthere
    exact hthere
  have hplans : t.weeks.plans.size = t'.weeks.plans.size :=
    h.sound.plansDiffer.size_eq h.sound'.plansDiffer fun plan =>
      congrArg Option.isSome (h.agree (.plan plan))
  have hgroups : t.rules.groupCount = t'.rules.groupCount :=
    h.sound.groupsDiffer.size_eq h.sound'.groupsDiffer fun group =>
      congrArg Option.isSome (h.agree (.group group))
  unfold Tables.stats
  rw [hkeys, hentries, hmodels, hplans, hgroups]

end Tables.Same

/-! ## Answers of stores -/

/-- The operation asks for an answer, and not for the tables themselves. -/
def Operation.isQuestion : Operation → Bool
  | snapshot => false
  | op => op.isQuery

/-- A question changes nothing but the tally. -/
theorem Operation.isQuery_of_isQuestion {op : Operation} (h : op.isQuestion = true) :
    op.isQuery = true := by
  cases op with
  | snapshot => cases h
  | _ => exact h

namespace Store

/-- Stores with the same options and watermark, and tables that agree in every cell. -/
structure Interchangeable (s s' : Store) : Prop where
  options : s.options = s'.options
  tables : s.tables.Same s.options s'.tables
  watermark : s.watermark = s'.watermark

namespace Interchangeable

variable {s s' : Store}

/-- Models that are cut alike give the same segments. -/
theorem segmentWith (h : Interchangeable s s') {m m' : Option WeekModel}
    (hcut : m.map WeekModel.cut = m'.map WeekModel.cut) (start stop : Int) :
    (s.segmentWith m start stop).2 = (s'.segmentWith m' start stop).2 := by
  cases m with
  | none =>
    rw [Option.map_none, eq_comm, Option.map_eq_none_iff] at hcut
    rw [hcut]
    rfl
  | some m =>
    rw [Option.map_some, eq_comm, Option.map_eq_some_iff] at hcut
    obtain ⟨m', rfl, hcut⟩ := hcut
    unfold Store.segmentWith
    simp only
    rw [hcut, h.options]

/-- The first rule that holds is the same. -/
theorem matchFirst (h : Interchangeable s s') (group : String) (fields : List (Option String)) :
    (s.matchFirst group fields).2 = (s'.matchFirst group fields).2 := by
  unfold Store.matchFirst RuleBook.first
  rw [h.tables.rules group]
  cases RuleBook.firstOf fields (s'.tables.rules.rules group) <;> rfl

/-- All rules that hold are the same. -/
theorem matchAll (h : Interchangeable s s') (group : String) (fields : List (Option String)) :
    (s.matchAll group fields).2 = (s'.matchAll group fields).2 := by
  unfold Store.matchAll RuleBook.all
  rw [h.tables.rules group]
  cases RuleBook.allOf fields (s'.tables.rules.rules group) <;> rfl

/-- A question is answered alike. -/
theorem answer (h : Interchangeable s s') {op : Operation} (hop : op.isQuestion = true) :
    (s.perform op).2 = (s'.perform op).2 := by
  cases op with
  | loadRecords | reloadFull | reloadIncremental | refresh | insert | clear | snapshot => cases hop
  | lookup key t => exact congrArg Answer.value (h.tables.first? key t)
  | lookupAll key t => exact congrArg Answer.values (h.tables.all key t)
  | isInvalidated key => exact congrArg Answer.invalidated (h.tables.isInvalidated key)
  | segment model start stop =>
    exact congrArg Answer.segments (h.segmentWith (h.tables.cut model) start stop)
  | segmentForPlan plan start stop =>
    exact congrArg Answer.segments (h.segmentWith (h.tables.cut_plan plan) start stop)
  | matchFirst group fields => exact congrArg Answer.firstMatch (h.matchFirst group fields)
  | matchAll group fields => exact congrArg Answer.allMatches (h.matchAll group fields)
  | stats => exact congrArg Answer.sizes h.tables.stats
  | watermark => exact congrArg Answer.modified h.watermark

/-- Counting changes nothing that answers are drawn from. -/
theorem of_onlyCounted {u u' : Store} (h : Interchangeable s s') (hu : OnlyCounted s u)
    (hu' : OnlyCounted s' u') : Interchangeable u u' := by
  unfold OnlyCounted at hu hu'
  rw [hu, hu']
  exact ⟨h.options, h.tables, h.watermark⟩

/-- Any number of questions is answered alike. -/
theorem answers (h : Interchangeable s s') {ops : List Operation}
    (hops : ∀ op ∈ ops, op.isQuestion = true) : s.answers ops = s'.answers ops := by
  have hstep : ∀ s s' op, Interchangeable s s' → op.isQuestion = true →
      (s.perform op).2 = (s'.perform op).2 ∧
        Interchangeable (s.perform op).1 (s'.perform op).1 := by
    intro s s' op h hop
    have hquery := Operation.isQuery_of_isQuestion hop
    exact ⟨h.answer hop, h.of_onlyCounted (onlyCounted_of_isQuery s hquery)
      (onlyCounted_of_isQuery s' hquery)⟩
  exact (Session.simulation_on hstep h hops).1

end Interchangeable

/-! ## Loads -/

/-- A load into a new store succeeds if its records can be built from. -/
theorem loadRecords_new_of_build {o : Options} {rs : List Record} {l : Loading}
    (h : Loading.build o rs = (l, none)) :
    ((Store.new o).loadRecords rs).2 = .ok l.summary ∧
      ((Store.new o).loadRecords rs).1.options = o ∧
      ((Store.new o).loadRecords rs).1.tables = l.tables ∧
      ((Store.new o).loadRecords rs).1.watermark = l.summary.watermark := by
  have hbuild : Loading.build (Store.new o).options rs = (l, none) := h
  unfold loadRecords
  rw [hbuild]
  exact ⟨rfl, rfl, rfl, rfl⟩

/-- A load into a new store fails as building the tables does. -/
theorem loadRecords_new_of_fault {o : Options} {rs : List Record} {l : Loading} {f : LoadFault}
    (h : Loading.build o rs = (l, some f)) :
    ((Store.new o).loadRecords rs).2 = .error f := by
  have hbuild : Loading.build (Store.new o).options rs = (l, some f) := h
  unfold loadRecords
  rw [hbuild]

/-- Of reordered records, either both lists fail to load into a new store, or both load with
the same summary, and then all questions are answered alike and each model has the same
gaps. -/
theorem loadRecords_of_reordered (o : Options) {rs rs' : List Record} (h : Reordered rs rs') :
    let s := (Store.new o).loadRecords rs
    let s' := (Store.new o).loadRecords rs'
    ((∃ f, s.2 = .error f) ∧ ∃ f, s'.2 = .error f) ∨
      ∃ summary, s.2 = .ok summary ∧ s'.2 = .ok summary ∧
        (∀ ops, (∀ op ∈ ops, op.isQuestion = true) → s.1.answers ops = s'.1.answers ops) ∧
          ∀ name day, (s.1.tables.weeks.model? name).map (·.gaps day) =
            (s'.1.tables.weeks.model? name).map (·.gaps day) := by
  intro s s'
  rcases hbuild : Loading.build o rs with ⟨l, _ | f⟩
  · obtain ⟨l', hbuild', htables, hsummary⟩ := Loading.exists_build_of_reordered h hbuild
    obtain ⟨hok, hoptions, hs, hwatermark⟩ := loadRecords_new_of_build hbuild
    obtain ⟨hok', hoptions', hs', hwatermark'⟩ := loadRecords_new_of_build hbuild'
    have hsame : s.1.tables.Same o s'.1.tables := by
      rw [hs, hs']
      exact htables
    have hboth : Interchangeable s.1 s'.1 := by
      refine ⟨hoptions.trans hoptions'.symm, ?_, ?_⟩
      · rw [hoptions]
        exact hsame
      · rw [hwatermark, hwatermark', hsummary]
    exact .inr ⟨l.summary, hok, hsummary ▸ hok', fun ops => hboth.answers, hsame.gaps⟩
  · -- If the other list loaded, so would this one.
    rcases hbuild' : Loading.build o rs' with ⟨l', _ | f'⟩
    · obtain ⟨m, hm, _⟩ := Loading.exists_build_of_reordered h.symm hbuild'
      rw [hbuild] at hm
      cases hm
    · exact .inl ⟨⟨f, loadRecords_new_of_fault hbuild⟩, f', loadRecords_new_of_fault hbuild'⟩

/-- The intervals of a day come from the last to the first one, and entries, mappings and rules
are shuffled among each other.  The update of the key still comes last, and so does the mapping
that counts. -/
theorem loadRecords_shuffled :
    let o : Options := ⟨.exclusive, .reject, .full, 0⟩
    let old : Record := .validity ⟨1, "tariff", "eu", 0, 10, ["A"], 5⟩
    let new : Record := .validity ⟨1, "tariff", "eu", 4, 20, ["B"], 7⟩
    let morning : Record := .interval "WEEK" 4 "00:00" "11:59" "low"
    let evening : Record := .interval "WEEK" 4 "12:00" "00:00" "high"
    let wrong : Record := .mapping "GOLD" "DAY"
    let right : Record := .mapping "GOLD" "WEEK"
    let rule : Record := .rule "group" [] ["first"]
    let later : Record := .rule "group" [] ["second"]
    let rs := [old, new, morning, evening, wrong, right, rule, later]
    let rs' := [evening, wrong, rule, old, right, morning, later, new]
    let s' := (Store.new o).loadRecords rs'
    Reordered rs rs' ∧ s'.2 = .ok ⟨8, 7, 1, 0, 0, 0, some 7⟩ ∧
      s'.1.answers [.lookup ⟨"tariff", "eu"⟩ 15, .stats] =
        [.value (some ["B"]), .sizes ⟨1, 1, 1, 1, 1⟩] ∧
      (s'.1.tables.weeks.model? "WEEK").map (·.gaps 4) = some [] := by
  intro o old new morning evening wrong right rule later rs rs' s'
  have hperm : rs.Perm rs' := by decide +kernel
  have hreordered : Reordered rs rs' := by
    refine ⟨hperm, ?_, ?_, ?_⟩ <;> intro c <;>
      simp [rs, rs', old, new, morning, evening, wrong, right, rule, later, Rearranged.ofCell,
        Record.cell, List.filter_cons]
  refine ⟨hreordered, ?_⟩
  let s := (Store.new o).loadRecords rs
  have hok : s.2 = .ok ⟨8, 7, 1, 0, 0, 0, some 7⟩ := by rfl
  have hvalue : s.1.tables.catalogue.first? ⟨"tariff", "eu"⟩ 15 = some ["B"] := by
    decide +kernel
  have hsizes : s.1.tables.stats = ⟨1, 1, 1, 1, 1⟩ := by decide +kernel
  have hgap : (s.1.tables.weeks.model? "WEEK").map (·.gaps 4) = some [] := by decide +kernel
  rcases loadRecords_of_reordered o hreordered with
    ⟨⟨f, hf⟩, _⟩ | ⟨summary, hsummary, hsummary', hanswers, hgaps⟩
  · rw [hok] at hf
    cases hf
  · rw [hok] at hsummary
    cases hsummary
    refine ⟨hsummary', ?_, (hgaps "WEEK" 4).symm.trans hgap⟩
    calc s'.1.answers [.lookup ⟨"tariff", "eu"⟩ 15, .stats]
        = s.1.answers [.lookup ⟨"tariff", "eu"⟩ 15, .stats] :=
          (hanswers _ (by decide +kernel)).symm
      _ = [.value (s.1.tables.catalogue.first? ⟨"tariff", "eu"⟩ 15), .sizes s.1.tables.stats] :=
          rfl
      _ = [.value (some ["B"]), .sizes ⟨1, 1, 1, 1, 1⟩] := by rw [hvalue, hsizes]

end Store
end Tariff
