import Tariff.Proofs.Loading.Order
import Tariff.Proofs.Rule.Evaluation

/-!
# Well-formed tables

The checks on what goes into tables are made in different places: names and sizes by the
loader, minutes of the day by the reader of times, overlaps by the timelines, shapes by the
rule book, and models of plans only when all records are in.  Tables that a load reaches
have passed them all, and stay so under deltas and single entries, which bring no models
and no rules.

Main results:

- Theorem {lit}`checkEntry_passes_iff`: what the check of an entry makes sure of.
- Theorem {lit}`Tables.Admitted.take`: a record that is taken in keeps names short, minutes
  in the day, groups of rules uniform and results few.
- Theorem {lit}`Tables.Publishable.wellFormed`: tables that can be published are well formed.
- Theorems {lit}`Tables.publishable_build` and {lit}`Tables.Publishable.delta`: a build and
  a delta give tables that can be published.
-/

namespace Tariff

/-! ## Names and entries -/

/-- The name is short enough for tables. -/
def IsShortName (name : String) : Prop :=
  name.utf8ByteSize ≤ maxNameSize

/-- Both names of the key are short enough for tables. -/
structure Key.IsShort (k : Key) : Prop where
  group : IsShortName k.group
  resource : IsShortName k.resource

/-- The check of a name passes exactly the short ones. -/
theorem checkName_eq_ok_iff (name : String) : checkName name = .ok () ↔ IsShortName name := by
  unfold checkName IsShortName
  by_cases hlong : maxNameSize < name.utf8ByteSize
  · rw [if_pos hlong]
    exact iff_of_false (fun h => nomatch h) (Nat.not_le_of_lt hlong)
  · rw [if_neg hlong]
    exact iff_of_true rfl (Nat.le_of_not_lt hlong)

/-- What the check of an entry makes sure of, for any key and span. -/
theorem checkEntry_passes_iff (key : Key) (span : Span) (results : List String) :
    checkEntry key span results = .ok () ↔
      key.IsShort ∧ results.length ≤ RuleBook.maxResults ∧
        Bounds.halfOpen.admits span = true := by
  have hnames : key.IsShort ↔
      checkName key.group = .ok () ∧ checkName key.resource = .ok () := by
    rw [checkName_eq_ok_iff, checkName_eq_ok_iff]
    exact ⟨fun h => ⟨h.group, h.resource⟩, fun h => ⟨h.1, h.2⟩⟩
  rw [hnames]
  unfold checkEntry
  simp only [bind, Except.bind]
  cases checkName key.group with
  | error f => simp
  | ok _ =>
    cases checkName key.resource with
    | error f => simp
    | ok _ =>
      by_cases hresults : RuleBook.maxResults < results.length
      · simp [hresults]
      · cases hspan : Bounds.halfOpen.admits span with
        | true => simp [hresults, Nat.le_of_not_lt hresults]
        | false => simp [hresults]

/-! ## What well-formed tables are -/

/-- The timeline of a key in well-formed tables. -/
structure Timeline.IsListed (mode : Catalogue.Mode) (l : Timeline (List String)) : Prop where
  filled : l.entries ≠ []
  spans : ∀ e ∈ l.entries, e.span.start < e.span.stop
  results : ∀ e ∈ l.entries, e.value.length ≤ RuleBook.maxResults
  /-- An id other than 0 stands in the timeline once. -/
  ids : mode = .exclusive → l.entries.Pairwise fun e f => e.id ≠ 0 → e.id ≠ f.id

/-- A model in well-formed tables. -/
structure WeekModel.IsRegular (m : WeekModel) : Prop where
  filled : ∃ day, day < 7 ∧ m.intervals day ≠ []
  minutes : ∀ day, ∀ e ∈ m.intervals day,
    0 ≤ e.span.start ∧ e.span.start ≤ e.span.stop ∧ e.span.stop ≤ TimeOfDay.lastMinute
  disjoint : ∀ day, (m.intervals day).Pairwise fun e f =>
    Bounds.closed.overlaps e.span f.span = false

/-- A group of rules in well-formed tables. -/
structure RuleGroup.IsUniform (g : RuleGroup) : Prop where
  filled : g.rules ≠ []
  conditions : ∀ r ∈ g.rules, r.conditions.length = g.conditionCount
  results : ∀ r ∈ g.rules, r.results.length = g.resultCount
  conditionCount_le : g.conditionCount ≤ RuleBook.maxConditions
  resultCount_le : g.resultCount ≤ RuleBook.maxResults

/-- What holds of published tables. -/
structure Tables.WellFormed (options : Options) (t : Tables) : Prop where
  plans : ∀ plan model, t.weeks.plans.get? plan = some model →
    IsShortName plan ∧ ∃ m, t.weeks.model? model = some m
  models : ∀ name m, t.weeks.model? name = some m → IsShortName name ∧ m.IsRegular
  groups : ∀ name g, t.rules.groups.get? name = some g → IsShortName name ∧ g.IsUniform
  keys : ∀ k l, t.catalogue.timeline? k = some l →
    k.IsShort ∧ t.catalogue.isInvalidated k = false ∧ l.IsListed options.mode

/-! ## Values of entries -/

namespace Timeline

variable {α : Type}

/-- An accepted entry brings in its value and no other. -/
theorem mem_entries_of_insert {l l' : Timeline α} {id : Nat} {span : Span} {value : α}
    {ch : Change} (h : l.insert id span value = (l', .ok ch)) {e : Entry α}
    (he : e ∈ l'.entries) : e.value = value ∨ e ∈ l.entries := by
  have hplace : ∀ r : Timeline α, e ∈ (r.place id span value).entries →
      e.value = value ∨ e ∈ r.entries := by
    intro r hr
    rcases List.mem_append.1 hr with hr | hr
    · exact .inr (mem_entries_of_mem_startedBy hr)
    · rcases List.mem_cons.1 hr with rfl | hr
      · exact .inl rfl
      · exact .inr (mem_entries_of_mem_startingAfter hr)
  obtain ⟨_, hcase⟩ := (insert_ok_iff l id span value ch l').1 h
  rcases hcase with ⟨_, _, rfl⟩ | ⟨_, _, _, rfl⟩
  · exact (hplace _ he).imp_right List.mem_of_mem_eraseP
  · exact hplace l he

end Timeline

namespace Catalogue

variable {α : Type} {c c' : Catalogue α} {k : Key} {id : Nat} {span : Span} {value : α}
  {o : Outcome}

/-- A timeline that is there once an entry was added was there before, or it is that of the
key with the entry in it. -/
theorem timeline?_of_add (hadd : c.add k id span value = (c', .ok o)) {j : Key}
    {l : Timeline α} (hl : c'.timeline? j = some l) :
    c.timeline? j = some l ∨
      (j = k ∧ ∃ ch, (c.target k).insert (c.mode.entryId id) span value = (l, .ok ch)) := by
  obtain ⟨_, hcase⟩ := (add_ok_iff c k id span value o c').1 hadd
  rcases hcase with ⟨_, _, rfl⟩ | ⟨_, ch, l', hinsert, _, rfl⟩ |
    ⟨_, s, existing, hoverlap, ⟨_, _, rfl⟩ | ⟨_, _, rfl⟩⟩
  · exact .inl hl
  · rw [timeline?_put_prepare] at hl
    by_cases hj : j = k
    · rw [if_pos hj, Option.some_inj] at hl
      rw [hl] at hinsert
      exact .inr ⟨hj, ch, hinsert⟩
    · rw [if_neg hj] at hl
      exact .inl hl
  · exact .inl ((timeline?_prepare_of_overlap hoverlap j).symm.trans hl)
  · rw [timeline?_drop_prepare] at hl
    by_cases hj : j = k
    · rw [if_pos hj] at hl
      cases hl
    · rw [if_neg hj] at hl
      exact .inl hl

/-- What holds of all values holds of them still once a value was added of which it holds. -/
theorem forall_value_of_add {P : α → Prop} (hadd : c.add k id span value = (c', .ok o))
    (hvalue : P value)
    (hold : ∀ j l, c.timeline? j = some l → ∀ e ∈ l.entries, P e.value) {j : Key}
    {l : Timeline α} (hl : c'.timeline? j = some l) : ∀ e ∈ l.entries, P e.value := by
  intro e he
  rcases timeline?_of_add hadd hl with hl | ⟨_, ch, hinsert⟩
  · exact hold j l hl e he
  · rcases Timeline.mem_entries_of_insert hinsert he with heq | he
    · rw [heq]
      exact hvalue
    · cases htimeline : c.timeline? k with
      | some l' =>
        rw [target_of_eq_some htimeline] at he
        exact hold k l' htimeline e he
      | none =>
        rw [target_of_eq_none htimeline, Mode.entries_fresh] at he
        cases he

end Catalogue

/-! ## Minutes of the day -/

namespace WeekModel

/-- The range lies in one day. -/
def InDay (span : Span) : Prop :=
  0 ≤ span.start ∧ span.stop ≤ TimeOfDay.lastMinute

variable {m m' : WeekModel}

/-- A range between minutes of the day is added to ranges that lie in their days. -/
theorem Built.inDay_add (h : m.Built) {day : Nat} {start stop : Int} {result : String}
    (hadd : m.add day start stop result = .ok m')
    (hin : ∀ day, ∀ r ∈ m.slots day, InDay r.1) (hstart : 0 ≤ start)
    (hstop : stop ≤ TimeOfDay.lastMinute) : ∀ day, ∀ r ∈ m'.slots day, InDay r.1 := by
  have hend : TimeOfDay.endMinute stop ≤ TimeOfDay.lastMinute := by
    unfold TimeOfDay.endMinute
    split
    · exact Int.le_refl _
    · exact hstop
  intro other r hr
  rw [h.slots_add hadd] at hr
  by_cases hother : other = day
  · rw [hother, Function.update_self] at hr
    rcases Multiset.mem_cons.1 hr with rfl | hr
    · exact ⟨hstart, hend⟩
    · exact hin day r hr
  · rw [Function.update_of_ne hother] at hr
    exact hin other r hr

/-- A model to which a range was added is not empty. -/
theorem Built.slots_add_ne_zero (h : m.Built) {day : Nat} {start stop : Int} {result : String}
    (hadd : m.add day start stop result = .ok m') : m'.slots day ≠ 0 := by
  rw [h.slots_add hadd, Function.update_self]
  exact Multiset.cons_ne_zero

/-- A model without intervals has no slots taken. -/
theorem slots_empty (name : String) (day : Nat) : (WeekModel.empty name).slots day = 0 := by
  unfold slots intervals day? WeekModel.empty
  rw [Vector.getElem?_replicate]
  by_cases hday : day < 7
  · rw [if_pos hday]
    rfl
  · rw [if_neg hday]
    rfl

/-- A built model is regular if it is not empty and its ranges lie in their days. -/
theorem Built.isRegular (h : m.Built) (hfilled : ∃ day, m.slots day ≠ 0)
    (hin : ∀ day, ∀ r ∈ m.slots day, InDay r.1) : m.IsRegular := by
  have hroster : ∀ day, (∃ l, m.day? day = some l ∧ IsRoster l ∧ m.intervals day = l.entries) ∨
      m.intervals day = [] := by
    intro day
    unfold intervals
    cases hday : m.day? day with
    | some l => exact .inl ⟨l, rfl, h.isRoster hday, rfl⟩
    | none => exact .inr rfl
  refine ⟨?_, ?_, ?_⟩
  · obtain ⟨day, hslots⟩ := hfilled
    have hintervals : m.intervals day ≠ [] := by
      intro hnil
      apply hslots
      unfold slots
      rw [hnil]
      rfl
    refine ⟨day, ?_, hintervals⟩
    rcases hroster day with ⟨l, hday, _, _⟩ | hnil
    · exact (Vector.getElem?_eq_some_iff.1 hday).1
    · exact absurd hnil hintervals
  · intro day e he
    have hslot : slot e ∈ m.slots day := Multiset.mem_coe.2 (List.mem_map_of_mem he)
    obtain ⟨hstart, hstop⟩ := hin day _ hslot
    rcases hroster day with ⟨l, _, hl, hentries⟩ | hnil
    · rw [hentries] at he
      exact ⟨hstart, hl.start_le_stop e he, hstop⟩
    · rw [hnil] at he
      cases he
  · intro day
    rcases hroster day with ⟨l, _, hl, hentries⟩ | hnil
    · have hdisjoint := hl.wellFormed.disjoint hl.exclusive hl.uncrossed
      rw [hl.closed] at hdisjoint
      rw [hentries]
      exact hdisjoint
    · rw [hnil]
      exact .nil

end WeekModel

/-- A text that is read as a time names a minute of the day. -/
theorem WeekModels.readTime_bounds {text : String} {minute : Int}
    (h : readTime text = .ok minute) : 0 ≤ minute ∧ minute ≤ TimeOfDay.lastMinute := by
  unfold readTime at h
  cases hparse : TimeOfDay.parse? text with
  | none =>
    rw [hparse] at h
    cases h
  | some m =>
    rw [hparse] at h
    cases h
    exact TimeOfDay.parse?_bounds hparse

/-! ## Uniform groups -/

namespace RuleBook

/-- Which group a rule of a shape may join. -/
theorem groupFor_eq_ok_iff {b : RuleBook} {group : String} {conditions results : Nat}
    {g : RuleGroup} :
    b.groupFor group conditions results = .ok g ↔
      (b.groups.get? group = none ∧ g = ⟨conditions, results, []⟩) ∨
        (b.groups.get? group = some g ∧ g.conditionCount = conditions ∧
          g.resultCount = results) := by
  unfold groupFor
  cases hget : b.groups.get? group with
  | none => simp [eq_comm]
  | some g' =>
    by_cases hshape : g'.conditionCount = conditions ∧ g'.resultCount = results
    · simp only [if_pos hshape, Except.ok.injEq, reduceCtorEq, false_and, Option.some.injEq,
        false_or]
      constructor
      · rintro rfl
        exact ⟨rfl, hshape⟩
      · exact fun h => h.1
    · simp only [if_neg hshape, reduceCtorEq, false_and, Option.some.injEq, false_or, false_iff]
      rintro ⟨rfl, h⟩
      exact hshape h

/-- A rule that is added leaves its group uniform. -/
theorem isUniform_of_add {b b' : RuleBook} {group : String} {conditions results : List String}
    (hadd : b.add group conditions results = .ok b')
    (hold : ∀ g, b.groups.get? group = some g → g.IsUniform) {g : RuleGroup}
    (hg : b'.groups.get? group = some g) : g.IsUniform := by
  obtain ⟨hc, hr, g₀, cs, hfor, hcs, rfl⟩ := add_eq_ok_iff.1 hadd
  simp only at hg
  rw [Directory.get?_set, if_pos rfl, Option.some_inj] at hg
  have hlength : cs.length = conditions.length :=
    (readConditions_eq_ok_iff.1 hcs).length_eq.symm
  obtain ⟨hrules, hconditionCount, hresultCount⟩ : (∀ r ∈ g₀.rules,
        r.conditions.length = g₀.conditionCount ∧ r.results.length = g₀.resultCount) ∧
      g₀.conditionCount = conditions.length ∧ g₀.resultCount = results.length := by
    rcases groupFor_eq_ok_iff.1 hfor with ⟨_, rfl⟩ | ⟨hget, hcount, hcount'⟩
    · exact ⟨fun r hr => (List.not_mem_nil hr).elim, rfl, rfl⟩
    · have huniform := hold g₀ hget
      exact ⟨fun r hr => ⟨huniform.conditions r hr, huniform.results r hr⟩, hcount, hcount'⟩
  subst hg
  refine ⟨List.append_ne_nil_of_right_ne_nil _ (List.cons_ne_nil _ _), ?_, ?_,
    hconditionCount.trans_le hc, hresultCount.trans_le hr⟩
  · intro r hr
    rcases List.mem_append.1 hr with hr | hr
    · exact (hrules r hr).1
    · rw [List.mem_singleton.1 hr]
      exact hlength.trans hconditionCount.symm
  · intro r hr
    rcases List.mem_append.1 hr with hr | hr
    · exact (hrules r hr).2
    · rw [List.mem_singleton.1 hr]
      exact hresultCount.symm

end RuleBook

/-! ## Tables whose parts were admitted -/

namespace Tables

variable {options : Options} {t u : Tables} {o : Catalogue.Outcome}

/-- What the checks on single records make sure of. -/
structure Admitted (t : Tables) : Prop where
  names : ∀ k l, t.catalogue.timeline? k = some l → k.IsShort
  results : ∀ k l, t.catalogue.timeline? k = some l →
    ∀ e ∈ l.entries, e.value.length ≤ RuleBook.maxResults
  models : ∀ name m, t.weeks.model? name = some m →
    IsShortName name ∧ (∃ day, m.slots day ≠ 0) ∧ ∀ day, ∀ r ∈ m.slots day, WeekModel.InDay r.1
  plans : ∀ plan model, t.weeks.plans.get? plan = some model → IsShortName plan
  groups : ∀ name g, t.rules.groups.get? name = some g → IsShortName name ∧ g.IsUniform

/-- Empty tables hold nothing that was not admitted. -/
theorem admitted_empty (options : Options) : (Tables.empty options).Admitted := by
  refine ⟨?_, ?_, ?_, ?_, ?_⟩ <;> intro _ _ h <;> cases h

/-- An entry that was checked and added keeps tables admitted. -/
theorem Admitted.addEntry (h : t.Admitted) {key : Key} {id : Nat} {span : Span}
    {results : List String} {c : Catalogue (List String)}
    (hcheck : checkEntry key span results = .ok ())
    (hadd : t.catalogue.add key id span results = (c, .ok o)) :
    { t with catalogue := c }.Admitted := by
  obtain ⟨hkey, hresults, _⟩ := (checkEntry_passes_iff key span results).1 hcheck
  refine { h with names := ?_, results := ?_ }
  · intro k l hl
    rcases Catalogue.timeline?_of_add hadd hl with hl | ⟨rfl, _⟩
    · exact h.names k l hl
    · exact hkey
  · intro k l hl
    exact Catalogue.forall_value_of_add (P := fun value => value.length ≤ RuleBook.maxResults)
      hadd hresults h.results hl

/-- The slots of the model that an interval goes to lie within their days. -/
theorem Admitted.inDay_getD (h : t.Admitted) (model : String) :
    ∀ day, ∀ r ∈ ((t.weeks.model? model).getD (WeekModel.empty model)).slots day,
      WeekModel.InDay r.1 := by
  cases hm : t.weeks.model? model with
  | some m => exact (h.models model m hm).2.2
  | none =>
    intro day r hr
    rw [Option.getD_none, WeekModel.slots_empty] at hr
    exact (Multiset.notMem_zero r hr).elim

/-- A model with a short name and slots within their days keeps tables admitted. -/
theorem Admitted.setModel (h : t.Admitted) {model : String} {m : WeekModel}
    (hname : IsShortName model) (hslots : ∃ day, m.slots day ≠ 0)
    (hin : ∀ day, ∀ r ∈ m.slots day, WeekModel.InDay r.1) :
    { t with weeks := { t.weeks with models := t.weeks.models.set model m } }.Admitted := by
  refine { h with models := ?_ }
  intro name m' hm'
  unfold WeekModels.model? at hm'
  simp only at hm'
  rw [Directory.get?_set] at hm'
  by_cases hmodel : name = model
  · rw [if_pos hmodel, Option.some_inj] at hm'
    rw [← hm', hmodel]
    exact ⟨hname, hslots, hin⟩
  · rw [if_neg hmodel] at hm'
    exact h.models name m' hm'

/-- Taking in a record keeps tables admitted. -/
theorem Admitted.take (h : t.Admitted) (hsound : t.Sound options) {r : Record}
    (htake : t.take r = .ok (o, u)) : u.Admitted := by
  cases r with
  | validity v =>
    obtain ⟨hv, c, hadd, rfl⟩ := (take_validity_eq_ok_iff v).1 htake
    exact h.addEntry ((checkEntry_eq_ok_iff v).2 hv) hadd
  | interval model day start stop result =>
    obtain ⟨hname, first, last, m, hfirst, hlast, hadd, _, rfl⟩ :=
      (take_interval_eq_ok_iff model day start stop result).1 htake
    have hbuilt := hsound.built_getD model
    exact h.setModel ((checkName_eq_ok_iff model).1 hname) ⟨_, hbuilt.slots_add_ne_zero hadd⟩
      (hbuilt.inDay_add hadd (h.inDay_getD model) (WeekModels.readTime_bounds hfirst).1
        (WeekModels.readTime_bounds hlast).2)
  | mapping plan model =>
    obtain ⟨hplan, _, _, rfl⟩ := (take_mapping_eq_ok_iff plan model).1 htake
    refine { h with plans := ?_ }
    intro name model' hget
    unfold WeekModels.mapPlan at hget
    simp only at hget
    rw [Directory.get?_set] at hget
    by_cases hname : name = plan
    · rw [hname]
      exact (checkName_eq_ok_iff plan).1 hplan
    · rw [if_neg hname] at hget
      exact h.plans name model' hget
  | rule group conditions results =>
    obtain ⟨hgroup, b, hadd, _, rfl⟩ := (take_rule_eq_ok_iff group conditions results).1 htake
    refine { h with groups := ?_ }
    intro name g hg
    by_cases hname : name = group
    · rw [hname] at hg ⊢
      exact ⟨(checkName_eq_ok_iff group).1 hgroup,
        RuleBook.isUniform_of_add hadd (fun g₀ hg₀ => (h.groups group g₀ hg₀).2) hg⟩
    · simp only at hg
      rw [RuleBook.get?_groups_add_of_ne hadd hname] at hg
      exact h.groups name g hg

/-! ## Tables that can be published -/

/-- Tables that were built from records of which each was admitted, and in which each plan
has its model. -/
structure Publishable (options : Options) (t : Tables) : Prop where
  sound : t.Sound options
  admitted : t.Admitted
  mapped : Loading.unmapped? t = none

/-- Empty tables can be published. -/
theorem publishable_empty (options : Options) : (Tables.empty options).Publishable options :=
  ⟨sound_empty options, admitted_empty options, rfl⟩

/-- Tables that can be published are well formed. -/
theorem Publishable.wellFormed (h : t.Publishable options) : t.WellFormed options := by
  refine ⟨?_, ?_, h.admitted.groups, ?_⟩
  · intro plan model hget
    have hmapped := h.mapped
    unfold Loading.unmapped? at hmapped
    rw [Option.map_eq_none_iff, WeekModels.unmapped?_eq_none_iff] at hmapped
    have hmodel := hmapped _ (h.sound.plansDiffer.get?_eq_some_iff.1 hget)
    exact ⟨h.admitted.plans plan model hget, Option.isSome_iff_exists.1 hmodel⟩
  · intro name m hm
    obtain ⟨hname, hfilled, hin⟩ := h.admitted.models name m hm
    exact ⟨hname, (h.sound.built name m hm).isRegular hfilled hin⟩
  · intro k l hl
    have hkeeps := h.sound.catalogue.keeps k l hl
    refine ⟨h.admitted.names k l hl, ?_, h.sound.catalogue.filled k l hl, ?_,
      h.admitted.results k l hl, ?_⟩
    · cases hdropped : t.catalogue.isInvalidated k with
      | false => rfl
      | true =>
        rw [h.sound.catalogue.dropped k hdropped] at hl
        cases hl
    · intro e he
      have hadmitted := hkeeps.wellFormed.admitted e he
      rw [hkeeps.bounds] at hadmitted
      exact of_decide_eq_true hadmitted
    · intro _
      refine hkeeps.wellFormed.idsDiffer.imp ?_
      intro e f hef hid heq
      exact hid (hef heq)

/-- Adding a checked entry to tables that can be published keeps them so. -/
theorem Publishable.addEntry (h : t.Publishable options) {key : Key} {id : Nat} {span : Span}
    {results : List String} {c : Catalogue (List String)}
    (hcheck : checkEntry key span results = .ok ())
    (hadd : t.catalogue.add key id span results = (c, .ok o)) :
    { t with catalogue := c }.Publishable options :=
  ⟨h.sound.addEntry hadd, h.admitted.addEntry hcheck hadd, h.mapped⟩

end Tables

namespace Loading

/-- What taking in a record keeps, a load keeps. -/
theorem invariant {P : Tables → Prop}
    (htake : ∀ t r o u, P t → Tables.take t r = .ok (o, u) → P u) {l : Loading}
    (h : P l.tables) (rs : List Record) : P (run step l rs).1.tables := by
  induction rs generalizing l with
  | nil => exact h
  | cons r rs ih =>
    unfold run
    cases hstep : step l r with
    | error f => exact h
    | ok m =>
      obtain ⟨o, t, ht, rfl⟩ := step_eq_ok_iff.1 hstep
      exact ih (htake _ r o t h ht)

end Loading

namespace Tables

variable {options : Options} {t u : Tables}

/-- A run of entries keeps tables sound and admitted. -/
theorem sound_and_admitted_run {l : Loading} (h : l.tables.Sound options)
    (h' : l.tables.Admitted) (rs : List Record) :
    (Loading.run Loading.step l rs).1.tables.Sound options ∧
      (Loading.run Loading.step l rs).1.tables.Admitted := by
  refine Loading.invariant (P := fun t => t.Sound options ∧ t.Admitted) ?_ ⟨h, h'⟩ rs
  rintro t r o u ⟨hsound, hadmitted⟩ htake
  exact ⟨hsound.take htake, hadmitted.take hsound htake⟩

/-- A build without fault gives tables that can be published. -/
theorem publishable_build {rs : List Record} {l : Loading}
    (h : Loading.build options rs = (l, none)) : l.tables.Publishable options := by
  obtain ⟨hrun, hmapped⟩ := Loading.build_eq_iff.1 h
  obtain ⟨hsound, hadmitted⟩ := sound_and_admitted_run
    (l := ⟨Tables.empty options, Summary.start rs.length⟩) (sound_empty options)
    (admitted_empty options) rs
  rw [hrun] at hsound hadmitted
  exact ⟨hsound, hadmitted, hmapped⟩

/-- A delta to tables that can be published gives tables that can be published, since its entries
change the tables as they would in a load. -/
theorem Publishable.delta (h : t.Publishable options) {rs : List Record} {l : Loading}
    (hdelta : Loading.delta t rs = (l, none)) : l.tables.Publishable options := by
  have hrun := (Loading.run_step_of_delta (congrArg Prod.snd hdelta)).trans hdelta
  obtain ⟨hsound, hadmitted⟩ := sound_and_admitted_run (l := Loading.deltaStart t rs)
    h.sound h.admitted ((rs.filterMap Record.validity?).map Record.validity)
  rw [hrun] at hsound hadmitted
  have hweeks := Loading.weeks_delta t rs
  rw [hdelta] at hweeks
  refine ⟨hsound, hadmitted, ?_⟩
  have hmapped := h.mapped
  unfold Loading.unmapped? at hmapped ⊢
  rw [hweeks]
  exact hmapped

end Tables
end Tariff
