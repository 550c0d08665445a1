import Tariff.Proofs.Catalogue.Sizes
import Tariff.Proofs.Loading.Order

/-!
# Accounts of loads

A summary says what has become of the records of a load.  A record that is no validity entry
counts as added in a build and as passed over in a delta.  Each record is counted once in
either, and under the policy that rejects what overlaps, the entries that count as added are
those by which the catalogue has grown.

Main results:

- Theorem {lit}`Validity.latest_eq_max?`: the latest time of modification is the greatest one.
- Theorem {lit}`Loading.Booked.run`: what the summary of a load says of its records and of the
  catalogue.
- Theorems {lit}`Loading.booked_build` and {lit}`Loading.booked_delta`: the same of builds and
  of deltas.
-/

namespace Tariff

/-- The latest time of modification is the greatest one. -/
theorem Validity.latest_eq_max? (vs : List Validity) :
    latest none vs = (vs.map fun v => v.modified.toInt).max? := by
  cases vs with
  | nil => rfl
  | cons v vs =>
    have hlatest : ∀ w, latest (some w) vs =
        some ((vs.map fun v => v.modified.toInt).foldl max w) := by
      intro w
      induction vs generalizing w with
      | nil => rfl
      | cons v' vs ih => exact ih (max w v'.modified.toInt)
    rw [List.map_cons, List.max?_cons']
    exact hlatest v.modified.toInt

/-- The number of records that are no validity entries. -/
def Record.otherCount (rs : List Record) : Nat :=
  rs.countP fun r => r.validity?.isNone

/-- The records that are no validity entries are counted one at a time. -/
theorem Record.otherCount_cons (r : Record) (rs : List Record) :
    otherCount (r :: rs) = otherCount [r] + otherCount rs := by
  unfold otherCount
  rw [List.countP_cons, List.countP_singleton, Nat.add_comm]

/-- Validity entries are not counted among the other records. -/
theorem Record.otherCount_map_validity (vs : List Validity) :
    otherCount (vs.map Record.validity) = 0 := by
  unfold otherCount
  rw [List.countP_eq_zero]
  intro r hr
  obtain ⟨v, _, rfl⟩ := List.mem_map.1 hr
  exact Bool.false_ne_true

/-! ## What adding an entry may do -/

namespace Catalogue

variable {α : Type} {c c' : Catalogue α} {k : Key} {id : Nat} {span : Span} {value : α}
  {o : Outcome}

/-- Where any number of values may hold at an instant, an entry is added unless its key was
dropped. -/
theorem WellFormed.outcome_of_multi (h : c.WellFormed) (hmode : c.mode = .multi)
    (hadd : c.add k id span value = (c', .ok o)) : o = .added ∨ o = .skipped := by
  have hkeeps := keeps_target h k
  rw [hmode] at hkeeps
  have hid : c.mode.entryId id = 0 := by
    rw [hmode]
    rfl
  have hknows : (c.target k).knows 0 = false := rfl
  have hobstacle : (c.target k).obstacle span = none := by
    unfold Timeline.obstacle
    rw [hkeeps.concurrent]
    rfl
  obtain ⟨_, hcase⟩ := (add_ok_iff c k id span value o c').1 hadd
  rcases hcase with ⟨_, rfl, _⟩ | ⟨_, ch, l, hinsert, rfl, _⟩ | ⟨_, s, existing, hinsert, _⟩
  · exact .inr rfl
  · rw [hid] at hinsert
    obtain ⟨_, ⟨hknown, _⟩ | ⟨_, _, rfl, _⟩⟩ := (Timeline.insert_ok_iff _ _ _ _ _ _).1 hinsert
    · rw [hknows] at hknown
      cases hknown
    · exact .inl rfl
  · rw [Timeline.insert_error_iff, hobstacle] at hinsert
    simp at hinsert

/-- Under the policy that rejects what overlaps, an entry that is added is one more, and any
other changes no number. -/
theorem WellFormed.entryCount_of_reject (h : c.WellFormed) (hpolicy : c.policy = .reject)
    (hadd : c.add k id span value = (c', .ok o)) :
    c'.entryCount = c.entryCount + if o = .added then 1 else 0 := by
  have hsizes := h.sizes_add hadd
  cases o with
  | added => exact hsizes
  | updated | rejected | skipped => exact hsizes.2
  | invalidated =>
    obtain ⟨_, hcase⟩ := (add_ok_iff c k id span value .invalidated c').1 hadd
    rcases hcase with ⟨_, ho, _⟩ | ⟨_, ch, _, _, ho, _⟩ | ⟨_, _, _, _, hsettled⟩
    · cases ho
    · cases ch <;> cases ho
    · rw [hpolicy] at hsettled
      simp at hsettled

end Catalogue

/-! ## What a summary counts -/

namespace Summary

/-- How many records have come to an outcome. -/
def number (s : Summary) : Catalogue.Outcome → Nat
  | .added => s.added
  | .updated => s.updated
  | .rejected => s.rejected
  | .invalidated => s.invalidated
  | .skipped => s.skipped

/-- How many records have come to any outcome. -/
def counted (s : Summary) : Nat :=
  s.added + s.updated + s.rejected + s.invalidated + s.skipped

/-- A summary starts with nothing in it. -/
theorem number_start (records : Nat) (o : Catalogue.Outcome) : (start records).number o = 0 := by
  cases o <;> rfl

variable (s : Summary) (r : Record) (o : Catalogue.Outcome)

/-- To note an outcome keeps the number of records. -/
theorem records_note : (s.note r o).records = s.records := by
  unfold note
  cases r.validity? with
  | none => cases o <;> rfl
  | some v => cases o <;> rfl

/-- To note an outcome adds one to its number and keeps the others. -/
theorem number_note (o' : Catalogue.Outcome) :
    (s.note r o).number o' = s.number o' + if o = o' then 1 else 0 := by
  unfold note
  cases r.validity? with
  | none => cases o <;> cases o' <;> rfl
  | some v => cases o <;> cases o' <;> rfl

/-- A record that is noted is counted. -/
theorem counted_note : (s.note r o).counted = s.counted + 1 := by
  have hnumber := s.number_note r o
  have hadded := hnumber .added
  have hupdated := hnumber .updated
  have hrejected := hnumber .rejected
  have hinvalidated := hnumber .invalidated
  have hskipped := hnumber .skipped
  simp only [number] at hadded hupdated hrejected hinvalidated hskipped
  unfold counted
  rw [hadded, hupdated, hrejected, hinvalidated, hskipped]
  cases o <;> simp only [reduceCtorEq, if_true, if_false] <;> omega

end Summary

/-! ## What taking in a record may do -/

namespace Tables

variable {options : Options} {t u : Tables} {r : Record} {o : Catalogue.Outcome}

/-- A record that is no validity entry counts as added and leaves the catalogue alone. -/
theorem catalogue_of_take (hr : r.validity? = none) (htake : t.take r = .ok (o, u)) :
    o = .added ∧ u.catalogue = t.catalogue := by
  cases r with
  | validity v => cases hr
  | interval model day start stop result =>
    obtain ⟨_, _, _, _, _, _, _, rfl, rfl⟩ :=
      (take_interval_eq_ok_iff model day start stop result).1 htake
    exact ⟨rfl, rfl⟩
  | mapping plan model =>
    obtain ⟨_, _, rfl, rfl⟩ := (take_mapping_eq_ok_iff plan model).1 htake
    exact ⟨rfl, rfl⟩
  | rule group conditions results =>
    obtain ⟨_, _, _, rfl, rfl⟩ := (take_rule_eq_ok_iff group conditions results).1 htake
    exact ⟨rfl, rfl⟩

/-- With many values for a time, a record is added or skipped. -/
theorem Sound.outcome_of_multi (h : t.Sound options) (hmode : options.mode = .multi)
    (htake : t.take r = .ok (o, u)) : o = .added ∨ o = .skipped := by
  cases hr : r.validity? with
  | none => exact .inl (catalogue_of_take hr htake).1
  | some v =>
    cases r with
    | validity v =>
      obtain ⟨_, c, hadd, _⟩ := (take_validity_eq_ok_iff v).1 htake
      exact h.catalogue.outcome_of_multi (h.mode.trans hmode) hadd
    | interval | mapping | rule => cases hr

/-- With a policy that rejects conflicts, a validity entry adds one to the entries if it is
added, and nothing else. -/
theorem Sound.entryCount_of_reject (h : t.Sound options) (hpolicy : options.policy = .reject)
    (htake : t.take r = .ok (o, u)) :
    u.catalogue.entryCount + Record.otherCount [r] =
      t.catalogue.entryCount + if o = .added then 1 else 0 := by
  cases hr : r.validity? with
  | none =>
    obtain ⟨rfl, hcatalogue⟩ := catalogue_of_take hr htake
    rw [hcatalogue]
    simp [Record.otherCount, hr]
  | some v =>
    cases r with
    | validity v =>
      obtain ⟨_, c, hadd, rfl⟩ := (take_validity_eq_ok_iff v).1 htake
      exact h.catalogue.entryCount_of_reject (h.policy.trans hpolicy) hadd
    | interval | mapping | rule => cases hr

end Tables

/-! ## Loads -/

namespace Loading

variable {options : Options} {l m n : Loading} {r : Record} {rs : List Record}

/-- What the summary of a load says of the records that it has taken in, and of the catalogue
that has come of them. -/
structure Booked (options : Options) (l : Loading) (rs : List Record) (m : Loading) : Prop where
  records : m.summary.records = l.summary.records
  counted : m.summary.counted = l.summary.counted + rs.length
  /-- The entries that were added are in the catalogue, and so they stay. -/
  entries : options.policy = .reject →
    m.tables.catalogue.entryCount + Record.otherCount rs + l.summary.added =
      l.tables.catalogue.entryCount + m.summary.added
  /-- Entries meet no other where any number of values may hold at an instant. -/
  free : options.mode = .multi → ∀ o, o ≠ .added → o ≠ .skipped →
    m.summary.number o = l.summary.number o

namespace Booked

/-- Nothing is booked for no records. -/
theorem refl (options : Options) (l : Loading) : Booked options l [] l where
  records := rfl
  counted := rfl
  entries _ := rfl
  free _ _ _ _ := rfl

/-- What holds of a record and of those after it holds of them together. -/
theorem cons (h : Booked options l [r] m) (h' : Booked options m rs n) :
    Booked options l (r :: rs) n where
  records := h'.records.trans h.records
  counted := by
    rw [h'.counted, h.counted, List.length_singleton, List.length_cons]
    omega
  entries hpolicy := by
    have hfirst := h.entries hpolicy
    have hrest := h'.entries hpolicy
    rw [Record.otherCount_cons]
    omega
  free hmode o hadded hskipped :=
    (h'.free hmode o hadded hskipped).trans (h.free hmode o hadded hskipped)

/-- What one record does to summary and catalogue. -/
theorem step (hsound : l.tables.Sound options) (hstep : Loading.step l r = .ok m) :
    Booked options l [r] m := by
  obtain ⟨o, t, htake, rfl⟩ := step_eq_ok_iff.1 hstep
  refine ⟨l.summary.records_note r o, l.summary.counted_note r o, fun hpolicy => ?_,
    fun hmode o' hadded hskipped => ?_⟩
  · have hnumber : (l.summary.note r o).added = l.summary.added + if o = .added then 1 else 0 :=
      l.summary.number_note r o .added
    have hentries := hsound.entryCount_of_reject hpolicy htake
    simp only
    omega
  · have hne : o ≠ o' := by
      rintro rfl
      exact (hsound.outcome_of_multi hmode htake).elim hadded hskipped
    rw [Summary.number_note, if_neg hne, Nat.add_zero]

/-- What a load without fault does to summary and catalogue. -/
theorem run (hsound : l.tables.Sound options) (hrun : Loading.run Loading.step l rs = (m, none)) :
    Booked options l rs m := by
  induction rs generalizing l with
  | nil =>
    cases hrun
    exact refl options _
  | cons r rs ih =>
    obtain ⟨k, hstep, hrest⟩ := run_cons_eq_none_iff.1 hrun
    obtain ⟨o, t, htake, rfl⟩ := step_eq_ok_iff.1 hstep
    exact (step hsound hstep).cons (ih (hsound.take htake) hrest)

end Booked

/-- A full load books its records from nothing. -/
theorem booked_build (h : build options rs = (l, none)) :
    Booked options ⟨Tables.empty options, Summary.start rs.length⟩ rs l :=
  .run (Tables.sound_empty options) (build_eq_iff.1 h).1

/-- A delta books its validity entries from the tables it starts with. -/
theorem booked_delta {t : Tables} (hsound : t.Sound options) (h : delta t rs = (l, none)) :
    Booked options (deltaStart t rs) ((rs.filterMap Record.validity?).map Record.validity) l :=
  .run hsound ((run_step_of_delta (congrArg Prod.snd h)).trans h)

/-- All records but the validity entries are counted before a delta begins. -/
theorem counted_deltaStart (t : Tables) (rs : List Record) :
    (deltaStart t rs).summary.counted + (rs.filterMap Record.validity?).length = rs.length := by
  have hle : (rs.filterMap Record.validity?).length ≤ rs.length := List.length_filterMap_le _ _
  unfold deltaStart Summary.counted Summary.start
  simp only
  omega

end Loading
end Tariff
