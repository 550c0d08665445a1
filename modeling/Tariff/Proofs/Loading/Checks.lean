import Tariff.Tables.Load

/-!
# The checks before a delta

A delta is applied to tables that are in use, entry by entry, and nothing takes back what
the entries before a fault did.  The checks made beforehand have to rule out every fault:
an entry that passes them is taken in by every catalogue, whatever is in it.

Main results:

- Theorem {lit}`Catalogue.exists_add`: every catalogue takes in an entry whose span is not
  empty.
- Theorem {lit}`checkEntry_eq_error_iff`: the check finds the rule that an entry breaks.
- Theorem {lit}`Loading.firstFault?_eq_some_iff`: a delta is refused with the rule broken by
  the first entry that breaks one.
- Theorem {lit}`Loading.snd_run_apply_of_isSound`: entries that break no rule are applied
  without fault.
-/

namespace Tariff

/-! ## Entries that are taken in -/

namespace Catalogue

variable {α : Type}

/-- Every catalogue takes in an entry whose span is not empty, in one way or another. -/
theorem exists_add (c : Catalogue α) (k : Key) (id : Nat) {span : Span} (value : α)
    (h : Bounds.halfOpen.admits span = true) :
    ∃ outcome c', c.add k id span value = (c', .ok outcome) := by
  rcases c.add_cases k id span value with ⟨r, hrefused⟩ | hadded
  · obtain ⟨-, hempty, -⟩ := (add_error_iff c c k id span value r).1 hrefused
    rw [h] at hempty
    cases hempty
  · exact hadded

end Catalogue

/-! ## Entries that break a rule -/

/-- The rule that an entry breaks.  Names are looked at first, then the results, then the
span. -/
inductive Validity.Violates (v : Validity) : LoadFault → Prop where
  | names (h : maxNameSize < v.group.utf8ByteSize ∨ maxNameSize < v.resource.utf8ByteSize) :
    Violates v .keyTooLong
  | results (hgroup : v.group.utf8ByteSize ≤ maxNameSize)
    (hresource : v.resource.utf8ByteSize ≤ maxNameSize)
    (h : RuleBook.maxResults < v.results.length) : Violates v .tooManyResults
  | span (hgroup : v.group.utf8ByteSize ≤ maxNameSize)
    (hresource : v.resource.utf8ByteSize ≤ maxNameSize)
    (hresults : v.results.length ≤ RuleBook.maxResults)
    (h : v.stop ≤ v.start) : Violates v (.validity v.key (.emptySpan v.span))

/-- The entry breaks no rule. -/
def Validity.IsSound (v : Validity) : Prop :=
  ∀ f, ¬ v.Violates f

/-- The span of an entry that breaks no rule is not empty. -/
theorem Validity.IsSound.not_stop_le_start {v : Validity} (h : v.IsSound) :
    ¬ v.stop ≤ v.start := by
  intro hstop
  have hgroup : v.group.utf8ByteSize ≤ maxNameSize :=
    Nat.le_of_not_lt fun hlong => h _ (.names (.inl hlong))
  have hresource : v.resource.utf8ByteSize ≤ maxNameSize :=
    Nat.le_of_not_lt fun hlong => h _ (.names (.inr hlong))
  have hresults : v.results.length ≤ RuleBook.maxResults :=
    Nat.le_of_not_lt fun hmany => h _ (.results hgroup hresource hmany)
  exact h _ (.span hgroup hresource hresults hstop)

/-- The rule broken by the first entry that breaks one. -/
def FirstViolation (vs : List Validity) (f : LoadFault) : Prop :=
  ∃ front v back, vs = front ++ v :: back ∧ (∀ u ∈ front, u.IsSound) ∧ v.Violates f

/-- The span of a validity entry is admitted unless it stops where it starts or before. -/
theorem Validity.admits_span_iff (v : Validity) :
    Bounds.halfOpen.admits v.span = true ↔ ¬ v.stop ≤ v.start := by
  unfold Bounds.admits Validity.span
  rw [decide_eq_true_eq, Int64.le_iff_toInt_le]
  exact Int.not_le.symm

/-- What the check says of an entry, rule by rule. -/
theorem checkEntry_eq (v : Validity) :
    checkEntry v.key v.span v.results =
      if maxNameSize < v.group.utf8ByteSize ∨ maxNameSize < v.resource.utf8ByteSize then
        .error .keyTooLong
      else if RuleBook.maxResults < v.results.length then .error .tooManyResults
      else if v.stop ≤ v.start then .error (.validity v.key (.emptySpan v.span))
      else .ok () := by
  have hspan := v.admits_span_iff
  unfold checkEntry checkName Validity.key
  by_cases hgroup : maxNameSize < v.group.utf8ByteSize
  · simp only [hgroup, if_true, true_or]
    rfl
  · by_cases hresource : maxNameSize < v.resource.utf8ByteSize
    · simp only [hgroup, hresource, if_true, if_false, or_true]
      rfl
    · by_cases hresults : RuleBook.maxResults < v.results.length
      · simp only [hgroup, hresource, hresults, if_true, if_false, or_false]
        rfl
      · by_cases hstop : v.stop ≤ v.start
        · have hadmits : ¬ Bounds.halfOpen.admits v.span = true := by
            rw [hspan]
            exact not_not_intro hstop
          simp only [hgroup, hresource, hresults, hstop, hadmits, if_true, if_false, or_false]
          rfl
        · have hadmits : Bounds.halfOpen.admits v.span = true := hspan.2 hstop
          simp only [hgroup, hresource, hresults, hstop, hadmits, if_true, if_false, or_false]
          rfl

/-- The check finds the rule that an entry breaks. -/
theorem checkEntry_eq_error_iff (v : Validity) (f : LoadFault) :
    checkEntry v.key v.span v.results = .error f ↔ v.Violates f := by
  rw [checkEntry_eq]
  constructor
  · intro h
    by_cases hnames : maxNameSize < v.group.utf8ByteSize ∨ maxNameSize < v.resource.utf8ByteSize
    · rw [if_pos hnames] at h
      cases h
      exact .names hnames
    · rw [if_neg hnames] at h
      have hgroup : v.group.utf8ByteSize ≤ maxNameSize := by omega
      have hresource : v.resource.utf8ByteSize ≤ maxNameSize := by omega
      by_cases hresults : RuleBook.maxResults < v.results.length
      · rw [if_pos hresults] at h
        cases h
        exact .results hgroup hresource hresults
      · rw [if_neg hresults] at h
        by_cases hstop : v.stop ≤ v.start
        · rw [if_pos hstop] at h
          cases h
          exact .span hgroup hresource (Nat.le_of_not_lt hresults) hstop
        · rw [if_neg hstop] at h
          cases h
  · intro h
    cases h with
    | names h => rw [if_pos h]
    | results hgroup hresource h =>
      rw [if_neg (by omega), if_pos h]
    | span hgroup hresource hresults h =>
      rw [if_neg (by omega), if_neg (by omega), if_pos h]

/-- The check of an entry passes exactly the sound ones. -/
theorem checkEntry_eq_ok_iff (v : Validity) :
    checkEntry v.key v.span v.results = .ok () ↔ v.IsSound := by
  unfold Validity.IsSound
  cases hcheck : checkEntry v.key v.span v.results with
  | ok u =>
    refine ⟨fun _ f hf => ?_, fun _ => rfl⟩
    rw [(checkEntry_eq_error_iff v f).2 hf] at hcheck
    cases hcheck
  | error f =>
    have hviolates := (checkEntry_eq_error_iff v f).1 hcheck
    constructor
    · intro h
      cases h
    · intro h
      exact absurd hviolates (h f)

namespace Loading

/-- The fault of the first entry is the first fault. -/
theorem firstFault?_cons_of_violates {v : Validity} {f : LoadFault} (h : v.Violates f)
    (vs : List Validity) : firstFault? (v :: vs) = some f := by
  unfold firstFault?
  rw [(checkEntry_eq_error_iff v f).2 h]

/-- A sound entry has no part in the first fault. -/
theorem firstFault?_cons_of_isSound {v : Validity} (h : v.IsSound) (vs : List Validity) :
    firstFault? (v :: vs) = firstFault? vs := by
  rw [firstFault?, (checkEntry_eq_ok_iff v).2 h]

/-- A delta is not refused if none of its entries breaks a rule. -/
theorem firstFault?_eq_none_iff (vs : List Validity) :
    firstFault? vs = none ↔ ∀ v ∈ vs, v.IsSound := by
  induction vs with
  | nil => simp [firstFault?]
  | cons v vs ih =>
    rw [List.forall_mem_cons]
    by_cases hv : v.IsSound
    · rw [firstFault?_cons_of_isSound hv, ih]
      exact (and_iff_right hv).symm
    · obtain ⟨f, hf⟩ := Classical.not_forall_not.1 hv
      rw [firstFault?_cons_of_violates hf]
      simp [hv]

/-- A delta is refused with the rule broken by the first entry that breaks one. -/
theorem firstFault?_eq_some_iff (vs : List Validity) (f : LoadFault) :
    firstFault? vs = some f ↔ FirstViolation vs f := by
  constructor
  · intro h
    induction vs with
    | nil => cases h
    | cons v vs ih =>
      by_cases hv : v.IsSound
      · rw [firstFault?_cons_of_isSound hv] at h
        obtain ⟨front, u, back, rfl, hfront, hu⟩ := ih h
        exact ⟨v :: front, u, back, rfl, List.forall_mem_cons.2 ⟨hv, hfront⟩, hu⟩
      · obtain ⟨g, hg⟩ := Classical.not_forall_not.1 hv
        rw [firstFault?_cons_of_violates hg] at h
        cases h
        exact ⟨[], v, vs, rfl, List.forall_mem_nil _, hg⟩
  · rintro ⟨front, v, back, rfl, hfront, hv⟩
    induction front with
    | nil => exact firstFault?_cons_of_violates hv back
    | cons u front ih =>
      obtain ⟨hu, hrest⟩ := List.forall_mem_cons.1 hfront
      rw [List.cons_append, firstFault?_cons_of_isSound hu]
      exact ih hrest

/-- An entry that breaks no rule is applied to any tables. -/
theorem exists_apply (l : Loading) {v : Validity} (h : v.IsSound) :
    ∃ outcome c, l.apply v =
      .ok ⟨{ l.tables with catalogue := c },
        (l.summary.count outcome).observe v.modified.toInt⟩ := by
  have hstop : ¬ v.stop ≤ v.start := h.not_stop_le_start
  obtain ⟨outcome, c, hadd⟩ := l.tables.catalogue.exists_add v.key v.id.toNat v.results
    (v.admits_span_iff.2 hstop)
  refine ⟨outcome, c, ?_⟩
  unfold apply Tables.applyValidity Tables.applyEntry
  rw [hadd]

/-- Entries that break no rule are applied to any tables without fault. -/
theorem snd_run_apply_of_isSound (l : Loading) {vs : List Validity} (h : ∀ v ∈ vs, v.IsSound) :
    (run apply l vs).2 = none := by
  induction vs generalizing l with
  | nil => rfl
  | cons v vs ih =>
    obtain ⟨hv, hvs⟩ := List.forall_mem_cons.1 h
    obtain ⟨outcome, c, happly⟩ := l.exists_apply hv
    unfold run
    rw [happly]
    exact ih _ hvs

/-- A delta fails exactly with the fault of its first entry at fault. -/
theorem snd_delta (t : Tables) (rs : List Record) :
    (delta t rs).2 = firstFault? (rs.filterMap Record.validity?) := by
  cases hfault : firstFault? (rs.filterMap Record.validity?) with
  | some f => rw [tables_delta_of_fault hfault]
  | none =>
    simp only [delta, hfault]
    exact snd_run_apply_of_isSound _ ((firstFault?_eq_none_iff _).1 hfault)

end Loading
end Tariff
