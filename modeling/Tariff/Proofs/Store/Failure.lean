import Tariff.Proofs.Loading.Checks
import Tariff.Proofs.Store.Operation

/-!
# Writes that fail

Full loads fail before anything is published.  A delta goes to the tables in use, and that
it leaves them alone when it fails rests on the checks before it.

Main results:

- Theorem {lit}`Store.onlyCounted_of_fault`: a write that fails changes nothing but the
  tally.
- Theorem {lit}`Store.reloadIncremental_eq_error_iff`: an incremental reload fails with what
  its provider says, or with the rule broken by the first entry that breaks one.
- Theorem {lit}`Store.failed_write_changes_nothing`: after a write that failed, all is
  answered as if it had not been asked for.
-/

namespace Tariff
namespace Store

/-! ## What a failed write leaves behind -/

/-- A load that fails only counts conflicts. -/
theorem onlyCounted_loadRecords {s : Store} {rs : List Record} {f : LoadFault}
    (h : (s.loadRecords rs).2 = .error f) : OnlyCounted s (s.loadRecords rs).1 := by
  unfold loadRecords at h ⊢
  rcases hbuild : Loading.build s.options rs with ⟨l, _ | g⟩
  · rw [hbuild] at h
    cases h
  · exact (OnlyCounted.refl s).count _ _

/-- A full reload that fails only counts. -/
theorem onlyCounted_reloadFull {s : Store} {load : Source.Loader} {f : LoadFault}
    (h : (s.reloadFull load).2 = .error f) : OnlyCounted s (s.reloadFull load).1 := by
  unfold reloadFull at h ⊢
  cases hload : load none with
  | error cause =>
    exact (OnlyCounted.refl s).countReload .full (.error (.source cause) : Except _ Summary)
  | ok rs =>
    rw [hload] at h
    exact (onlyCounted_loadRecords h).countReload _ _

/-- A delta that fails leaves the tables as they are: the checks have found its fault before
any entry is applied. -/
theorem onlyCounted_applyDelta {s : Store} {rs : List Record} {f : LoadFault}
    (h : (s.applyDelta rs).2 = .error f) : OnlyCounted s (s.applyDelta rs).1 := by
  have hfault := Loading.snd_delta s.tables rs
  unfold applyDelta at h ⊢
  cases hfirst : Loading.firstFault? (rs.filterMap Record.validity?) with
  | some g =>
    rw [Loading.tables_delta_of_fault hfirst]
    exact (OnlyCounted.refl s).count _ _
  | none =>
    rw [hfirst] at hfault
    rcases hdelta : Loading.delta s.tables rs with ⟨l, fault⟩
    rw [hdelta] at h hfault
    cases hfault
    cases h

/-- An incremental reload that fails only counts. -/
theorem onlyCounted_reloadIncremental {s : Store} {load : Source.Loader} {f : LoadFault}
    (h : (s.reloadIncremental load).2 = .error f) :
    OnlyCounted s (s.reloadIncremental load).1 := by
  unfold reloadIncremental at h ⊢
  cases hload : load s.watermark with
  | error cause =>
    exact (OnlyCounted.refl s).countReload .incremental
      (.error (.source cause) : Except _ Summary)
  | ok rs =>
    rw [hload] at h
    exact (onlyCounted_applyDelta h).countReload _ _

/-- A refresh that fails only counts. -/
theorem onlyCounted_refresh {s : Store} {load : Source.Loader} {f : LoadFault}
    (h : (s.refresh load).2 = .error f) : OnlyCounted s (s.refresh load).1 := by
  unfold refresh at h ⊢
  split at h
  · rename_i hmode
    rw [if_pos hmode]
    exact onlyCounted_reloadIncremental h
  · rename_i hmode
    rw [if_neg hmode]
    exact onlyCounted_reloadFull h

/-- An entry that is not taken in leaves the store as it is. -/
theorem onlyCounted_insert {s : Store} {key : Key} {id : Nat} {span : Span}
    {results : List String} {f : LoadFault} (h : (s.insert key id span results).2 = .error f) :
    OnlyCounted s (s.insert key id span results).1 := by
  unfold insert at h ⊢
  cases hcheck : checkEntry key span results with
  | error g => exact OnlyCounted.refl s
  | ok u =>
    rw [hcheck] at h
    simp only at h ⊢
    rcases s.tables.applyEntry_cases key id span results with ⟨g, happly⟩ | ⟨o, c, -, happly⟩
    · rw [happly]
      exact OnlyCounted.refl s
    · rw [happly] at h
      cases h

/-- A load that is answered with a fault is the error of this fault. -/
theorem eq_error_of_fault?_loaded {r : Except LoadFault Summary} {f : LoadFault}
    (h : (Answer.loaded r).fault? = some f) : r = .error f := by
  cases r with
  | ok summary => cases h
  | error g =>
    cases h
    rfl

/-- A write that fails changes nothing but the tally. -/
theorem onlyCounted_of_fault {s : Store} {op : Operation} {f : LoadFault}
    (h : (s.perform op).2.fault? = some f) : OnlyCounted s (s.perform op).1 := by
  by_cases hquery : op.isQuery = true
  · exact onlyCounted_of_isQuery s hquery
  · cases op with
    | loadRecords rs => exact onlyCounted_loadRecords (eq_error_of_fault?_loaded h)
    | reloadFull load => exact onlyCounted_reloadFull (eq_error_of_fault?_loaded h)
    | reloadIncremental load =>
      exact onlyCounted_reloadIncremental (eq_error_of_fault?_loaded h)
    | refresh load => exact onlyCounted_refresh (eq_error_of_fault?_loaded h)
    | insert key id span results =>
      have herror : (s.insert key id span results).2 = .error f := by
        cases hr : (s.insert key id span results).2 with
        | ok outcome =>
          simp only [perform, Prod.map_snd, hr] at h
          cases h
        | error g =>
          simp only [perform, Prod.map_snd, hr] at h
          cases h
          rfl
      exact onlyCounted_insert herror
    | clear => cases h
    | lookup | lookupAll | isInvalidated | segment | segmentForPlan | matchFirst | matchAll
      | stats | watermark | snapshot => exact absurd rfl hquery

/-! ## When an incremental reload fails -/

/-- A delta is refused with the rule broken by the first entry that breaks one. -/
theorem applyDelta_eq_error_iff (s : Store) (rs : List Record) (f : LoadFault) :
    (s.applyDelta rs).2 = .error f ↔ FirstViolation (rs.filterMap Record.validity?) f := by
  have hfault := Loading.snd_delta s.tables rs
  rw [← Loading.firstFault?_eq_some_iff, ← hfault]
  unfold applyDelta
  rcases Loading.delta s.tables rs with ⟨l, _ | g⟩
  · simp
  · simp

/-- An incremental reload fails with what its provider says, or with the rule broken by the
first entry that breaks one. -/
theorem reloadIncremental_eq_error_iff (s : Store) (load : Source.Loader) (f : LoadFault) :
    (s.reloadIncremental load).2 = .error f ↔
      (∃ cause, load s.watermark = .error cause ∧ f = .source cause) ∨
        ∃ rs, load s.watermark = .ok rs ∧ FirstViolation (rs.filterMap Record.validity?) f := by
  unfold reloadIncremental
  cases load s.watermark with
  | error cause => simp [eq_comm]
  | ok rs =>
    simp only
    rw [applyDelta_eq_error_iff]
    simp

/-- Some entry breaks a rule first if any entry breaks one. -/
theorem exists_firstViolation_iff (rs : List Record) :
    (∃ f, FirstViolation (rs.filterMap Record.validity?) f) ↔
      ∃ v, Record.validity v ∈ rs ∧ ¬ v.IsSound := by
  have hmem : ∀ v, v ∈ rs.filterMap Record.validity? ↔ Record.validity v ∈ rs := by
    intro v
    rw [List.mem_filterMap]
    constructor
    · rintro ⟨r, hr, hv⟩
      cases r with
      | validity u =>
        cases hv
        exact hr
      | interval | mapping | rule => cases hv
    · intro hv
      exact ⟨_, hv, rfl⟩
  constructor
  · rintro ⟨f, front, v, back, hvs, -, hv⟩
    refine ⟨v, (hmem v).1 ?_, fun hsound => hsound f hv⟩
    rw [hvs]
    exact List.mem_append_right _ List.mem_cons_self
  · rintro ⟨v, hv, hbreaks⟩
    cases hfault : Loading.firstFault? (rs.filterMap Record.validity?) with
    | some f => exact ⟨f, (Loading.firstFault?_eq_some_iff _ f).1 hfault⟩
    | none => exact absurd ((Loading.firstFault?_eq_none_iff _).1 hfault v ((hmem v).2 hv)) hbreaks

/-! ## Failed writes -/

/-- A write that fails changes nothing but the tally, so that whatever is asked for later is
answered as if it had not been asked for.  An incremental reload fails just when its
provider does or when an entry of the delta breaks a rule, whatever the other records are;
a delta whose entries break none is applied without fault to any tables. -/
theorem failed_write_changes_nothing (s : Store) :
    (∀ op f, (s.perform op).2.fault? = some f →
      OnlyCounted s (s.perform op).1 ∧
        ∀ ops, (s.perform op).1.answers ops = s.answers ops) ∧
    (∀ load f, (s.reloadIncremental load).2 = .error f ↔
      (∃ cause, load s.watermark = .error cause ∧ f = .source cause) ∨
        ∃ rs, load s.watermark = .ok rs ∧
          FirstViolation (rs.filterMap Record.validity?) f) ∧
    (∀ load, (∃ f, (s.reloadIncremental load).2 = .error f) ↔
      (∃ cause, load s.watermark = .error cause) ∨
        ∃ rs, load s.watermark = .ok rs ∧ ∃ v, Record.validity v ∈ rs ∧ ¬ v.IsSound) ∧
    ∀ (l : Loading) (vs : List Validity), (∀ v ∈ vs, v.IsSound) →
      (Loading.run Loading.apply l vs).2 = none := by
  refine ⟨?_, s.reloadIncremental_eq_error_iff, ?_, ?_⟩
  · intro op f hf
    have hcounted := onlyCounted_of_fault hf
    exact ⟨hcounted, fun ops => (hcounted.alike.answers ops).symm⟩
  · intro load
    simp only [reloadIncremental_eq_error_iff, ← exists_firstViolation_iff]
    constructor
    · rintro ⟨f, ⟨cause, hload, -⟩ | ⟨rs, hload, hf⟩⟩
      · exact .inl ⟨cause, hload⟩
      · exact .inr ⟨rs, hload, f, hf⟩
    · rintro (⟨cause, hload⟩ | ⟨rs, hload, f, hf⟩)
      · exact ⟨_, .inl ⟨cause, hload, rfl⟩⟩
      · exact ⟨f, .inr ⟨rs, hload, hf⟩⟩
  · intro l vs hvs
    exact l.snd_run_apply_of_isSound hvs

/-- The second entry of this delta ends before it starts, so the first one is not taken over
either. -/
theorem reload_with_inverted_span :
    let s := Store.new ⟨.exclusive, .reject, .incremental, 0⟩
    let load : Source.Loader := fun _ => .ok
      [.validity ⟨1, "tariff", "eu", 0, 10, ["A"], 5⟩,
        .validity ⟨2, "tariff", "eu", 9, 3, ["B"], 6⟩]
    (s.perform (.reloadIncremental load)).2.fault? =
        some (.validity ⟨"tariff", "eu"⟩ (.emptySpan ⟨9, 3⟩)) ∧
      OnlyCounted s (s.perform (.reloadIncremental load)).1 ∧
      (s.perform (.reloadIncremental load)).1.answers [.lookup ⟨"tariff", "eu"⟩ 4] =
        [.value none] := by
  intro s load
  have hfault : (s.perform (.reloadIncremental load)).2.fault? =
      some (.validity ⟨"tariff", "eu"⟩ (.emptySpan ⟨9, 3⟩)) := by rfl
  obtain ⟨hcounted, hanswers⟩ := (failed_write_changes_nothing s).1 _ _ hfault
  refine ⟨hfault, hcounted, ?_⟩
  rw [hanswers]
  rfl

end Store
end Tariff
