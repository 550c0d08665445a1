import Tariff.Proofs.Loading.Checks

/-!
# Deltas and rebuilding

Tables that take in a delta become those that are built from all records at once.  The
tables reached by a load do not depend on its summary, and its watermark depends only on
the times of modification.

Main results:

- Theorem {lit}`Loading.step_eq_map_take`: a step takes the record into the tables, and notes
  it in the summary.
- Theorem {lit}`Loading.run_step_of_tables_eq`: loads that start from the same tables reach
  the same tables and the same fault.
- Theorem {lit}`Loading.watermark_build`: the watermark of a build is the latest time of
  modification.
- Theorem {lit}`Loading.build_append`: building from old records and new entries is building
  from the old ones and applying the new ones as a delta.
-/

namespace Tariff

/-- The later of an instant and the times at which entries were modified. -/
def Validity.latest (w : Option Int) (vs : List Validity) : Option Int :=
  vs.foldl (fun w v => some (Summary.later w v.modified.toInt)) w

/-- A watermark is not in front of the time it was raised by. -/
theorem Summary.le_later (w : Option Int) (t : Int) : t ≤ later w t := by
  cases w with
  | none => exact Int.le_refl t
  | some u => exact Int.le_max_right u t

/-- The latest time is not earlier than the instant at the start. -/
theorem Validity.le_latest {t w : Int} {vs : List Validity} (h : latest (some t) vs = some w) :
    t ≤ w := by
  induction vs generalizing t with
  | nil =>
    cases h
    exact Int.le_refl _
  | cons v vs ih => exact Int.le_trans (Int.le_max_left t v.modified.toInt) (ih h)

/-- The latest time is not earlier than any of the times. -/
theorem Validity.modified_le_latest {u : Option Int} {w : Int} {vs : List Validity}
    (h : latest u vs = some w) {v : Validity} (hv : v ∈ vs) : v.modified.toInt ≤ w := by
  induction vs generalizing u with
  | nil => cases hv
  | cons v' vs ih =>
    rcases List.mem_cons.1 hv with rfl | hv
    · exact Int.le_trans (Summary.le_later u v.modified.toInt) (le_latest h)
    · exact ih h hv

/-! ## Steps of a load -/

/-- Takes note of what became of a record. -/
def Summary.note (s : Summary) (r : Record) (o : Catalogue.Outcome) : Summary :=
  match r.validity? with
  | some v => (s.count o).observe v.modified.toInt
  | none => s.count o

/-- Takes in a record, with what became of it. -/
def Tables.take (t : Tables) : Record → Except LoadFault (Catalogue.Outcome × Tables)
  | .validity v => do
    checkEntry v.key v.span v.results
    match t.applyValidity v with
    | (t', .ok outcome) => .ok (outcome, t')
    | (_, .error f) => .error f
  | .interval model day start stop result =>
    (t.addInterval model day.toNat start stop result).map (.added, ·)
  | .mapping plan model => (t.addMapping plan model).map (.added, ·)
  | .rule group conditions results => (t.addRule group conditions results).map (.added, ·)

namespace Loading

/-- An entry with a fault stops the load with it. -/
theorem step_validity_of_violates (l : Loading) {v : Validity} {f : LoadFault}
    (h : v.Violates f) : step l (.validity v) = .error f := by
  simp only [step]
  rw [(checkEntry_eq_error_iff v f).2 h]
  rfl

/-- A sound entry is applied. -/
theorem step_validity_of_isSound (l : Loading) {v : Validity} (h : v.IsSound) :
    step l (.validity v) = l.apply v := by
  simp only [step]
  rw [(checkEntry_eq_ok_iff v).2 h]
  rfl

/-- A step takes in a record and notes what became of it. -/
theorem step_eq_map_take (l : Loading) (r : Record) :
    step l r = (l.tables.take r).map fun next => ⟨next.2, l.summary.note r next.1⟩ := by
  cases r with
  | validity v =>
    simp only [step, Tables.take, apply, bind, Except.bind]
    cases checkEntry v.key v.span v.results with
    | error f => rfl
    | ok _ =>
      simp only
      obtain ⟨t, applied⟩ := l.tables.applyValidity v
      cases applied with
      | error f => rfl
      | ok outcome => rfl
  | interval model day start stop result =>
    simp only [step, Tables.take]
    cases l.tables.addInterval model day.toNat start stop result with
    | error f => rfl
    | ok t => rfl
  | mapping plan model =>
    simp only [step, Tables.take]
    cases l.tables.addMapping plan model with
    | error f => rfl
    | ok t => rfl
  | rule group conditions results =>
    simp only [step, Tables.take]
    cases l.tables.addRule group conditions results with
    | error f => rfl
    | ok t => rfl

/-- The tables after a step do not depend on the summary before it. -/
theorem tables_step_of_tables_eq {l l' : Loading} (h : l.tables = l'.tables) (r : Record) :
    (step l r).map tables = (step l' r).map tables := by
  rw [step_eq_map_take, step_eq_map_take, h]
  cases l'.tables.take r with
  | error f => rfl
  | ok next => rfl

/-- Loads that start from the same tables reach the same tables and the same fault. -/
theorem run_step_of_tables_eq {l l' : Loading} (h : l.tables = l'.tables) (rs : List Record) :
    (run step l rs).1.tables = (run step l' rs).1.tables ∧
      (run step l rs).2 = (run step l' rs).2 := by
  induction rs generalizing l l' with
  | nil => exact ⟨h, rfl⟩
  | cons r rs ih =>
    have hstep := tables_step_of_tables_eq h r
    unfold run
    cases hl : step l r with
    | error f =>
      rw [hl] at hstep
      cases hl' : step l' r with
      | error f' =>
        rw [hl'] at hstep
        cases hstep
        exact ⟨h, rfl⟩
      | ok m' =>
        rw [hl'] at hstep
        cases hstep
    | ok m =>
      rw [hl] at hstep
      cases hl' : step l' r with
      | error f' =>
        rw [hl'] at hstep
        cases hstep
      | ok m' =>
        rw [hl'] at hstep
        exact ih (Except.ok.inj hstep)

/-- A result that was mapped comes from one before it. -/
theorem exists_of_map_eq_ok {α β : Type} {x : Except LoadFault α} {f : α → β} {b : β}
    (h : x.map f = .ok b) : ∃ a, x = .ok a ∧ f a = b := by
  cases x with
  | error g => cases h
  | ok a => exact ⟨a, rfl, Except.ok.inj h⟩

/-- The watermark after a step. -/
theorem watermark_step {l m : Loading} {r : Record} (h : step l r = .ok m) :
    m.summary.watermark = Validity.latest l.summary.watermark r.validity?.toList := by
  cases r with
  | validity v =>
    by_cases hv : v.IsSound
    · obtain ⟨outcome, c, happly⟩ := l.exists_apply hv
      rw [step_validity_of_isSound l hv, happly] at h
      cases h
      cases outcome with
      | _ => rfl
    · obtain ⟨f, hf⟩ := Classical.not_forall_not.1 hv
      rw [step_validity_of_violates l hf] at h
      cases h
  | interval model day start stop result =>
    obtain ⟨t, -, rfl⟩ := exists_of_map_eq_ok h
    rfl
  | mapping plan model =>
    obtain ⟨t, -, rfl⟩ := exists_of_map_eq_ok h
    rfl
  | rule group conditions results =>
    obtain ⟨t, -, rfl⟩ := exists_of_map_eq_ok h
    rfl

/-- The watermark after a load without fault. -/
theorem watermark_run_step {l : Loading} {rs : List Record} (h : (run step l rs).2 = none) :
    (run step l rs).1.summary.watermark =
      Validity.latest l.summary.watermark (rs.filterMap Record.validity?) := by
  induction rs generalizing l with
  | nil => rfl
  | cons r rs ih =>
    unfold run at h ⊢
    cases hl : step l r with
    | error f =>
      rw [hl] at h
      cases h
    | ok m =>
      rw [hl] at h
      have hrest := ih h
      simp only
      rw [hrest, watermark_step hl]
      cases r with
      | validity v => rfl
      | interval | mapping | rule => rfl

/-! ## Entries taken in by a load and by a delta -/

/-- The validity entries among validity entries are all of them. -/
theorem filterMap_validity?_map (vs : List Validity) :
    (vs.map Record.validity).filterMap Record.validity? = vs := by
  rw [List.filterMap_map]
  exact List.filterMap_some

/-- A load of entries fails with the rule broken by the first one that breaks one. -/
theorem snd_run_step_map_validity (l : Loading) (vs : List Validity) :
    (run step l (vs.map Record.validity)).2 = firstFault? vs := by
  induction vs generalizing l with
  | nil => rfl
  | cons v vs ih =>
    rw [List.map_cons]
    unfold run
    by_cases hv : v.IsSound
    · obtain ⟨outcome, c, happly⟩ := l.exists_apply hv
      rw [step_validity_of_isSound l hv, happly, firstFault?_cons_of_isSound hv]
      exact ih _
    · obtain ⟨f, hf⟩ := Classical.not_forall_not.1 hv
      rw [step_validity_of_violates l hf, firstFault?_cons_of_violates hf]

/-- Entries that break no rule are loaded by applying them. -/
theorem run_step_map_validity (l : Loading) {vs : List Validity} (h : ∀ v ∈ vs, v.IsSound) :
    run step l (vs.map Record.validity) = run apply l vs := by
  induction vs generalizing l with
  | nil => rfl
  | cons v vs ih =>
    obtain ⟨hv, hvs⟩ := List.forall_mem_cons.1 h
    obtain ⟨outcome, c, happly⟩ := l.exists_apply hv
    rw [List.map_cons]
    unfold run
    rw [step_validity_of_isSound l hv, happly]
    exact ih _ hvs

/-- Entries leave the weekly models alone. -/
theorem weeks_run_apply (l : Loading) {vs : List Validity} (h : ∀ v ∈ vs, v.IsSound) :
    (run apply l vs).1.tables.weeks = l.tables.weeks := by
  induction vs generalizing l with
  | nil => rfl
  | cons v vs ih =>
    obtain ⟨hv, hvs⟩ := List.forall_mem_cons.1 h
    obtain ⟨outcome, c, happly⟩ := l.exists_apply hv
    unfold run
    rw [happly]
    exact ih _ hvs

/-! ## Builds -/

/-- A build without fault is a load without fault in which each plan has its model. -/
theorem build_eq_none_iff (o : Options) (rs : List Record) :
    (build o rs).2 = none ↔
      (run step ⟨Tables.empty o, Summary.start rs.length⟩ rs).2 = none ∧
        unmapped? (build o rs).1.tables = none := by
  unfold build
  rcases run step ⟨Tables.empty o, Summary.start rs.length⟩ rs with ⟨l, _ | f⟩
  · simp
  · simp

/-- The watermark of a build is the latest time of modification. -/
theorem watermark_build {o : Options} {rs : List Record} (h : (build o rs).2 = none) :
    (build o rs).1.summary.watermark =
      Validity.latest none (rs.filterMap Record.validity?) :=
  watermark_run_step ((build_eq_none_iff o rs).1 h).1

/-- Where a delta without fault starts: all records but the entries are passed over. -/
def deltaStart (t : Tables) (rs : List Record) : Loading :=
  ⟨t, { Summary.start rs.length with
    skipped := rs.length - (rs.filterMap Record.validity?).length }⟩

/-- A delta without fault takes in its entries as a load does. -/
theorem run_step_of_delta {t : Tables} {rs : List Record} (h : (delta t rs).2 = none) :
    run step (deltaStart t rs) ((rs.filterMap Record.validity?).map Record.validity) =
      delta t rs := by
  rw [snd_delta] at h
  rw [run_step_map_validity _ ((firstFault?_eq_none_iff _).1 h)]
  simp only [delta, h]
  rfl

/-- A delta leaves the weekly models alone. -/
theorem weeks_delta (t : Tables) (rs : List Record) : (delta t rs).1.tables.weeks = t.weeks := by
  cases hfault : firstFault? (rs.filterMap Record.validity?) with
  | some f => rw [tables_delta_of_fault hfault]
  | none =>
    simp only [delta, hfault]
    exact weeks_run_apply _ ((firstFault?_eq_none_iff _).1 hfault)

/-- The watermark of a delta is the latest time of modification. -/
theorem watermark_delta {t : Tables} {rs : List Record} (h : (delta t rs).2 = none) :
    (delta t rs).1.summary.watermark =
      Validity.latest none (rs.filterMap Record.validity?) := by
  have hrun := run_step_of_delta h
  rw [← hrun] at h ⊢
  rw [watermark_run_step h, filterMap_validity?_map]
  rfl

/-- A build goes on from the tables built from its first records. -/
theorem exists_build_append {o : Options} {old : List Record} (hold : (build o old).2 = none)
    (rs : List Record) :
    ∃ k : Loading, k.tables = (build o old).1.tables ∧
      build o (old ++ rs) =
        ((run step k rs).1, (run step k rs).2.or (unmapped? (run step k rs).1.tables)) := by
  have hrun := ((build_eq_none_iff o old).1 hold).1
  have hstart : (⟨Tables.empty o, Summary.start old.length⟩ : Loading).tables =
      (⟨Tables.empty o, Summary.start (old ++ rs).length⟩ : Loading).tables := rfl
  obtain ⟨htables, hfault⟩ := run_step_of_tables_eq hstart old
  rcases hk : run step ⟨Tables.empty o, Summary.start (old ++ rs).length⟩ old with ⟨k, fault⟩
  rw [hk] at htables hfault
  rw [hrun] at hfault
  cases hfault
  refine ⟨k, htables.symm, ?_⟩
  unfold build
  rw [run_append, hk]

/-- Building from old records and new entries is building from the old ones and applying the
new ones as a delta. -/
theorem build_append {o : Options} {old : List Record} (hold : (build o old).2 = none)
    (vs : List Validity) :
    (build o (old ++ vs.map Record.validity)).2 =
        (delta (build o old).1.tables (vs.map Record.validity)).2 ∧
      ((build o (old ++ vs.map Record.validity)).2 = none →
        (build o (old ++ vs.map Record.validity)).1.tables =
          (delta (build o old).1.tables (vs.map Record.validity)).1.tables) := by
  have hmapped := ((build_eq_none_iff o old).1 hold).2
  obtain ⟨k, htables, hbuild⟩ := exists_build_append hold (vs.map Record.validity)
  rw [hbuild, snd_run_step_map_validity, snd_delta, filterMap_validity?_map]
  cases hnew : firstFault? vs with
  | some f =>
    refine ⟨rfl, fun h => ?_⟩
    cases h
  | none =>
    have hsound := (firstFault?_eq_none_iff vs).1 hnew
    have hweeks : unmapped? (run step k (vs.map Record.validity)).1.tables = none := by
      rw [run_step_map_validity k hsound]
      unfold unmapped? at hmapped ⊢
      rw [weeks_run_apply k hsound, htables]
      exact hmapped
    refine ⟨hweeks, fun _ => ?_⟩
    simp only [delta, filterMap_validity?_map, hnew]
    rw [← run_step_map_validity _ hsound]
    refine (run_step_of_tables_eq ?_ _).1
    exact htables

end Loading
end Tariff
