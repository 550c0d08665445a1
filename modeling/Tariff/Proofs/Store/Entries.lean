import Tariff.Proofs.Loading.Order
import Tariff.Proofs.Store.Refresh
import Tariff.Proofs.Store.Transition

/-!
# Entries added one by one

An entry may be added to a store by itself, without a source.  It is checked as a load checks
it, comes to what it would come to in a delta, and leaves the tables that a load of all
records, with this one at the end, would have published.  Only the watermark tells it from a
delta: an entry by itself has no time of modification.

Main results:

- Theorem {lit}`Store.insertEntry_eq_error_iff`: an entry is refused for the rule that it
  breaks, whatever the store holds.
- Theorem {lit}`Store.SameTables.answers`: stores with the same tables answer all questions to
  them alike.
- Theorem {lit}`Store.ComesFrom.insertEntries`: entries added one by one to tables that were
  loaded leave those of a load of all records.
- Theorem {lit}`Store.insert_agrees_with_load`: adding an entry, taking it in as a delta and
  loading it are refused alike and come to the same.
-/

namespace Tariff

/-! ## A load of one entry -/

namespace Tables

variable {v : Validity}

/-- Any tables refuse an entry for the rule that it breaks, and for nothing else. -/
theorem take_validity_eq_error_iff (t : Tables) (v : Validity) (f : LoadFault) :
    t.take (.validity v) = .error f ↔ v.Violates f := by
  rw [← checkEntry_eq_error_iff]
  simp only [take, bind, Except.bind]
  cases hcheck : checkEntry v.key v.span v.results with
  | error g => simp
  | ok u =>
    have hspan := ((checkEntry_eq_ok_iff v).1 hcheck).not_stop_le_start
    obtain ⟨outcome, c, hadd⟩ := t.catalogue.exists_add v.key v.id.toNat v.results
      (v.admits_span_iff.2 hspan)
    simp [applyValidity, applyEntry, hadd]

end Tables

namespace Loading

variable {t u : Tables} {v : Validity} {o : Catalogue.Outcome}

/-- Of one entry the first fault is the rule that it breaks. -/
theorem firstFault?_singleton (v : Validity) (f : LoadFault) :
    firstFault? [v] = some f ↔ v.Violates f := by
  rw [← checkEntry_eq_error_iff]
  unfold firstFault?
  cases checkEntry v.key v.span v.results with
  | error g => simp
  | ok _ => simp [firstFault?]

/-- A delta of one entry takes it in and notes what became of it. -/
theorem delta_singleton_of_take (h : t.take (.validity v) = .ok (o, u)) :
    delta t [.validity v] =
      (⟨u, ((Summary.start 1).count o).observe v.modified.toInt⟩, none) := by
  have hsound : v.IsSound := ((Tables.take_validity_eq_ok_iff v).1 h).1
  have hstep : step ⟨t, Summary.start 1⟩ (.validity v) =
      .ok ⟨u, ((Summary.start 1).count o).observe v.modified.toInt⟩ :=
    step_eq_ok_iff.2 ⟨o, u, h, rfl⟩
  have hfault : (delta t [.validity v]).2 = none := by
    rw [snd_delta]
    exact (firstFault?_eq_none_iff [v]).2 (List.forall_mem_singleton.2 hsound)
  calc delta t [.validity v]
      = run step (deltaStart t [.validity v]) [.validity v] := (run_step_of_delta hfault).symm
    _ = run step ⟨t, Summary.start 1⟩ [.validity v] := rfl
    _ = (⟨u, ((Summary.start 1).count o).observe v.modified.toInt⟩, none) :=
        run_cons_eq_none_iff.2 ⟨_, hstep, rfl⟩

/-- A build from one entry fails for the rule that it breaks. -/
theorem snd_build_singleton (o : Options) (v : Validity) (f : LoadFault) :
    (build o [.validity v]).2 = some f ↔ v.Violates f := by
  have hempty : (build o []).2 = none := rfl
  have hbuild : (build o [.validity v]).2 = firstFault? [v] :=
    (build_append hempty [v]).1.trans (snd_delta _ _)
  rw [hbuild, firstFault?_singleton]

end Loading

/-! ## Questions to the tables -/

/-- The operation is a question that the published tables answer. -/
def Operation.asksTables : Operation → Bool
  | watermark => false
  | op => op.isQuery

/-- What asks the tables changes nothing but the tally. -/
theorem Operation.isQuery_of_asksTables {op : Operation} (h : op.asksTables = true) :
    op.isQuery = true := by
  cases op with
  | watermark => cases h
  | _ => exact h

namespace Store

/-- Two stores publish the same tables under the same options.  Their watermarks may differ. -/
structure SameTables (s s' : Store) : Prop where
  options : s.options = s'.options
  tables : s.tables = s'.tables

/-- The stores answer all questions to their tables alike. -/
def SameAnswers (s s' : Store) : Prop :=
  ∀ ops, (∀ op ∈ ops, op.asksTables = true) → s.answers ops = s'.answers ops

namespace SameTables

variable {s s' u u' : Store}

/-- Counting changes no tables. -/
theorem of_onlyCounted (h : SameTables s s') (hu : OnlyCounted s u) (hu' : OnlyCounted s' u') :
    SameTables u u' :=
  ⟨hu.alike.options.symm.trans (h.options.trans hu'.alike.options),
    hu.alike.tables.symm.trans (h.tables.trans hu'.alike.tables)⟩

/-- A question to the tables is answered alike. -/
theorem answer (h : SameTables s s') {op : Operation} (hop : op.asksTables = true) :
    (s.perform op).2 = (s'.perform op).2 := by
  have halike : Alike s { s' with watermark := s.watermark } := ⟨h.options, h.tables, rfl⟩
  have hcut : ∀ (w : Option Int) m start stop,
      ({ s' with watermark := w }.segmentWith m start stop).2 =
        (s'.segmentWith m start stop).2 := by
    intro w m start stop
    cases m <;> rfl
  refine (halike.perform op).2.trans ?_
  cases op with
  | loadRecords | reloadFull | reloadIncremental | refresh | insert | clear | watermark =>
    cases hop
  | lookup | lookupAll | isInvalidated | stats | snapshot => rfl
  | segment model start stop => exact congrArg Answer.segments (hcut _ _ start stop)
  | segmentForPlan plan start stop => exact congrArg Answer.segments (hcut _ _ start stop)
  | matchFirst group fields =>
    simp only [perform, matchFirst, Prod.map_snd]
    cases s'.tables.rules.first group fields <;> rfl
  | matchAll group fields =>
    simp only [perform, matchAll, Prod.map_snd]
    cases s'.tables.rules.all group fields <;> rfl

/-- Any number of questions to the tables is answered alike. -/
theorem answers (h : SameTables s s') : SameAnswers s s' := by
  have hstep : ∀ s s' op, SameTables s s' → op.asksTables = true →
      (s.perform op).2 = (s'.perform op).2 ∧ SameTables (s.perform op).1 (s'.perform op).1 := by
    intro s s' op h hop
    have hquery := Operation.isQuery_of_asksTables hop
    exact ⟨h.answer hop, h.of_onlyCounted (onlyCounted_of_isQuery s hquery)
      (onlyCounted_of_isQuery s' hquery)⟩
  intro ops hops
  exact (Session.simulation_on hstep h hops).1

end SameTables

/-! ## One entry -/

variable {s s' : Store} {v : Validity} {rs : List Record} {o : Catalogue.Outcome}

/-- Adds a validity entry by itself.  When it was modified plays no part. -/
def insertEntry (s : Store) (v : Validity) : Store × Except LoadFault Catalogue.Outcome :=
  s.insert v.key v.id.toNat v.span v.results

/-- Adding an entry is taking in its record, with the conflict that it meets counted. -/
theorem insertEntry_eq (s : Store) (v : Validity) :
    s.insertEntry v =
      match s.tables.take (.validity v) with
      | .ok (outcome, t) =>
        ({ s with tables := t }.countConflicts outcome.isConflict.toNat, .ok outcome)
      | .error f => (s, .error f) := by
  unfold insertEntry insert
  simp only [Tables.take, bind, Except.bind]
  cases checkEntry v.key v.span v.results with
  | error f => rfl
  | ok _ =>
    simp only [Tables.applyValidity]
    rcases s.tables.applyEntry_cases v.key v.id.toNat v.span v.results with
      ⟨f, happly⟩ | ⟨o, c, -, happly⟩
    · rw [happly]
    · rw [happly]

/-- An entry is refused for the rule that it breaks, whatever the store holds. -/
theorem insertEntry_eq_error_iff (s : Store) (v : Validity) (f : LoadFault) :
    (s.insertEntry v).2 = .error f ↔ v.Violates f := by
  rw [insertEntry_eq, ← s.tables.take_validity_eq_error_iff]
  cases s.tables.take (.validity v) with
  | error g => simp
  | ok next => simp

/-- An entry that is not refused has been taken in by the tables. -/
theorem take_of_insertEntry (h : (s.insertEntry v).2 = .ok o) :
    s.tables.take (.validity v) = .ok (o, (s.insertEntry v).1.tables) := by
  rw [insertEntry_eq] at h ⊢
  cases htake : s.tables.take (.validity v) with
  | error f =>
    rw [htake] at h
    cases h
  | ok next =>
    rw [htake] at h
    cases h
    rfl

/-- An entry changes the catalogue at most. -/
theorem insertEntry_frame (s : Store) (v : Validity) :
    (s.insertEntry v).1.options = s.options ∧
      (s.insertEntry v).1.watermark = s.watermark ∧
      (s.insertEntry v).1.tables.weeks = s.tables.weeks ∧
      (s.insertEntry v).1.tables.rules = s.tables.rules := by
  rw [insertEntry_eq]
  cases htake : s.tables.take (.validity v) with
  | error f => exact ⟨rfl, rfl, rfl, rfl⟩
  | ok next =>
    obtain ⟨outcome, t⟩ := next
    obtain ⟨_, c, _, rfl⟩ := (Tables.take_validity_eq_ok_iff v).1 htake
    exact ⟨rfl, rfl, rfl, rfl⟩

/-- A load of one entry is refused for the rule that it breaks. -/
theorem loadRecords_singleton_eq_error_iff (s : Store) (v : Validity) (f : LoadFault) :
    (s.loadRecords [.validity v]).2 = .error f ↔ v.Violates f := by
  rw [(takesIn_loadRecords rfl [.validity v]).eq_error_iff, Loading.snd_build_singleton]

/-- An entry that is added comes to the same as a delta of its own. -/
theorem reloadIncremental_of_insertEntry (h : (s.insertEntry v).2 = .ok o)
    {load : Source.Loader} (hload : load s.watermark = .ok [.validity v]) :
    (s.reloadIncremental load).2 =
        .ok (((Summary.start 1).count o).observe v.modified.toInt) ∧
      SameTables (s.insertEntry v).1 (s.reloadIncremental load).1 := by
  have hdelta := Loading.delta_singleton_of_take (take_of_insertEntry h)
  unfold reloadIncremental applyDelta
  rw [hload]
  simp only
  rw [hdelta]
  exact ⟨rfl, s.insertEntry_frame v |>.1, rfl⟩

/-! ## Tables that were loaded -/

/-- The published tables are those of a new store that has loaded some records and has done
nothing else. -/
structure ComesFrom (s : Store) (rs : List Record) : Prop where
  loads : ∃ summary, ((new s.options).loadRecords rs).2 = .ok summary
  tables : s.tables = ((new s.options).loadRecords rs).1.tables

/-- The tables of a store come from records if these can be built and make up the tables. -/
theorem comesFrom_iff :
    s.ComesFrom rs ↔ (Loading.build s.options rs).2 = none ∧
      s.tables = (Loading.build s.options rs).1.tables := by
  have hoptions : (new s.options).options = s.options := rfl
  have htakes := takesIn_loadRecords hoptions rs
  constructor
  · intro h
    have hsound := htakes.exists_ok_iff.1 h.loads
    exact ⟨hsound, h.tables.trans (htakes.ok hsound).2.tables⟩
  · rintro ⟨hsound, htables⟩
    exact ⟨htakes.exists_ok_iff.2 hsound, htables.trans (htakes.ok hsound).2.tables.symm⟩

/-- A load leaves the options alone. -/
theorem options_loadRecords (s : Store) (rs : List Record) :
    (s.loadRecords rs).1.options = s.options := by
  unfold loadRecords
  rcases Loading.build s.options rs with ⟨l, _ | f⟩ <;> rfl

/-- A load that succeeds publishes such tables, whatever the store held before. -/
theorem comesFrom_loadRecords (h : ∃ summary, (s.loadRecords rs).2 = .ok summary) :
    (s.loadRecords rs).1.ComesFrom rs := by
  have htakes : TakesIn s.options rs (s.loadRecords rs) := takesIn_loadRecords rfl rs
  have hsound := htakes.exists_ok_iff.1 h
  refine comesFrom_iff.2 ?_
  rw [options_loadRecords]
  exact ⟨hsound, (htakes.ok hsound).2.tables⟩

namespace ComesFrom

/-- A load of records that tables have come from succeeds. -/
theorem exists_loadRecords (h : s.ComesFrom rs) (hoptions : s'.options = s.options) :
    ∃ summary, (s'.loadRecords rs).2 = .ok summary :=
  (takesIn_loadRecords hoptions rs).exists_ok_iff.2 (comesFrom_iff.1 h).1

/-- Stores whose tables come from the same records have the same tables. -/
theorem sameTables (h : s.ComesFrom rs) (h' : s'.ComesFrom rs)
    (hoptions : s.options = s'.options) : SameTables s s' := by
  refine ⟨hoptions, ?_⟩
  rw [h.tables, h'.tables, hoptions]

/-- Stores that are alike have tables that come from the same records. -/
theorem of_alike (h : s.ComesFrom rs) (halike : Alike s s') : s'.ComesFrom rs := by
  have h := comesFrom_iff.1 h
  rw [halike.options, halike.tables] at h
  exact comesFrom_iff.2 h

/-- Questions, and writes that are refused, leave the tables where they come from. -/
theorem run (h : s.ComesFrom rs) {ops : List Operation}
    (hops : ∀ a ∈ (Session.run perform s ops).2, a.isWritten = false) :
    (Session.run perform s ops).1.ComesFrom rs :=
  Session.invariant_of_answers (P := fun u => u.ComesFrom rs)
    (fun u op hu ha => hu.of_alike ((u.becomes_perform op).alike_of_not_isWritten ha)) h hops

/-- An entry that is added to tables that were loaded stands at the end of their records. -/
theorem insertEntry (h : s.ComesFrom rs) (hok : (s.insertEntry v).2 = .ok o) :
    (s.insertEntry v).1.ComesFrom (rs ++ [.validity v]) := by
  obtain ⟨hsound, htables⟩ := comesFrom_iff.1 h
  obtain ⟨hfault, hbuilt⟩ := Loading.build_append hsound [v]
  have hdelta := Loading.delta_singleton_of_take (take_of_insertEntry hok)
  rw [htables] at hdelta
  have hnone : (Loading.build s.options (rs ++ [.validity v])).2 = none :=
    hfault.trans (congrArg Prod.snd hdelta)
  refine comesFrom_iff.2 ?_
  rw [(s.insertEntry_frame v).1]
  exact ⟨hnone, ((hbuilt hnone).trans (congrArg (fun l => l.1.tables) hdelta)).symm⟩

/-- Entries added one by one to tables that were loaded leave those of a load of all
records. -/
theorem insertEntries (h : s.ComesFrom rs) {vs : List Validity} (hvs : ∀ v ∈ vs, v.IsSound) :
    (Session.run Store.insertEntry s vs).1.ComesFrom (rs ++ vs.map Record.validity) := by
  induction vs generalizing s rs with
  | nil =>
    rw [List.map_nil, List.append_nil]
    exact h
  | cons v vs ih =>
    obtain ⟨hv, hrest⟩ := List.forall_mem_cons.1 hvs
    cases hadded : (s.insertEntry v).2 with
    | error f => exact absurd ((s.insertEntry_eq_error_iff v f).1 hadded) (hv f)
    | ok outcome =>
      have hnext := ih (h.insertEntry hadded) hrest
      rw [List.append_assoc] at hnext
      exact hnext

end ComesFrom

/-- Whatever a store holds, an entry that is added to it is refused just if a new store refuses
to load it, and for the same fault.  Otherwise it comes to the outcome that a delta of this
entry counts, and all questions to the tables are answered as after the delta.  If the tables
came from a load, a load of the same records and the entry behind them succeeds, and they are
answered as after that load too.  Watermark, weekly models and rules stay as they were. -/
theorem insert_agrees_with_load (s : Store) (v : Validity) :
    (∀ f, (s.insertEntry v).2 = .error f ↔
      ((new s.options).loadRecords [.validity v]).2 = .error f) ∧
    (∀ outcome, (s.insertEntry v).2 = .ok outcome →
      (∀ load : Source.Loader, load s.watermark = .ok [.validity v] →
        (s.reloadIncremental load).2 =
            .ok (((Summary.start 1).count outcome).observe v.modified.toInt) ∧
          SameAnswers (s.insertEntry v).1 (s.reloadIncremental load).1) ∧
      ∀ rs, s.ComesFrom rs → ∀ s' : Store, s'.options = s.options →
        (∃ summary, (s'.loadRecords (rs ++ [.validity v])).2 = .ok summary) ∧
          SameAnswers (s.insertEntry v).1 (s'.loadRecords (rs ++ [.validity v])).1) ∧
    (s.insertEntry v).1.watermark = s.watermark ∧
    (s.insertEntry v).1.tables.weeks = s.tables.weeks ∧
    (s.insertEntry v).1.tables.rules = s.tables.rules := by
  obtain ⟨hoptions, hframe⟩ := s.insertEntry_frame v
  refine ⟨fun f => ?_, fun outcome hadded => ⟨fun load hload => ?_, fun rs hs s' hs' => ?_⟩,
    hframe⟩
  · rw [insertEntry_eq_error_iff, loadRecords_singleton_eq_error_iff]
  · obtain ⟨hsummary, hsame⟩ := reloadIncremental_of_insertEntry hadded hload
    exact ⟨hsummary, hsame.answers⟩
  · have hadds := hs.insertEntry hadded
    have hloads := hadds.exists_loadRecords (hs'.trans hoptions.symm)
    refine ⟨hloads, (hadds.sameTables (comesFrom_loadRecords hloads) ?_).answers⟩
    rw [options_loadRecords]
    exact hoptions.trans hs'.symm

/-- The entry overlaps one that was loaded, so that their key is dropped, whether it is added by
itself, taken in as a delta or loaded.  In between the key was looked up, and an entry was
refused for its span. -/
theorem insert_drops_key_as_load :
    let o : Options := ⟨.exclusive, .invalidateKey, .full, 0⟩
    let key : Key := ⟨"tariff", "eu"⟩
    let old : Record := .validity ⟨1, "tariff", "eu", 0, 10, ["A"], 5⟩
    let inverted : Validity := ⟨2, "tariff", "eu", 9, 3, ["B"], 6⟩
    let crossing : Validity := ⟨2, "tariff", "eu", 4, 6, ["B"], 7⟩
    let load : Source.Loader := fun _ => .ok [.validity crossing]
    let loaded := ((new o).loadRecords [old]).1
    let between : List Operation :=
      [.lookup key 5, .insert inverted.key 2 inverted.span inverted.results]
    let s := (Session.run perform loaded between).1
    let questions : List Operation := [.isInvalidated key, .lookup key 5, .stats]
    let answers : List Answer := [.invalidated true, .value none, .sizes ⟨0, 0, 0, 0, 0⟩]
    ((new o).loadRecords [.validity inverted]).2 =
        .error (.validity key (.emptySpan inverted.span)) ∧
      (s.insertEntry crossing).2 = .ok .invalidated ∧ s.ComesFrom [old] ∧
      (s.reloadIncremental load).2 = .ok ⟨1, 0, 0, 0, 1, 0, some 7⟩ ∧
      (s.reloadIncremental load).1.answers questions = answers ∧
      ((new o).loadRecords [old, .validity crossing]).1.answers questions = answers ∧
      (s.insertEntry crossing).1.watermark = some 5 := by
  intro o key old inverted crossing load loaded between s questions answers
  have hloaded : loaded.ComesFrom [old] := comesFrom_loadRecords ⟨_, rfl⟩
  have hbetween : ∀ a ∈ (Session.run perform loaded between).2, a.isWritten = false := by
    decide +kernel
  have hs : s.ComesFrom [old] := hloaded.run hbetween
  have hinverted : (s.insertEntry inverted).2 =
      .error (.validity key (.emptySpan inverted.span)) := by decide +kernel
  have hdropped : (s.insertEntry crossing).2 = .ok .invalidated := by decide +kernel
  have hoptions : s.options = o := by decide +kernel
  have hbefore : s.watermark = some 5 := by decide +kernel
  have hquestions : ∀ op ∈ questions, op.asksTables = true := by decide +kernel
  let t := (s.insertEntry crossing).1.tables
  have hinvalidated : t.catalogue.isInvalidated key = true := by decide +kernel
  have hvalue : t.catalogue.first? key 5 = none := by decide +kernel
  have hsizes : t.stats = ⟨0, 0, 0, 0, 0⟩ := by decide +kernel
  have hasked : ∀ u : Store, u.answers questions =
      [.invalidated (u.tables.catalogue.isInvalidated key),
        .value (u.tables.catalogue.first? key 5), .sizes u.tables.stats] := fun _ => rfl
  have hanswers : (s.insertEntry crossing).1.answers questions = answers := by
    rw [hasked, hinvalidated, hvalue, hsizes]
  obtain ⟨hrefused, -, -⟩ := insert_agrees_with_load s inverted
  rw [hoptions] at hrefused
  obtain ⟨-, hagrees, hwatermark, -, -⟩ := insert_agrees_with_load s crossing
  obtain ⟨hdelta, hrebuilt⟩ := hagrees .invalidated hdropped
  obtain ⟨hsummary, hsame⟩ := hdelta load rfl
  obtain ⟨-, hsame'⟩ := hrebuilt [old] hs (new o) hoptions.symm
  refine ⟨(hrefused _).1 hinverted, hdropped, hs, hsummary, ?_, ?_, hwatermark.trans hbefore⟩
  · rw [← hsame questions hquestions]
    exact hanswers
  · exact (hsame' questions hquestions).symm.trans hanswers

end Store
end Tariff
