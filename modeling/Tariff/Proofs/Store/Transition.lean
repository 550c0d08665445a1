import Tariff.Proofs.Store.Failure

/-!
# What an operation does to a store

Six operations write, in four ways: they publish tables that were built, change the
published tables by a delta or by one entry, or publish empty tables.  A write that fails
and a query only count.  The sizes of the tables are measured by some writes and left as
they are by all else.

Main results:

- Theorem {lit}`Store.becomes_perform`: what is answered tells which of these has happened.
-/

namespace Tariff

/-- The figure is the size of something. -/
def Figure.isGauge : Figure → Bool
  | keys | entries => true
  | lookups .. | segmentGaps | conflicts _ | reloads .. | reloadTimes _ => false

/-- The answer to a write that was carried out. -/
def Answer.isWritten : Answer → Bool
  | loaded (.ok _) | inserted (.ok _) | done => true
  | _ => false

namespace Store

/-! ## Gauges -/

/-- The sizes of the tables as they stand in the tally: keys and entries. -/
def gauges (s : Store) : Option Nat × Option Nat :=
  (s.tally.get? .keys, s.tally.get? .entries)

/-- The sizes of the published tables: keys and entries. -/
def sizes (s : Store) : Nat × Nat :=
  (s.tables.stats.keys, s.tables.stats.entries)

/-- The gauges show the sizes of the published tables. -/
def IsGauged (s : Store) : Prop :=
  s.gauges = (some s.sizes.1, some s.sizes.2)

instance (s : Store) : Decidable s.IsGauged :=
  inferInstanceAs (Decidable (_ = _))

/-- Measuring the tables sets the gauges to their sizes. -/
theorem isGauged_gauge (s : Store) : s.gauge.IsGauged := by
  unfold IsGauged gauges sizes gauge
  simp only [Tally.get?_set, reduceCtorEq, if_true, if_false]

/-- Counting something else leaves the gauges as they are. -/
theorem gauges_count (s : Store) (f : Figure) (n : Nat) (hf : f.isGauge = false) :
    (s.count f n).gauges = s.gauges := by
  have hkeys : Figure.keys ≠ f := by
    rintro rfl
    cases hf
  have hentries : Figure.entries ≠ f := by
    rintro rfl
    cases hf
  unfold gauges count
  simp only [Tally.get?_add, hkeys, hentries, false_and, if_false]

/-- Counting conflicts leaves the gauges as they are. -/
theorem gauges_countConflicts (s : Store) (n : Nat) : (s.countConflicts n).gauges = s.gauges :=
  s.gauges_count (.conflicts s.options.policy) n rfl

/-- Counting a reload leaves the gauges as they are. -/
theorem gauges_countReload {α : Type} (s : Store) (mode : ReloadMode) (r : Except LoadFault α) :
    (s.countReload mode r).gauges = s.gauges := by
  unfold countReload
  simp only
  rw [gauges_count _ (.reloadTimes mode) 1 rfl, gauges_count _ (.reloads mode _) 1 rfl]

/-- Counting a lookup leaves the gauges as they are. -/
theorem gauges_countLookup (s : Store) (kind : LookupKind) (hit : Bool) :
    (s.countLookup kind hit).gauges = s.gauges :=
  s.gauges_count (.lookups kind hit) 1 rfl

/-! ## The ways in which a store changes -/

/-- What is answered, and the store that is left behind. -/
inductive Becomes (s : Store) : Answer → Store → Prop
  /-- Nothing has changed but figures of the tally that are no gauges. -/
  | counted {a : Answer} {s' : Store} (ha : a.isWritten = false) (halike : Alike s s')
    (hgauges : s'.gauges = s.gauges) : Becomes s a s'
  | built {rs : List Record} {l : Loading} {s' : Store}
    (hbuild : Loading.build s.options rs = (l, none))
    (halike : Alike { s with tables := l.tables, watermark := l.summary.watermark } s')
    (hgauged : s'.IsGauged) : Becomes s (.loaded (.ok l.summary)) s'
  | updated {rs : List Record} {l : Loading} {s' : Store}
    (hdelta : Loading.delta s.tables rs = (l, none))
    (halike : Alike { s with
      tables := l.tables, watermark := raise s.watermark l.summary.watermark } s')
    (hgauged : s'.IsGauged) : Becomes s (.loaded (.ok l.summary)) s'
  | inserted {key : Key} {id : Nat} {span : Span} {results : List String}
    {o : Catalogue.Outcome} {c : Catalogue (List String)} {s' : Store}
    (hcheck : checkEntry key span results = .ok ())
    (hadd : s.tables.catalogue.add key id span results = (c, .ok o))
    (halike : Alike { s with tables := { s.tables with catalogue := c } } s')
    (hgauges : s'.gauges = s.gauges) : Becomes s (.inserted (.ok o)) s'
  | cleared {s' : Store}
    (halike : Alike { s with tables := Tables.empty s.options, watermark := none } s')
    (hgauged : s'.IsGauged) : Becomes s .done s'

/-- What is not carried out as a write leaves a store that is alike. -/
theorem Becomes.alike_of_not_isWritten {s s' : Store} {a : Answer} (h : Becomes s a s')
    (ha : a.isWritten = false) : Alike s s' := by
  cases h with
  | counted _ halike _ => exact halike
  | built _ _ _ | updated _ _ _ | inserted _ _ _ _ | cleared _ _ => cases ha

/-- Whatever an operation has done to a store, its reload may be counted afterwards. -/
theorem Becomes.countReload {s s' : Store} {a : Answer} (h : Becomes s a s') {α : Type}
    (mode : ReloadMode) (r : Except LoadFault α) : Becomes s a (s'.countReload mode r) := by
  have hsame : ∀ {u : Store}, Alike u s' → Alike u (s'.countReload mode r) :=
    fun halike => ⟨halike.options, halike.tables, halike.watermark⟩
  have hgauged : s'.IsGauged → (s'.countReload mode r).IsGauged :=
    (gauges_countReload s' mode r).trans
  cases h with
  | counted ha halike hgauges =>
    exact .counted ha (hsame halike) ((gauges_countReload s' mode r).trans hgauges)
  | built hbuild halike hg => exact .built hbuild (hsame halike) (hgauged hg)
  | updated hdelta halike hg => exact .updated hdelta (hsame halike) (hgauged hg)
  | inserted hcheck hadd halike hgauges =>
    exact .inserted hcheck hadd (hsame halike) ((gauges_countReload s' mode r).trans hgauges)
  | cleared halike hg => exact .cleared (hsame halike) (hgauged hg)

/-- What a load of records does. -/
theorem becomes_loadRecords (s : Store) (rs : List Record) :
    Becomes s (.loaded (s.loadRecords rs).2) (s.loadRecords rs).1 := by
  unfold loadRecords
  rcases hbuild : Loading.build s.options rs with ⟨l, _ | f⟩
  · exact .built hbuild ⟨rfl, rfl, rfl⟩ (isGauged_gauge _)
  · exact .counted rfl ⟨rfl, rfl, rfl⟩ (gauges_countConflicts s _)

/-- What a full reload does. -/
theorem becomes_reloadFull (s : Store) (load : Source.Loader) :
    Becomes s (.loaded (s.reloadFull load).2) (s.reloadFull load).1 := by
  unfold reloadFull
  cases load none with
  | error f =>
    have hcounted : Becomes s (.loaded (.error (.source f))) s :=
      .counted rfl ⟨rfl, rfl, rfl⟩ rfl
    exact hcounted.countReload .full (.error (.source f) : Except LoadFault Summary)
  | ok rs => exact (s.becomes_loadRecords rs).countReload _ _

/-- What a delta does.  A fault is found by the checks, before any entry is applied. -/
theorem becomes_applyDelta (s : Store) (rs : List Record) :
    Becomes s (.loaded (s.applyDelta rs).2) (s.applyDelta rs).1 := by
  have hfailed : ∀ f, (s.applyDelta rs).2 = .error f → Alike s (s.applyDelta rs).1 :=
    fun f hf => (onlyCounted_applyDelta hf).alike
  unfold applyDelta at hfailed ⊢
  rcases hdelta : Loading.delta s.tables rs with ⟨l, _ | f⟩
  · exact .updated hdelta ⟨rfl, rfl, rfl⟩ (isGauged_gauge _)
  · rw [hdelta] at hfailed
    exact .counted rfl (hfailed f rfl) (gauges_countConflicts _ _)

/-- What an incremental reload does. -/
theorem becomes_reloadIncremental (s : Store) (load : Source.Loader) :
    Becomes s (.loaded (s.reloadIncremental load).2) (s.reloadIncremental load).1 := by
  unfold reloadIncremental
  cases load s.watermark with
  | error f =>
    have hcounted : Becomes s (.loaded (.error (.source f))) s :=
      .counted rfl ⟨rfl, rfl, rfl⟩ rfl
    exact hcounted.countReload .incremental (.error (.source f) : Except LoadFault Summary)
  | ok rs => exact (s.becomes_applyDelta rs).countReload _ _

/-- What a refresh does, in whichever way it reloads. -/
theorem becomes_refresh (s : Store) (load : Source.Loader) :
    Becomes s (.loaded (s.refresh load).2) (s.refresh load).1 := by
  unfold refresh
  split
  · exact s.becomes_reloadIncremental load
  · exact s.becomes_reloadFull load

/-- What a single entry does. -/
theorem becomes_insert (s : Store) (key : Key) (id : Nat) (span : Span) (results : List String) :
    Becomes s (.inserted (s.insert key id span results).2)
      (s.insert key id span results).1 := by
  unfold insert
  cases hcheck : checkEntry key span results with
  | error f => exact .counted rfl ⟨rfl, rfl, rfl⟩ rfl
  | ok u =>
    simp only
    rcases s.tables.applyEntry_cases key id span results with ⟨f, happly⟩ | ⟨o, c, hadd, happly⟩
    · rw [happly]
      exact .counted rfl ⟨rfl, rfl, rfl⟩ rfl
    · rw [happly]
      exact .inserted hcheck hadd ⟨rfl, rfl, rfl⟩ (gauges_countConflicts _ _)

/-- A query leaves the gauges as they are. -/
theorem gauges_of_isQuery (s : Store) {op : Operation} (h : op.isQuery = true) :
    (s.perform op).1.gauges = s.gauges := by
  have hcut : ∀ m start stop, (s.segmentWith m start stop).1.gauges = s.gauges := by
    intro m start stop
    unfold segmentWith
    cases m with
    | none => exact gauges_countLookup s _ _
    | some m =>
      exact (gauges_countLookup _ _ _).trans (s.gauges_count .segmentGaps _ rfl)
  cases op with
  | loadRecords | reloadFull | reloadIncremental | refresh | insert | clear => cases h
  | lookup | lookupAll => exact gauges_countLookup s _ _
  | segment | segmentForPlan => exact hcut _ _ _
  | matchFirst group fields =>
    simp only [perform, matchFirst, Prod.map_fst, id]
    cases s.tables.rules.first group fields with
    | error f => rfl
    | ok r => exact gauges_countLookup s _ _
  | matchAll group fields =>
    simp only [perform, matchAll, Prod.map_fst, id]
    cases s.tables.rules.all group fields with
    | error f => rfl
    | ok rs => exact gauges_countLookup s _ _
  | isInvalidated | stats | watermark | snapshot => rfl

/-- What is answered tells what an operation has done to the store. -/
theorem becomes_perform (s : Store) (op : Operation) :
    Becomes s (s.perform op).2 (s.perform op).1 := by
  by_cases hquery : op.isQuery = true
  · refine .counted ?_ (s.onlyCounted_of_isQuery hquery).alike (s.gauges_of_isQuery hquery)
    cases op with
    | loadRecords | reloadFull | reloadIncremental | refresh | insert | clear => cases hquery
    | lookup | lookupAll | isInvalidated | segment | segmentForPlan | matchFirst | matchAll
      | stats | watermark | snapshot => rfl
  · cases op with
    | loadRecords rs => exact s.becomes_loadRecords rs
    | reloadFull load => exact s.becomes_reloadFull load
    | reloadIncremental load => exact s.becomes_reloadIncremental load
    | refresh load => exact s.becomes_refresh load
    | insert key id span results => exact s.becomes_insert key id span results
    | clear => exact .cleared ⟨rfl, rfl, rfl⟩ (isGauged_gauge _)
    | lookup | lookupAll | isInvalidated | segment | segmentForPlan | matchFirst | matchAll
      | stats | watermark | snapshot => exact absurd rfl hquery

end Store
end Tariff
