import Tariff.Proofs.Session
import Tariff.Store

/-!
# Operations on a store

All that can be asked of a store, as one step function.  The tally and the tables that
were published before have no say in what is answered; options, published tables and
watermark decide it.

Main results:

- Theorem {lit}`Store.Alike.perform`: stores that are alike answer an operation alike and
  stay alike.
- Theorem {lit}`Store.Alike.answers`: they answer every session alike.
- Theorem {lit}`Store.onlyCounted_of_isQuery`: a query changes nothing but the tally.
-/

namespace Tariff

/-- What can be asked of a store. -/
inductive Operation where
  | loadRecords (rs : List Record)
  | reloadFull (load : Source.Loader)
  | reloadIncremental (load : Source.Loader)
  | refresh (load : Source.Loader)
  | insert (key : Key) (id : Nat) (span : Span) (results : List String)
  | clear
  | lookup (key : Key) (t : Int)
  | lookupAll (key : Key) (t : Int)
  | isInvalidated (key : Key)
  | segment (model : String) (start stop : Int)
  | segmentForPlan (plan : String) (start stop : Int)
  | matchFirst (group : String) (fields : List (Option String))
  | matchAll (group : String) (fields : List (Option String))
  | stats
  | watermark
  /-- Hands out the published tables. -/
  | snapshot

/-- What a store says to an operation. -/
inductive Answer where
  | loaded (r : Except LoadFault Summary)
  | inserted (r : Except LoadFault Catalogue.Outcome)
  | done
  | value (r : Option (List String))
  | values (rs : List (List String))
  | invalidated (r : Bool)
  | segments (r : List Segment)
  | firstMatch (r : Except NotNumeric (Option (List String)))
  | allMatches (r : Except NotNumeric (List (List String)))
  | sizes (r : Tables.Stats)
  | modified (r : Option Int)
  | tables (r : Tables)

/-- The fault of a write that failed. -/
def Answer.fault? : Answer → Option LoadFault
  | loaded (.error f) | inserted (.error f) => some f
  | _ => none

/-- The operation reads only. -/
def Operation.isQuery : Operation → Bool
  | loadRecords .. | reloadFull .. | reloadIncremental .. | refresh .. | insert .. | clear =>
    false
  | lookup .. | lookupAll .. | isInvalidated .. | segment .. | segmentForPlan ..
  | matchFirst .. | matchAll .. | stats | watermark | snapshot => true

namespace Store

/-- Carries out an operation. -/
def perform (s : Store) : Operation → Store × Answer
  | .loadRecords rs => (s.loadRecords rs).map id .loaded
  | .reloadFull load => (s.reloadFull load).map id .loaded
  | .reloadIncremental load => (s.reloadIncremental load).map id .loaded
  | .refresh load => (s.refresh load).map id .loaded
  | .insert key n span results => (s.insert key n span results).map id .inserted
  | .clear => (s.clear, .done)
  | .lookup key t => (s.lookup key t).map id .value
  | .lookupAll key t => (s.lookupAll key t).map id .values
  | .isInvalidated key => (s, .invalidated (s.tables.catalogue.isInvalidated key))
  | .segment model start stop => (s.segment model start stop).map id .segments
  | .segmentForPlan plan start stop => (s.segmentForPlan plan start stop).map id .segments
  | .matchFirst group fields => (s.matchFirst group fields).map id .firstMatch
  | .matchAll group fields => (s.matchAll group fields).map id .allMatches
  | .stats => (s, .sizes s.tables.stats)
  | .watermark => (s, .modified s.watermark)
  | .snapshot => (s, .tables s.tables)

/-- The answers to operations that are carried out one after the other. -/
def answers (s : Store) (ops : List Operation) : List Answer :=
  (Session.run perform s ops).2

/-! ## Stores that answer alike -/

/-- Two stores agree in what answers are drawn from. -/
structure Alike (s s' : Store) : Prop where
  options : s.options = s'.options
  tables : s.tables = s'.tables
  watermark : s.watermark = s'.watermark

namespace Alike

variable {s s' : Store}

/-- What is counted plays no part in the answers. -/
theorem count (h : Alike s s') (f g : Figure) (m n : Nat) : Alike (s.count f m) (s'.count g n) :=
  ⟨h.options, h.tables, h.watermark⟩

/-- Whether a reload is counted plays no part in the answers. -/
theorem countReload {α : Type} (h : Alike s s') (mode : ReloadMode) (r : Except LoadFault α) :
    Alike (s.countReload mode r) (s'.countReload mode r) :=
  (h.count _ _ _ _).count _ _ _ _

/-- A load is answered alike. -/
theorem loadRecords (h : Alike s s') (rs : List Record) :
    Alike (s.loadRecords rs).1 (s'.loadRecords rs).1 ∧
      (s.loadRecords rs).2 = (s'.loadRecords rs).2 := by
  unfold Store.loadRecords
  rw [h.options]
  rcases Loading.build s'.options rs with ⟨l, _ | f⟩
  · exact ⟨⟨h.options, rfl, rfl⟩, rfl⟩
  · exact ⟨⟨h.options, h.tables, h.watermark⟩, rfl⟩

/-- A full reload is answered alike. -/
theorem reloadFull (h : Alike s s') (load : Source.Loader) :
    Alike (s.reloadFull load).1 (s'.reloadFull load).1 ∧
      (s.reloadFull load).2 = (s'.reloadFull load).2 := by
  unfold Store.reloadFull
  cases load none with
  | error f => exact ⟨h.countReload .full (.error (.source f) : Except LoadFault Summary), rfl⟩
  | ok rs =>
    have hload := h.loadRecords rs
    simp only
    rw [hload.2]
    exact ⟨hload.1.countReload _ _, rfl⟩

/-- A delta is answered alike. -/
theorem applyDelta (h : Alike s s') (rs : List Record) :
    Alike (s.applyDelta rs).1 (s'.applyDelta rs).1 ∧
      (s.applyDelta rs).2 = (s'.applyDelta rs).2 := by
  unfold Store.applyDelta
  rw [h.tables]
  rcases Loading.delta s'.tables rs with ⟨l, _ | f⟩
  · refine ⟨⟨h.options, rfl, ?_⟩, rfl⟩
    exact congrArg (raise · l.summary.watermark) h.watermark
  · exact ⟨⟨h.options, rfl, h.watermark⟩, rfl⟩

/-- An incremental reload is answered alike. -/
theorem reloadIncremental (h : Alike s s') (load : Source.Loader) :
    Alike (s.reloadIncremental load).1 (s'.reloadIncremental load).1 ∧
      (s.reloadIncremental load).2 = (s'.reloadIncremental load).2 := by
  unfold Store.reloadIncremental
  rw [h.watermark]
  cases load s'.watermark with
  | error f =>
    exact ⟨h.countReload .incremental (.error (.source f) : Except LoadFault Summary), rfl⟩
  | ok rs =>
    have hdelta := h.applyDelta rs
    simp only
    rw [hdelta.2]
    exact ⟨hdelta.1.countReload _ _, rfl⟩

/-- A refresh is answered alike. -/
theorem refresh (h : Alike s s') (load : Source.Loader) :
    Alike (s.refresh load).1 (s'.refresh load).1 ∧
      (s.refresh load).2 = (s'.refresh load).2 := by
  unfold Store.refresh
  rw [h.options, h.watermark]
  split
  · exact h.reloadIncremental load
  · exact h.reloadFull load

/-- An entry is taken in alike. -/
theorem insert (h : Alike s s') (key : Key) (id : Nat) (span : Span) (results : List String) :
    Alike (s.insert key id span results).1 (s'.insert key id span results).1 ∧
      (s.insert key id span results).2 = (s'.insert key id span results).2 := by
  unfold Store.insert
  cases checkEntry key span results with
  | error f => exact ⟨h, rfl⟩
  | ok _ =>
    simp only
    rw [h.tables]
    obtain ⟨t, applied⟩ := s'.tables.applyEntry key id span results
    cases applied with
    | error f => exact ⟨⟨h.options, rfl, h.watermark⟩, rfl⟩
    | ok outcome => exact ⟨⟨h.options, rfl, h.watermark⟩, rfl⟩

/-- A span is cut alike. -/
theorem segmentWith (h : Alike s s') (m : Option WeekModel) (start stop : Int) :
    Alike (s.segmentWith m start stop).1 (s'.segmentWith m start stop).1 ∧
      (s.segmentWith m start stop).2 = (s'.segmentWith m start stop).2 := by
  unfold Store.segmentWith
  cases m with
  | none => exact ⟨h.count _ _ _ _, rfl⟩
  | some m =>
    simp only
    rw [h.options]
    exact ⟨(h.count _ _ _ _).count _ _ _ _, rfl⟩

/-- A span is cut alike under the model of a name. -/
theorem segment (h : Alike s s') (model : String) (start stop : Int) :
    Alike (s.segment model start stop).1 (s'.segment model start stop).1 ∧
      (s.segment model start stop).2 = (s'.segment model start stop).2 := by
  unfold Store.segment
  rw [h.tables]
  exact h.segmentWith _ start stop

/-- A span is cut alike under the model of a plan. -/
theorem segmentForPlan (h : Alike s s') (plan : String) (start stop : Int) :
    Alike (s.segmentForPlan plan start stop).1 (s'.segmentForPlan plan start stop).1 ∧
      (s.segmentForPlan plan start stop).2 = (s'.segmentForPlan plan start stop).2 := by
  unfold Store.segmentForPlan
  rw [h.tables]
  exact h.segmentWith _ start stop

/-- The first rule is found alike. -/
theorem matchFirst (h : Alike s s') (group : String) (fields : List (Option String)) :
    Alike (s.matchFirst group fields).1 (s'.matchFirst group fields).1 ∧
      (s.matchFirst group fields).2 = (s'.matchFirst group fields).2 := by
  unfold Store.matchFirst
  rw [h.tables]
  cases s'.tables.rules.first group fields with
  | error f => exact ⟨h, rfl⟩
  | ok r => exact ⟨h.count _ _ _ _, rfl⟩

/-- All rules are found alike. -/
theorem matchAll (h : Alike s s') (group : String) (fields : List (Option String)) :
    Alike (s.matchAll group fields).1 (s'.matchAll group fields).1 ∧
      (s.matchAll group fields).2 = (s'.matchAll group fields).2 := by
  unfold Store.matchAll
  rw [h.tables]
  cases s'.tables.rules.all group fields with
  | error f => exact ⟨h, rfl⟩
  | ok rs => exact ⟨h.count _ _ _ _, rfl⟩

/-- What holds of the results holds of the answers that wrap them. -/
theorem map {α : Type} {r r' : Store × α} (h : Alike r.1 r'.1 ∧ r.2 = r'.2) (wrap : α → Answer) :
    Alike (r.map id wrap).1 (r'.map id wrap).1 ∧ (r.map id wrap).2 = (r'.map id wrap).2 :=
  ⟨h.1, congrArg wrap h.2⟩

/-- Stores that are alike answer an operation alike and stay alike. -/
theorem perform (h : Alike s s') (op : Operation) :
    Alike (s.perform op).1 (s'.perform op).1 ∧ (s.perform op).2 = (s'.perform op).2 := by
  cases op with
  | loadRecords rs => exact map (h.loadRecords rs) _
  | reloadFull load => exact map (h.reloadFull load) _
  | reloadIncremental load => exact map (h.reloadIncremental load) _
  | refresh load => exact map (h.refresh load) _
  | insert key id span results => exact map (h.insert key id span results) _
  | clear =>
    refine ⟨⟨h.options, ?_, rfl⟩, rfl⟩
    exact congrArg Tables.empty h.options
  | lookup key t =>
    refine ⟨h.count _ _ _ _, ?_⟩
    exact congrArg (fun t' : Tables => Answer.value (t'.catalogue.first? key t)) h.tables
  | lookupAll key t =>
    refine ⟨h.count _ _ _ _, ?_⟩
    exact congrArg (fun t' : Tables => Answer.values (t'.catalogue.all key t)) h.tables
  | isInvalidated key =>
    refine ⟨h, ?_⟩
    exact congrArg (fun t' : Tables => Answer.invalidated (t'.catalogue.isInvalidated key)) h.tables
  | segment model start stop => exact map (h.segment model start stop) _
  | segmentForPlan plan start stop => exact map (h.segmentForPlan plan start stop) _
  | matchFirst group fields => exact map (h.matchFirst group fields) _
  | matchAll group fields => exact map (h.matchAll group fields) _
  | stats => exact ⟨h, congrArg (fun t' : Tables => Answer.sizes t'.stats) h.tables⟩
  | watermark => exact ⟨h, congrArg Answer.modified h.watermark⟩
  | snapshot => exact ⟨h, congrArg Answer.tables h.tables⟩

/-- Stores that are alike answer every session alike. -/
theorem answers (h : Alike s s') (ops : List Operation) : s.answers ops = s'.answers ops := by
  have hstep : ∀ s s' op, Alike s s' →
      (Store.perform s op).2 = (Store.perform s' op).2 ∧
        Alike (Store.perform s op).1 (Store.perform s' op).1 := by
    intro s s' op hs
    exact And.comm.1 (hs.perform op)
  exact (Session.simulation hstep h ops).1

end Alike

/-! ## Operations that only count -/

/-- Nothing but the tally has changed from the first store to the second. -/
def OnlyCounted (s s' : Store) : Prop :=
  s' = { s with tally := s'.tally }

namespace OnlyCounted

variable {s s' : Store}

/-- A store differs from itself in nothing. -/
theorem refl (s : Store) : OnlyCounted s s := rfl

/-- One more count makes no other difference. -/
theorem count (h : OnlyCounted s s') (f : Figure) (n : Nat) : OnlyCounted s (s'.count f n) := by
  unfold OnlyCounted at h ⊢
  rw [h]
  rfl

/-- The count of a reload makes no other difference. -/
theorem countReload {α : Type} (h : OnlyCounted s s') (mode : ReloadMode)
    (r : Except LoadFault α) : OnlyCounted s (s'.countReload mode r) :=
  (h.count _ _).count _ _

/-- Stores that differ in the tally at most are alike. -/
theorem alike (h : OnlyCounted s s') : Alike s s' := by
  unfold OnlyCounted at h
  rw [h]
  exact ⟨rfl, rfl, rfl⟩

end OnlyCounted

/-- A query changes nothing but the tally. -/
theorem onlyCounted_of_isQuery (s : Store) {op : Operation} (h : op.isQuery = true) :
    OnlyCounted s (s.perform op).1 := by
  have hcut : ∀ m start stop, OnlyCounted s (s.segmentWith m start stop).1 := by
    intro m start stop
    unfold segmentWith
    cases m with
    | none => exact (OnlyCounted.refl s).count _ _
    | some m => exact ((OnlyCounted.refl s).count _ _).count _ _
  cases op with
  | loadRecords | reloadFull | reloadIncremental | refresh | insert | clear => cases h
  | lookup | lookupAll => exact (OnlyCounted.refl s).count _ _
  | segment | segmentForPlan => exact hcut _ _ _
  | matchFirst group fields =>
    simp only [perform, matchFirst, Prod.map_fst, id]
    cases s.tables.rules.first group fields with
    | error f => exact OnlyCounted.refl s
    | ok r => exact (OnlyCounted.refl s).count _ _
  | matchAll group fields =>
    simp only [perform, matchAll, Prod.map_fst, id]
    cases s.tables.rules.all group fields with
    | error f => exact OnlyCounted.refl s
    | ok rs => exact (OnlyCounted.refl s).count _ _
  | isInvalidated | stats | watermark | snapshot => exact OnlyCounted.refl s

end Store
end Tariff
