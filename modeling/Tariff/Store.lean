import Tariff.Source
import Tariff.Tables.Load
import Tariff.Tally
import Tariff.Week.Segment

/-!
# Stores

A store publishes tables, answers queries from them and keeps them up to date from a
source.  A full load publishes new tables; a delta and a single entry change those that
are published.  Tables that someone still holds stay as they were when others took their
place.

Main results:

- Theorem {lit}`Store.tablesOf_publish`: tables that were held stay as they were when
  others are published.
-/

namespace Tariff

/-- Published tables, with what is known about them. -/
structure Store where
  options : Options
  tables : Tables
  /-- The latest modification that has been taken over. -/
  watermark : Option Int
  tally : Tally
  /-- How often tables have been published before. -/
  generation : Nat
  /-- The tables that were published before, by generation. -/
  retired : Directory Nat Tables

namespace Store

/-- A store with nothing in it. -/
def new (o : Options) : Store :=
  ⟨o, Tables.empty o, none, Tally.empty, 0, Directory.empty⟩

/-! ## Publishing -/

/-- Publishes other tables. -/
def publish (s : Store) (t : Tables) : Store :=
  { s with
    tables := t
    generation := s.generation + 1
    retired := s.retired.set s.generation s.tables }

/-- The tables of a generation, as they are now. -/
def tablesOf (s : Store) (generation : Nat) : Tables :=
  if generation = s.generation then s.tables
  else (s.retired.get? generation).getD (Tables.empty s.options)

/-- Counts something. -/
def count (s : Store) (f : Figure) (n : Nat) : Store :=
  { s with tally := s.tally.add f n }

/-- Sets the sizes of the published tables in the tally. -/
def gauge (s : Store) : Store :=
  let stats := s.tables.stats
  { s with tally := (s.tally.set .keys stats.keys).set .entries stats.entries }

/-- Counts the conflicts of a load. -/
def countConflicts (s : Store) (n : Nat) : Store :=
  s.count (.conflicts s.options.policy) n

/-- Counts a reload. -/
def countReload {α : Type} (s : Store) (mode : ReloadMode) (r : Except LoadFault α) : Store :=
  let succeeded := match r with
    | .ok _ => true
    | .error _ => false
  (s.count (.reloads mode succeeded) 1).count (.reloadTimes mode) 1

/-! ## Loading -/

/-- Builds tables from records and publishes them. -/
def loadRecords (s : Store) (rs : List Record) : Store × Except LoadFault Summary :=
  let (l, fault) := Loading.build s.options rs
  let s := s.countConflicts l.summary.conflicts
  match fault with
  | some f => (s, .error f)
  | none =>
    ({ s.publish l.tables with watermark := l.summary.watermark }.gauge, .ok l.summary)

/-- Loads everything that a provider has. -/
def reloadFull (s : Store) (load : Source.Loader) : Store × Except LoadFault Summary :=
  let (s, r) : Store × Except LoadFault Summary := match load none with
    | .error f => (s, .error (.source f))
    | .ok rs => s.loadRecords rs
  (s.countReload .full r, r)

/-- The later of two watermarks. -/
def raise : Option Int → Option Int → Option Int
  | old, none => old
  | old, some w => some (Summary.later old w)

/-- Applies records as a delta to the published tables. -/
def applyDelta (s : Store) (rs : List Record) : Store × Except LoadFault Summary :=
  let (l, fault) := Loading.delta s.tables rs
  let s := { s with tables := l.tables }.countConflicts l.summary.conflicts
  match fault with
  | some f => (s, .error f)
  | none => ({ s with watermark := raise s.watermark l.summary.watermark }.gauge, .ok l.summary)

/-- Takes over what was modified after the watermark. -/
def reloadIncremental (s : Store) (load : Source.Loader) : Store × Except LoadFault Summary :=
  let (s, r) : Store × Except LoadFault Summary := match load s.watermark with
    | .error f => (s, .error (.source f))
    | .ok rs => s.applyDelta rs
  (s.countReload .incremental r, r)

/-- Reloads in the way that the options ask for.  Until there is a watermark everything
is loaded. -/
def refresh (s : Store) (load : Source.Loader) : Store × Except LoadFault Summary :=
  if s.options.reload = .incremental ∧ s.watermark.isSome then s.reloadIncremental load
  else s.reloadFull load

/-- Refreshes a number of times. -/
def refreshTimes (s : Store) (load : Source.Loader) : Nat → Store
  | 0 => s
  | n + 1 => (s.refresh load).1.refreshTimes load n

/-- How often a task runs that runs at the end of each period, up to a time. -/
def ticks (period time : Nat) : Nat :=
  time / period

/-- Adds one entry to the published tables. -/
def insert (s : Store) (key : Key) (id : Nat) (span : Span) (results : List String) :
    Store × Except LoadFault Catalogue.Outcome :=
  match checkEntry key span results with
  | .error f => (s, .error f)
  | .ok () =>
    match s.tables.applyEntry key id span results with
    | (t, .error f) => ({ s with tables := t }, .error f)
    | (t, .ok outcome) =>
      ({ s with tables := t }.countConflicts outcome.isConflict.toNat, .ok outcome)

/-- Publishes tables with nothing in them and forgets the watermark. -/
def clear (s : Store) : Store :=
  { s.publish (Tables.empty s.options) with watermark := none }.gauge

/-! ## Queries -/

/-- Counts a lookup. -/
def countLookup (s : Store) (kind : LookupKind) (hit : Bool) : Store :=
  s.count (.lookups kind hit) 1

/-- The value of a key at an instant. -/
def lookup (s : Store) (key : Key) (t : Int) : Store × Option (List String) :=
  let r := s.tables.catalogue.first? key t
  (s.countLookup .validity r.isSome, r)

/-- All values of a key at an instant. -/
def lookupAll (s : Store) (key : Key) (t : Int) : Store × List (List String) :=
  let rs := s.tables.catalogue.all key t
  (s.countLookup .validityAll (!rs.isEmpty), rs)

/-- The segments of a span under a model.  A span that cannot be cut has none. -/
def segmentWith (s : Store) (m : Option WeekModel) (start stop : Int) :
    Store × List Segment :=
  match m with
  | none => (s.countLookup .segment false, [])
  | some m =>
    let cut := m.cut s.options.offset start stop
    let segments := match cut.result with
      | .ok segments => segments
      | .error _ => []
    ((s.count .segmentGaps cut.gaps).countLookup .segment (!segments.isEmpty), segments)

/-- The segments of a span under the model of a name. -/
def segment (s : Store) (model : String) (start stop : Int) : Store × List Segment :=
  s.segmentWith (s.tables.weeks.model? model) start stop

/-- The segments of a span under the model of a plan. -/
def segmentForPlan (s : Store) (plan : String) (start stop : Int) : Store × List Segment :=
  s.segmentWith (s.tables.weeks.modelForPlan? plan) start stop

/-- The results of the first rule that holds.  A query that cannot be tested is not
counted. -/
def matchFirst (s : Store) (group : String) (fields : List (Option String)) :
    Store × Except NotNumeric (Option (List String)) :=
  match s.tables.rules.first group fields with
  | .ok r => (s.countLookup .rule r.isSome, .ok r)
  | .error f => (s, .error f)

/-- The results of all rules that hold.  A query that cannot be tested is not counted. -/
def matchAll (s : Store) (group : String) (fields : List (Option String)) :
    Store × Except NotNumeric (List (List String)) :=
  match s.tables.rules.all group fields with
  | .ok rs => (s.countLookup .ruleAll (!rs.isEmpty), .ok rs)
  | .error f => (s, .error f)

/-! ## Laws -/

/-- Tables that were held stay as they were when others are published. -/
theorem tablesOf_publish (s : Store) (t : Tables) :
    (s.publish t).tablesOf s.generation = s.tables := by
  simp [publish, tablesOf, Directory.get?_set]

end Store
end Tariff
