import Tariff.Record.Basic
import Tariff.Source
import Tariff.Tables.Basic

/-!
# Loading tables

Tables are built from records one by one, up to the first record at fault.  A delta of
validity entries is checked as a whole before any of it is applied.  What became of the
records is summed up on the way, also where the load fails later.

Main results:

- Theorem {lit}`Loading.run_append`: a run over two lists is a run over the second from
  where the first one ended.
- Theorem {lit}`Loading.tables_delta_of_fault`: a delta with an entry at fault changes
  nothing.
-/

namespace Tariff

/-- Why a load fails. -/
inductive LoadFault where
  | keyTooLong
  | tooManyResults
  | validity (key : Key) (cause : Timeline.Refusal)
  | interval (model : String) (cause : WeekModel.Fault)
  /-- A plan names a model that is not there. -/
  | unknownModel (plan model : String)
  | rule (cause : RuleBook.Fault)
  | source (cause : Source.Fault)
deriving DecidableEq, Repr

/-- The wording of a failed load. -/
def LoadFault.message : LoadFault → String
  | keyTooLong => "limit exceeded: key too long"
  | tooManyResults => RuleBook.Fault.tooManyResults.message
  | validity key cause =>
    "validity " ++ key.group ++ "/" ++ key.resource ++ ": " ++ cause.message
  | interval model cause => cause.message model
  | unknownModel plan model => "plan " ++ plan ++ " maps to unknown time model " ++ model
  | rule cause => cause.message
  | source cause => "source error: " ++ cause.message

/-- What became of the records of a load. -/
structure Summary where
  records : Nat
  added : Nat
  updated : Nat
  rejected : Nat
  invalidated : Nat
  skipped : Nat
  /-- The latest modification of a validity entry. -/
  watermark : Option Int
deriving DecidableEq, Repr

namespace Summary

/-- Nothing has become of so many records. -/
def start (records : Nat) : Summary :=
  ⟨records, 0, 0, 0, 0, 0, none⟩

/-- Counts what adding an entry did. -/
def count (s : Summary) : Catalogue.Outcome → Summary
  | .added => { s with added := s.added + 1 }
  | .updated => { s with updated := s.updated + 1 }
  | .rejected => { s with rejected := s.rejected + 1 }
  | .invalidated => { s with invalidated := s.invalidated + 1 }
  | .skipped => { s with skipped := s.skipped + 1 }

/-- The later of two instants, where the first may be missing. -/
def later : Option Int → Int → Int
  | none, t => t
  | some w, t => max w t

/-- Takes note of a modification. -/
def observe (s : Summary) (modified : Int) : Summary :=
  { s with watermark := some (later s.watermark modified) }

/-- How many entries met another one. -/
def conflicts (s : Summary) : Nat :=
  s.rejected + s.invalidated

end Summary

/-- The key of a validity entry. -/
def Validity.key (v : Validity) : Key :=
  ⟨v.group, v.resource⟩

/-- The span of a validity entry. -/
def Validity.span (v : Validity) : Span :=
  ⟨v.start.toInt, v.stop.toInt⟩

/-! ## Checks -/

/-- The greatest length of a name in octets. -/
def maxNameSize : Nat := 256

/-- The name is not too long. -/
def checkName (name : String) : Except LoadFault Unit :=
  if maxNameSize < name.utf8ByteSize then .error .keyTooLong else .ok ()

/-- The entry can be applied to any catalogue. -/
def checkEntry (key : Key) (span : Span) (results : List String) : Except LoadFault Unit := do
  checkName key.group
  checkName key.resource
  if RuleBook.maxResults < results.length then .error .tooManyResults
  else if Bounds.halfOpen.admits span then .ok ()
  else .error (.validity key (.emptySpan span))

namespace Tables

/-- Adds an entry to the catalogue. -/
def applyEntry (t : Tables) (key : Key) (id : Nat) (span : Span) (results : List String) :
    Tables × Except LoadFault Catalogue.Outcome :=
  match t.catalogue.add key id span results with
  | (c, .ok outcome) => ({ t with catalogue := c }, .ok outcome)
  | (c, .error cause) => ({ t with catalogue := c }, .error (.validity key cause))

/-- Adds a validity entry to the catalogue. -/
def applyValidity (t : Tables) (v : Validity) : Tables × Except LoadFault Catalogue.Outcome :=
  t.applyEntry v.key v.id.toNat v.span v.results

/-- Adds what a record other than a validity entry says. -/
def addInterval (t : Tables) (model : String) (day : Nat) (start stop result : String) :
    Except LoadFault Tables := do
  checkName model
  match t.weeks.add model day start stop result with
  | (weeks, .ok ()) => .ok { t with weeks := weeks }
  | (_, .error cause) => .error (.interval model cause)

/-- Maps a plan to a model. -/
def addMapping (t : Tables) (plan model : String) : Except LoadFault Tables := do
  checkName plan
  checkName model
  .ok { t with weeks := t.weeks.mapPlan plan model }

/-- Adds a rule. -/
def addRule (t : Tables) (group : String) (conditions results : List String) :
    Except LoadFault Tables := do
  checkName group
  match t.rules.add group conditions results with
  | .ok rules => .ok { t with rules := rules }
  | .error cause => .error (.rule cause)

end Tables

/-! ## Runs -/

/-- How far a load has come. -/
structure Loading where
  tables : Tables
  summary : Summary

namespace Loading

/-- Counts a record that was added and is no validity entry. -/
def withAdded (l : Loading) (t : Tables) : Loading :=
  ⟨t, l.summary.count .added⟩

/-- Applies a validity entry. -/
def apply (l : Loading) (v : Validity) : Except LoadFault Loading :=
  match l.tables.applyValidity v with
  | (t, .ok outcome) => .ok ⟨t, (l.summary.count outcome).observe v.modified.toInt⟩
  | (_, .error f) => .error f

/-- Takes in a record. -/
def step (l : Loading) : Record → Except LoadFault Loading
  | .validity v => do
    checkEntry v.key v.span v.results
    l.apply v
  | .interval model day start stop result =>
    (l.tables.addInterval model day.toNat start stop result).map l.withAdded
  | .mapping plan model => (l.tables.addMapping plan model).map l.withAdded
  | .rule group conditions results =>
    (l.tables.addRule group conditions results).map l.withAdded

/-- Steps from item to item up to the first fault, which is given with what was reached
before it. -/
def run {α : Type} (step : Loading → α → Except LoadFault Loading) (l : Loading) :
    List α → Loading × Option LoadFault
  | [] => (l, none)
  | a :: as =>
    match step l a with
    | .ok l' => run step l' as
    | .error f => (l, some f)

/-- The fault of tables in which a plan names a model that is not there. -/
def unmapped? (t : Tables) : Option LoadFault :=
  t.weeks.unmapped?.map fun e => .unknownModel e.1 e.2

/-- Builds tables from records. -/
def build (o : Options) (rs : List Record) : Loading × Option LoadFault :=
  let (l, fault) := run step ⟨Tables.empty o, Summary.start rs.length⟩ rs
  (l, fault.or (unmapped? l.tables))

/-- The fault of the first validity entry that is at fault by itself. -/
def firstFault? : List Validity → Option LoadFault
  | [] => none
  | v :: vs =>
    match checkEntry v.key v.span v.results with
    | .error f => some f
    | .ok () => firstFault? vs

/-- Applies the validity entries among some records to tables.  Other records are passed
over. -/
def delta (t : Tables) (rs : List Record) : Loading × Option LoadFault :=
  let vs := rs.filterMap Record.validity?
  let start := { Summary.start rs.length with skipped := rs.length - vs.length }
  match firstFault? vs with
  | some f => (⟨t, Summary.start rs.length⟩, some f)
  | none => run apply ⟨t, start⟩ vs

/-! ## Laws -/

end Loading

/-- An entry that the catalogue refuses leaves the tables as they were, and any other one changes
the catalogue. -/
theorem Tables.applyEntry_cases (t : Tables) (key : Key) (id : Nat) (span : Span)
    (results : List String) :
    (∃ f, t.applyEntry key id span results = (t, .error f)) ∨
      ∃ o c, t.catalogue.add key id span results = (c, .ok o) ∧
        t.applyEntry key id span results = ({ t with catalogue := c }, .ok o) := by
  unfold applyEntry
  rcases t.catalogue.add_cases key id span results with ⟨r, hadd⟩ | ⟨o, c, hadd⟩
  · rw [hadd]
    exact .inl ⟨.validity key r, rfl⟩
  · rw [hadd]
    exact .inr ⟨o, c, rfl, rfl⟩

namespace Loading

/-- A run over two lists is a run over the second from where the first one ended. -/
theorem run_append {α : Type} (step : Loading → α → Except LoadFault Loading) (l : Loading)
    (as bs : List α) :
    run step l (as ++ bs) =
      match run step l as with
      | (l', none) => run step l' bs
      | (l', some f) => (l', some f) := by
  induction as generalizing l with
  | nil => rfl
  | cons a as ih =>
    simp only [List.cons_append, run]
    cases step l a with
    | error f => rfl
    | ok l' => exact ih l'

/-- A delta with an entry at fault changes nothing. -/
theorem tables_delta_of_fault {t : Tables} {rs : List Record} {f : LoadFault}
    (h : firstFault? (rs.filterMap Record.validity?) = some f) :
    delta t rs = (⟨t, Summary.start rs.length⟩, some f) := by
  simp [delta, h]

end Loading
end Tariff
