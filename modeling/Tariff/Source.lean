import Tariff.Journal.File

/-!
# Sources

A source hands out records: those that it was given, or those of a journal, read anew
each time.

Main results:

- Theorem {lit}`Source.load_push_memory`: a record that is pushed comes last.
- Theorem {lit}`Source.load_of_outage`: a source that is down hands out nothing.
-/

namespace Tariff

/-- Where the records of a source are. -/
inductive Supply where
  | memory (records : List Record)
  | journal (path : String) (file : JournalFile)
  /-- A journal is looked for where there is a directory. -/
  | directory (path : String)

/-- A source of records. -/
structure Source where
  supply : Supply
  /-- What a source that is down says. -/
  outage : Option String

namespace Source

/-- Why a source hands out nothing. -/
inductive Fault where
  | unreadable
  | unavailable (message : String)
deriving DecidableEq, Repr

/-- The wording of a fault. -/
def Fault.message : Fault → String
  | unreadable => "IO error"
  | unavailable message => "source unavailable: " ++ message

/-- What a provider answers when it is asked for the changes after an instant, or for
everything. -/
abbrev Loader :=
  Option Int → Except Fault (List Record)

/-- The name of the source that reads the journal at a path. -/
def journalName (path : String) : String :=
  "journal:" ++ path

/-- The name of a source. -/
def name (s : Source) : String :=
  match s.supply with
  | .memory _ => "memory"
  | .journal path _ | .directory path => journalName path

/-- All records of a source, unless they cannot be read. -/
def records? (s : Source) : Option (List Record) :=
  match s.supply with
  | .memory rs => some rs
  | .journal _ file => file.atPath.replay?
  | .directory _ => PathContent.unreadable.replay?

/-- The records that count when only changes after an instant are wanted. -/
def load (s : Source) (since : Option Int) : Except Fault (List Record) :=
  match s.outage, s.records? with
  | some message, _ => .error (.unavailable message)
  | none, some rs => .ok (Record.since since rs)
  | none, none => .error .unreadable

/-- A source answers by what it can load. -/
instance : Coe Source Loader := ⟨load⟩

/-- The source with another supply. -/
def withSupply (s : Source) (f : Supply → Supply) : Source :=
  { s with supply := f s.supply }

/-- The source with one more record. -/
def push (s : Source) (r : Record) : Source :=
  s.withSupply fun
    | .memory rs => .memory (rs ++ [r])
    | .journal path file => .journal path (file.openWriter.append r).close
    | .directory path => .directory path

/-- The source with other records. -/
def replace (s : Source) (rs : List Record) : Source :=
  s.withSupply fun
    | .memory _ => .memory rs
    | .journal path file => .journal path (file.snapshot rs)
    | .directory path => .directory path

/-- The source with octets of any kind at the end of its journal. -/
def extend (s : Source) (octets : List UInt8) : Source :=
  s.withSupply fun
    | .journal path file => .journal path (file.extend octets)
    | supply => supply

/-- The source out of service, with what it says, or back in service. -/
def setOutage (s : Source) (message : Option String) : Source :=
  { s with outage := message }

/-! ## Laws -/

/-- A record that is pushed comes last. -/
theorem load_push_memory (rs : List Record) (r : Record) :
    (Source.push ⟨.memory rs, none⟩ r).load none = .ok (rs ++ [r]) := rfl

/-- A source that is down hands out nothing. -/
theorem load_of_outage {s : Source} {message : String} (h : s.outage = some message)
    (since : Option Int) : s.load since = .error (.unavailable message) := by
  simp [load, h]

end Source
end Tariff
