import Tariff.Settings.Basic
import Tariff.Toml.Document

/-!
# Settings from a document

A document has a table for each group of settings.  Names that say nothing here are
passed over, and what is missing keeps its standard value.  A group may also be an array
of its values in their order.

Main results:

- Theorem {lit}`Settings.ofEntries?_empty`: an empty document leaves everything at its
  standard value.
-/

namespace Tariff
namespace Settings

open Toml (Value Entries)

/-! ## Groups -/

/-- A group of settings. -/
inductive Group where
  | unset
  | byName (es : Entries)
  | inOrder (vs : List Value)

/-- A value as a group.  A date or a time sets nothing. -/
def Group.ofValue? : Value → Option Group
  | .table _ es => some (.byName es)
  | .array vs => some (.inOrder vs)
  | .tables ts => some (.inOrder (ts.reverse.map (.table .header)))
  | .dateTime _ => some .unset
  | _ => none

/-- The group of a name in a document. -/
def group? (es : Entries) (name : String) : Option Group :=
  match es.get? name with
  | none => some .unset
  | some v => Group.ofValue? v

/-- The value in a group that has a name and, in order, a place. -/
def Group.get? (g : Group) (name : String) (place : Nat) : Option Value :=
  match g with
  | .unset => none
  | .byName es => es.get? name
  | .inOrder vs => vs[place]?

/-- Reads the value of a name and a place in a group, or takes another where there is
none. -/
def Group.read {α : Type} (g : Group) (name : String) (place : Nat)
    (ofValue? : Value → Option α) (otherwise : α) : Option α :=
  match g.get? name place with
  | none => some otherwise
  | some v => ofValue? v

/-! ## Values -/

/-- Nothing is in the value. -/
def isVoid : Value → Bool
  | .table _ es => es.entries.isEmpty
  | .array vs => vs.isEmpty
  | _ => false

/-- A choice by its name.  The name may be a text, or the only key of a table with nothing
in it. -/
def choice? {α : Type} (ofName? : String → Option α) : Value → Option α
  | .string s => ofName? s
  | .table _ ⟨[(name, v)]⟩ => if isVoid v then ofName? name else none
  | _ => none

/-- A text. -/
def text? : Value → Option String
  | .string s => some s
  | _ => none

/-- A number within its bounds. -/
def number? {α : Type} (ofInt? : Int → Option α) : Value → Option α
  | .integer n => ofInt? n
  | _ => none

/-! ## Settings -/

/-- Reads the number of the endpoint.  In order it cannot be left out. -/
def readEndpoint (g : Group) : Option (Option UInt16) :=
  match g with
  | .inOrder [] => none
  | _ => g.read "port" 0 (fun v => (number? endpoint? v).map some) none

/-- The settings of a document. -/
def ofEntries? (es : Entries) : Option Settings := do
  let engine ← group? es "engine"
  let mode ← engine.read "index_mode" 0 (choice? Catalogue.Mode.ofName?) standard.mode
  let policy ← engine.read "conflict_policy" 1 (choice? Catalogue.Policy.ofName?) standard.policy
  let offsetMinutes ←
    engine.read "utc_offset_minutes" 2 (number? minutes?) standard.offsetMinutes
  let reloading ← group? es "reload"
  let reload ← reloading.read "mode" 0 (choice? ReloadMode.ofName?) standard.reload
  let period ← reloading.read "period_secs" 1 (number? seconds?) standard.period
  let source ← group? es "source"
  let journal ← source.read "journal" 0 text? standard.journal
  let metrics ← group? es "metrics"
  let endpoint ← readEndpoint metrics
  let logging ← group? es "logging"
  let level ← logging.read "level" 0 text? standard.level
  some { mode, policy, offsetMinutes, reload, period, journal, endpoint, level }

/-- The settings in the text of a document. -/
def ofText? (text : String) : Option Settings := do
  ofEntries? (← Toml.read? text.toList)

/-- Why no settings were read. -/
inductive Fault where
  /-- There is no file, or it holds no text. -/
  | unreadable
  /-- The text holds no settings. -/
  | malformed
deriving DecidableEq, Repr

/-- The settings in the octets of a file, if there is one. -/
def ofFile (octets : Option (List UInt8)) : Except Fault Settings :=
  match octets.bind fun bs => String.fromUTF8? ⟨bs.toArray⟩ with
  | none => .error .unreadable
  | some text =>
    match ofText? text with
    | none => .error .malformed
    | some s => .ok s

/-- An empty document leaves everything at its standard value. -/
theorem ofEntries?_empty : ofEntries? .empty = some standard := rfl

/-- A group may be given in order, and a choice as a table. -/
example : (ofText? "engine = ['multi', {reject = []}, 0x1e]").map
    (fun s => (s.mode, s.policy, s.offsetMinutes)) = some (.multi, .reject, 30) := by
  decide +kernel

end Settings
end Tariff
