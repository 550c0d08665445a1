import Tariff.Directory
import Tariff.Text.Decimal

/-!
# TOML values

The values of a TOML document, and how a table is filled.  A table remembers how it came
to be: the format lets a table be added to later in some ways and not in others.

Main results:

- Theorem {lit}`Toml.get?_insertAt`: a key that is added to a table has its value there,
  and all other keys keep theirs.
-/

namespace Tariff
namespace Toml

/-- How a table came to be. -/
inductive Origin where
  /-- It was written in braces, which closes it. -/
  | braces
  /-- It has a header of its own. -/
  | header
  /-- It is on the way to the table of a header. -/
  | implied
  /-- It is on the way of a dotted key. -/
  | dotted
deriving DecidableEq, Repr

/-- A value. -/
inductive Value where
  | string (s : String)
  | integer (n : Int)
  | float (d : Decimal)
  | boolean (b : Bool)
  /-- A date, a time or both, as written. -/
  | dateTime (text : String)
  | array (items : List Value)
  | table (origin : Origin) (entries : Directory String Value)
  /-- The tables of headers in double brackets, the last one first. -/
  | tables (items : List (Directory String Value))

/-- The keys of a table with their values. -/
abbrev Entries := Directory String Value

/-- The origin of tables on a way. -/
def Origin.ofWay (dotted : Bool) : Origin :=
  if dotted then .dotted else .implied

/-- Changes the table at the end of a way from a table on.  Tables that are missing on
the way come to be.  Closed tables cannot be entered, and a dotted key does not enter
tables with headers.  Of tables with double brackets the last one is entered. -/
def update (dotted : Bool) (change : Origin → Entries → Option Entries) :
    List String → Origin → Entries → Option Entries
  | [], origin, es => change origin es
  | key :: way, _, es =>
    match es.get? key with
    | none =>
      let origin := Origin.ofWay dotted
      (update dotted change way origin .empty).map fun new => es.set key (.table origin new)
    | some (.table origin inner) =>
      if origin = .braces ∨ (dotted ∧ origin = .header) then none
      else (update dotted change way origin inner).map fun new => es.set key (.table origin new)
    | some (.tables (last :: before)) =>
      (update dotted change way .header last).map fun new => es.set key (.tables (new :: before))
    | some _ => none

/-- Adds a key with a value to a table.  A table that dotted keys have made takes keys at
the end of dotted keys alone, and no other table takes these. -/
def insert (viaDots : Bool) (key : String) (v : Value) (origin : Origin) (es : Entries) :
    Option Entries :=
  if viaDots = decide (origin = .dotted) ∧ ¬ es.contains key then some (es.set key v)
  else none

/-- Adds a value under a dotted key, from a table on. -/
def insertAt (way : List String) (key : String) (v : Value) (origin : Origin)
    (es : Entries) : Option Entries :=
  update true (insert (!way.isEmpty) key v) way origin es

/-- Opens the table of a header.  It may have come to be on the way to another header,
but in no other way. -/
def openTable (key : String) (_ : Origin) (es : Entries) : Option Entries :=
  match es.get? key with
  | none => some (es.set key (.table .header .empty))
  | some (.table .implied inner) => some (es.set key (.table .header inner))
  | some _ => none

/-- Opens one more table of a header in double brackets. -/
def openItem (key : String) (_ : Origin) (es : Entries) : Option Entries :=
  match es.get? key with
  | none => some (es.set key (.tables [.empty]))
  | some (.tables items) => some (es.set key (.tables (.empty :: items)))
  | some _ => none

/-! ## Laws -/

/-- A key that is added to a table has its value there, and all other keys keep theirs. -/
theorem get?_insertAt {key : String} {v : Value} {origin : Origin} {es es' : Entries}
    (h : insertAt [] key v origin es = some es') (k : String) :
    es'.get? k = if k = key then some v else es.get? k := by
  simp only [insertAt, update, insert] at h
  split at h
  · cases h
    exact Directory.get?_set es key v k
  · cases h

end Toml
end Tariff
