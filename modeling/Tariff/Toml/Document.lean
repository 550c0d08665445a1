import Tariff.Toml.Line

/-!
# TOML documents

The table that the lines of a document make.  Keys are added to the table of the header
above them.

Main results:

- Theorem {lit}`Toml.Draft.get?_add_pair`: in front of the first header a key becomes a key
  of the document, and the others keep their values.
-/

namespace Tariff
namespace Toml

/-- A document of which some lines are read. -/
structure Draft where
  /-- The keys of the document itself. -/
  root : Entries
  /-- The way to the table of the header above. -/
  header : List String

namespace Draft

/-- Nothing is read. -/
def empty : Draft :=
  ⟨.empty, []⟩

/-- Takes in a line. -/
def add (d : Draft) : Line → Option Draft
  | .pair path v =>
    (update false (insertAt path.way path.key v) d.header .header d.root).map fun root =>
      { d with root }
  | .table path =>
    (update false (openTable path.key) path.way .header d.root).map fun root =>
      ⟨root, path.way ++ [path.key]⟩
  | .nextTable path =>
    (update false (openItem path.key) path.way .header d.root).map fun root =>
      ⟨root, path.way ++ [path.key]⟩

/-- In front of the first header a key becomes a key of the document. -/
theorem get?_add_pair {d d' : Draft} {key : String} {v : Value} (h : d.header = [])
    (ha : d.add (.pair ⟨[], key⟩ v) = some d') (k : String) :
    d'.root.get? k = if k = key then some v else d.root.get? k := by
  simp only [add, h, update, Option.map_eq_some_iff] at ha
  obtain ⟨root, hr, rfl⟩ := ha
  exact get?_insertAt hr k

end Draft

/-- The document without the mark of its encoding. -/
def dropMark : List Char → List Char
  | '\uFEFF' :: cs => cs
  | cs => cs

/-- Reads a document. -/
def read? (cs : List Char) : Option Entries := do
  let cs := dropMark cs
  let lines ← readLines (cs.length + 1) cs
  let d ← lines.foldlM Draft.add Draft.empty
  some d.root

end Toml
end Tariff
