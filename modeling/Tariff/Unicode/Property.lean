import Tariff.Unicode.Age
import Tariff.Unicode.Binary
import Tariff.Unicode.Category
import Tariff.Unicode.GraphemeBreak
import Tariff.Unicode.Runs
import Tariff.Unicode.Script
import Tariff.Unicode.ScriptExtension
import Tariff.Unicode.SentenceBreak
import Tariff.Unicode.WordBreak

/-!
# Character properties by name

A property is asked for by a name alone (a yes-or-no property, a general category
or a script) or by a name and a value (also an age, or a class of characters that
decides where graphemes, words or sentences end).  Names are compared without case,
blanks, hyphens, underscores and a leading {lit}`is`.
-/

namespace Tariff
namespace Unicode

/-! ## Names -/

/-- A name in the form in which the tables spell names. -/
def normalizeName (name : List Char) : String :=
  let tail : Option (List Char) :=
    match name with
    | i :: s :: cs => if i.toLower = 'i' ∧ s.toLower = 's' then some cs else none
    | _ => none
  let kept := ((tail.getD name).filter fun c =>
    c.toNat ≤ 0x7F && c != ' ' && c != '_' && c != '-').map Char.toLower
  if tail.isSome ∧ kept = ['c'] then "isc" else String.ofList kept

/-- The set that a table gives for a name. -/
def find? (table : List (List String × String)) (name : String) : Option CharSet :=
  (table.find? fun row => row.1.contains name).map fun row => CharSet.ofRuns row.2

/-! ## General categories -/

/-- The categories that are unions of others, with their parts. -/
def categoryUnions : List (List String × List String) :=
  [(["l", "letter"], ["ll", "lm", "lo", "lt", "lu"]),
   (["lc", "casedletter"], ["ll", "lt", "lu"]),
   (["m", "mark", "combiningmark"], ["mc", "me", "mn"]),
   (["n", "number"], ["nd", "nl", "no"]),
   (["p", "punctuation", "punct"], ["pc", "pd", "pe", "pf", "pi", "po", "ps"]),
   (["s", "symbol"], ["sc", "sk", "sm", "so"]),
   (["z", "separator"], ["zl", "zp", "zs"])]

/-- The union of some categories. -/
def categoryUnion (parts : List String) : CharSet :=
  parts.foldr (fun name s => ((find? categories name).getD CharSet.empty).union s) CharSet.empty

/-- The characters of no use in text: controls, formats, private and unassigned ones.
They run over the surrogates. -/
def others : CharSet :=
  (categoryUnion ["cc", "cf", "cn", "co"]).insert 0xD800 0xDFFF

/-- The general category of a name. -/
def category? (name : String) : Option CharSet :=
  if name = "any" then some CharSet.univ
  else if name = "ascii" then some ⟨[(0, 0x7F)]⟩
  else if name = "c" ∨ name = "other" then some others
  else if name = "assigned" then (find? categories "cn").map CharSet.compl
  else
    match categoryUnions.find? fun row => row.1.contains name with
    | some row => some (categoryUnion row.2)
    | none => find? categories name

/-! ## Scripts and ages -/

/-- The characters that a script uses. -/
def scriptExtension? (name : String) : Option CharSet :=
  match scripts.find? fun row => row.1.contains name with
  | some row =>
    some ((find? scriptExtensions (row.1.headD name)).getD (CharSet.ofRuns row.2))
  | none => none

/-- The characters that were assigned in a version or before it. -/
def assignedBy? (version : String) : Option CharSet :=
  (ages.findIdx? fun row => row.1.contains version).map fun i =>
    (ages.take (i + 1)).foldr (fun row s => (CharSet.ofRuns row.2).union s) CharSet.empty

/-! ## Queries -/

/-- The set for a name that stands alone.  Three short names mean a category
although they also abbreviate a property. -/
def byName? (name : List Char) : Option CharSet :=
  let key := normalizeName name
  let binary :=
    if key = "cf" ∨ key = "sc" ∨ key = "lc" then none else find? binaryProperties key
  (binary.or (category? key)).or (find? scripts key)

/-- The set for a property and one of its values. -/
def byValue? (property value : List Char) : Option CharSet :=
  let key := normalizeName property
  let wanted := normalizeName value
  if key = "gc" ∨ key = "generalcategory" then category? wanted
  else if key = "sc" ∨ key = "script" then find? scripts wanted
  else if key = "scx" ∨ key = "scriptextensions" then scriptExtension? wanted
  else if key = "age" then assignedBy? wanted
  else if key = "gcb" ∨ key = "graphemeclusterbreak" then find? graphemeBreaks wanted
  else if key = "wb" ∨ key = "wordbreak" then find? wordBreaks wanted
  else if key = "sb" ∨ key = "sentencebreak" then find? sentenceBreaks wanted
  else none

/-! ## Classes of characters -/

/-- The decimal digits. -/
def decimalDigits : CharSet :=
  (category? "nd").getD CharSet.empty

/-- White space. -/
def whiteSpace : CharSet :=
  (find? binaryProperties "space").getD CharSet.empty

/-- The letters, in the widest sense. -/
def alphabetic : CharSet :=
  (find? binaryProperties "alphabetic").getD CharSet.empty

/-- The numbers of all kinds. -/
def numeric : CharSet :=
  categoryUnion ["nd", "nl", "no"]

/-- The characters of words: letters, marks, decimal digits, connectors and the two
joiners. -/
def wordCharacters : CharSet :=
  let joiners := (find? binaryProperties "joincontrol").getD CharSet.empty
  (categoryUnion ["mc", "me", "mn", "nd", "pc"]).union (joiners.union alphabetic)

end Unicode
end Tariff
