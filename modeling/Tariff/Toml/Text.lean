import Tariff.Text.Numeral

/-!
# TOML texts

A basic text stands between double quotes and may hold escapes, a literal one between
single quotes and holds none.  Between three quotes of either kind a text may run over
several lines; a line feed right behind the opening quotes does not count.

Main results:

- Theorem {lit}`Toml.isPlain_iff`: which characters stand in texts and comments.
-/

namespace Tariff
namespace Toml

/-- A character that may stand in a text or a comment: no control but the tab. -/
def isPlain (c : Char) : Bool :=
  c == '\t' || (decide (0x20 ≤ c.toNat) && c.toNat != 0x7F)

/-- Puts a character in front of a text that was read. -/
def consTo (c : Char) (r : Option (List Char × List Char)) : Option (List Char × List Char) :=
  r.map fun p => (c :: p.1, p.2)

/-- The character of an escape of one letter. -/
def escape? : Char → Option Char
  | 'b' => some '\x08'
  | 'f' => some '\x0c'
  | 'n' => some '\n'
  | 'r' => some '\r'
  | 't' => some '\t'
  | '"' => some '"'
  | '\\' => some '\\'
  | _ => none

/-- The character of a code in hexadecimal digits. -/
def codeChar? (digits : List Char) : Option Char := do
  let n ← Numeral.read? 16 digits
  if n.isValidChar then some (Char.ofNat n) else none

/-- Reads a basic text up to its closing quote. -/
def readBasic : List Char → Option (List Char × List Char)
  | [] => none
  | '"' :: cs => some ([], cs)
  | '\\' :: 'u' :: a :: b :: c :: d :: cs => do
    let code ← codeChar? [a, b, c, d]
    consTo code (readBasic cs)
  | '\\' :: 'U' :: a :: b :: c :: d :: e :: f :: g :: h :: cs => do
    let code ← codeChar? [a, b, c, d, e, f, g, h]
    consTo code (readBasic cs)
  | '\\' :: e :: cs => do
    let c ← escape? e
    consTo c (readBasic cs)
  | c :: cs => if isPlain c then consTo c (readBasic cs) else none

/-- Reads a literal text up to its closing quote. -/
def readLiteral : List Char → Option (List Char × List Char)
  | [] => none
  | '\'' :: cs => some ([], cs)
  | c :: cs => if isPlain c then consTo c (readLiteral cs) else none

/-- What a backslash at the end of a line has begun. -/
inductive Fold where
  | none
  /-- The line is still to end. -/
  | opening
  /-- Blanks and line ends are passed over. -/
  | passing
deriving DecidableEq, Repr

/-- Reads a basic text of several lines up to its closing quotes.  One or two more quotes
may stand in front of these. -/
def readBasicLines : Fold → List Char → Option (List Char × List Char)
  | .opening, ' ' :: cs => readBasicLines .opening cs
  | .opening, '\t' :: cs => readBasicLines .opening cs
  | .opening, '\n' :: cs => readBasicLines .passing cs
  | .opening, '\r' :: '\n' :: cs => readBasicLines .passing cs
  | .opening, _ => none
  | .passing, ' ' :: cs => readBasicLines .passing cs
  | .passing, '\t' :: cs => readBasicLines .passing cs
  | .passing, '\n' :: cs => readBasicLines .passing cs
  | .passing, '\r' :: '\n' :: cs => readBasicLines .passing cs
  | _, [] => none
  | _, '"' :: '"' :: '"' :: '"' :: '"' :: cs => some (['"', '"'], cs)
  | _, '"' :: '"' :: '"' :: '"' :: cs => some (['"'], cs)
  | _, '"' :: '"' :: '"' :: cs => some ([], cs)
  | _, '\\' :: ' ' :: cs => readBasicLines .opening cs
  | _, '\\' :: '\t' :: cs => readBasicLines .opening cs
  | _, '\\' :: '\n' :: cs => readBasicLines .passing cs
  | _, '\\' :: '\r' :: '\n' :: cs => readBasicLines .passing cs
  | _, '\\' :: 'u' :: a :: b :: c :: d :: cs => do
    let code ← codeChar? [a, b, c, d]
    consTo code (readBasicLines .none cs)
  | _, '\\' :: 'U' :: a :: b :: c :: d :: e :: f :: g :: h :: cs => do
    let code ← codeChar? [a, b, c, d, e, f, g, h]
    consTo code (readBasicLines .none cs)
  | _, '\\' :: e :: cs => do
    let c ← escape? e
    consTo c (readBasicLines .none cs)
  | _, '\r' :: '\n' :: cs => consTo '\n' (readBasicLines .none cs)
  | _, '\n' :: cs => consTo '\n' (readBasicLines .none cs)
  | _, c :: cs => if isPlain c then consTo c (readBasicLines .none cs) else none

/-- Reads a literal text of several lines up to its closing quotes. -/
def readLiteralLines : List Char → Option (List Char × List Char)
  | [] => none
  | '\'' :: '\'' :: '\'' :: '\'' :: '\'' :: cs => some (['\'', '\''], cs)
  | '\'' :: '\'' :: '\'' :: '\'' :: cs => some (['\''], cs)
  | '\'' :: '\'' :: '\'' :: cs => some ([], cs)
  | '\r' :: '\n' :: cs => consTo '\n' (readLiteralLines cs)
  | '\n' :: cs => consTo '\n' (readLiteralLines cs)
  | c :: cs => if isPlain c then consTo c (readLiteralLines cs) else none

/-- What is left behind a line end at the front. -/
def dropLineEnd : List Char → List Char
  | '\n' :: cs => cs
  | '\r' :: '\n' :: cs => cs
  | cs => cs

/-- Reads a text of one line with its quotes. -/
def readLineText : List Char → Option (List Char × List Char)
  | '"' :: cs => readBasic cs
  | '\'' :: cs => readLiteral cs
  | _ => none

/-- Reads a text of any kind with its quotes. -/
def readText : List Char → Option (List Char × List Char)
  | '"' :: '"' :: '"' :: cs => readBasicLines .none (dropLineEnd cs)
  | '\'' :: '\'' :: '\'' :: cs => readLiteralLines (dropLineEnd cs)
  | cs => readLineText cs

/-- Which characters stand in texts and comments. -/
theorem isPlain_iff (c : Char) :
    isPlain c = true ↔ c = '\t' ∨ (0x20 ≤ c.toNat ∧ c.toNat ≠ 0x7F) := by
  simp [isPlain]

/-- Two quotes may stand in front of the closing ones. -/
example : readText "\"\"\"a\"\"\"\"\" x".toList =
    some (['a', '"', '"'], [' ', 'x']) := by decide +kernel

/-- A backslash at the end of a line joins it with the next one. -/
example : readText "\"\"\"a\\ \n\n  b\"\"\"".toList = some (['a', 'b'], []) := by
  decide +kernel

end Toml
end Tariff
