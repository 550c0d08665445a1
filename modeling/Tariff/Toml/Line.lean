import Tariff.Toml.Item

/-!
# TOML lines

A document is a sequence of lines: a key with a value, the header of a table, or the
header of one of several tables.  Empty lines and comments say nothing.

Main results:

- Theorem {lit}`Toml.passEnd_suffix`: the end of a line is taken off the front.
-/

namespace Tariff
namespace Toml

/-- What a line says. -/
inductive Line where
  | pair (path : Path) (value : Value)
  /-- The header of a table. -/
  | table (path : Path)
  /-- The header, in double brackets, of one more table. -/
  | nextTable (path : Path)

/-- What is left behind the end of a line or of the document, in front of which blanks and
a comment may stand.  The comment is being passed over where the flag holds. -/
def passEnd : Bool → List Char → Option (List Char)
  | _, [] => some []
  | _, '\n' :: cs => some cs
  | _, '\r' :: '\n' :: cs => some cs
  | true, c :: cs => if isPlain c then passEnd true cs else none
  | false, c :: cs =>
    if c = '#' then passEnd true cs
    else if isBlank c then passEnd false cs
    else none

/-- Reads what a line says, without its end, if it says anything. -/
def readLine (cs : List Char) : Option (Option Line × List Char) :=
  match cs with
  | '[' :: '[' :: cs => do
    let (path, rest) ← readKey cs
    match rest with
    | ']' :: ']' :: rest => some (some (.nextTable path), rest)
    | _ => none
  | '[' :: cs => do
    let (path, rest) ← readKey cs
    match rest with
    | ']' :: rest => some (some (.table path), rest)
    | _ => none
  | [] => some (none, [])
  | c :: cs =>
    if c = '#' ∨ c = '\n' ∨ c = '\r' then some (none, c :: cs)
    else do
      let (p, rest) ← readPair readValue (c :: cs)
      some (some (.pair p.1 p.2), rest)

/-- Reads lines to the end. -/
def readLines : Nat → List Char → Option (List Line)
  | _, [] => some []
  | 0, _ => none
  | fuel + 1, cs => do
    let (line, rest) ← readLine (dropBlanks cs)
    let rest ← passEnd false rest
    let lines ← readLines fuel rest
    some (line.toList ++ lines)

/-- The end of a line is taken off the front. -/
theorem passEnd_suffix {inComment : Bool} {cs rest : List Char}
    (h : passEnd inComment cs = some rest) : rest <:+ cs := by
  fun_induction passEnd inComment cs with
  | case1 => cases h; exact List.suffix_refl _
  | case2 => cases h; exact List.suffix_cons ..
  | case3 => cases h; exact (List.suffix_cons ..).trans (List.suffix_cons ..)
  | case4 c cs _ _ _ ih => exact (ih h).trans (List.suffix_cons ..)
  | case5 => cases h
  | case6 _ _ _ ih => exact (ih h).trans (List.suffix_cons ..)
  | case7 _ _ _ _ _ _ ih => exact (ih h).trans (List.suffix_cons ..)
  | case8 => cases h

end Toml
end Tariff
