import Tariff.Text.Blank
import Tariff.Text.Numeral

/-!
# Scanning patterns

Where a pattern is read in its extended form, blanks and comments between its parts do
not count.  A comment runs from a number sign to the end of its line.

Main results:

- Theorem {lit}`Pattern.length_skip_le`: skipping never lengthens what is left.
- Theorem {lit}`Pattern.skip_plain`: outside the extended form nothing is skipped.
-/

namespace Tariff
namespace Pattern

/-- The longest run of characters of a class, and what is left.  In the extended form
blanks and comments count as nothing; {lit}`comment` tells that one is open. -/
def scan (extended : Bool) (accepts : Char → Bool) (comment : Bool) :
    List Char → List Char × List Char
  | [] => ([], [])
  | c :: cs =>
    if comment then scan extended accepts (c != '\n') cs
    else if extended && Text.isBlank c then scan extended accepts false cs
    else if extended && c == '#' then scan extended accepts true cs
    else if accepts c then
      let r := scan extended accepts false cs
      (c :: r.1, r.2)
    else ([], c :: cs)

/-- The characters of a class at the front. -/
def run (extended : Bool) (accepts : Char → Bool) (cs : List Char) : List Char × List Char :=
  scan extended accepts false cs

/-- What is left behind blanks and comments. -/
def skip (extended : Bool) (cs : List Char) : List Char :=
  (run extended (fun _ => false) cs).2

/-- The character after the front one that counts in a class.  In the extended form
blanks and one number sign are passed over. -/
def glance (extended : Bool) (cs : List Char) : Option Char :=
  if extended then
    match cs.dropWhile Text.isBlank with
    | '#' :: rest => (rest.dropWhile Text.isBlank).head?
    | rest => rest.head?
  else cs.head?

/-- The largest number of repetitions that can be asked for. -/
def maxCount : Nat := 4294967295

/-- Reads a number of repetitions, with blanks around it. -/
def readCount (extended : Bool) (cs : List Char) : Option (Nat × List Char) := do
  let r := run extended (Numeral.isDigit 10) (cs.dropWhile Text.isBlank)
  let n ← Numeral.read? 10 r.1
  if n ≤ maxCount then some (n, r.2.dropWhile Text.isBlank) else none

/-- The character of a code point that is a scalar value. -/
def charOfCode? (n : Nat) : Option Char :=
  if n.isValidChar then some (Char.ofNat n) else none

/-- Reads hexadecimal digits, a fixed number of them. -/
def readHexDigits (extended : Bool) : Nat → List Char → Option (List Char × List Char)
  | 0, cs => some ([], cs)
  | n + 1, cs =>
    match skip extended cs with
    | [] => none
    | c :: rest =>
      if Numeral.isDigit 16 c then
        (readHexDigits extended n rest).map fun r => (c :: r.1, r.2)
      else none

/-- Reads up to a closing brace, which is taken away. -/
def readBraced (extended : Bool) (cs : List Char) : Option (List Char × List Char) :=
  match run extended (· != '\x7d') cs with
  | (inside, _ :: rest) => some (inside, rest)
  | (_, []) => none

/-! ## Laws -/

theorem length_scan_le (extended : Bool) (accepts : Char → Bool) (comment : Bool)
    (cs : List Char) : (scan extended accepts comment cs).2.length ≤ cs.length := by
  induction cs generalizing comment with
  | nil => simp [scan]
  | cons c cs ih =>
    unfold scan
    split
    · exact Nat.le_succ_of_le (ih _)
    · split
      · exact Nat.le_succ_of_le (ih _)
      · split
        · exact Nat.le_succ_of_le (ih _)
        · split
          · exact Nat.le_succ_of_le (ih _)
          · exact Nat.le_refl _

/-- Skipping never lengthens what is left. -/
theorem length_skip_le (extended : Bool) (cs : List Char) :
    (skip extended cs).length ≤ cs.length :=
  length_scan_le extended _ false cs

/-- Outside the extended form nothing is skipped. -/
@[simp] theorem skip_plain (cs : List Char) : skip false cs = cs := by
  cases cs <;> simp [skip, run, scan]

end Pattern
end Tariff
