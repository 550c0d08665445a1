/-!
# Numerals

Reading natural numbers from ASCII digits, in base ten or another base up to
sixteen.

Main results:

- Theorem {lit}`Numeral.read?_isSome_iff`: a text is a numeral exactly when it is
  not empty and holds digits of the base only.
-/

namespace Tariff
namespace Numeral

/-- The value of a digit: {lit}`0` to {lit}`9`, then letters of either case. -/
def digit? (c : Char) : Option Nat :=
  if '0' ≤ c ∧ c ≤ '9' then some (c.toNat - '0'.toNat)
  else if 'a' ≤ c ∧ c ≤ 'f' then some (c.toNat - 'a'.toNat + 10)
  else if 'A' ≤ c ∧ c ≤ 'F' then some (c.toNat - 'A'.toNat + 10)
  else none

/-- The character is a digit of the base. -/
def isDigit (base : Nat) (c : Char) : Bool :=
  match digit? c with
  | some d => decide (d < base)
  | none => false

/-- The number written by a run of digits, most significant first.  Characters
that are no digits count as zero. -/
def value (base : Nat) (cs : List Char) : Nat :=
  cs.foldl (fun n c => n * base + (digit? c).getD 0) 0

/-- Reads a numeral: one digit of the base or more, and nothing else. -/
def read? (base : Nat) (cs : List Char) : Option Nat :=
  if cs ≠ [] ∧ cs.all (isDigit base) then some (value base cs) else none

/-- A text is a numeral when it is not empty and holds digits only. -/
theorem read?_isSome_iff (base : Nat) (cs : List Char) :
    (read? base cs).isSome = true ↔ cs ≠ [] ∧ ∀ c ∈ cs, isDigit base c = true := by
  unfold read?
  split
  · rename_i h
    simpa using h
  · rename_i h
    simpa using h

/-- Digits of a base up to ten are ASCII digits. -/
example : (['0', '9', 'a', '٣'].map (isDigit 10)) = [true, true, false, false] := by decide

/-- Reads a whole number with an optional sign.  A leading minus is accepted only
where {lit}`signed` holds, even in front of a zero. -/
def readInt? (signed : Bool) (cs : List Char) : Option Int :=
  match cs with
  | '+' :: ds => (read? 10 ds).map Int.ofNat
  | '-' :: ds => if signed then (read? 10 ds).map fun n => -Int.ofNat n else none
  | ds => (read? 10 ds).map Int.ofNat

end Numeral
end Tariff
