import Tariff.Text.Numeral
import Tariff.Unicode.CharSet

/-!
# Run lengths

The tables of character properties write a set as the lengths of its runs, in
hexadecimal and set apart by blanks: first a run of code points outside the set,
then one inside, and so on.

Main results:

- Theorem {lit}`CharSet.ascending_rangesOf`: the ranges that are read ascend and do
  not meet, provided that no run inside the set is empty.
-/

namespace Tariff
namespace CharSet

/-- The hexadecimal numbers in a text.  {lit}`digits` holds the number that is
being read, if there is one. -/
def readLengths (digits : Option Nat) : List Char → List Nat
  | [] => digits.toList
  | c :: cs =>
    match Numeral.digit? c with
    | some d => readLengths (some (digits.getD 0 * 16 + d)) cs
    | none => digits.toList ++ readLengths none cs

/-- The ranges of runs that begin at {lit}`next`, outside and inside by turns. -/
def rangesOf (next : Nat) : List Nat → List (Nat × Nat)
  | gap :: size :: rest =>
    (next + gap, next + gap + size - 1) :: rangesOf (next + gap + size) rest
  | _ => []

/-- The set that a text of run lengths writes. -/
def ofRuns (text : String) : CharSet :=
  ⟨rangesOf 0 (readLengths none text.toList)⟩

/-- What is read from non-empty runs ascends. -/
theorem ascending_rangesOf (next : Nat) (lengths : List Nat) (h : ∀ n ∈ lengths, n ≠ 0) :
    Ascending next (rangesOf next lengths) := by
  fun_induction rangesOf next lengths with
  | case1 next gap size rest ih =>
    have hsize : size ≠ 0 := h size (by simp)
    refine ⟨by omega, by omega, ?_⟩
    have hstep : next + gap + size - 1 + 1 = next + gap + size := by omega
    rw [hstep]
    exact ih fun n hn => h n (by simp [hn])
  | case2 => trivial

/-- The letters of the ASCII alphabet, from their runs. -/
example : ofRuns "41 1A 6 1A" = ⟨[(0x41, 0x5A), (0x61, 0x7A)]⟩ := by decide +kernel

end CharSet
end Tariff
