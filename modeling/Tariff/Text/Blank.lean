/-!
# Blank characters

White space in the sense of the Unicode property of that name: 25 characters.

Main results:

- Theorem {lit}`isBlank_of_isWhitespace`: the property extends the four ASCII
  blanks of the core library.
- Theorem {lit}`trim_append`: trimming takes blanks off both ends and nothing else.
-/

namespace Tariff
namespace Text

/-- The code points of White_Space, as closed ranges in ascending order. -/
def blankRanges : List (Nat × Nat) :=
  [(0x09, 0x0D), (0x20, 0x20), (0x85, 0x85), (0xA0, 0xA0), (0x1680, 0x1680), (0x2000, 0x200A),
    (0x2028, 0x2029), (0x202F, 0x202F), (0x205F, 0x205F), (0x3000, 0x3000)]

/-- The character is white space. -/
def isBlank (c : Char) : Bool :=
  blankRanges.any fun r => decide (r.1 ≤ c.toNat) && decide (c.toNat ≤ r.2)

/-- The text without its leading blanks. -/
def trimStart (cs : List Char) : List Char :=
  cs.dropWhile isBlank

/-- The text without its trailing blanks. -/
def trimEnd (cs : List Char) : List Char :=
  (trimStart cs.reverse).reverse

/-- The text without the blanks at either end. -/
def trim (cs : List Char) : List Char :=
  trimEnd (trimStart cs)

/-- Every blank of the core library is a blank here. -/
theorem isBlank_of_isWhitespace (c : Char) (h : c.isWhitespace = true) : isBlank c = true := by
  simp only [Char.isWhitespace, Bool.or_eq_true, decide_eq_true_eq] at h
  rcases h with ((h | h) | h) | h <;> subst h <;> decide

/-- Only blanks are trimmed from the start. -/
private theorem exists_blank_prefix (cs : List Char) :
    ∃ front, (∀ c ∈ front, isBlank c = true) ∧ cs = front ++ trimStart cs := by
  refine ⟨cs.takeWhile isBlank, ?_, (List.takeWhile_append_dropWhile ..).symm⟩
  induction cs with
  | nil => simp
  | cons c cs ih =>
    by_cases hc : isBlank c = true
    · simpa [hc] using ih
    · simp [hc]

/-- What trimming takes away is blank, and it stood at the ends. -/
theorem trim_append (cs : List Char) :
    ∃ front back, (∀ c ∈ front, isBlank c = true) ∧ (∀ c ∈ back, isBlank c = true) ∧
      cs = front ++ trim cs ++ back := by
  obtain ⟨front, hfront, hcs⟩ := exists_blank_prefix cs
  obtain ⟨back, hback, hrev⟩ := exists_blank_prefix (trimStart cs).reverse
  refine ⟨front, back.reverse, hfront, by simpa using hback, ?_⟩
  have hmid : trimStart cs = trim cs ++ back.reverse := by
    have := congrArg List.reverse hrev
    simpa [trim, trimEnd] using this
  rw [List.append_assoc, ← hmid]
  exact hcs

end Text
end Tariff
