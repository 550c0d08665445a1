import Tariff.Unicode.CharSet

/-!
# Octets of characters

The characters of a set as sequences of octets.  Characters whose octets have equal
lengths and run through ranges in each place make up one sequence of ranges.

Main results:

- Theorem {lit}`length_of_mem_octetRanges`: with so many octets behind the first one a
  sequence has one range more.
-/

namespace Tariff
namespace Pattern

/-- A range of octets for each octet of a character. -/
abbrev OctetRanges := List (Nat × Nat)

/-- The octet sequences of the numbers between two bounds, written with so many octets
of six bits behind the first one.  {lit}`offset` is added to the first octet. -/
def octetRanges : Nat → Nat → Nat → Nat → List OctetRanges
  | 0, offset, lo, hi => [[(offset + lo, offset + hi)]]
  | k + 1, offset, lo, hi =>
    let block := Nat.pow 64 (k + 1)
    let first := lo / block
    let last := hi / block
    let under (n : Nat) (lo hi : Nat) : List OctetRanges :=
      (octetRanges k 0x80 lo hi).map ((offset + n, offset + n) :: ·)
    if first = last then under first (lo % block) (hi % block)
    else
      let headFull := lo % block == 0
      let tailFull := hi % block == block - 1
      let head := if headFull then [] else under first (lo % block) (block - 1)
      let tail := if tailFull then [] else under last 0 (hi % block)
      let lowest := if headFull then first else first + 1
      let beyond := if tailFull then last + 1 else last
      let middle : List OctetRanges :=
        if lowest < beyond then
          [(offset + lowest, offset + beyond - 1) :: List.replicate (k + 1) (0x80, 0xBF)]
        else []
      head ++ middle ++ tail

/-- The code points that are written with equally many octets: how many follow the
first one, the offset of the first one, and the bounds. -/
def octetClasses : List (Nat × Nat × Nat × Nat) :=
  [(0, 0, 0, 0x7F), (1, 0xC0, 0x80, 0x7FF), (2, 0xE0, 0x800, 0xD7FF), (2, 0xE0, 0xE000, 0xFFFF),
    (3, 0xF0, 0x10000, 0x10FFFF)]

/-- The octet sequences of the code points between two bounds, in order. -/
def octetSequencesOf (first last : Nat) : List OctetRanges :=
  octetClasses.flatMap fun (k, offset, lo, hi) =>
    if max lo first ≤ min hi last then octetRanges k offset (max lo first) (min hi last) else []

/-- The octet sequences of the characters of a set, in order. -/
def octetSequences (s : CharSet) : List OctetRanges :=
  s.ranges.flatMap fun r => octetSequencesOf r.1 r.2

/-- The octets of a code point. -/
def octetsOf (n : Nat) : List Nat :=
  (octetSequencesOf n n).flatMap fun seq => seq.map Prod.fst

/-- Sequences grouped by their first range, each group without it. -/
def byFirst : List OctetRanges → List ((Nat × Nat) × List OctetRanges)
  | [] => []
  | [] :: rest => byFirst rest
  | (r :: tail) :: rest =>
    match byFirst rest with
    | (r', tails) :: groups =>
      if r = r' then (r, tail :: tails) :: groups else (r, [tail]) :: (r', tails) :: groups
    | [] => [(r, [tail])]

/-! ## Laws -/

/-- A sequence has one range for the first octet and one for each octet behind it. -/
theorem length_of_mem_octetRanges (k offset lo hi : Nat) :
    ∀ seq ∈ octetRanges k offset lo hi, seq.length = k + 1 := by
  induction k generalizing offset lo hi with
  | zero => simp [octetRanges]
  | succ k ih =>
    have under (n lo hi : Nat) :
        ∀ seq ∈ (octetRanges k 0x80 lo hi).map ((offset + n, offset + n) :: ·),
          seq.length = k + 1 + 1 := by
      intro seq h
      obtain ⟨tail, ht, rfl⟩ := List.mem_map.1 h
      simp [ih 0x80 lo hi tail ht]
    intro seq h
    simp only [octetRanges] at h
    split at h
    · exact under _ _ _ seq h
    · rcases List.mem_append.1 h with h | h
      · rcases List.mem_append.1 h with h | h
        · split at h
          · cases h
          · exact under _ _ _ seq h
        · rw [List.mem_ite_nil_right] at h
          rw [List.mem_singleton.1 h.2]
          simp
      · split at h
        · cases h
        · exact under _ _ _ seq h

/-- A letter with an accent has two octets. -/
example : octetsOf 0xE9 = [0xC3, 0xA9] := by decide +kernel

/-- All characters of two octets make up one sequence. -/
example : octetSequencesOf 0x80 0x7FF = [[(0xC2, 0xDF), (0x80, 0xBF)]] := by decide +kernel

end Pattern
end Tariff
