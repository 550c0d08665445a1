/-!
# Sets of characters

A set of code points is kept as closed ranges, ascending and apart.  Surrogates are no
characters, and no range begins or ends with one.  A range may run over them.

Main results:

- Theorem {lit}`CharSet.contains_insert`: inserting a range adds exactly its code
  points.
- Theorem {lit}`CharSet.contains_compl`: the complement holds exactly the
  characters that the set does not hold.
- Theorem {lit}`CharSet.contains_inter`: the intersection holds exactly the
  characters of both sets.
-/

namespace Tariff

/-- A set of code points, as closed ranges. -/
structure CharSet where
  ranges : List (Nat × Nat)
deriving DecidableEq, Repr

namespace CharSet

/-- The greatest code point. -/
def maxCode : Nat := 0x10FFFF

/-- The code point lies in one of the ranges. -/
def covers (rs : List (Nat × Nat)) (n : Nat) : Bool :=
  rs.any fun r => decide (r.1 ≤ n) && decide (n ≤ r.2)

/-- The character belongs to the set. -/
def contains (s : CharSet) (c : Char) : Bool :=
  covers s.ranges c.toNat

/-- The set without characters. -/
def empty : CharSet := ⟨[]⟩

/-- The set of all characters. -/
def univ : CharSet := ⟨[(0, maxCode)]⟩

/-- The characters from {lit}`lo` to {lit}`hi`. -/
def range (lo hi : Char) : CharSet :=
  if lo.toNat ≤ hi.toNat then ⟨[(lo.toNat, hi.toNat)]⟩ else empty

/-- The set of one character. -/
def singleton (c : Char) : CharSet := ⟨[(c.toNat, c.toNat)]⟩

/-! ## Ranges -/

/-- Puts the range from {lit}`lo` to {lit}`hi` in its place and joins it with the
ranges that it meets or touches. -/
def insertRange (lo hi : Nat) : List (Nat × Nat) → List (Nat × Nat)
  | [] => [(lo, hi)]
  | (a, b) :: rest =>
    if hi + 1 < a then (lo, hi) :: (a, b) :: rest
    else if b + 1 < lo then (a, b) :: insertRange lo hi rest
    else insertRange (min lo a) (max hi b) rest

/-- The gaps between the ranges from {lit}`next` on, up to the greatest code point. -/
def gapsFrom (next : Nat) : List (Nat × Nat) → List (Nat × Nat)
  | [] => if next ≤ maxCode then [(next, maxCode)] else []
  | (a, b) :: rest =>
    if next < a then (next, a - 1) :: gapsFrom (b + 1) rest
    else gapsFrom (max next (b + 1)) rest

/-- No range runs backwards. -/
def Forward (rs : List (Nat × Nat)) : Prop :=
  ∀ r ∈ rs, r.1 ≤ r.2

/-- The set with the code points from {lit}`lo` to {lit}`hi` added. -/
def insert (s : CharSet) (lo hi : Nat) : CharSet :=
  ⟨insertRange lo hi s.ranges⟩

/-- The set of the code points of some ranges, in whatever order they come. -/
def ofRanges (rs : List (Nat × Nat)) : CharSet :=
  rs.foldr (fun r s => s.insert r.1 r.2) empty

/-- The characters of either set. -/
def union (s t : CharSet) : CharSet :=
  s.ranges.foldr (fun r u => u.insert r.1 r.2) t

/-- The first code point from {lit}`n` on that is no surrogate. -/
def skipUp (n : Nat) : Nat :=
  if 0xD800 ≤ n ∧ n ≤ 0xDFFF then 0xE000 else n

/-- The last code point up to {lit}`n` that is no surrogate. -/
def skipDown (n : Nat) : Nat :=
  if 0xD800 ≤ n ∧ n ≤ 0xDFFF then 0xD7FF else n

/-- The ranges without surrogates at their ends. -/
def trim (rs : List (Nat × Nat)) : List (Nat × Nat) :=
  rs.filterMap fun r =>
    if skipUp r.1 ≤ skipDown r.2 then some (skipUp r.1, skipDown r.2) else none

/-- The characters that are not in the set. -/
def compl (s : CharSet) : CharSet :=
  ⟨trim (gapsFrom 0 s.ranges)⟩

/-- One range ends in front of the surrogates and another begins behind them. -/
def meets (s : CharSet) : Bool :=
  s.ranges.any (·.2 == 0xD7FF) && s.ranges.any (·.1 == 0xE000)

/-- The negated set: from each range to the next, the characters between.  Where two
ranges meet at the surrogates there are none between, and it is the two characters
there. -/
def negate (s : CharSet) : CharSet :=
  if s.meets then s.compl.insert 0xD7FF 0xE000 else s.compl

/-- The part of a range that lies in the ranges given. -/
def clip (lo hi : Nat) (rs : List (Nat × Nat)) : List (Nat × Nat) :=
  rs.filterMap fun r =>
    if max lo r.1 ≤ min hi r.2 then some (max lo r.1, min hi r.2) else none

/-- The characters of both sets. -/
def inter (s t : CharSet) : CharSet :=
  ⟨s.ranges.flatMap fun r => clip r.1 r.2 t.ranges⟩

/-- The characters of the first set that are not in the second. -/
def diff (s t : CharSet) : CharSet :=
  s.inter t.compl

/-- The characters of one of the sets and not of both. -/
def symmDiff (s t : CharSet) : CharSet :=
  (s.union t).diff (s.inter t)

/-- The set holds ASCII characters only. -/
def isAscii (s : CharSet) : Bool :=
  s.ranges.all fun r => decide (r.2 ≤ 0x7F)

/-! ## What the operations hold -/

theorem covers_cons (a b n : Nat) (rs : List (Nat × Nat)) :
    covers ((a, b) :: rs) n = ((decide (a ≤ n) && decide (n ≤ b)) || covers rs n) := rfl

/-- A range that is inserted is covered beside what was covered before. -/
theorem covers_insertRange (n : Nat) (rs : List (Nat × Nat)) (hrs : Forward rs) :
    ∀ lo hi, lo ≤ hi →
      covers (insertRange lo hi rs) n = ((decide (lo ≤ n) && decide (n ≤ hi)) || covers rs n) := by
  induction rs with
  | nil => intro lo hi _; rfl
  | cons r rest ih =>
    obtain ⟨a, b⟩ := r
    intro lo hi hlo
    have hab : a ≤ b := hrs (a, b) List.mem_cons_self
    have hrest : Forward rest := fun s hs => hrs s (List.mem_cons_of_mem _ hs)
    unfold insertRange
    split
    · rfl
    · split
      · rw [covers_cons, covers_cons, ih hrest lo hi hlo, Bool.or_left_comm]
      · rw [ih hrest (min lo a) (max hi b) (by omega), covers_cons, ← Bool.or_assoc]
        congr 1
        rw [Bool.eq_iff_iff]
        simp only [Bool.or_eq_true, Bool.and_eq_true, decide_eq_true_eq]
        omega

/-- Inserting a range adds its code points and nothing else. -/
theorem contains_insert (s : CharSet) (hs : Forward s.ranges) (lo hi : Nat) (h : lo ≤ hi)
    (c : Char) :
    (s.insert lo hi).contains c =
      ((decide (lo ≤ c.toNat) && decide (c.toNat ≤ hi)) || s.contains c) :=
  covers_insertRange c.toNat s.ranges hs lo hi h

/-- The ranges ascend from {lit}`next` on and do not meet. -/
def Ascending : Nat → List (Nat × Nat) → Prop
  | _, [] => True
  | next, (a, b) :: rest => next ≤ a ∧ a ≤ b ∧ Ascending (b + 1) rest

theorem covers_eq_false_of_lt {n next : Nat} (rs : List (Nat × Nat)) (h : Ascending next rs)
    (hn : n < next) : covers rs n = false := by
  induction rs generalizing next with
  | nil => rfl
  | cons r rest ih =>
    obtain ⟨a, b⟩ := r
    obtain ⟨h₁, h₂, h₃⟩ := h
    rw [covers_cons, ih h₃ (by omega)]
    simp only [Bool.or_false, Bool.and_eq_false_iff, decide_eq_false_iff_not]
    omega

/-- The gaps cover what is not covered. -/
theorem covers_gapsFrom {n next : Nat} (rs : List (Nat × Nat)) (h : Ascending next rs)
    (hlo : next ≤ n) (hhi : n ≤ maxCode) : covers (gapsFrom next rs) n = !covers rs n := by
  induction rs generalizing next with
  | nil =>
    unfold gapsFrom
    rw [if_pos (by omega)]
    simp [covers, hlo, hhi]
  | cons r rest ih =>
    obtain ⟨a, b⟩ := r
    obtain ⟨h₁, h₂, h₃⟩ := h
    have hgap : ∀ m, m ≤ b → covers (gapsFrom (b + 1) rest) m = false := by
      intro m hm
      have hasc : ∀ (next : Nat) (rs : List (Nat × Nat)), Ascending next rs →
          m < next → covers (gapsFrom next rs) m = false := by
        intro next rs
        induction rs generalizing next with
        | nil =>
          intro _ hlt
          unfold gapsFrom
          split
          · simp only [covers, List.any_cons, List.any_nil, Bool.or_false,
              Bool.and_eq_false_iff, decide_eq_false_iff_not]
            omega
          · rfl
        | cons q qs ihq =>
          obtain ⟨x, y⟩ := q
          intro ⟨hx, hy, hq⟩ hlt
          unfold gapsFrom
          split
          · rw [covers_cons, ihq _ hq (by omega)]
            simp only [Bool.or_false, Bool.and_eq_false_iff, decide_eq_false_iff_not]
            omega
          · have hmax : max next (y + 1) = y + 1 := by omega
            rw [hmax]
            exact ihq _ hq (by omega)
      exact hasc (b + 1) rest h₃ (by omega)
    by_cases hnb : n ≤ b
    · have hrest : covers rest n = false := covers_eq_false_of_lt rest h₃ (by omega)
      unfold gapsFrom
      split
      · rw [covers_cons, covers_cons, hgap n hnb, hrest]
        rw [Bool.eq_iff_iff]
        simp only [Bool.or_false, Bool.and_eq_true, decide_eq_true_eq, Bool.not_eq_true',
          Bool.and_eq_false_iff, decide_eq_false_iff_not]
        omega
      · have hmax : max next (b + 1) = b + 1 := by omega
        rw [covers_cons, hmax, hgap n hnb, hrest]
        symm
        simp only [Bool.or_false, Bool.not_eq_false', Bool.and_eq_true, decide_eq_true_eq]
        omega
    · have hstep := ih h₃ (by omega : b + 1 ≤ n)
      unfold gapsFrom
      split
      · rw [covers_cons, covers_cons, hstep]
        have h₁ : (decide (next ≤ n) && decide (n ≤ a - 1)) = false := by
          simp only [Bool.and_eq_false_iff, decide_eq_false_iff_not]; omega
        have h₂ : (decide (a ≤ n) && decide (n ≤ b)) = false := by
          simp only [Bool.and_eq_false_iff, decide_eq_false_iff_not]; omega
        rw [h₁, h₂, Bool.false_or, Bool.false_or]
      · have hmax : max next (b + 1) = b + 1 := by omega
        have h₂ : (decide (a ≤ n) && decide (n ≤ b)) = false := by
          simp only [Bool.and_eq_false_iff, decide_eq_false_iff_not]; omega
        rw [hmax, hstep, covers_cons, h₂, Bool.false_or]

theorem toNat_le_maxCode (c : Char) : c.toNat ≤ maxCode := by
  have h := c.valid
  have e : c.val.toNat = c.toNat := rfl
  simp only [UInt32.isValidChar, Nat.isValidChar] at h
  simp only [maxCode]
  omega

/-- Without the surrogates, the same characters are covered. -/
theorem covers_trim {n : Nat} (hn : n < 0xD800 ∨ 0xDFFF < n) (rs : List (Nat × Nat)) :
    covers (trim rs) n = covers rs n := by
  rw [Bool.eq_iff_iff]
  simp only [covers, trim, List.any_eq_true, List.mem_filterMap, Bool.and_eq_true,
    decide_eq_true_eq]
  constructor
  · rintro ⟨q, ⟨r, hr, hq⟩, h₁, h₂⟩
    split at hq
    · cases hq
      simp only [skipUp, skipDown] at h₁ h₂
      refine ⟨r, hr, ?_, ?_⟩ <;> split at h₁ <;> split at h₂ <;> omega
    · cases hq
  · rintro ⟨r, hr, h₁, h₂⟩
    have h₃ : skipUp r.1 ≤ n := by unfold skipUp; split <;> omega
    have h₄ : n ≤ skipDown r.2 := by unfold skipDown; split <;> omega
    exact ⟨(skipUp r.1, skipDown r.2), ⟨r, hr, if_pos (Nat.le_trans h₃ h₄)⟩, h₃, h₄⟩

theorem not_surrogate (c : Char) : c.toNat < 0xD800 ∨ 0xDFFF < c.toNat := by
  have h := c.valid
  have e : c.val.toNat = c.toNat := rfl
  simp only [UInt32.isValidChar, Nat.isValidChar] at h
  omega

/-- The complement holds the characters that the set does not hold. -/
theorem contains_compl (s : CharSet) (hs : Ascending 0 s.ranges) (c : Char) :
    s.compl.contains c = !s.contains c :=
  (covers_trim (not_surrogate c) _).trans
    (covers_gapsFrom s.ranges hs (Nat.zero_le _) (toNat_le_maxCode c))

/-- Negation is the complement where no ranges meet at the surrogates. -/
theorem negate_eq_compl (s : CharSet) (h : s.meets = false) : s.negate = s.compl := by
  simp [negate, h]

/-- What is clipped to a range is covered within the range. -/
theorem covers_clip (n lo hi : Nat) (rs : List (Nat × Nat)) :
    covers (clip lo hi rs) n = ((decide (lo ≤ n) && decide (n ≤ hi)) && covers rs n) := by
  rw [Bool.eq_iff_iff]
  simp only [covers, clip, List.any_eq_true, List.mem_filterMap, Bool.and_eq_true,
    decide_eq_true_eq]
  constructor
  · rintro ⟨q, ⟨r, hr, hq⟩, h₁, h₂⟩
    split at hq
    · cases hq
      exact ⟨⟨by omega, by omega⟩, r, hr, by omega, by omega⟩
    · cases hq
  · rintro ⟨⟨h₁, h₂⟩, r, hr, h₃, h₄⟩
    refine ⟨(max lo r.1, min hi r.2), ⟨r, hr, ?_⟩, by omega, by omega⟩
    rw [if_pos (by omega)]

theorem covers_append (n : Nat) (rs qs : List (Nat × Nat)) :
    covers (rs ++ qs) n = (covers rs n || covers qs n) := by
  simp [covers, List.any_append]

/-- The intersection holds the characters of both sets. -/
theorem contains_inter (s t : CharSet) (c : Char) :
    (s.inter t).contains c = (s.contains c && t.contains c) := by
  obtain ⟨rs⟩ := s
  simp only [inter, contains]
  induction rs with
  | nil => rfl
  | cons r rest ih =>
    rw [List.flatMap_cons, covers_append, ih, covers_clip]
    rw [show r = (r.1, r.2) from rfl, covers_cons, Bool.and_or_distrib_right]

end CharSet
end Tariff
