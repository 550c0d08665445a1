import Mathlib.Data.Nat.Bitwise
import Tariff.Pattern.Regex

/-!
# What an expression matches

Which parts of a text an expression matches, told from its parts.  The search keeps the places it
has come to as the bits of a number, and cuts repetitions short where they could only stand still.
It finds a match if there is one.

Main results:

- Theorem {lit}`Regex.Spans.progress`: a match does not go back, and ends in the text.
- Theorem {lit}`Regex.testBit_ends`: the bits that the search leaves are the places where a match
  ends.
- Theorem {lit}`Regex.isMatch_iff`: the search succeeds if some part of the text is matched.
- Theorem {lit}`Regex.isMatch_framed_iff`: between the conditions for the two ends of a text the
  whole text is matched.
-/

namespace Tariff
namespace Regex

/-! ## The relation -/

/-- The character before a place. -/
def before (text : List Char) : Nat → Option Char
  | 0 => none
  | i + 1 => text[i]?

/-- The leaf matches from a place to another. -/
def Leaf.Takes (text : List Char) : Leaf → Nat → Nat → Prop
  | set s, i, j => j = i + 1 ∧ ∃ c, text[i]? = some c ∧ s.contains c = true
  | look l, i, j => j = i ∧ i ≤ text.length ∧ l.holds (before text i) text[i]? = true

/-- A number of rounds, each from where the one before it ends. -/
def Rounds (R : Nat → Nat → Prop) : Nat → Nat → Nat → Prop
  | 0, i, j => i = j
  | n + 1, i, j => ∃ k, R i k ∧ Rounds R n k j

/-- The expression matches the part of a text from a place to another.  A repetition whose bounds
are the wrong way round is made as often as the first one says. -/
def Spans (text : List Char) : Regex Leaf → Nat → Nat → Prop
  | empty, i, j => i = j
  | leaf a, i, j => a.Takes text i j
  | cat r s, i, j => ∃ k, Spans text r i k ∧ Spans text s k j
  | alt r s, i, j => Spans text r i j ∨ Spans text s i j
  | loop r least most _, i, j =>
    ∃ n, least ≤ n ∧ (∀ m ∈ most, n ≤ max least m) ∧ Rounds (Spans text r) n i j
  | group _ r, i, j => Spans text r i j

/-! ## Rounds -/

section Rounds

variable {R : Nat → Nat → Prop}

/-- A number of rounds can be made in two parts. -/
theorem rounds_add (a b i j : Nat) :
    Rounds R (a + b) i j ↔ ∃ k, Rounds R a i k ∧ Rounds R b k j := by
  induction a generalizing i with
  | zero => simp [Rounds]
  | succ a ih =>
    rw [Nat.add_right_comm]
    simp only [Rounds, ih]
    constructor
    · rintro ⟨k, hk, l, hl, hj⟩
      exact ⟨l, ⟨k, hk, hl⟩, hj⟩
    · rintro ⟨l, ⟨k, hk, hl⟩, hj⟩
      exact ⟨k, hk, l, hl, hj⟩

/-- A place that stays where it is stays there for any number of rounds. -/
theorem rounds_stay {k : Nat} (h : R k k) (n : Nat) : Rounds R n k k := by
  induction n with
  | zero => rfl
  | succ n ih => exact ⟨k, h, ih⟩

/-- Each round stands still or goes on, up to a last place at most. -/
def Progresses (last : Nat) (R : Nat → Nat → Prop) : Prop :=
  ∀ i j, R i j → i = j ∨ i < j ∧ j ≤ last

variable {last : Nat}

/-- Any number of rounds moves forward, and not beyond the end. -/
theorem Progresses.rounds (h : Progresses last R) (n : Nat) : Progresses last (Rounds R n) := by
  induction n with
  | zero => exact fun i j hij => .inl hij
  | succ n ih =>
    rintro i j ⟨k, hik, hkj⟩
    have := h i k hik
    have := ih k j hkj
    omega

/-- Rounds that outnumber the places between their ends stand still once. -/
theorem Progresses.exists_still (h : Progresses last R) {n i j : Nat} (hij : Rounds R n i j) :
    n ≤ j - i ∨ ∃ a b k, a + b ≤ j - i ∧ Rounds R a i k ∧ R k k ∧ Rounds R b k j := by
  induction n generalizing i with
  | zero => exact .inl (Nat.zero_le _)
  | succ n ih =>
    obtain ⟨k, hik, hkj⟩ := hij
    rcases h i k hik with rfl | ⟨hlt, -⟩
    · rcases ih hkj with hn | hstill
      · exact .inr ⟨0, n, i, by omega, rfl, hik, hkj⟩
      · exact .inr hstill
    · have hle := h.rounds n k j hkj
      rcases ih hkj with hn | ⟨a, b, l, hab, hkl, hl, hlj⟩
      · exact .inl (by omega)
      · exact .inr ⟨a + 1, b, l, by omega, ⟨k, hik, hkl⟩, hl, hlj⟩

/-- More rounds than there are places can be made in any number that is not less than the last
place. -/
theorem Progresses.rounds_of_lt (h : Progresses last R) {n n' i j : Nat}
    (hij : Rounds R n i j) (hn : last < n) (hn' : last ≤ n') : Rounds R n' i j := by
  have hle := h.rounds n i j hij
  rcases h.exists_still hij with hshort | ⟨a, b, k, hab, hik, hk, hkj⟩
  · omega
  · have hsplit : n' = a + ((n' - a - b) + b) := by omega
    rw [hsplit, rounds_add]
    refine ⟨k, hik, ?_⟩
    rw [rounds_add]
    exact ⟨k, rounds_stay hk _, hkj⟩

end Rounds

/-- A match does not go back, and one that takes a character ends in the text. -/
theorem Spans.progress (text : List Char) (r : Regex Leaf) :
    Progresses text.length (Spans text r) := by
  induction r with
  | empty => exact fun i j h => .inl h
  | leaf a =>
    intro i j h
    cases a with
    | set s =>
      obtain ⟨rfl, c, hc, -⟩ := h
      have := (List.getElem?_eq_some_iff.1 hc).1
      omega
    | look l => exact .inl h.1.symm
  | cat r s ihr ihs =>
    rintro i j ⟨k, hr, hs⟩
    have := ihr i k hr
    have := ihs k j hs
    omega
  | alt r s ihr ihs => exact fun i j h => h.elim (ihr i j) (ihs i j)
  | loop r least most greedy ih =>
    rintro i j ⟨n, -, -, hn⟩
    exact ih.rounds n i j hn
  | group capturing r ih => exact ih

/-! ## The search -/

/-- A step goes from a set of places to those that a relation leads to. -/
def Follows (step : Nat → Nat) (R : Nat → Nat → Prop) : Prop :=
  ∀ m j, (step m).testBit j = true ↔ ∃ i, m.testBit i = true ∧ R i j

theorem testBit_placesOf {α : Type} (test : α → Bool) (as : List α) (i : Nat) :
    (placesOf test as).testBit i = true ↔ ∃ a, as[i]? = some a ∧ test a = true := by
  induction as generalizing i with
  | nil => simp [placesOf]
  | cons a as ih =>
    have hbit : placesOf test (a :: as) = Nat.bit (test a) (placesOf test as) := by
      rw [placesOf, Nat.bit_val]
    rw [hbit]
    cases i with
    | zero => simp
    | succ i => simpa [Nat.testBit_bit_succ] using ih i

theorem getElem?_neighbours (first : Option Char) (cs : List Char) (i : Nat) :
    (neighbours first cs)[i]? =
      if i ≤ cs.length then some (if i = 0 then first else before cs i, cs[i]?) else none := by
  induction cs generalizing first i with
  | nil => cases i <;> simp [neighbours]
  | cons c cs ih =>
    cases i with
    | zero => simp [neighbours]
    | succ i =>
      simp only [neighbours, List.getElem?_cons_succ, ih, List.length_cons,
        Nat.add_le_add_iff_right]
      cases i <;> simp [before]

/-- A leaf moves the places of a text to those that it takes them to. -/
theorem Leaf.move_follows (text : List Char) (a : Leaf) :
    Follows (a.move text).apply (a.Takes text) := by
  intro m j
  cases a with
  | set s =>
    simp only [Leaf.move, Move.apply, Nat.testBit_shiftLeft, Nat.testBit_and, Bool.and_eq_true,
      decide_eq_true_eq, testBit_placesOf, Leaf.Takes]
    constructor
    · rintro ⟨hj, hm, hc⟩
      exact ⟨j - 1, hm, by omega, hc⟩
    · rintro ⟨i, hm, rfl, hc⟩
      exact ⟨by omega, hm, hc⟩
  | look l =>
    simp only [Leaf.move, Move.apply, Nat.testBit_and, Bool.and_eq_true, testBit_placesOf,
      getElem?_neighbours, Leaf.Takes]
    have hbefore : (if j = 0 then none else before text j) = before text j := by
      cases j <;> simp [before]
    rw [hbefore]
    constructor
    · rintro ⟨hm, p, hp, hl⟩
      obtain ⟨hj, hp⟩ := Option.ite_none_right_eq_some.1 hp
      cases hp
      exact ⟨j, hm, rfl, hj, hl⟩
    · rintro ⟨i, hm, rfl, hj, hl⟩
      exact ⟨hm, _, if_pos hj, hl⟩

/-- Steps that follow a relation follow its rounds, as many as there are steps. -/
theorem iterate_follows {step : Nat → Nat} {R : Nat → Nat → Prop} (h : Follows step R) (n : Nat) :
    Follows (iterate step n) (Rounds R n) := by
  induction n with
  | zero => simp [Follows, iterate, Rounds]
  | succ n ih =>
    intro m j
    rw [iterate, ih (step m) j]
    simp only [h m, Rounds]
    constructor
    · rintro ⟨k, ⟨i, hm, hik⟩, hkj⟩
      exact ⟨i, hm, k, hik, hkj⟩
    · rintro ⟨i, hm, k, hik, hkj⟩
      exact ⟨k, ⟨i, hm, hik⟩, hkj⟩

/-- A set of places that a step adds nothing to is not left in any number of rounds. -/
theorem testBit_of_rounds {step : Nat → Nat} {R : Nat → Nat → Prop} (h : Follows step R) {m : Nat}
    (hm : m ||| step m = m) {n i j : Nat} (hi : m.testBit i = true) (hij : Rounds R n i j) :
    m.testBit j = true := by
  induction n generalizing i with
  | zero => exact hij ▸ hi
  | succ n ih =>
    obtain ⟨k, hik, hkj⟩ := hij
    refine ih ?_ hkj
    have hk : (step m).testBit k = true := (h m k).2 ⟨i, hi, hik⟩
    rw [← hm, Nat.testBit_or, hk, Bool.or_true]

/-- Any number of steps up to a bound follows that many rounds at the most. -/
theorem upTo_follows {step : Nat → Nat} {R : Nat → Nat → Prop} (h : Follows step R) (n : Nat) :
    Follows (upTo step n) fun i j => ∃ k ≤ n, Rounds R k i j := by
  induction n with
  | zero => simp [Follows, upTo, Rounds]
  | succ n ih =>
    intro m j
    rw [upTo]
    simp only
    split
    · rename_i hm
      constructor
      · exact fun hj => ⟨j, hj, 0, Nat.zero_le _, rfl⟩
      · rintro ⟨i, hi, k, -, hij⟩
        exact testBit_of_rounds h hm hi hij
    · rw [ih]
      simp only [Nat.testBit_or, Bool.or_eq_true, h m]
      constructor
      · rintro ⟨i, hi | ⟨l, hl, hli⟩, k, hk, hij⟩
        · exact ⟨i, hi, k, by omega, hij⟩
        · exact ⟨l, hl, k + 1, by omega, i, hli, hij⟩
      · rintro ⟨i, hi, k, hk, hij⟩
        cases k with
        | zero => exact ⟨i, .inl hi, 0, Nat.zero_le _, hij⟩
        | succ k =>
          obtain ⟨l, hil, hlj⟩ := hij
          exact ⟨l, .inr ⟨i, hi, hil⟩, k, by omega, hlj⟩

/-- Rounds that are cut short where they could only stand still lead to the same places. -/
theorem exists_rounds_cut_iff {R : Nat → Nat → Prop} {last : Nat} (h : Progresses last R)
    (least : Nat) (most : Option Nat) (i j : Nat) :
    (∃ k ≤ (match most with
        | none => last + 1
        | some n => min (n - least) (last + 1)), Rounds R (min least (last + 1) + k) i j) ↔
      ∃ n, least ≤ n ∧ (∀ m ∈ most, n ≤ max least m) ∧ Rounds R n i j := by
  constructor
  · rintro ⟨k, hk, hij⟩
    by_cases hleast : least ≤ last + 1
    · rw [Nat.min_eq_left hleast] at hij
      refine ⟨least + k, by omega, ?_, hij⟩
      rintro m ⟨⟩
      simp only at hk
      omega
    · refine ⟨least, Nat.le_refl _, fun m _ => Nat.le_max_left _ _, ?_⟩
      exact h.rounds_of_lt hij (by omega) (by omega)
  · rintro ⟨n, hn, hmost, hij⟩
    cases most with
    | none =>
      simp only
      by_cases hshort : n ≤ min least (last + 1) + (last + 1)
      · refine ⟨n - min least (last + 1), by omega, ?_⟩
        have hsum : min least (last + 1) + (n - min least (last + 1)) = n := by omega
        rwa [hsum]
      · exact ⟨last + 1, Nat.le_refl _, h.rounds_of_lt hij (by omega) (by omega)⟩
    | some m =>
      have hm := hmost m rfl
      simp only
      by_cases hshort : n ≤ min least (last + 1) + min (m - least) (last + 1)
      · refine ⟨n - min least (last + 1), by omega, ?_⟩
        have hsum : min least (last + 1) + (n - min least (last + 1)) = n := by omega
        rwa [hsum]
      · exact ⟨_, Nat.le_refl _, h.rounds_of_lt hij (by omega) (by omega)⟩

/-- The bits that a search through a text leaves are the places where a match ends that begins at
one of the places it set out from. -/
theorem testBit_ends (text : List Char) (r : Regex Leaf) :
    Follows ((r.map (Leaf.move text)).ends (text.length + 1)) (Spans text r) := by
  induction r with
  | empty => simp [Follows, map, ends, Spans]
  | leaf a => exact a.move_follows text
  | cat r s ihr ihs =>
    intro m j
    simp only [map, ends_cat, ihs _ j, ihr m, Spans]
    constructor
    · rintro ⟨k, ⟨i, hm, hik⟩, hkj⟩
      exact ⟨i, hm, k, hik, hkj⟩
    · rintro ⟨i, hm, k, hik, hkj⟩
      exact ⟨k, ⟨i, hm, hik⟩, hkj⟩
  | alt r s ihr ihs =>
    intro m j
    simp only [map, ends_alt, Nat.testBit_or, Bool.or_eq_true, ihr m j, ihs m j, Spans]
    constructor
    · rintro (⟨i, hm, hij⟩ | ⟨i, hm, hij⟩)
      · exact ⟨i, hm, .inl hij⟩
      · exact ⟨i, hm, .inr hij⟩
    · rintro ⟨i, hm, hij | hij⟩
      · exact .inl ⟨i, hm, hij⟩
      · exact .inr ⟨i, hm, hij⟩
  | loop r least most greedy ih =>
    intro m j
    have hfirst := iterate_follows ih (min least (text.length + 1))
    simp only [map, ends, Spans, ← exists_rounds_cut_iff (Spans.progress text r)]
    rw [upTo_follows ih]
    simp only [hfirst m, rounds_add]
    constructor
    · rintro ⟨l, ⟨i, hm, hil⟩, k, hk, hlj⟩
      exact ⟨i, hm, k, hk, l, hil, hlj⟩
    · rintro ⟨i, hm, k, hk, l, hil, hlj⟩
      exact ⟨l, ⟨i, hm, hil⟩, k, hk, hlj⟩
  | group capturing r ih => exact ih

/-- The search succeeds if some part of the text is matched. -/
theorem isMatch_iff (r : Regex Leaf) (text : List Char) :
    r.isMatch text = true ↔ ∃ i j, i ≤ text.length ∧ Spans text r i j := by
  have hall : ∀ i, (Nat.pow 2 (text.length + 1) - 1).testBit i = true ↔ i ≤ text.length := by
    intro i
    rw [show Nat.pow 2 (text.length + 1) = 2 ^ (text.length + 1) from rfl,
      Nat.testBit_two_pow_sub_one, decide_eq_true_eq, Nat.lt_succ_iff]
  have hsome : ∀ m : Nat, m ≠ 0 ↔ ∃ j, m.testBit j = true := by
    intro m
    constructor
    · exact fun h => Nat.exists_testBit_of_ne_zero h
    · rintro ⟨j, hj⟩ rfl
      simp at hj
  simp only [isMatch, bne_iff_ne, hsome, testBit_ends text r _ _, hall]
  constructor
  · rintro ⟨j, i, hi, hij⟩
    exact ⟨i, j, hi, hij⟩
  · rintro ⟨i, j, hi, hij⟩
    exact ⟨j, i, hi, hij⟩

theorem takes_textStart_iff (text : List Char) (i j : Nat) :
    Leaf.Takes text (.look .textStart) i j ↔ i = 0 ∧ j = 0 := by
  cases i with
  | zero => simp [Leaf.Takes, before, Look.holds]
  | succ i =>
    simp only [Leaf.Takes, before, Look.holds, Option.isNone_iff_eq_none,
      List.getElem?_eq_none_iff]
    omega

theorem takes_textEnd_iff (text : List Char) (i j : Nat) :
    Leaf.Takes text (.look .textEnd) i j ↔ i = text.length ∧ j = text.length := by
  simp only [Leaf.Takes, Look.holds, Option.isNone_iff_eq_none, List.getElem?_eq_none_iff]
  omega

/-- Between the conditions for the two ends of a text an expression has to match all of it. -/
theorem isMatch_framed_iff (r : Regex Leaf) (text : List Char) :
    isMatch (.cat (.leaf (.look .textStart))
        (.cat (.group false r) (.leaf (.look .textEnd)))) text = true ↔
      Spans text r 0 text.length := by
  simp only [isMatch_iff, Spans, takes_textStart_iff, takes_textEnd_iff]
  constructor
  · rintro ⟨i, j, -, k, ⟨rfl, rfl⟩, l, hr, rfl, rfl⟩
    exact hr
  · exact fun hr => ⟨0, _, Nat.zero_le _, 0, ⟨rfl, rfl⟩, _, hr, rfl, rfl⟩

end Regex
end Tariff
