import Mathlib.Data.List.Basic

/-!
# Rearranged lists

Some things may trade places when they stand next to each other, and others may not.  Each
thing belongs to a cell, things of different cells are free to pass each other, and in some
cells, the loose ones, things are free among themselves.  Two lists of the same things in
which each cell that is not loose has its things in the same order differ by such exchanges
alone.

Main results:

- Theorem {lit}`Rearranged.middle`: a thing that is free to pass all before it can come to the
  front.
- Theorem {lit}`Rearranged.of_perm`: lists of the same things, with the same order in each
  cell that is not loose, are rearranged into each other.
-/

namespace Tariff

variable {α κ : Type}

/-- The second list comes from the first one by exchanging neighbours that are free to trade
places. -/
inductive Rearranged (free : α → α → Prop) : List α → List α → Prop
  | refl (as : List α) : Rearranged free as as
  | cons (a : α) {as bs : List α} :
      Rearranged free as bs → Rearranged free (a :: as) (a :: bs)
  | swap {a b : α} (as : List α) :
      free a b → Rearranged free (a :: b :: as) (b :: a :: as)
  | trans {as bs cs : List α} :
      Rearranged free as bs → Rearranged free bs cs → Rearranged free as cs

namespace Rearranged

variable {free : α → α → Prop}

/-- A thing that is free to pass all before it can come to the front. -/
theorem middle {a : α} {front : List α} (back : List α) (h : ∀ b ∈ front, free a b) :
    Rearranged free (a :: (front ++ back)) (front ++ a :: back) := by
  induction front with
  | nil => exact .refl _
  | cons b front ih =>
    obtain ⟨hb, hfront⟩ := List.forall_mem_cons.1 h
    exact (Rearranged.swap (front ++ back) hb).trans ((ih hfront).cons b)

/-- Things of different cells are free to trade places, and so are those of a loose cell. -/
def Free (cell : α → κ) (loose : κ → Prop) (a b : α) : Prop :=
  cell a ≠ cell b ∨ loose (cell a) ∧ loose (cell b)

variable [DecidableEq κ] {cell : α → κ} {loose : κ → Prop}

/-- The things of a cell, in order. -/
def ofCell (cell : α → κ) (c : κ) (as : List α) : List α :=
  as.filter fun a => decide (cell a = c)

/-- The first thing of one list stands in the other where it is free to pass all before it. -/
theorem exists_split {a : α} {as bs : List α} (hperm : (a :: as).Perm bs)
    (h : ¬ loose (cell a) → ofCell cell (cell a) (a :: as) = ofCell cell (cell a) bs) :
    ∃ front back, bs = front ++ a :: back ∧ ∀ b ∈ front, Free cell loose a b := by
  by_cases hloose : loose (cell a)
  · obtain ⟨front, back, hbs⟩ := List.append_of_mem (hperm.subset List.mem_cons_self)
    refine ⟨front, back, hbs, fun b _ => ?_⟩
    by_cases hcell : cell a = cell b
    · exact .inr ⟨hloose, hcell ▸ hloose⟩
    · exact .inl hcell
  · have hfirst := h hloose
    unfold ofCell at hfirst
    rw [List.filter_cons_of_pos (by simp)] at hfirst
    obtain ⟨front, back, hbs, hfront, _, _⟩ := List.filter_eq_cons_iff.1 hfirst.symm
    refine ⟨front, back, hbs, fun b hb => .inl fun hcell => ?_⟩
    exact hfront b hb (by simp [hcell])

/-- Lists of the same things, with the same order in each cell that is not loose, are
rearranged into each other. -/
theorem of_perm {as bs : List α} (hperm : as.Perm bs)
    (h : ∀ c, ¬ loose c → ofCell cell c as = ofCell cell c bs) :
    Rearranged (Free cell loose) as bs := by
  induction as generalizing bs with
  | nil =>
    rw [List.nil_perm.1 hperm]
    exact .refl []
  | cons a as ih =>
    obtain ⟨front, back, rfl, hfront⟩ := exists_split hperm (h (cell a))
    have hrest : as.Perm (front ++ back) :=
      List.Perm.cons_inv (hperm.trans List.perm_middle)
    have hcells : ∀ c, ¬ loose c → ofCell cell c as = ofCell cell c (front ++ back) := by
      intro c hc
      have hboth := h c hc
      unfold ofCell at hboth ⊢
      rw [List.filter_append] at hboth ⊢
      by_cases hac : cell a = c
      · have hnone : front.filter (fun b => decide (cell b = c)) = [] := by
          refine List.filter_eq_nil_iff.2 fun b hb hbc => ?_
          rcases hfront b hb with hne | ⟨hloose, _⟩
          · exact hne (hac.trans (of_decide_eq_true hbc).symm)
          · exact hc (hac ▸ hloose)
        rw [hnone, List.nil_append] at hboth ⊢
        rw [List.filter_cons_of_pos (by simpa using hac),
          List.filter_cons_of_pos (by simpa using hac)] at hboth
        exact List.tail_eq_of_cons_eq hboth
      · rw [List.filter_cons_of_neg (by simpa using hac),
          List.filter_cons_of_neg (by simpa using hac)] at hboth
        exact hboth
    exact ((ih hrest hcells).cons a).trans (middle back hfront)

end Rearranged
end Tariff
