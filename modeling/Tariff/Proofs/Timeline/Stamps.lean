import Tariff.Timeline

/-!
# Entries by stamp

Stamps tell the order in which entries were written.  Sorting by stamp recovers that
order from any list of entries, and with it the first and the last one written.

Main results:

- Theorem {lit}`Timeline.sortByStamp_eq_of_perm`: entries that stand in the order of
  their stamps are what sorting makes of them in any order.
- Theorems {lit}`Timeline.earliest_eq_head?` and {lit}`Timeline.latest_eq_getLast?`: the
  first and the last entry written are the ends of the sorted list.
-/

namespace Tariff
namespace Timeline

open scoped List

variable {α : Type}

/-- The entries stand in the order in which they were written. -/
def Chronological (es : List (Entry α)) : Prop :=
  es.Pairwise fun e f => e.stamp < f.stamp

/-- No two entries carry the same stamp. -/
def StampsDiffer (es : List (Entry α)) : Prop :=
  es.Pairwise fun e f => e.stamp ≠ f.stamp

/-- Putting an entry in its place by stamp loses and repeats nothing. -/
theorem insertByStamp_perm (e : Entry α) (es : List (Entry α)) :
    (insertByStamp e es).Perm (e :: es) := by
  induction es with
  | nil => exact List.Perm.refl _
  | cons f fs ih =>
    unfold insertByStamp
    split
    · exact List.Perm.refl _
    · exact (ih.cons f).trans (List.Perm.swap e f fs)

/-- Sorting loses no entry and adds none. -/
theorem sortByStamp_perm (es : List (Entry α)) : (sortByStamp es).Perm es := by
  induction es with
  | nil => exact List.Perm.refl _
  | cons e es ih => exact (insertByStamp_perm e (sortByStamp es)).trans (ih.cons e)

/-- The sorted entries are the same entries. -/
@[simp] theorem mem_sortByStamp {e : Entry α} {es : List (Entry α)} :
    e ∈ sortByStamp es ↔ e ∈ es :=
  (sortByStamp_perm es).mem_iff

/-- An entry with a stamp of its own is put in its place among entries in order. -/
theorem chronological_insertByStamp {e : Entry α} {es : List (Entry α)}
    (hes : Chronological es) (he : ∀ f ∈ es, e.stamp ≠ f.stamp) :
    Chronological (insertByStamp e es) := by
  induction es with
  | nil => exact List.pairwise_singleton _ e
  | cons f fs ih =>
    obtain ⟨hf, hfs⟩ := List.pairwise_cons.1 hes
    have hne : e.stamp ≠ f.stamp := he f List.mem_cons_self
    unfold insertByStamp
    split
    · rename_i hle
      refine List.pairwise_cons.2 ⟨?_, hes⟩
      intro g hg
      rcases List.mem_cons.1 hg with rfl | hg
      · omega
      · have := hf g hg
        omega
    · rename_i hgt
      refine List.pairwise_cons.2 ⟨?_, ih hfs fun g hg => he g (List.mem_cons_of_mem f hg)⟩
      intro g hg
      rcases List.mem_cons.1 ((insertByStamp_perm e fs).mem_iff.1 hg) with rfl | hg
      · omega
      · exact hf g hg

/-- Entries of different stamps come out in the order in which they were written. -/
theorem chronological_sortByStamp {es : List (Entry α)} (h : StampsDiffer es) :
    Chronological (sortByStamp es) := by
  induction es with
  | nil => exact List.Pairwise.nil
  | cons e es ih =>
    obtain ⟨he, hes⟩ := List.pairwise_cons.1 h
    exact chronological_insertByStamp (ih hes) fun f hf => he f (mem_sortByStamp.1 hf)

/-- Entries in the order of their stamps are what sorting makes of them in any order. -/
theorem sortByStamp_eq_of_perm {es fs : List (Entry α)} (hfs : Chronological fs)
    (h : fs.Perm es) : sortByStamp es = fs := by
  have hdiffer : StampsDiffer es :=
    h.pairwise (hfs.imp fun hlt => Nat.ne_of_lt hlt) fun hne => Ne.symm hne
  refine List.Perm.eq_of_pairwise ?_ (chronological_sortByStamp hdiffer) hfs
    ((sortByStamp_perm es).trans h.symm)
  intro e f _ _ hef hfe
  omega

/-- Sorting what is left of entries is leaving out from the sorted ones. -/
theorem sortByStamp_filter {es : List (Entry α)} (h : StampsDiffer es)
    (p : Entry α → Bool) : sortByStamp (es.filter p) = (sortByStamp es).filter p :=
  sortByStamp_eq_of_perm ((chronological_sortByStamp h).filter p)
    ((sortByStamp_perm es).filter p)

/-- An entry stamped later than all others comes out last, wherever it stood. -/
theorem sortByStamp_middle {front back : List (Entry α)} {e : Entry α}
    (h : StampsDiffer (front ++ back)) (he : ∀ f ∈ front ++ back, f.stamp < e.stamp) :
    sortByStamp (front ++ e :: back) = sortByStamp (front ++ back) ++ [e] := by
  apply sortByStamp_eq_of_perm
  · refine List.pairwise_append.2
      ⟨chronological_sortByStamp h, List.pairwise_singleton _ e, ?_⟩
    intro f hf g hg
    rw [List.mem_singleton.1 hg]
    exact he f (mem_sortByStamp.1 hf)
  · calc sortByStamp (front ++ back) ++ [e] ~ (front ++ back) ++ [e] :=
          (sortByStamp_perm _).append_right [e]
      _ ~ e :: (front ++ back) := List.perm_append_singleton e _
      _ ~ front ++ e :: back := List.perm_middle.symm

/-! ## The first and the last one written -/

/-- The earliest entry is the first one by stamp. -/
theorem earliest_eq_head? (es : List (Entry α)) : earliest es = (sortByStamp es).head? := by
  induction es with
  | nil => rfl
  | cons e es ih =>
    have hsort : sortByStamp (e :: es) = insertByStamp e (sortByStamp es) := rfl
    rw [hsort, earliest, ih]
    cases sortByStamp es with
    | nil => rfl
    | cons f fs =>
      simp only [List.head?_cons, insertByStamp]
      split <;> rfl

/-- The entry that is stamped last stays the last one, unless the new one is stamped later. -/
theorem getLast?_insertByStamp {e : Entry α} {es : List (Entry α)} (h : Chronological es) :
    (insertByStamp e es).getLast? =
      match es.getLast? with
      | some f => if f.stamp < e.stamp then some e else some f
      | none => some e := by
  induction es with
  | nil => rfl
  | cons f fs ih =>
    obtain ⟨hf, hfs⟩ := List.pairwise_cons.1 h
    have ih := ih hfs
    unfold insertByStamp
    cases hlast : fs.getLast? with
    | none =>
      have hnil : fs = [] := List.getLast?_eq_none_iff.1 hlast
      subst hnil
      by_cases hle : e.stamp ≤ f.stamp
      · have hnot : ¬ f.stamp < e.stamp := by omega
        simp [hle, hnot]
      · have hlt : f.stamp < e.stamp := by omega
        simp [hle, hlt, insertByStamp]
    | some g =>
      have hg : f.stamp < g.stamp := hf g (List.mem_of_getLast? hlast)
      rw [hlast] at ih
      by_cases hle : e.stamp ≤ f.stamp
      · have hnot : ¬ g.stamp < e.stamp := by omega
        simp [hle, hnot, List.getLast?_cons, hlast]
      · rw [if_neg hle, List.getLast?_cons, List.getLast?_cons, hlast, ih]
        by_cases hlt : g.stamp < e.stamp <;> simp [hlt]

/-- The latest entry is the last one by stamp. -/
theorem latest_eq_getLast? {es : List (Entry α)} (h : StampsDiffer es) :
    latest es = (sortByStamp es).getLast? := by
  induction es with
  | nil => rfl
  | cons e es ih =>
    obtain ⟨_, hes⟩ := List.pairwise_cons.1 h
    have hsort : sortByStamp (e :: es) = insertByStamp e (sortByStamp es) := rfl
    rw [hsort, getLast?_insertByStamp (chronological_sortByStamp hes)]
    cases hlast : (sortByStamp es).getLast? with
    | none => simp only [latest, ih hes, hlast]
    | some f => simp only [latest, ih hes, hlast]

end Timeline
end Tariff
