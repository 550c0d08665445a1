import Tariff.Proofs.Catalogue.WellFormed

/-!
# Sizes of catalogues

The numbers of keys and of entries are sums over all keys.  An entry changes the part of its
own key only, so that what adding it did tells how the sums have changed.

Main results:

- Theorem {lit}`Catalogue.Nested.rows_perm_others`: the rows are that of a key, if it has one,
  and those of the other keys.
- Theorem {lit}`Catalogue.WellFormed.sizes_add`: how the sizes change when an entry is added.
-/

namespace Tariff

variable {α : Type}

namespace Catalogue

variable {c d c' : Catalogue α} {k : Key}

/-- The rows of the other keys. -/
def others (c : Catalogue α) (k : Key) : List (Key × Timeline α) :=
  c.rows.filter fun r => decide (r.1 ≠ k)

/-- The other rows are those of the other keys. -/
theorem mem_others {r : Key × Timeline α} : r ∈ c.others k ↔ r ∈ c.rows ∧ r.1 ≠ k := by
  unfold others
  rw [List.mem_filter, decide_eq_true_eq]

namespace Nested

/-- The rows are that of a key, if it has one, and those of the other keys. -/
theorem rows_perm_others (h : c.Nested) (k : Key) :
    c.rows.Perm ((c.timeline? k).toList.map (fun l => (k, l)) ++ c.others k) := by
  have hothers : (c.others k).Nodup := h.nodup_rows.filter _
  cases htimeline : c.timeline? k with
  | none =>
    have hall : c.others k = c.rows := by
      refine List.filter_eq_self.2 ?_
      rintro ⟨j, l⟩ hrow
      refine decide_eq_true ?_
      rintro rfl
      rw [h.mem_rows, htimeline] at hrow
      cases hrow
    rw [hall]
    exact List.Perm.refl _
  | some l =>
    have hself : (k, l) ∉ c.others k := fun hmem => (mem_others.1 hmem).2 rfl
    refine (List.perm_ext_iff_of_nodup h.nodup_rows (List.nodup_cons.2 ⟨hself, hothers⟩)).2 ?_
    rintro ⟨j, m⟩
    rw [List.mem_cons, mem_others, h.mem_rows, Prod.mk.injEq]
    by_cases hj : j = k
    · subst hj
      simp [htimeline, eq_comm]
    · simp [hj]

/-- The other keys do not depend on the timeline of a key. -/
theorem others_perm (hc : c.Nested) (hd : d.Nested)
    (h : ∀ j, j ≠ k → c.timeline? j = d.timeline? j) : (c.others k).Perm (d.others k) := by
  refine (List.perm_ext_iff_of_nodup (hc.nodup_rows.filter _) (hd.nodup_rows.filter _)).2 ?_
  rintro ⟨j, l⟩
  rw [← others, ← others, mem_others, mem_others, hc.mem_rows, hd.mem_rows]
  refine and_congr_left ?_
  intro hj
  rw [h j hj]

/-- The keys are the one in question, if it has a timeline, and the others. -/
theorem keyCount_eq (h : c.Nested) (k : Key) :
    c.keyCount = (c.timeline? k).toList.length + (c.others k).length := by
  rw [keyCount_eq_length_rows, (h.rows_perm_others k).length_eq, List.length_append,
    List.length_map]

/-- The entries are those of the key in question and those of the others. -/
theorem entryCount_eq (h : c.Nested) (k : Key) :
    c.entryCount = ((c.timeline? k).toList.map Timeline.size).sum +
      ((c.others k).map fun r => r.2.size).sum := by
  rw [entryCount_eq_sum_rows, ((h.rows_perm_others k).map _).sum_nat, List.map_append,
    List.sum_append, List.map_map]
  rfl

end Nested

/-- An id is known only where there is a timeline. -/
theorem timeline?_of_knows {id : Nat} (h : (c.target k).knows id = true) :
    c.timeline? k = some (c.target k) := by
  cases htimeline : c.timeline? k with
  | some l => rw [target_of_eq_some htimeline]
  | none =>
    unfold Timeline.knows at h
    rw [target_of_eq_none htimeline, Mode.entries_fresh, List.any_nil, Bool.and_false] at h
    cases h

/-- What adding an entry did tells how the sizes have changed: one that was added is one more,
and one that made its key be dropped takes the key away.  Nothing else changes a size. -/
theorem WellFormed.sizes_add (h : c.WellFormed) {id : Nat} {span : Span} {value : α}
    {o : Outcome} (hadd : c.add k id span value = (c', .ok o)) :
    match o with
    | .added => c'.entryCount = c.entryCount + 1
    | .updated | .rejected | .skipped =>
      c'.keyCount = c.keyCount ∧ c'.entryCount = c.entryCount
    | .invalidated => c'.keyCount + 1 = c.keyCount := by
  have hnested := (h.add hadd).nested
  have hothers : (∀ j, j ≠ k → c'.timeline? j = c.timeline? j) →
      (c'.others k).Perm (c.others k) := hnested.others_perm h.nested
  obtain ⟨_, hcase⟩ := (add_ok_iff c k id span value o c').1 hadd
  rcases hcase with ⟨_, rfl, rfl⟩ | ⟨_, ch, l, hl, rfl, rfl⟩ |
    ⟨_, s, existing, hl, ⟨_, rfl, rfl⟩ | ⟨_, rfl, rfl⟩⟩
  · exact ⟨rfl, rfl⟩
  · have hsame := hothers fun j hj => by rw [timeline?_put_prepare, if_neg hj]
    have hnew : ((c.prepare k).put k l).timeline? k = some l := by
      rw [timeline?_put_prepare, if_pos rfl]
    have hsize := Timeline.size_of_insert hl
    rw [hnested.keyCount_eq k, h.nested.keyCount_eq k, hnested.entryCount_eq k,
      h.nested.entryCount_eq k, hnew, hsame.length_eq, (hsame.map _).sum_nat]
    cases ch with
    | added =>
      have hold : ((c.timeline? k).toList.map Timeline.size).sum = (c.target k).size := by
        cases htimeline : c.timeline? k with
        | none =>
          unfold Timeline.size
          rw [target_of_eq_none htimeline, Mode.entries_fresh]
          rfl
        | some l =>
          rw [target_of_eq_some htimeline]
          exact List.sum_singleton
      simp only at hsize
      simp only [Outcome.ofChange, Option.toList_some, List.map_singleton, List.sum_singleton]
      omega
    | updated =>
      have hold : c.timeline? k = some (c.target k) := by
        obtain ⟨_, hcase⟩ := (Timeline.insert_ok_iff _ _ _ _ _ _).1 hl
        rcases hcase with ⟨hknows, _, _⟩ | ⟨_, _, hch, _⟩
        · exact timeline?_of_knows hknows
        · cases hch
      rw [hold]
      simp only [Outcome.ofChange, Option.toList_some, List.map_singleton, List.sum_singleton,
        List.length_singleton, true_and]
      exact congrArg (· + _) hsize
  · exact hnested.counts_congr h.nested (timeline?_prepare_of_overlap hl)
  · have hsame := hothers fun j hj => by rw [timeline?_drop_prepare, if_neg hj]
    have hgone : ((c.prepare k).drop k).timeline? k = none := by
      rw [timeline?_drop_prepare, if_pos rfl]
    rw [hnested.keyCount_eq k, h.nested.keyCount_eq k, hgone, timeline?_of_overlap hl,
      hsame.length_eq]
    simp only [Option.toList_none, Option.toList_some, List.length_nil, List.length_singleton]
    omega

end Catalogue
end Tariff
