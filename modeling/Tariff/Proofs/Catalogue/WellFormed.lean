import Tariff.Proofs.Directory
import Tariff.Proofs.Timeline.WriteLog
import Tariff.Catalogue

/-!
# Well-formed catalogues

The timelines of a catalogue stand in two layers, by group and then by resource.  Adding
entries repeats no name in either layer and leaves no empty group and no empty timeline
behind, though a timeline is put in place before its first entry is tried.

Main results:

- Theorem {lit}`Catalogue.Nested.mem_rows`: the keys with their timelines, written out, are
  what looking up a key gives.
- Theorem {lit}`Catalogue.Nested.rows_perm`: catalogues that give the same timelines have the
  same rows.
- Theorem {lit}`Catalogue.WellFormed.add`: adding an entry keeps a catalogue well formed.
-/

namespace Tariff
namespace Catalogue

variable {α : Type}

/-! ## The two layers -/

/-- No name is repeated in either layer, and no group is empty. -/
structure Nested (c : Catalogue α) : Prop where
  groupsDiffer : c.groups.KeysDiffer
  resourcesDiffer : ∀ g ∈ c.groups.entries, g.2.KeysDiffer
  filled : ∀ g ∈ c.groups.entries, g.2.entries ≠ []

/-- A catalogue without keys is nested. -/
theorem nested_empty (mode : Mode) (policy : Policy) :
    (empty mode policy : Catalogue α).Nested :=
  by
  refine ⟨Directory.keysDiffer_empty, ?_, ?_⟩ <;> intro g hg <;> cases hg

namespace Nested

variable {c : Catalogue α}

/-- Of a group, too, no resource is repeated. -/
theorem keysDiffer_resources (h : c.Nested) (group : String) :
    (c.resources group).KeysDiffer := by
  unfold resources
  cases hget : c.groups.get? group with
  | none => exact Directory.keysDiffer_empty
  | some d => exact h.resourcesDiffer (group, d) (h.groupsDiffer.get?_eq_some_iff.1 hget)

/-- A group may be set to timelines that are not none and repeat no resource. -/
theorem setGroup (h : c.Nested) (group : String) {d : Directory String (Timeline α)}
    (hdiffer : d.KeysDiffer) (hfilled : d.entries ≠ []) :
    { c with groups := c.groups.set group d }.Nested := by
  refine ⟨h.groupsDiffer.set group d, ?_, ?_⟩
  · intro g hg
    rcases Directory.mem_entries_set hg with rfl | hg
    · exact hdiffer
    · exact h.resourcesDiffer g hg
  · intro g hg
    rcases Directory.mem_entries_set hg with rfl | hg
    · exact hfilled
    · exact h.filled g hg

/-- Putting a timeline in place keeps a catalogue nested. -/
theorem put (h : c.Nested) (k : Key) (l : Timeline α) : (c.put k l).Nested :=
  h.setGroup k.group ((h.keysDiffer_resources k.group).set k.resource l)
    (Directory.entries_set_ne_nil _ k.resource l)

/-- Removing a timeline keeps a catalogue nested. -/
theorem remove (h : c.Nested) (k : Key) : (c.remove k).Nested := by
  unfold Catalogue.remove
  by_cases hsize : ((c.resources k.group).erase k.resource).size = 0
  · have hsub : ∀ g ∈ (c.groups.erase k.group).entries, g ∈ c.groups.entries :=
      fun g hg => List.mem_of_mem_filter hg
    simp only [if_pos hsize]
    exact ⟨h.groupsDiffer.erase k.group, fun g hg => h.resourcesDiffer g (hsub g hg),
      fun g hg => h.filled g (hsub g hg)⟩
  · simp only [if_neg hsize]
    exact h.setGroup k.group ((h.keysDiffer_resources k.group).erase k.resource)
      fun hnil => hsize (List.length_eq_zero_iff.2 hnil)

end Nested

/-! ## Keys with their timelines -/

/-- The keys with their timelines, group by group. -/
def rows (c : Catalogue α) : List (Key × Timeline α) :=
  c.groups.entries.flatMap fun g => g.2.entries.map fun r => (⟨g.1, r.1⟩, r.2)

/-- There are as many keys as rows. -/
theorem keyCount_eq_length_rows (c : Catalogue α) : c.keyCount = c.rows.length := by
  unfold keyCount rows
  rw [Directory.total_eq_sum, List.length_flatMap]
  unfold Directory.values Directory.size
  rw [List.map_map]
  simp only [List.length_map]
  rfl

/-- The number of entries is summed up row by row. -/
theorem entryCount_eq_sum_rows (c : Catalogue α) :
    c.entryCount = (c.rows.map fun r => r.2.size).sum := by
  unfold entryCount rows
  simp only [Directory.total_eq_sum]
  unfold Directory.values
  rw [List.map_flatMap, List.flatMap_def, List.sum_flatten, List.map_map, List.map_map]
  simp only [List.map_map]
  rfl

namespace Nested

variable {c d : Catalogue α}

/-- The rows are what looking up a key gives. -/
theorem mem_rows (h : c.Nested) {k : Key} {l : Timeline α} :
    (k, l) ∈ c.rows ↔ c.timeline? k = some l := by
  have hlook : c.timeline? k = some l ↔
      ∃ d, (k.group, d) ∈ c.groups.entries ∧ (k.resource, l) ∈ d.entries := by
    unfold timeline? resources
    cases hget : c.groups.get? k.group with
    | none =>
      simp only [Option.getD_none, Directory.get?_empty, reduceCtorEq, false_iff]
      rintro ⟨d, hd, _⟩
      rw [h.groupsDiffer.get?_eq_some_iff.2 hd] at hget
      cases hget
    | some d =>
      have hd : (k.group, d) ∈ c.groups.entries := h.groupsDiffer.get?_eq_some_iff.1 hget
      rw [Option.getD_some, (h.resourcesDiffer _ hd).get?_eq_some_iff]
      constructor
      · intro hl
        exact ⟨d, hd, hl⟩
      · rintro ⟨e, he, hl⟩
        rw [h.groupsDiffer.get?_eq_some_iff.2 he, Option.some_inj] at hget
        rw [← hget]
        exact hl
  rw [hlook]
  unfold rows
  constructor
  · intro hrow
    obtain ⟨g, hg, hrow⟩ := List.mem_flatMap.1 hrow
    obtain ⟨r, hr, heq⟩ := List.mem_map.1 hrow
    obtain ⟨rfl, rfl⟩ := Prod.ext_iff.1 heq
    exact ⟨g.2, hg, hr⟩
  · rintro ⟨d, hd, hl⟩
    exact List.mem_flatMap.2 ⟨_, hd, List.mem_map.2 ⟨_, hl, rfl⟩⟩

/-- No row stands twice. -/
theorem nodup_rows (h : c.Nested) : c.rows.Nodup := by
  refine List.nodup_flatMap.2 ⟨?_, ?_⟩
  · intro g hg
    refine (h.resourcesDiffer g hg).nodup.map ?_
    intro r s hrs
    simp only [Prod.mk.injEq, Key.mk.injEq, true_and] at hrs
    exact Prod.ext hrs.1 hrs.2
  · have hgroups : c.groups.entries.Pairwise fun g g' => g.1 ≠ g'.1 :=
      List.pairwise_map.1 h.groupsDiffer
    refine hgroups.imp ?_
    intro g g' hne row hrow hrow'
    obtain ⟨r, _, rfl⟩ := List.mem_map.1 hrow
    obtain ⟨r', _, heq⟩ := List.mem_map.1 hrow'
    simp only [Prod.mk.injEq, Key.mk.injEq] at heq
    exact hne heq.1.1.symm

/-- Catalogues that give the same timelines have the same rows. -/
theorem rows_perm (hc : c.Nested) (hd : d.Nested)
    (h : ∀ k, c.timeline? k = d.timeline? k) : c.rows.Perm d.rows := by
  refine (List.perm_ext_iff_of_nodup hc.nodup_rows hd.nodup_rows).2 ?_
  rintro ⟨k, l⟩
  rw [hc.mem_rows, hd.mem_rows, h k]

/-- Catalogues that give the same timelines have the same sizes. -/
theorem counts_congr (hc : c.Nested) (hd : d.Nested)
    (h : ∀ k, c.timeline? k = d.timeline? k) :
    c.keyCount = d.keyCount ∧ c.entryCount = d.entryCount := by
  have hrows := hc.rows_perm hd h
  rw [keyCount_eq_length_rows, keyCount_eq_length_rows, entryCount_eq_sum_rows,
    entryCount_eq_sum_rows]
  exact ⟨hrows.length_eq, (hrows.map fun r => r.2.size).sum_nat⟩

end Nested

/-! ## Well-formed catalogues -/

/-- The mode takes overlaps. -/
def Mode.concurrent : Mode → Bool
  | exclusive => false
  | multi => true

/-- What holds of the timeline of a key: it was filled by writing, as the mode wants it. -/
structure Mode.Keeps (m : Mode) (l : Timeline α) : Prop where
  wellFormed : l.WellFormed
  bounds : l.bounds = .halfOpen
  concurrent : l.concurrent = m.concurrent

@[simp] theorem Mode.entries_fresh (m : Mode) : (m.fresh : Timeline α).entries = [] := by
  cases m with
  | exclusive => rfl
  | multi => rfl

/-- The timeline that a key begins with is as the mode wants it. -/
theorem Mode.keeps_fresh (m : Mode) : m.Keeps (m.fresh : Timeline α) := by
  cases m with
  | exclusive => exact ⟨Timeline.wellFormed_exclusive .halfOpen, rfl, rfl⟩
  | multi => exact ⟨Timeline.wellFormed_overlapping .halfOpen, rfl, rfl⟩

/-- An accepted entry leaves a timeline that is kept as before and not empty. -/
theorem Mode.Keeps.insert {m : Mode} {l l' : Timeline α} (h : m.Keeps l) {id : Nat}
    {span : Span} {value : α} {ch : Timeline.Change}
    (hl : l.insert id span value = (l', .ok ch)) : m.Keeps l' ∧ l'.entries ≠ [] := by
  have hwell := h.wellFormed.insert hl
  obtain ⟨_, hcase⟩ := (Timeline.insert_ok_iff l id span value ch l').1 hl
  rcases hcase with ⟨_, _, rfl⟩ | ⟨_, _, _, rfl⟩
  · exact ⟨⟨hwell, h.bounds, h.concurrent⟩,
      List.append_ne_nil_of_right_ne_nil _ (List.cons_ne_nil _ _)⟩
  · exact ⟨⟨hwell, h.bounds, h.concurrent⟩,
      List.append_ne_nil_of_right_ne_nil _ (List.cons_ne_nil _ _)⟩

/-- What holds of every catalogue that was added to from the empty one on. -/
structure WellFormed (c : Catalogue α) : Prop where
  nested : c.Nested
  keeps : ∀ k l, c.timeline? k = some l → c.mode.Keeps l
  filled : ∀ k l, c.timeline? k = some l → l.entries ≠ []
  dropped : ∀ k, c.isInvalidated k = true → c.timeline? k = none

/-- A catalogue without keys is well formed. -/
theorem wellFormed_empty (mode : Mode) (policy : Policy) :
    (empty mode policy : Catalogue α).WellFormed := by
  refine ⟨nested_empty mode policy, ?_, ?_, fun _ _ => rfl⟩ <;> intro k l hl <;> cases hl

/-! ## Adding an entry -/

/-- What adding an entry can do: nothing for a dropped key, else what its timeline makes of
it, or what the policy does about an overlap. -/
theorem add_ok_iff (c : Catalogue α) (k : Key) (id : Nat) (span : Span) (value : α)
    (o : Outcome) (c' : Catalogue α) :
    c.add k id span value = (c', .ok o) ↔
      Bounds.halfOpen.admits span = true ∧
        ((c.isInvalidated k = true ∧ o = .skipped ∧ c' = c) ∨
          (c.isInvalidated k = false ∧ ∃ ch l,
            (c.target k).insert (c.mode.entryId id) span value = (l, .ok ch) ∧
              o = .ofChange ch ∧ c' = (c.prepare k).put k l) ∨
          (c.isInvalidated k = false ∧ ∃ s existing,
            (c.target k).insert (c.mode.entryId id) span value =
                (c.target k, .error (.overlap s existing)) ∧
              ((c.policy = .reject ∧ o = .rejected ∧ c' = c.prepare k) ∨
                (c.policy = .invalidateKey ∧ o = .invalidated ∧
                  c' = (c.prepare k).drop k)))) := by
  unfold add
  cases Bounds.halfOpen.admits span with
  | false => simp
  | true =>
    cases c.isInvalidated k with
    | true => simp [eq_comm, and_comm]
    | false =>
      have hpolicy : (c.prepare k).policy = c.policy := rfl
      rcases (c.target k).insert_cases (c.mode.entryId id) span value with
        ⟨refusal, hrefused⟩ | ⟨change, l, htaken⟩
      · cases refusal with
        | emptySpan s =>
          simp [write, hrefused]
        | overlap s existing =>
          rw [if_pos rfl, if_neg Bool.false_ne_true, write_of_overlap hrefused, hrefused]
          unfold settle
          rw [hpolicy]
          cases c.policy <;> simp [eq_comm, and_comm]
      · rw [if_pos rfl, if_neg Bool.false_ne_true, write_of_ok htaken, htaken]
        simp [eq_comm, and_comm]

variable {c c' : Catalogue α}

/-- A key that has a timeline has its entries handed to that one. -/
theorem target_of_eq_some {k : Key} {l : Timeline α} (h : c.timeline? k = some l) :
    c.target k = l := by
  unfold target
  rw [h, Option.getD_some]

/-- A key that has no timeline has its entries handed to a fresh one. -/
theorem target_of_eq_none {k : Key} (h : c.timeline? k = none) : c.target k = c.mode.fresh := by
  unfold target
  rw [h, Option.getD_none]

/-- The timeline that is handed the entries for a key is as the mode wants it. -/
theorem keeps_target (h : c.WellFormed) (k : Key) : c.mode.Keeps (c.target k) := by
  cases hl : c.timeline? k with
  | none =>
    rw [target_of_eq_none hl]
    exact c.mode.keeps_fresh
  | some l =>
    rw [target_of_eq_some hl]
    exact h.keeps k l hl

/-- The timeline of a key is put in place, where it may be already. -/
theorem timeline?_prepare (c : Catalogue α) (k j : Key) :
    (c.prepare k).timeline? j = if j = k then some (c.target k) else c.timeline? j :=
  timeline?_put c k (c.target k) j

/-- An entry that meets another one finds a timeline in place. -/
theorem timeline?_of_overlap {k : Key} {id : Nat} {span s existing : Span} {value : α}
    (hl : (c.target k).insert id span value = (c.target k, .error (.overlap s existing))) :
    c.timeline? k = some (c.target k) := by
  cases htimeline : c.timeline? k with
  | some l => rw [target_of_eq_some htimeline]
  | none =>
    have hnone : (c.mode.fresh : Timeline α).obstacle span = none := by
      cases c.mode <;> rfl
    rw [target_of_eq_none htimeline, Timeline.insert_error_iff, hnone] at hl
    simp at hl

/-- Placing an entry changes the timeline of its key. -/
theorem timeline?_put_prepare (c : Catalogue α) (k : Key) (l : Timeline α) (j : Key) :
    ((c.prepare k).put k l).timeline? j = if j = k then some l else c.timeline? j := by
  rw [timeline?_put]
  by_cases hj : j = k
  · rw [if_pos hj, if_pos hj]
  · rw [if_neg hj, if_neg hj, timeline?_prepare, if_neg hj]

/-- A rejected entry changes no timeline. -/
theorem timeline?_prepare_of_overlap {k : Key} {id : Nat} {span s existing : Span} {value : α}
    (hl : (c.target k).insert id span value = (c.target k, .error (.overlap s existing)))
    (j : Key) :
    (c.prepare k).timeline? j = c.timeline? j := by
  rw [timeline?_prepare]
  by_cases hj : j = k
  · rw [if_pos hj, hj, timeline?_of_overlap hl]
  · rw [if_neg hj]

/-- A dropped key loses its timeline. -/
theorem timeline?_drop_prepare (c : Catalogue α) (k j : Key) :
    ((c.prepare k).drop k).timeline? j = if j = k then none else c.timeline? j := by
  have hremove : ((c.prepare k).drop k).timeline? j = ((c.prepare k).remove k).timeline? j := rfl
  rw [hremove, timeline?_remove, timeline?_prepare]
  by_cases hj : j = k
  · rw [if_pos hj, if_pos hj]
  · rw [if_neg hj, if_neg hj, if_neg hj]

/-- The dropped key joins those that were dropped before. -/
theorem isInvalidated_drop (c : Catalogue α) (k j : Key) :
    (c.drop k).isInvalidated j = true ↔ j = k ∨ c.isInvalidated j = true := by
  unfold isInvalidated drop
  simp

/-- Timelines may stay, go, or give way to others that are kept as the mode wants it. -/
theorem WellFormed.of_timeline? (h : c.WellFormed) (hnested : c'.Nested)
    (hmode : c'.mode = c.mode)
    (htimeline : ∀ j l, c'.timeline? j = some l →
      c.timeline? j = some l ∨ (c.mode.Keeps l ∧ l.entries ≠ []))
    (hdropped : ∀ j, c'.isInvalidated j = true → c'.timeline? j = none) : c'.WellFormed := by
  refine ⟨hnested, ?_, ?_, hdropped⟩
  · intro j l hl
    rw [hmode]
    rcases htimeline j l hl with hl | hl
    · exact h.keeps j l hl
    · exact hl.1
  · intro j l hl
    rcases htimeline j l hl with hl | hl
    · exact h.filled j l hl
    · exact hl.2

/-- A placed entry keeps a catalogue well formed. -/
theorem WellFormed.put_prepare (h : c.WellFormed) {k : Key} {l : Timeline α}
    (hk : c.isInvalidated k = false) (hl : c.mode.Keeps l) (hfilled : l.entries ≠ []) :
    ((c.prepare k).put k l).WellFormed := by
  refine h.of_timeline? ((h.nested.put k (c.target k)).put k l) rfl ?_ ?_
  · intro j m hm
    rw [timeline?_put_prepare] at hm
    by_cases hj : j = k
    · rw [if_pos hj, Option.some_inj] at hm
      rw [← hm]
      exact .inr ⟨hl, hfilled⟩
    · rw [if_neg hj] at hm
      exact .inl hm
  · intro j hj
    have hold : c.isInvalidated j = true := hj
    have hne : j ≠ k := by
      rintro rfl
      rw [hk] at hold
      cases hold
    rw [timeline?_put_prepare, if_neg hne]
    exact h.dropped j hold

/-- A rejected entry keeps a catalogue well formed. -/
theorem WellFormed.prepare_of_overlap (h : c.WellFormed) {k : Key} {id : Nat}
    {span s existing : Span} {value : α}
    (hl : (c.target k).insert id span value = (c.target k, .error (.overlap s existing))) :
    (c.prepare k).WellFormed := by
  have htimeline := timeline?_prepare_of_overlap hl
  refine h.of_timeline? (h.nested.put k (c.target k)) rfl ?_ ?_
  · intro j m hm
    exact .inl ((htimeline j).symm.trans hm)
  · intro j hj
    exact (htimeline j).trans (h.dropped j hj)

/-- Dropping a key keeps a catalogue well formed. -/
theorem WellFormed.drop_prepare (h : c.WellFormed) (k : Key) :
    ((c.prepare k).drop k).WellFormed := by
  have hnested : ((c.prepare k).remove k).Nested := (h.nested.put k (c.target k)).remove k
  refine h.of_timeline? ⟨hnested.1, hnested.2, hnested.3⟩ rfl ?_ ?_
  · intro j m hm
    rw [timeline?_drop_prepare] at hm
    by_cases hj : j = k
    · rw [if_pos hj] at hm
      cases hm
    · rw [if_neg hj] at hm
      exact .inl hm
  · intro j hj
    rw [timeline?_drop_prepare]
    by_cases hjk : j = k
    · rw [if_pos hjk]
    · rw [if_neg hjk]
      exact h.dropped j (((isInvalidated_drop (c.prepare k) k j).1 hj).resolve_left hjk)

/-- Adding an entry keeps a catalogue well formed. -/
theorem WellFormed.add (h : c.WellFormed) {k : Key} {id : Nat} {span : Span} {value : α}
    {o : Outcome} (hadd : c.add k id span value = (c', .ok o)) : c'.WellFormed := by
  obtain ⟨_, hcase⟩ := (add_ok_iff c k id span value o c').1 hadd
  rcases hcase with ⟨_, _, rfl⟩ | ⟨hk, ch, l, hl, _, rfl⟩ |
    ⟨_, s, existing, hl, ⟨_, _, rfl⟩ | ⟨_, _, rfl⟩⟩
  · exact h
  · obtain ⟨hkeeps, hfilled⟩ := (keeps_target h k).insert hl
    exact h.put_prepare hk hkeeps hfilled
  · exact h.prepare_of_overlap hl
  · exact h.drop_prepare k

end Catalogue
end Tariff
