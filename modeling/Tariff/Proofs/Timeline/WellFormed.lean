import Tariff.Proofs.Timeline.Stamps

/-!
# Well-formed timelines

Whatever is written to a timeline, its entries stay in order of start and then of
writing, their stamps and their ids stay apart, and no span among them is empty.  An
exclusive timeline that no replacement has crossed holds disjoint entries.  That last
fact makes it enough to look at the neighbours of an instant.

Main results:

- Theorem {lit}`Timeline.WellFormed.insert`: a write keeps a timeline well formed.
- Theorem {lit}`Timeline.WellFormed.hits_eq_filter`: the hits at an instant are all
  entries that contain it.
- Theorem {lit}`Timeline.WellFormed.findOverlap_eq`: looking at the neighbours finds the
  same overlap as looking at all entries.
- Theorem {lit}`Timeline.WellFormed.lookupEntry_eq`: the entry found at an instant is the
  first or the last hit by stamp.
-/

namespace Tariff

/-- The entry starts before another one, or with it and was written earlier. -/
def Entry.Precedes {α : Type} (e f : Entry α) : Prop :=
  e.span.start < f.span.start ∨ (e.span.start = f.span.start ∧ e.stamp < f.stamp)

/-- An entry that precedes another one starts no later. -/
theorem Entry.Precedes.start_le {α : Type} {e f : Entry α} (h : e.Precedes f) :
    e.span.start ≤ f.span.start := by
  rcases h with hlt | ⟨heq, _⟩
  · exact Int.le_of_lt hlt
  · exact Int.le_of_eq heq

namespace Timeline

variable {α : Type}

/-- What holds of every timeline that was written to from the empty one on. -/
structure WellFormed (l : Timeline α) : Prop where
  sorted : l.entries.Pairwise Entry.Precedes
  stamp_lt : ∀ e ∈ l.entries, e.stamp < l.nextStamp
  stampsDiffer : StampsDiffer l.entries
  admitted : ∀ e ∈ l.entries, l.bounds.admits e.span = true
  idsDiffer : l.entries.Pairwise fun e f => e.id = f.id → e.id = 0
  disjoint : l.concurrent = false → l.crossed = false →
    l.entries.Pairwise fun e f => l.bounds.overlaps e.span f.span = false

/-- A new timeline that refuses overlaps is well formed. -/
theorem wellFormed_exclusive (b : Bounds) : (exclusive b : Timeline α).WellFormed := by
  refine ⟨?_, ?_, ?_, ?_, ?_, ?_⟩ <;> simp [StampsDiffer]

/-- A new timeline that takes overlaps is well formed. -/
theorem wellFormed_overlapping (b : Bounds) : (overlapping b : Timeline α).WellFormed := by
  refine ⟨?_, ?_, ?_, ?_, ?_, ?_⟩ <;> simp [StampsDiffer]

/-! ## The two halves at an instant -/

/-- What has started by an instant is an entry. -/
theorem mem_entries_of_mem_startedBy {l : Timeline α} {t : Int} {e : Entry α}
    (h : e ∈ l.startedBy t) : e ∈ l.entries := by
  rw [← l.startedBy_append_startingAfter t]
  exact List.mem_append_left _ h

/-- What starts after an instant is an entry. -/
theorem mem_entries_of_mem_startingAfter {l : Timeline α} {t : Int} {e : Entry α}
    (h : e ∈ l.startingAfter t) : e ∈ l.entries := by
  rw [← l.startedBy_append_startingAfter t]
  exact List.mem_append_right _ h

/-- What has started by an instant starts no later than it. -/
theorem start_le_of_mem_startedBy {l : Timeline α} {t : Int} {e : Entry α}
    (h : e ∈ l.startedBy t) : e.span.start ≤ t := by
  simpa using List.all_eq_true.1 List.all_takeWhile e h

/-- In order of start, nothing behind the first later entry starts in time. -/
theorem lt_start_of_mem_dropWhile {es : List (Entry α)} (h : es.Pairwise Entry.Precedes)
    {t : Int} {e : Entry α}
    (he : e ∈ es.dropWhile fun e => decide (e.span.start ≤ t)) : t < e.span.start := by
  induction es with
  | nil => cases he
  | cons f fs ih =>
    obtain ⟨hf, hfs⟩ := List.pairwise_cons.1 h
    by_cases hft : f.span.start ≤ t
    · rw [List.dropWhile_cons_of_pos (by simpa using hft)] at he
      exact ih hfs he
    · rw [List.dropWhile_cons_of_neg (by simpa using hft)] at he
      rcases List.mem_cons.1 he with rfl | he
      · omega
      · have := (hf e he).start_le
        omega

namespace WellFormed

variable {l : Timeline α}

/-- What starts after an instant does so indeed, since the entries are in order. -/
theorem lt_start_of_mem_startingAfter (h : l.WellFormed) {t : Int} {e : Entry α}
    (he : e ∈ l.startingAfter t) : t < e.span.start :=
  lt_start_of_mem_dropWhile h.sorted he

/-- The entries of the two halves, with a relation between all of them. -/
theorem pairwise_halves {R : Entry α → Entry α → Prop} (h : l.entries.Pairwise R)
    (t : Int) : (l.startedBy t ++ l.startingAfter t).Pairwise R := by
  rw [startedBy_append_startingAfter]
  exact h

/-! ## Keeping a timeline well formed -/

/-- An entry may stand between two halves if it is related to both of them. -/
theorem pairwise_middle {R : Entry α → Entry α → Prop} {front back : List (Entry α)}
    {e : Entry α} (h : (front ++ back).Pairwise R) (hfront : ∀ f ∈ front, R f e)
    (hback : ∀ f ∈ back, R e f) : (front ++ e :: back).Pairwise R := by
  obtain ⟨hf, hb, hfb⟩ := List.pairwise_append.1 h
  refine List.pairwise_append.2 ⟨hf, List.pairwise_cons.2 ⟨hback, hb⟩, ?_⟩
  intro f hfm g hg
  rcases List.mem_cons.1 hg with rfl | hg
  · exact hfront f hfm
  · exact hfb f hfm g hg

/-- An entry may be placed that is not empty, whose id is new and that overlaps no other
one where entries are disjoint. -/
theorem place (h : l.WellFormed) {id : Nat} {span : Span} (value : α)
    (hspan : l.bounds.admits span = true) (hid : id = 0 ∨ ∀ e ∈ l.entries, e.id ≠ id)
    (hfree : l.concurrent = false → l.crossed = false →
      ∀ e ∈ l.entries, l.bounds.overlaps e.span span = false) :
    (l.place id span value).WellFormed := by
  have hmem : ∀ e ∈ (l.place id span value).entries,
      e ∈ l.entries ∨ e = ⟨id, span, value, l.nextStamp⟩ := by
    intro e he
    rcases List.mem_append.1 he with he | he
    · exact .inl (mem_entries_of_mem_startedBy he)
    · rcases List.mem_cons.1 he with rfl | he
      · exact .inr rfl
      · exact .inl (mem_entries_of_mem_startingAfter he)
  refine ⟨?_, ?_, ?_, ?_, ?_, ?_⟩
  · apply pairwise_middle (pairwise_halves h.sorted span.start)
    · intro f hf
      have hstamp := h.stamp_lt f (mem_entries_of_mem_startedBy hf)
      rcases Int.lt_or_eq_of_le (start_le_of_mem_startedBy hf) with hlt | heq
      · exact .inl hlt
      · exact .inr ⟨heq, hstamp⟩
    · intro f hf
      exact .inl (h.lt_start_of_mem_startingAfter hf)
  · intro e he
    rcases hmem e he with he | rfl
    · exact Nat.lt_succ_of_lt (h.stamp_lt e he)
    · exact Nat.lt_succ_self _
  · apply pairwise_middle (pairwise_halves h.stampsDiffer span.start)
    · intro f hf
      exact Nat.ne_of_lt (h.stamp_lt f (mem_entries_of_mem_startedBy hf))
    · intro f hf
      exact Nat.ne_of_gt (h.stamp_lt f (mem_entries_of_mem_startingAfter hf))
  · intro e he
    rcases hmem e he with he | rfl
    · exact h.admitted e he
    · exact hspan
  · have hold : ∀ f ∈ l.entries, f.id = id → f.id = 0 := by
      intro f hf hfid
      rcases hid with hzero | hnew
      · exact hfid.trans hzero
      · exact absurd hfid (hnew f hf)
    apply pairwise_middle (pairwise_halves h.idsDiffer span.start)
    · intro f hf
      exact hold f (mem_entries_of_mem_startedBy hf)
    · intro f hf hfid
      exact hfid.trans (hold f (mem_entries_of_mem_startingAfter hf) hfid.symm)
  · intro hc hx
    have hfree := hfree hc hx
    apply pairwise_middle (pairwise_halves (h.disjoint hc hx) span.start)
    · intro f hf
      exact hfree f (mem_entries_of_mem_startedBy hf)
    · intro f hf
      rw [Bounds.overlaps_comm]
      exact hfree f (mem_entries_of_mem_startingAfter hf)

/-- An entry may be taken away. -/
theorem erase (h : l.WellFormed) (id : Nat) : (l.erase id).WellFormed := by
  have hsub : (l.erase id).entries.Sublist l.entries := List.eraseP_sublist
  refine ⟨h.sorted.sublist hsub, ?_, h.stampsDiffer.sublist hsub, ?_,
    h.idsDiffer.sublist hsub, ?_⟩
  · intro e he
    exact h.stamp_lt e (hsub.subset he)
  · intro e he
    exact h.admitted e (hsub.subset he)
  · intro hc hx
    exact (h.disjoint hc hx).sublist hsub

/-- The mark of a crossing may be set. -/
theorem mark (h : l.WellFormed) (crosses : Bool) :
    { l with crossed := l.crossed || crosses }.WellFormed := by
  refine ⟨h.sorted, h.stamp_lt, h.stampsDiffer, h.admitted, h.idsDiffer, ?_⟩
  intro hc hx
  exact h.disjoint hc (Bool.or_eq_false_iff.1 hx).1

/-! ## Looking at the neighbours of an instant -/

/-- Of two disjoint entries the first is over before the second starts. -/
theorem lastInstant_lt {e f : Entry α} (hef : e.Precedes f)
    (hf : l.bounds.admits f.span = true) (h : l.bounds.overlaps e.span f.span = false) :
    l.bounds.lastInstant e.span < f.span.start := by
  have hstart := hef.start_le
  rw [Bounds.admits_iff] at hf
  rw [← Bool.not_eq_true, Bounds.overlaps_iff] at h
  omega

/-- Where entries are disjoint, all that start by an instant, but the last of them, are
over before the last one starts. -/
theorem over_of_startedBy_eq (h : l.WellFormed) (hc : l.concurrent = false)
    (hx : l.crossed = false) {t : Int} {front : List (Entry α)} {p : Entry α}
    (hp : l.startedBy t = front ++ [p]) :
    ∀ e ∈ front, l.bounds.lastInstant e.span < p.span.start := by
  intro e he
  have hsorted := (List.pairwise_append.1 (pairwise_halves h.sorted t)).1
  have hdisjoint := (List.pairwise_append.1 (pairwise_halves (h.disjoint hc hx) t)).1
  rw [hp] at hsorted hdisjoint
  have hpmem : p ∈ l.entries := by
    apply mem_entries_of_mem_startedBy (t := t)
    rw [hp]
    exact List.mem_append_right _ List.mem_cons_self
  exact lastInstant_lt ((List.pairwise_append.1 hsorted).2.2 e he p List.mem_cons_self)
    (h.admitted p hpmem)
    ((List.pairwise_append.1 hdisjoint).2.2 e he p List.mem_cons_self)

/-- Among the entries that start by an instant, only the last one can reach it. -/
theorem find?_startedBy (h : l.WellFormed) (hc : l.concurrent = false)
    (hx : l.crossed = false) (span : Span) :
    (l.startedBy span.start).find? (fun e => l.bounds.overlaps e.span span) =
      (l.startedBy span.start).getLast?.toList.find?
        fun e => l.bounds.overlaps e.span span := by
  cases hlast : (l.startedBy span.start).getLast? with
  | none =>
    rw [List.getLast?_eq_none_iff.1 hlast]
    rfl
  | some p =>
    obtain ⟨front, hfront⟩ := List.getLast?_eq_some_iff.1 hlast
    have hover := h.over_of_startedBy_eq hc hx hfront
    have hp : p.span.start ≤ span.start := by
      apply start_le_of_mem_startedBy (l := l)
      rw [hfront]
      exact List.mem_append_right _ List.mem_cons_self
    have hnone : front.find? (fun e => l.bounds.overlaps e.span span) = none := by
      apply List.find?_eq_none.2
      intro e he
      have := hover e he
      rw [Bounds.overlaps_iff]
      omega
    rw [hfront, List.find?_append, hnone]
    rfl

/-- Among the entries that start after a span begins, the first one is reached if any
is. -/
theorem find?_startingAfter (h : l.WellFormed) (span : Span) :
    (l.startingAfter span.start).find? (fun e => l.bounds.overlaps e.span span) =
      (l.startingAfter span.start).head?.toList.find?
        fun e => l.bounds.overlaps e.span span := by
  have hsorted := (List.pairwise_append.1 (pairwise_halves h.sorted span.start)).2.1
  have hlater : ∀ e ∈ l.startingAfter span.start, span.start < e.span.start :=
    fun e he => h.lt_start_of_mem_startingAfter he
  have hmem : ∀ e ∈ l.startingAfter span.start, e ∈ l.entries :=
    fun e he => mem_entries_of_mem_startingAfter he
  cases hafter : l.startingAfter span.start with
  | nil => rfl
  | cons n rest =>
    rw [hafter] at hsorted hlater hmem
    have hstart := hlater n List.mem_cons_self
    have hn := h.admitted n (hmem n List.mem_cons_self)
    rw [Bounds.admits_iff] at hn
    by_cases ho : l.bounds.overlaps n.span span = true
    · simp [ho]
    · have hnone : rest.find? (fun e => l.bounds.overlaps e.span span) = none := by
        apply List.find?_eq_none.2
        intro e he
        have hne := ((List.pairwise_cons.1 hsorted).1 e he).start_le
        rw [Bounds.overlaps_iff] at ho ⊢
        omega
      simp [ho, hnone]

/-- Looking at the neighbours finds the same overlap as looking at all entries. -/
theorem findOverlap_eq (h : l.WellFormed) (hc : l.concurrent = false) (span : Span) :
    l.findOverlap span =
      (l.entries.find? fun e => l.bounds.overlaps e.span span).map (·.span) := by
  unfold findOverlap
  by_cases hx : l.crossed = true
  · simp only [hx, if_true]
  · have hx : l.crossed = false := by simpa using hx
    simp only [hx, Bool.false_eq_true, if_false]
    rw [← l.startedBy_append_startingAfter span.start, List.find?_append,
      List.find?_append, h.find?_startedBy hc hx, h.find?_startingAfter]

/-- The hits at an instant are all entries that contain it. -/
theorem hits_eq_filter (h : l.WellFormed) (t : Int) :
    l.hits t = l.entries.filter fun e => l.bounds.contains e.span t := by
  have hlater : (l.startingAfter t).filter (fun e => l.bounds.contains e.span t) = [] := by
    apply List.filter_eq_nil_iff.2
    intro e he
    have := h.lt_start_of_mem_startingAfter he
    rw [Bounds.contains_iff]
    omega
  rw [← l.startedBy_append_startingAfter t, List.filter_append, hlater, List.append_nil]
  rfl

/-- The hits carry different stamps. -/
theorem stampsDiffer_hits (h : l.WellFormed) (t : Int) : StampsDiffer (l.hits t) := by
  rw [h.hits_eq_filter]
  exact h.stampsDiffer.filter _

/-- Where entries are disjoint, only the last one to start can contain an instant. -/
theorem hits_eq_getLast? (h : l.WellFormed) (hc : l.concurrent = false)
    (hx : l.crossed = false) (t : Int) :
    l.hits t =
      ((l.startedBy t).getLast?.filter fun e => l.bounds.contains e.span t).toList := by
  unfold hits
  cases hlast : (l.startedBy t).getLast? with
  | none =>
    rw [List.getLast?_eq_none_iff.1 hlast]
    rfl
  | some p =>
    obtain ⟨front, hfront⟩ := List.getLast?_eq_some_iff.1 hlast
    have hover := h.over_of_startedBy_eq hc hx hfront
    have hp : p.span.start ≤ t := by
      apply start_le_of_mem_startedBy (l := l)
      rw [hfront]
      exact List.mem_append_right _ List.mem_cons_self
    have hnil : front.filter (fun e => l.bounds.contains e.span t) = [] := by
      apply List.filter_eq_nil_iff.2
      intro e he
      have := hover e he
      rw [Bounds.contains_iff]
      omega
    rw [hfront, List.filter_append, hnil, List.nil_append]
    cases hcontains : l.bounds.contains p.span t <;> simp [Option.filter, hcontains]

/-- The entry found at an instant is the first hit by stamp if the timeline is
concurrent, and the last one if it is exclusive. -/
theorem lookupEntry_eq (h : l.WellFormed) (t : Int) :
    l.lookupEntry t =
      if l.concurrent then (sortByStamp (l.hits t)).head?
      else (sortByStamp (l.hits t)).getLast? := by
  unfold lookupEntry
  cases hc : l.concurrent with
  | true =>
    simp only [if_true]
    exact earliest_eq_head? _
  | false =>
    simp only [Bool.false_eq_true, if_false]
    cases hx : l.crossed with
    | true =>
      simp only [if_true]
      exact latest_eq_getLast? (h.stampsDiffer_hits t)
    | false =>
      simp only [Bool.false_eq_true, if_false]
      rw [h.hits_eq_getLast? hc hx]
      cases (l.startedBy t).getLast?.filter fun e => l.bounds.contains e.span t <;> rfl

/-! ## Writing -/

/-- No entry keeps the id of one that was taken away. -/
theorem erase_eq_filter (h : l.WellFormed) {id : Nat} (hid : id ≠ 0) :
    (l.erase id).entries = l.entries.filter fun e => decide (e.id ≠ id) := by
  have hdiffer := h.idsDiffer
  unfold Timeline.erase
  simp only
  generalize l.entries = es at hdiffer
  induction es with
  | nil => rfl
  | cons e es ih =>
    obtain ⟨he, hes⟩ := List.pairwise_cons.1 hdiffer
    by_cases heid : e.id = id
    · have hrest : es.filter (fun f => decide (f.id ≠ id)) = es := by
        apply List.filter_eq_self.2
        intro f hf
        have hne : f.id ≠ id := by
          intro hfid
          exact hid (heid.symm.trans (he f hf (heid.trans hfid.symm)))
        simpa using hne
      rw [List.eraseP_cons_of_pos (by simpa using heid),
        List.filter_cons_of_neg (by simpa using heid), hrest]
    · rw [List.eraseP_cons_of_neg (by simpa using heid),
        List.filter_cons_of_pos (by simpa using heid), ih hes]

/-- A replacement keeps a timeline well formed, as it marks the overlaps it brings. -/
theorem replace (h : l.WellFormed) {id : Nat} {span : Span} (value : α) (hid : id ≠ 0)
    (hspan : l.bounds.admits span = true) : (l.replace id span value).WellFormed := by
  have hrest := h.erase id
  apply (hrest.mark (!l.concurrent && ((l.erase id).findOverlap span).isSome)).place
  · exact hspan
  · refine .inr fun e he => ?_
    have he : e ∈ (l.erase id).entries := he
    rw [h.erase_eq_filter hid] at he
    simpa using (List.mem_filter.1 he).2
  · intro hc hx e he
    have hc : l.concurrent = false := hc
    have hx := (Bool.or_eq_false_iff.1 hx).2
    rw [hc] at hx
    have hnone : (l.erase id).findOverlap span = none := by simpa using hx
    rw [hrest.findOverlap_eq hc, Option.map_eq_none_iff, List.find?_eq_none] at hnone
    simpa using hnone e he

/-- A fresh entry that meets no obstacle keeps a timeline well formed. -/
theorem place_of_obstacle_eq_none (h : l.WellFormed) {id : Nat} {span : Span} (value : α)
    (hspan : l.bounds.admits span = true) (hid : l.knows id = false)
    (hobstacle : l.obstacle span = none) : (l.place id span value).WellFormed := by
  apply h.place
  · exact hspan
  · by_cases hzero : id = 0
    · exact .inl hzero
    · refine .inr fun e he heid => ?_
      have : l.knows id = true := by
        simp only [knows, hzero, ne_eq, not_false_eq_true, decide_true, Bool.true_and]
        exact List.any_eq_true.2 ⟨e, he, by simpa using heid⟩
      rw [hid] at this
      cases this
  · intro hc hx e he
    unfold obstacle at hobstacle
    rw [hc] at hobstacle
    simp only [Bool.false_eq_true, if_false] at hobstacle
    rw [h.findOverlap_eq hc, Option.map_eq_none_iff, List.find?_eq_none] at hobstacle
    simpa using hobstacle e he

end WellFormed

/-- What an accepted entry did. -/
theorem insert_ok_iff (l : Timeline α) (id : Nat) (span : Span) (value : α)
    (c : Change) (l' : Timeline α) :
    l.insert id span value = (l', .ok c) ↔
      l.bounds.admits span = true ∧
        ((l.knows id = true ∧ c = .updated ∧ l' = l.replace id span value) ∨
          (l.knows id = false ∧ l.obstacle span = none ∧ c = .added ∧
            l' = l.place id span value)) := by
  unfold insert
  cases l.bounds.admits span with
  | false => simp
  | true =>
    cases l.knows id with
    | true => simpa using and_comm.trans (and_congr eq_comm eq_comm)
    | false =>
      cases l.obstacle span with
      | none => simpa using and_comm.trans (and_congr eq_comm eq_comm)
      | some existing => simp

/-- A bare 0 is never known. -/
theorem ne_zero_of_knows {l : Timeline α} {id : Nat} (h : l.knows id = true) : id ≠ 0 := by
  simp only [knows, Bool.and_eq_true, decide_eq_true_eq] at h
  exact h.1

/-- A timeline grows by what is added to it, and not by a replacement. -/
theorem size_of_insert {l l' : Timeline α} {id : Nat} {span : Span} {value : α}
    {ch : Change} (h : l.insert id span value = (l', .ok ch)) :
    l'.size = match ch with
      | .added => l.size + 1
      | .updated => l.size := by
  obtain ⟨_, hcase⟩ := (insert_ok_iff l id span value ch l').1 h
  rcases hcase with ⟨hknows, rfl, rfl⟩ | ⟨_, _, rfl, rfl⟩
  · obtain ⟨e, he, hid⟩ := List.any_eq_true.1 (Bool.and_eq_true_iff.1 hknows).2
    have hpositive : 0 < l.entries.length := List.length_pos_of_mem he
    have herase : (l.erase id).entries.length = l.entries.length - 1 :=
      List.length_eraseP_of_mem he hid
    unfold replace
    rw [size_place]
    unfold size
    simp only
    omega
  · exact l.size_place id span value

/-- A write keeps a timeline well formed. -/
theorem WellFormed.insert {l l' : Timeline α} (h : l.WellFormed) {id : Nat} {span : Span}
    {value : α} {c : Change} (hl : l.insert id span value = (l', .ok c)) :
    l'.WellFormed := by
  obtain ⟨hspan, hcase⟩ := (insert_ok_iff l id span value c l').1 hl
  rcases hcase with ⟨hknows, _, rfl⟩ | ⟨hknows, hobstacle, _, rfl⟩
  · exact h.replace value (ne_zero_of_knows hknows) hspan
  · exact h.place_of_obstacle_eq_none value hspan hknows hobstacle

end Timeline
end Tariff
