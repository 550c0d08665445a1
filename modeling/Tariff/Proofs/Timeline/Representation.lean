import Mathlib.Data.List.Nodup
import Mathlib.Data.List.Pairwise
import Tariff.Proofs.Timeline.WriteLog

/-!
# What a timeline is made of

A timeline is used through its entries, its next stamp and the mark of a crossing.  Whatever
is written, the entries stay in strict order of start and stamp, stamps and ids stay apart,
and the answers tell how many entries there are and how many stamps were given out.  As long
as the mark is not set, the entries of an exclusive timeline are disjoint, so that the last
one to start by an instant is the only one that can contain it.

Main results:

- Theorem {lit}`Timeline.size_run`: the entries are as many as the writings that were added.
- Theorem {lit}`Timeline.WellFormed.crossed_of_overlaps`: two entries of an exclusive timeline
  that overlap have set the mark.
- Theorem {lit}`Timeline.representation_of_run`: all of this after any writings.
-/

namespace Tariff
namespace Timeline

variable {α : Type} {l : Timeline α}

/-- The answer to a writing that is one entry more. -/
def isAdded : Except Refusal Change → Bool
  | .ok .added => true
  | .ok .updated | .error _ => false

/-! ## One writing -/

/-- A writing is refused and leaves the timeline alone, or it goes through. -/
theorem write_cases (l : Timeline α) (w : Writing α) :
    (∃ r, l.write w = (l, .error r)) ∨ ∃ c l', l.write w = (l', .ok c) :=
  l.insert_cases w.id w.span w.value

/-- A writing does not change what kind of timeline it is. -/
theorem kind_write (l : Timeline α) (w : Writing α) :
    (l.write w).1.bounds = l.bounds ∧ (l.write w).1.concurrent = l.concurrent := by
  rcases l.write_cases w with ⟨r, hwrite⟩ | ⟨c, l', hwrite⟩
  · rw [hwrite]
    exact ⟨rfl, rfl⟩
  · rw [hwrite]
    obtain ⟨_, ⟨_, _, rfl⟩ | ⟨_, _, _, rfl⟩⟩ := (insert_ok_iff l _ _ _ c l').1 hwrite
    · exact ⟨rfl, rfl⟩
    · exact ⟨rfl, rfl⟩

/-- A writing that is added is one entry more, and any other leaves their number. -/
theorem size_write (l : Timeline α) (w : Writing α) :
    (l.write w).1.size = l.size + if isAdded (l.write w).2 then 1 else 0 := by
  rcases l.write_cases w with ⟨r, hwrite⟩ | ⟨c, l', hwrite⟩
  · rw [hwrite]
    rfl
  · rw [hwrite]
    have hsize := size_of_insert hwrite
    cases c with
    | added => exact hsize
    | updated => exact hsize

/-- A writing that goes through is given a stamp, and no other is. -/
theorem nextStamp_write (l : Timeline α) (w : Writing α) :
    (l.write w).1.nextStamp = l.nextStamp + if (l.write w).2.isOk then 1 else 0 := by
  rcases l.write_cases w with ⟨r, hwrite⟩ | ⟨c, l', hwrite⟩
  · rw [hwrite]
    rfl
  · rw [hwrite]
    obtain ⟨_, ⟨_, _, rfl⟩ | ⟨_, _, _, rfl⟩⟩ := (insert_ok_iff l _ _ _ c l').1 hwrite
    · rfl
    · rfl

/-! ## Any number of writings -/

/-- A new timeline has no entries. -/
theorem size_start (b : Bounds) (concurrent : Bool) :
    (start b concurrent : Timeline α).size = 0 := by
  cases concurrent <;> rfl

/-- A new timeline has given no stamps. -/
theorem nextStamp_start (b : Bounds) (concurrent : Bool) :
    (start b concurrent : Timeline α).nextStamp = 0 := by
  cases concurrent <;> rfl

/-- Any writings leave the bounds, and whether overlaps are taken, as they were. -/
theorem kind_run (b : Bounds) (concurrent : Bool) (ws : List (Writing α)) :
    (Session.run write (start b concurrent) ws).1.bounds = b ∧
      (Session.run write (start b concurrent) ws).1.concurrent = concurrent := by
  have hstep : ∀ (l : Timeline α) w, l.bounds = b ∧ l.concurrent = concurrent →
      (l.write w).1.bounds = b ∧ (l.write w).1.concurrent = concurrent := by
    intro l w h
    obtain ⟨hbounds, hconcurrent⟩ := l.kind_write w
    exact ⟨hbounds.trans h.1, hconcurrent.trans h.2⟩
  refine Session.invariant (P := fun l : Timeline α => l.bounds = b ∧ l.concurrent = concurrent)
    hstep ?_ ws
  cases concurrent with
  | false => exact ⟨rfl, rfl⟩
  | true => exact ⟨rfl, rfl⟩

/-- The entries are as many as the writings that were added. -/
theorem size_run (l : Timeline α) (ws : List (Writing α)) :
    (Session.run write l ws).1.size = l.size + (Session.run write l ws).2.countP isAdded :=
  Session.measure_run size_write l ws

/-- The stamps given out are as many as the writings that went through. -/
theorem nextStamp_run (l : Timeline α) (ws : List (Writing α)) :
    (Session.run write l ws).1.nextStamp =
      l.nextStamp + (Session.run write l ws).2.countP Except.isOk :=
  Session.measure_run nextStamp_write l ws

/-! ## Entries of a well-formed timeline -/

namespace WellFormed

/-- No id but the bare 0 stands at two entries. -/
theorem count_id_le_one (h : l.WellFormed) {id : Nat} (hid : id ≠ 0) :
    (l.entries.map Entry.id).count id ≤ 1 := by
  have hids : (l.entries.map Entry.id).Pairwise fun i j => i = j → i = 0 :=
    List.pairwise_map.2 h.idsDiffer
  have hdiffer : ((l.entries.map Entry.id).filter fun i => decide (i ≠ 0)).Nodup := by
    refine List.pairwise_filter.2 (hids.imp ?_)
    intro i j hij hi _ heq
    exact of_decide_eq_true hi (hij heq)
  calc (l.entries.map Entry.id).count id
      = ((l.entries.map Entry.id).filter fun i => decide (i ≠ 0)).count id :=
        (List.count_filter (p := fun i => decide (i ≠ 0)) (decide_eq_true hid)).symm
    _ ≤ 1 := List.nodup_iff_count_le_one.1 hdiffer id

/-- Two entries of an exclusive timeline that overlap have set the mark of a crossing. -/
theorem crossed_of_overlaps (h : l.WellFormed) (hc : l.concurrent = false) {e f : Entry α}
    (he : e ∈ l.entries) (hf : f ∈ l.entries) (hne : e ≠ f)
    (hoverlaps : l.bounds.overlaps e.span f.span = true) : l.crossed = true := by
  cases hx : l.crossed with
  | true => rfl
  | false =>
    have hsymm : Std.Symm fun e f : Entry α => l.bounds.overlaps e.span f.span = false := by
      refine ⟨fun e f hef => ?_⟩
      rw [Bounds.overlaps_comm]
      exact hef
    have hdisjoint := (h.disjoint hc hx).forall he hf hne
    rw [hdisjoint] at hoverlaps
    cases hoverlaps

/-- Where no crossing was marked, an exclusive timeline has no entry that contains an instant
but the last one to start by it. -/
theorem getLast?_startedBy_of_contains (h : l.WellFormed) (hc : l.concurrent = false)
    (hx : l.crossed = false) {t : Int} {e : Entry α} (he : e ∈ l.entries)
    (hcontains : l.bounds.contains e.span t = true) : (l.startedBy t).getLast? = some e := by
  have hhit : e ∈ l.hits t := by
    rw [h.hits_eq_filter]
    exact List.mem_filter.2 ⟨he, hcontains⟩
  rw [h.hits_eq_getLast? hc hx, Option.mem_toList] at hhit
  exact (Option.filter_eq_some_iff.1 hhit).1

end WellFormed

/-- Whatever is written to a timeline, refused writings included, it keeps its kind; its
entries stand in strict order of start and then of stamp; their stamps differ and are below
the next one, which counts the writings that went through; each span is admitted; each id but
the bare 0 stands at one entry at most; and the entries are as many as were answered to be
added.  Two entries of an exclusive timeline overlap only where the mark of a crossing is set.
Where it is not, all entries are disjoint, and the last one to start by an instant is the only
one that can contain it. -/
theorem representation_of_run (b : Bounds) (concurrent : Bool) (ws : List (Writing α)) :
    let l := (Session.run write (start b concurrent) ws).1
    let answers := (Session.run write (start b concurrent) ws).2
    l.bounds = b ∧ l.concurrent = concurrent ∧
      l.entries.Pairwise Entry.Precedes ∧
      (l.entries.map Entry.stamp).Nodup ∧
      (∀ e ∈ l.entries, e.stamp < l.nextStamp) ∧
      l.nextStamp = answers.countP Except.isOk ∧
      (∀ e ∈ l.entries, b.admits e.span = true) ∧
      (∀ id, id ≠ 0 → (l.entries.map Entry.id).count id ≤ 1) ∧
      l.size = answers.countP isAdded ∧
      (concurrent = false →
        (∀ e ∈ l.entries, ∀ f ∈ l.entries, e ≠ f →
          b.overlaps e.span f.span = true → l.crossed = true) ∧
        (l.crossed = false →
          l.entries.Pairwise (fun e f => b.overlaps e.span f.span = false) ∧
          ∀ t, ∀ e ∈ l.entries, b.contains e.span t = true →
            (l.startedBy t).getLast? = some e)) := by
  intro l answers
  have hwell : l.WellFormed := (run_write b concurrent ws).2.1
  obtain ⟨hbounds, hconcurrent⟩ := kind_run b concurrent ws
  have hstamps : l.nextStamp = answers.countP Except.isOk := by
    have hrun := nextStamp_run (start b concurrent) ws
    rwa [nextStamp_start, Nat.zero_add] at hrun
  have hsize : l.size = answers.countP isAdded := by
    have hrun := size_run (start b concurrent) ws
    rwa [size_start, Nat.zero_add] at hrun
  refine ⟨hbounds, hconcurrent, hwell.sorted, List.pairwise_map.2 hwell.stampsDiffer,
    hwell.stamp_lt, hstamps, ?_, fun id => hwell.count_id_le_one, hsize, ?_⟩
  · intro e he
    rw [← hbounds]
    exact hwell.admitted e he
  · intro hexclusive
    have hc : l.concurrent = false := hconcurrent.trans hexclusive
    rw [← hbounds]
    refine ⟨fun e he f hf hne => hwell.crossed_of_overlaps hc he hf hne, fun hx => ?_⟩
    exact ⟨hwell.disjoint hc hx, fun t e he => hwell.getLast?_startedBy_of_contains hc hx he⟩

/-- The third writing is refused for the first one, and nothing has crossed so far.  The fourth
one moves the first entry over the second. -/
theorem crossed_by_moved_entry :
    let ws : List (Writing String) :=
      [⟨1, ⟨0, 10⟩, "A"⟩, ⟨2, ⟨10, 20⟩, "B"⟩, ⟨3, ⟨5, 12⟩, "C"⟩]
    let moved : Writing String := ⟨1, ⟨15, 30⟩, "D"⟩
    let l := (Session.run write (start .halfOpen false) ws).1
    let l' := (Session.run write (start .halfOpen false) (ws ++ [moved])).1
    l.size = 2 ∧ l.nextStamp = 2 ∧ l.crossed = false ∧
      (l.startedBy 12).getLast? = some ⟨2, ⟨10, 20⟩, "B", 1⟩ ∧
      l'.size = 2 ∧ l'.nextStamp = 3 ∧ l'.crossed = true := by
  intro ws moved l l'
  obtain ⟨-, -, -, -, -, hstamps, -, -, hsize, hexclusive⟩ :=
    representation_of_run .halfOpen false ws
  obtain ⟨-, -, -, -, -, hstamps', -, -, hsize', hexclusive'⟩ :=
    representation_of_run .halfOpen false (ws ++ [moved])
  have hfree : l.crossed = false := by decide
  have hhit : (⟨2, ⟨10, 20⟩, "B", 1⟩ : Entry String) ∈ l.entries := by decide
  have hfirst : (⟨2, ⟨10, 20⟩, "B", 1⟩ : Entry String) ∈ l'.entries := by decide
  have hsecond : (⟨1, ⟨15, 30⟩, "D", 2⟩ : Entry String) ∈ l'.entries := by decide
  refine ⟨hsize, hstamps, hfree, ?_, hsize', hstamps', ?_⟩
  · exact ((hexclusive rfl).2 hfree).2 12 _ hhit (by decide)
  · exact (hexclusive' rfl).1 _ hfirst _ hsecond (by decide) (by decide)

end Timeline
end Tariff
