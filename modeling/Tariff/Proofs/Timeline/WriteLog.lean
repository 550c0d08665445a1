import Tariff.Proofs.Session
import Tariff.Proofs.Timeline.WellFormed

/-!
# Write logs

A write log is the plain account of a timeline: what was written, in the order of
writing, and nothing else.  It looks through all of its writings for each question.  A
timeline is a log that has been put in order of start, with shortcuts.

Main results:

- Theorem {lit}`Timeline.byStart_log`: the entries of a timeline are the writings of its
  log, sorted stably by start.
- Theorem {lit}`Timeline.log_write`: writing to a timeline is writing to its log, with the
  same answer.
- Theorem {lit}`Timeline.run_refines_log`: whatever is written, a timeline answers as its
  log does.
-/

namespace Tariff

variable {α : Type}

/-- An entry as it is handed to a timeline. -/
structure Writing (α : Type) where
  id : Nat
  span : Span
  value : α
deriving DecidableEq, Repr

/-- The entry without its stamp. -/
def Entry.writing (e : Entry α) : Writing α :=
  ⟨e.id, e.span, e.value⟩

/-- What was written to a timeline, in the order of writing. -/
structure WriteLog (α : Type) where
  bounds : Bounds
  concurrent : Bool
  writings : List (Writing α)

namespace WriteLog

/-- Nothing was written. -/
def empty (bounds : Bounds) (concurrent : Bool) : WriteLog α :=
  ⟨bounds, concurrent, []⟩

/-- The writings by start; equal starts stay in the order of writing. -/
def byStart (g : WriteLog α) : List (Writing α) :=
  g.writings.mergeSort fun v w => decide (v.span.start ≤ w.span.start)

/-- The writings that contain an instant, in the order of writing. -/
def hits (g : WriteLog α) (t : Int) : List (Writing α) :=
  g.writings.filter fun w => g.bounds.contains w.span t

/-- The log has a writing with this id, which is no bare 0. -/
def knows (g : WriteLog α) (id : Nat) : Bool :=
  decide (id ≠ 0) && g.writings.any fun w => decide (w.id = id)

/-- The span that keeps a fresh writing out of an exclusive log: by start and then by
writing, the first one that it overlaps. -/
def obstacle (g : WriteLog α) (span : Span) : Option Span :=
  if g.concurrent then none
  else (g.byStart.find? fun w => g.bounds.overlaps w.span span).map (·.span)

/-- Writes to the log.  A writing that is refused leaves no trace. -/
def write (g : WriteLog α) (w : Writing α) :
    WriteLog α × Except Timeline.Refusal Timeline.Change :=
  if g.bounds.admits w.span then
    if g.knows w.id then
      ({ g with writings := (g.writings.filter fun v => decide (v.id ≠ w.id)) ++ [w] },
        .ok .updated)
    else
      match g.obstacle w.span with
      | some existing => (g, .error (.overlap w.span existing))
      | none => ({ g with writings := g.writings ++ [w] }, .ok .added)
  else (g, .error (.emptySpan w.span))

/-- Writing does not change what kind of log it is. -/
theorem concurrent_write (g : WriteLog α) (w : Writing α) :
    (g.write w).1.concurrent = g.concurrent := by
  unfold write
  split
  · split
    · rfl
    · split <;> rfl
  · rfl

/-- Any writings leave it what kind of log it is. -/
theorem concurrent_run (g : WriteLog α) (ws : List (Writing α)) :
    (Session.run write g ws).1.concurrent = g.concurrent := by
  have hstep : ∀ (g' : WriteLog α) (w : Writing α), g'.concurrent = g.concurrent →
      (g'.write w).1.concurrent = g.concurrent := by
    intro g' w h
    rw [concurrent_write, h]
  exact Session.invariant (P := fun g' : WriteLog α => g'.concurrent = g.concurrent) hstep rfl ws

/-! ## Sorting by start -/

/-- The order by start is transitive. -/
theorem start_le_trans {β : Type} (span : β → Span) (e f g : β)
    (hef : decide ((span e).start ≤ (span f).start) = true)
    (hfg : decide ((span f).start ≤ (span g).start) = true) :
    decide ((span e).start ≤ (span g).start) = true := by
  simp only [decide_eq_true_eq] at hef hfg ⊢
  omega

/-- Of two starts one is no later than the other. -/
theorem start_le_total {β : Type} (span : β → Span) (e f : β) :
    (decide ((span e).start ≤ (span f).start) ||
      decide ((span f).start ≤ (span e).start)) = true := by
  simp only [Bool.or_eq_true, decide_eq_true_eq]
  omega

/-- The writings by start are sorted by start. -/
theorem sorted_byStart (g : WriteLog α) :
    g.byStart.Pairwise fun v w => v.span.start ≤ w.span.start :=
  (List.pairwise_mergeSort (start_le_trans Writing.span) (start_le_total Writing.span)
    g.writings).imp fun hvw => of_decide_eq_true hvw

end WriteLog

namespace Timeline

/-- A timeline without entries, which takes overlaps or refuses them. -/
def start (bounds : Bounds) (concurrent : Bool) : Timeline α :=
  if concurrent then overlapping bounds else exclusive bounds

/-- Hands a writing to the timeline. -/
def write (l : Timeline α) (w : Writing α) : Timeline α × Except Refusal Change :=
  l.insert w.id w.span w.value

/-- The log of a timeline: its entries by stamp. -/
def log (l : Timeline α) : WriteLog α :=
  ⟨l.bounds, l.concurrent, (sortByStamp l.entries).map Entry.writing⟩

/-- A timeline without entries is well formed. -/
theorem wellFormed_start (b : Bounds) (concurrent : Bool) :
    (start b concurrent : Timeline α).WellFormed := by
  cases concurrent with
  | false => exact wellFormed_exclusive b
  | true => exact wellFormed_overlapping b

/-- A timeline without entries has an empty log. -/
theorem log_start (b : Bounds) (concurrent : Bool) :
    (start b concurrent : Timeline α).log = WriteLog.empty b concurrent := by
  cases concurrent <;> rfl

/-! ## Questions to the log -/

/-- Sorting writings in their order by start puts equal starts in that order. -/
theorem precedes_mergeSort {es : List (Entry α)} (h : Chronological es) :
    (es.mergeSort fun e f => decide (e.span.start ≤ f.span.start)).Pairwise
      Entry.Precedes := by
  have htrans := WriteLog.start_le_trans (Entry.span (α := α))
  have htotal := WriteLog.start_le_total (Entry.span (α := α))
  induction es with
  | nil => simp
  | cons e es ih =>
    obtain ⟨he, hes⟩ := List.pairwise_cons.1 h
    obtain ⟨front, back, hsorted, hrest, hfront⟩ :=
      List.mergeSort_cons htrans htotal e es
    have hmem : ∀ f ∈ front ++ back, f ∈ es := by
      intro f hf
      rw [← hrest] at hf
      exact List.mem_mergeSort.1 hf
    have hstart := List.pairwise_mergeSort htrans htotal (e :: es)
    have ih := ih hes
    rw [hsorted] at hstart ⊢
    rw [hrest] at ih
    apply WellFormed.pairwise_middle ih
    · intro f hf
      have hlt := hfront f hf
      simp only [Bool.not_eq_true', decide_eq_false_iff_not] at hlt
      exact .inl (by omega)
    · intro f hf
      have hle := (List.pairwise_cons.1 (List.pairwise_append.1 hstart).2.1).1 f hf
      simp only [decide_eq_true_eq] at hle
      have hstamp := he f (hmem f (List.mem_append_right _ hf))
      rcases Int.lt_or_eq_of_le hle with hlt | heq
      · exact .inl hlt
      · exact .inr ⟨heq, hstamp⟩

variable {l : Timeline α}

/-- The entries of a timeline are the writings of its log, sorted by start. -/
theorem byStart_log (h : l.WellFormed) : l.log.byStart = l.entries.map Entry.writing := by
  have hentries : (sortByStamp l.entries).mergeSort
      (fun e f => decide (e.span.start ≤ f.span.start)) = l.entries := by
    refine List.Perm.eq_of_pairwise ?_
      (precedes_mergeSort (chronological_sortByStamp h.stampsDiffer)) h.sorted
      ((List.mergeSort_perm _ _).trans (sortByStamp_perm l.entries))
    intro e f _ _ hef hfe
    unfold Entry.Precedes at hef hfe
    omega
  unfold WriteLog.byStart log
  simp only
  rw [← List.map_mergeSort (r := fun e f => decide (e.span.start ≤ f.span.start))
    (fun _ _ _ _ => rfl), hentries]

/-- The hits in the log are the hits in the timeline, by stamp. -/
theorem hits_log (h : l.WellFormed) (t : Int) :
    l.log.hits t = (sortByStamp (l.hits t)).map Entry.writing := by
  rw [h.hits_eq_filter, sortByStamp_filter h.stampsDiffer]
  unfold WriteLog.hits log
  simp only
  rw [List.filter_map]
  rfl

/-- The log knows the ids that the timeline knows. -/
theorem knows_log (l : Timeline α) (id : Nat) : l.log.knows id = l.knows id := by
  unfold WriteLog.knows knows log
  simp only
  rw [List.any_map, (sortByStamp_perm l.entries).any_eq]
  rfl

/-- The log names the same obstacle as the timeline, which looks at two neighbours at most. -/
theorem obstacle_log (h : l.WellFormed) (span : Span) :
    l.log.obstacle span = l.obstacle span := by
  unfold WriteLog.obstacle obstacle
  rw [byStart_log h, List.find?_map]
  cases hc : l.concurrent with
  | true => simp [log, hc]
  | false =>
    have hlog : l.log.concurrent = false := hc
    simp only [hlog, Bool.false_eq_true, if_false]
    rw [h.findOverlap_eq hc, Option.map_map]
    rfl

/-- All values at an instant are those of the hits in the log. -/
theorem lookupAll_log (h : l.WellFormed) (t : Int) :
    l.lookupAll t = (l.log.hits t).map (·.value) := by
  rw [hits_log h, List.map_map]
  rfl

/-- The value at an instant is that of the first or the last hit in the log. -/
theorem lookup_log (h : l.WellFormed) (t : Int) :
    l.lookup t =
      (if l.concurrent then (l.log.hits t).head? else (l.log.hits t).getLast?).map
        (·.value) := by
  unfold lookup
  rw [h.lookupEntry_eq, hits_log h, List.head?_map, List.getLast?_map]
  cases l.concurrent with
  | true =>
    simp only [if_true]
    rw [Option.map_map]
    rfl
  | false =>
    simp only [Bool.false_eq_true, if_false]
    rw [Option.map_map]
    rfl

/-! ## Writing to the log -/

/-- A placed entry ends the log. -/
theorem writings_place (h : l.WellFormed) (id : Nat) (span : Span) (value : α) :
    (l.place id span value).log.writings = l.log.writings ++ [⟨id, span, value⟩] := by
  have hhalves : l.startedBy span.start ++ l.startingAfter span.start = l.entries :=
    l.startedBy_append_startingAfter span.start
  unfold log place
  simp only
  rw [sortByStamp_middle, hhalves, List.map_append]
  · rfl
  · exact WellFormed.pairwise_halves h.stampsDiffer span.start
  · intro e he
    rw [hhalves] at he
    exact h.stamp_lt e he

/-- An entry that is taken away is gone from the log. -/
theorem writings_erase (h : l.WellFormed) {id : Nat} (hid : id ≠ 0) :
    (l.erase id).log.writings = l.log.writings.filter fun w => decide (w.id ≠ id) := by
  unfold log
  simp only
  rw [h.erase_eq_filter hid, sortByStamp_filter h.stampsDiffer, List.filter_map]
  rfl

/-- A replaced entry moves to the end of the log. -/
theorem writings_replace (h : l.WellFormed) {id : Nat} (hid : id ≠ 0) (span : Span)
    (value : α) :
    (l.replace id span value).log.writings =
      (l.log.writings.filter fun w => decide (w.id ≠ id)) ++ [⟨id, span, value⟩] := by
  have hmark := (h.erase id).mark (!l.concurrent && ((l.erase id).findOverlap span).isSome)
  calc (l.replace id span value).log.writings
      = (l.erase id).log.writings ++ [Writing.mk id span value] :=
        writings_place hmark id span value
    _ = (l.log.writings.filter fun w => decide (w.id ≠ id)) ++ [Writing.mk id span value] := by
        rw [writings_erase h hid]

/-- Writing to a timeline is writing to its log, with the same answer. -/
theorem log_write (h : l.WellFormed) (w : Writing α) :
    l.log.write w = ((l.write w).1.log, (l.write w).2) := by
  have hbounds : l.log.bounds = l.bounds := rfl
  unfold WriteLog.write write insert
  rw [hbounds, knows_log, obstacle_log h]
  cases hspan : l.bounds.admits w.span with
  | false => rfl
  | true =>
    simp only [if_true]
    cases hknows : l.knows w.id with
    | true =>
      simp only [if_true]
      rw [← writings_replace h (ne_zero_of_knows hknows)]
      rfl
    | false =>
      simp only [Bool.false_eq_true, if_false]
      cases l.obstacle w.span with
      | some existing => rfl
      | none =>
        simp only
        rw [← writings_place h]
        rfl

/-- A writing keeps a timeline well formed, also one that is refused. -/
theorem WellFormed.write (h : l.WellFormed) (w : Writing α) : (l.write w).1.WellFormed := by
  unfold Timeline.write
  rcases l.insert_cases w.id w.span w.value with ⟨r, hrefused⟩ | ⟨c, l', htaken⟩
  · rw [hrefused]
    exact h
  · rw [htaken]
    exact h.insert htaken

/-- A session of writings to a timeline is a session of writings to its log. -/
theorem run_write (b : Bounds) (concurrent : Bool) (ws : List (Writing α)) :
    (Session.run write (start b concurrent) ws).2 =
        (Session.run WriteLog.write (WriteLog.empty b concurrent) ws).2 ∧
      (Session.run write (start b concurrent) ws).1.WellFormed ∧
      (Session.run write (start b concurrent) ws).1.log =
        (Session.run WriteLog.write (WriteLog.empty b concurrent) ws).1 := by
  apply Session.simulation (R := fun (l : Timeline α) g => l.WellFormed ∧ l.log = g)
  · intro l g w hlg
    obtain ⟨h, rfl⟩ := hlg
    have hwrite := log_write h w
    refine ⟨?_, h.write w, ?_⟩
    · rw [hwrite]
    · rw [hwrite]
  · exact ⟨wellFormed_start b concurrent, log_start b concurrent⟩

/-- A timeline that refuses a writing is left as it was. -/
theorem write_of_error {w : Writing α} {r : Refusal} (h : (l.write w).2 = .error r) :
    (l.write w).1 = l :=
  insert_of_error h

/-- Whatever is written to a timeline, refused writings included, each answer is that of
the log, and so is what it holds at every instant and in which order: all hits in the
order of writing, of them the last one if overlaps are refused and the first one if they
are taken, and the writings by start. -/
theorem run_refines_log (b : Bounds) (concurrent : Bool) (ws : List (Writing α)) :
    let l := Session.run write (start b concurrent) ws
    let g := Session.run WriteLog.write (WriteLog.empty b concurrent) ws
    l.2 = g.2 ∧
      (∀ w r, (l.1.write w).2 = .error r → (l.1.write w).1 = l.1) ∧
      (∀ t, l.1.lookupAll t = (g.1.hits t).map (·.value)) ∧
      (∀ t, l.1.lookup t =
        (if concurrent then (g.1.hits t).head? else (g.1.hits t).getLast?).map (·.value)) ∧
      l.1.entries.map Entry.writing = g.1.byStart ∧
      l.1.size = g.1.writings.length := by
  intro l g
  obtain ⟨hanswers, hwell, hlog⟩ := run_write b concurrent ws
  have hconcurrent : l.1.concurrent = concurrent := by
    have hkind := WriteLog.concurrent_run (WriteLog.empty b concurrent) ws
    rw [← hlog] at hkind
    exact hkind
  refine ⟨hanswers, fun w r => write_of_error, ?_, ?_, ?_, ?_⟩
  · intro t
    rw [lookupAll_log hwell, hlog]
  · intro t
    rw [lookup_log hwell, hlog, hconcurrent]
  · rw [← byStart_log hwell, hlog]
  · have hlength := congrArg List.length (byStart_log hwell)
    rw [hlog, List.length_map] at hlength
    unfold size
    rw [← hlength]
    exact List.length_mergeSort _

end Timeline
end Tariff
