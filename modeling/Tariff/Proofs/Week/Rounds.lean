import Tariff.Proofs.Week.Slots

/-!
# The rounds of a cut

Two loops cut a call: one goes from day slice to day slice, the other from piece to piece of a
slice.  Neither is told how often it may go round.  That both come to an end rests on the
cursor: the range that is found at a minute holds it, so that a piece ends no earlier than it
begins, and a local midnight lies at most a day ahead.  A call that is short enough has at most
32 slices, and the first one that begins outside the calendar is the one it is refused for.

Main results:

- Theorem {lit}`WeekModel.passes_nextPiece`: the loop over a slice goes round once for each
  segment.
- Theorem {lit}`WeekModel.cutFrom_eq_foldr`: the loop over a call goes round once for each slice.
- Theorem {lit}`WeekModel.length_sliceStarts_le`: there are at most 32 slices.
- Theorem {lit}`WeekModel.cut_ends_by_outcome`: how a cut ends, and which of its outcomes it has.
-/

namespace Tariff

/-! ## Loops with a cursor -/

/-- Each round of the loop begins in front of a bound and moves the cursor on. -/
def Advances (next : Int → Option Int) (bound : Int) : Prop :=
  ∀ cursor cursor', next cursor = some cursor' → cursor < bound ∧ cursor + 1 ≤ cursor'

/-- The loop goes round at these cursors, one after the other, and then it is over. -/
inductive Passes (next : Int → Option Int) : Int → List Int → Prop
  | ended {cursor : Int} : next cursor = none → Passes next cursor []
  | round {cursor cursor' : Int} {cursors : List Int} :
      next cursor = some cursor' → Passes next cursor' cursors →
      Passes next cursor (cursor :: cursors)

/-- The cursors of a loop that advances stand in order. -/
theorem Passes.pairwise_lt {next : Int → Option Int} {bound cursor : Int} {cursors : List Int}
    (h : Passes next cursor cursors) (hnext : Advances next bound) :
    (∀ t ∈ cursors, cursor ≤ t) ∧ cursors.Pairwise (· < ·) := by
  induction h with
  | ended _ => exact ⟨List.forall_mem_nil _, List.Pairwise.nil⟩
  | @round cursor cursor' cursors hround _ ih =>
    obtain ⟨hlater, hordered⟩ := ih
    have hstep := (hnext cursor cursor' hround).2
    have hlt : ∀ t ∈ cursors, cursor < t := by
      intro t ht
      have := hlater t ht
      omega
    refine ⟨List.forall_mem_cons.2 ⟨Int.le_refl _, fun t ht => ?_⟩,
      List.pairwise_cons.2 ⟨hlt, hordered⟩⟩
    exact Int.le_of_lt (hlt t ht)

/-- The first of some instants that stand in order is the earliest one. -/
theorem find?_eq_some_iff_of_pairwise_lt {p : Int → Bool} {ts : List Int}
    (h : ts.Pairwise (· < ·)) (t : Int) :
    ts.find? p = some t ↔ t ∈ ts ∧ p t = true ∧ ∀ u ∈ ts, u < t → p u = false := by
  induction ts with
  | nil => simp
  | cons s ts ih =>
    obtain ⟨hs, hts⟩ := List.pairwise_cons.1 h
    rw [List.find?_cons]
    cases hp : p s with
    | true =>
      constructor
      · intro heq
        cases heq
        refine ⟨List.mem_cons_self, hp, fun u hu hlt => ?_⟩
        rcases List.mem_cons.1 hu with rfl | hu
        · omega
        · have := hs u hu
          omega
      · rintro ⟨ht, _, hearlier⟩
        rcases List.mem_cons.1 ht with rfl | ht
        · rfl
        · have hnot := hearlier s List.mem_cons_self (hs t ht)
          rw [hp] at hnot
          cases hnot
    | false =>
      rw [ih hts]
      constructor
      · rintro ⟨ht, hpt, hearlier⟩
        refine ⟨List.mem_cons_of_mem s ht, hpt, List.forall_mem_cons.2 ⟨fun _ => hp, hearlier⟩⟩
      · rintro ⟨ht, hpt, hearlier⟩
        rcases List.mem_cons.1 ht with rfl | ht
        · rw [hp] at hpt
          cases hpt
        · exact ⟨ht, hpt, (List.forall_mem_cons.1 hearlier).2⟩

namespace WeekModel

/-! ## From piece to piece -/

/-- Where a slice is cut on behind the piece that begins at a second, if one does. -/
def nextPiece (m : WeekModel) (day : Nat) (last first : Int) : Option Int :=
  if first ≤ last then (m.lookupEntry day (first / 60)).map fun e => pieceEnd e last + 1
  else none

/-- Each piece has at least one second, whatever the model holds. -/
theorem advances_nextPiece (m : WeekModel) (day : Nat) (last : Int) :
    Advances (m.nextPiece day last) (last + 1) := by
  intro first first' h
  unfold nextPiece at h
  by_cases hle : first ≤ last
  · rw [if_pos hle] at h
    obtain ⟨e, he, rfl⟩ := Option.map_eq_some_iff.1 h
    have hpiece := le_pieceEnd he hle
    omega
  · rw [if_neg hle] at h
    cases h

/-- The loop over a slice goes round once for each segment, at its first second. -/
theorem passes_nextPiece (m : WeekModel) (day : Nat) (total first last : Int) :
    Passes (m.nextPiece day last) first
      ((m.cutDay day total first last).1.map Segment.startOffset) := by
  fun_induction cutDay m day total first last with
  | case1 first hle hnone =>
    refine .ended ?_
    unfold nextPiece
    rw [if_pos hle, hnone]
    rfl
  | case2 first hle e hsome stop hstop rest ih =>
    rw [List.map_cons, Segment.startOffset_between]
    refine .round ?_ ih
    unfold nextPiece
    rw [if_pos hle, hsome]
    rfl
  | case3 first hgt =>
    refine .ended ?_
    unfold nextPiece
    rw [if_neg hgt]

/-! ## From slice to slice -/

/-- Where a call is cut on behind the slice that begins at an instant, if one does. -/
def nextSlice (offset stop cursor : Int) : Option Int :=
  if cursor < stop then some (min stop (nextMidnight offset cursor)) else none

/-- Each slice has at least one second. -/
theorem lt_sliceEnd (offset : Int) {stop cursor : Int} (h : cursor < stop) :
    cursor < min stop (nextMidnight offset cursor) :=
  lt_min h (lt_nextMidnight offset cursor)

/-- Each slice gets further than the one before it, and not beyond the end. -/
theorem advances_nextSlice (offset stop : Int) : Advances (nextSlice offset stop) stop := by
  intro cursor cursor' h
  unfold nextSlice at h
  by_cases hlt : cursor < stop
  · rw [if_pos hlt] at h
    cases h
    have := lt_sliceEnd offset hlt
    omega
  · rw [if_neg hlt] at h
    cases h

/-- The instants at which the slices of a call begin, from a cursor on. -/
def sliceStarts (offset stop cursor : Int) : List Int :=
  if hlt : cursor < stop then
    let next := min stop (nextMidnight offset cursor)
    have : cursor < next := lt_sliceEnd offset hlt
    cursor :: sliceStarts offset stop next
  else []
termination_by (stop - cursor).toNat
decreasing_by omega

/-- A slice starts at the cursor, and the others behind it. -/
theorem sliceStarts_of_lt {offset stop cursor : Int} (h : cursor < stop) :
    sliceStarts offset stop cursor =
      cursor :: sliceStarts offset stop (min stop (nextMidnight offset cursor)) := by
  conv_lhs => unfold sliceStarts
  rw [dif_pos h]

/-- No slice starts at the end or behind it. -/
theorem sliceStarts_of_le {offset stop cursor : Int} (h : stop ≤ cursor) :
    sliceStarts offset stop cursor = [] := by
  unfold sliceStarts
  rw [dif_neg (by omega)]

/-- The loop over a call goes round at the start of each slice. -/
theorem passes_nextSlice (offset stop cursor : Int) :
    Passes (nextSlice offset stop) cursor (sliceStarts offset stop cursor) := by
  fun_induction sliceStarts offset stop cursor with
  | case1 cursor hlt next hnext ih =>
    refine .round ?_ ih
    unfold nextSlice
    rw [if_pos hlt]
  | case2 cursor hge =>
    refine .ended ?_
    unfold nextSlice
    rw [if_neg hge]

/-- A slice of the call from {lit}`start` up to {lit}`stop` begins at an instant: the call itself
does, or it goes on over the local midnight there. -/
def IsSliceStart (offset start stop t : Int) : Prop :=
  t = start ∨ start < t ∧ t < stop ∧ secondOfDay offset t = 0

/-- The slices start at the first instant and at each local midnight behind it. -/
theorem mem_sliceStarts_iff {offset stop cursor : Int} (h : cursor < stop) (t : Int) :
    t ∈ sliceStarts offset stop cursor ↔ IsSliceStart offset cursor stop t := by
  fun_induction sliceStarts offset stop cursor with
  | case1 cursor hlt next hnext ih =>
    rw [List.mem_cons]
    by_cases hmore : nextMidnight offset cursor < stop
    · have hnextEq : next = nextMidnight offset cursor := Int.min_eq_right (Int.le_of_lt hmore)
      rw [hnextEq] at ih ⊢
      rw [ih hmore]
      -- No local midnight lies between an instant and the next midnight.
      unfold IsSliceStart
      simp only [nextMidnight, secondOfDay, secondsPerDay] at hmore ⊢
      omega
    · have hnextEq : next = stop := Int.min_eq_left (Int.not_lt.1 hmore)
      rw [hnextEq, sliceStarts_of_le (Int.le_refl stop)]
      unfold IsSliceStart
      simp only [List.not_mem_nil, or_false]
      simp only [nextMidnight, secondOfDay, secondsPerDay] at hmore ⊢
      omega
  | case2 cursor hge => exact absurd h hge

/-- A call has a slice for each local day that it meets. -/
theorem length_sliceStarts {offset stop cursor : Int} (h : cursor < stop) :
    ((sliceStarts offset stop cursor).length : Int) =
      localDay offset (stop - 1) - localDay offset cursor + 1 := by
  fun_induction sliceStarts offset stop cursor with
  | case1 cursor hlt next hnext ih =>
    rw [List.length_cons]
    by_cases hmore : nextMidnight offset cursor < stop
    · have hnextEq : next = nextMidnight offset cursor := Int.min_eq_right (Int.le_of_lt hmore)
      rw [hnextEq] at ih ⊢
      have hrest := ih hmore
      rw [localDay_nextMidnight] at hrest
      omega
    · have hnextEq : next = stop := Int.min_eq_left (Int.not_lt.1 hmore)
      rw [hnextEq, sliceStarts_of_le (Int.le_refl stop)]
      simp only [nextMidnight, secondOfDay, localDay, secondsPerDay, List.length_nil] at hmore ⊢
      omega
  | case2 cursor hge => exact absurd h hge

/-- A call that is not too long has at most 32 slices: 31 days from any second of a day on meet
one day more. -/
theorem length_sliceStarts_le {offset start stop : Int} (h : start < stop)
    (hspan : stop - start ≤ maxSpan) : (sliceStarts offset stop start).length ≤ 32 := by
  have hlength : ((sliceStarts offset stop start).length : Int) = _ := length_sliceStarts h
  simp only [localDay, maxSpan, secondsPerDay] at hlength hspan
  omega

/-! ## What the rounds do -/

/-- The instant lies in the calendar. -/
def InCalendar (t : Int) : Prop :=
  Bounds.closed.contains calendar t = true

instance (t : Int) : Decidable (InCalendar t) :=
  inferInstanceAs (Decidable (_ = _))

/-- The slice that begins at an instant, and then what the later ones are cut into. -/
def cutSlice (m : WeekModel) (offset total stop cursor : Int) (rest : Cut) : Cut :=
  if InCalendar cursor then
    let first := secondOfDay offset cursor
    let day := m.cutDay (weekday offset cursor) total first
      (first + (min stop (nextMidnight offset cursor) - cursor) - 1)
    { segments := day.1 ++ rest.segments
      gaps := day.2.toNat + rest.gaps
      fault := rest.fault }
  else ⟨[], 0, some (.outOfRange cursor)⟩

/-- The loop over a call cuts one slice after the other. -/
theorem cutFrom_eq_foldr (m : WeekModel) (offset total stop cursor : Int) :
    m.cutFrom offset total stop cursor =
      (sliceStarts offset stop cursor).foldr (m.cutSlice offset total stop) ⟨[], 0, none⟩ := by
  fun_induction cutFrom m offset total stop cursor with
  | case1 cursor hlt hcalendar sliceStop hslice first day rest ih =>
    have hinside : InCalendar cursor := hcalendar
    rw [sliceStarts_of_lt hlt, List.foldr_cons, ← ih, cutSlice, if_pos hinside]
  | case2 cursor hlt hcalendar =>
    have houtside : ¬ InCalendar cursor := hcalendar
    rw [sliceStarts_of_lt hlt, List.foldr_cons, cutSlice, if_neg houtside]
  | case3 cursor hge =>
    rw [sliceStarts_of_le (Int.not_lt.1 hge)]
    rfl

/-- Slices that are cut one after the other are refused for the first one that begins outside
the calendar. -/
theorem fault_foldr_cutSlice (m : WeekModel) (offset total stop : Int) (cursors : List Int) :
    (cursors.foldr (m.cutSlice offset total stop) ⟨[], 0, none⟩).fault =
      (cursors.find? fun t => decide (¬ InCalendar t)).map .outOfRange := by
  induction cursors with
  | nil => rfl
  | cons cursor cursors ih =>
    rw [List.foldr_cons, List.find?_cons]
    unfold cutSlice
    by_cases hcalendar : InCalendar cursor
    · simp only [hcalendar, if_true, not_true_eq_false, decide_false]
      exact ih
    · simp only [hcalendar, if_false, not_false_eq_true, decide_true]
      rfl

/-- The first slice that begins outside the calendar begins at an instant. -/
structure IsFirstOutside (offset start stop t : Int) : Prop where
  starts : IsSliceStart offset start stop t
  outside : ¬ InCalendar t
  earlier : ∀ u, IsSliceStart offset start stop u → u < t → InCalendar u

/-- A call that is cut is refused for the first slice that begins outside the calendar. -/
theorem cutFrom_fault_eq_some_iff (m : WeekModel) (offset total : Int) {start stop : Int}
    (h : start < stop) (f : CutFault) :
    (m.cutFrom offset total stop start).fault = some f ↔
      ∃ t, IsFirstOutside offset start stop t ∧ f = .outOfRange t := by
  have hordered := ((passes_nextSlice offset stop start).pairwise_lt
    (advances_nextSlice offset stop)).2
  rw [cutFrom_eq_foldr, fault_foldr_cutSlice, Option.map_eq_some_iff]
  refine exists_congr fun t => and_congr ?_ eq_comm
  rw [find?_eq_some_iff_of_pairwise_lt hordered]
  simp only [mem_sliceStarts_iff h, decide_eq_true_eq, decide_eq_false_iff_not, not_not]
  exact ⟨fun ⟨hstarts, houtside, hearlier⟩ => ⟨hstarts, houtside, hearlier⟩,
    fun ⟨hstarts, houtside, hearlier⟩ => ⟨hstarts, houtside, hearlier⟩⟩

/-- A call that is cut is not refused if all of its slices begin in the calendar. -/
theorem cutFrom_fault_eq_none_iff (m : WeekModel) (offset total : Int) {start stop : Int}
    (h : start < stop) :
    (m.cutFrom offset total stop start).fault = none ↔
      ∀ t, IsSliceStart offset start stop t → InCalendar t := by
  rw [cutFrom_eq_foldr, fault_foldr_cutSlice, Option.map_eq_none_iff, List.find?_eq_none]
  simp only [mem_sliceStarts_iff h, decide_eq_true_eq, not_not]

/-! ## How a cut ends -/

/-- The loops that cut a call come to an end: each round of them moves the cursor on, and the
rounds are those of the segments and of the slices. -/
structure CutsInRounds (m : WeekModel) (offset start stop : Int) : Prop where
  advances_piece : ∀ day last, Advances (m.nextPiece day last) (last + 1)
  passes_piece : ∀ day total first last, Passes (m.nextPiece day last) first
    ((m.cutDay day total first last).1.map Segment.startOffset)
  advances_slice : Advances (nextSlice offset stop) stop
  passes_slice : Passes (nextSlice offset stop) start (sliceStarts offset stop start)
  length_le : stop - start ≤ maxSpan → (sliceStarts offset stop start).length ≤ 32
  cutFrom_eq : ∀ total, m.cutFrom offset total stop start =
    (sliceStarts offset stop start).foldr (m.cutSlice offset total stop) ⟨[], 0, none⟩

/-- Every call is cut in rounds. -/
theorem cutsInRounds (m : WeekModel) (offset : Int) {start stop : Int} (h : start < stop) :
    m.CutsInRounds offset start stop where
  advances_piece := m.advances_nextPiece
  passes_piece := m.passes_nextPiece
  advances_slice := advances_nextSlice offset stop
  passes_slice := passes_nextSlice offset stop start
  length_le := length_sliceStarts_le h
  cutFrom_eq total := m.cutFrom_eq_foldr offset total stop start

/-- The length of a call, which is one second at least. -/
theorem callEnd_sub (start stop : Int) : callEnd start stop - start = max 1 (stop - start) := by
  unfold callEnd
  omega

/-- A cut is refused exactly with its fault. -/
theorem Cut.result_eq_error_iff (c : Cut) (f : CutFault) :
    c.result = .error f ↔ c.fault = some f := by
  unfold Cut.result
  cases c.fault with
  | none => simp
  | some g => simp

/-- How a call is refused, or that it is not. -/
theorem cut_fault_eq_some_iff (m : WeekModel) (offset start stop : Int) (f : CutFault) :
    (m.cut offset start stop).fault = some f ↔
      (stop < start ∧ f = .reversed start stop) ∨
      (start ≤ stop ∧ maxSpan < max 1 (stop - start) ∧ f = .tooWide (max 1 (stop - start))) ∨
      (start ≤ stop ∧ max 1 (stop - start) ≤ maxSpan ∧
        ∃ t, IsFirstOutside offset start (callEnd start stop) t ∧ f = .outOfRange t) := by
  by_cases hreversed : stop < start
  · have hnot : ¬ start ≤ stop := by omega
    rw [cut_of_lt m offset hreversed]
    simp [hreversed, hnot, eq_comm]
  · have hle : start ≤ stop := Int.not_lt.1 hreversed
    rw [cut_of_le m offset hle, callEnd_sub]
    by_cases hwide : maxSpan < max 1 (stop - start)
    · have hnot : ¬ max 1 (stop - start) ≤ maxSpan := by omega
      rw [if_pos hwide]
      simp only [hreversed, hle, hwide, hnot, false_and, and_false, or_false, false_or, true_and,
        Option.some_inj]
      exact eq_comm
    · rw [if_neg hwide, cutFrom_fault_eq_some_iff m offset _ (lt_callEnd start stop)]
      simp only [hreversed, hle, hwide, Int.not_lt.1 hwide, false_and, and_false, false_or,
        true_and]

/-- When a call is not refused. -/
theorem cut_fault_eq_none_iff (m : WeekModel) (offset start stop : Int) :
    (m.cut offset start stop).fault = none ↔
      start ≤ stop ∧ max 1 (stop - start) ≤ maxSpan ∧
        ∀ t, IsSliceStart offset start (callEnd start stop) t → InCalendar t := by
  by_cases hreversed : stop < start
  · rw [cut_of_lt m offset hreversed]
    refine iff_of_false (fun h => nomatch h) ?_
    rintro ⟨hle, _⟩
    omega
  · have hle : start ≤ stop := Int.not_lt.1 hreversed
    rw [cut_of_le m offset hle, callEnd_sub]
    by_cases hwide : maxSpan < max 1 (stop - start)
    · rw [if_pos hwide]
      refine iff_of_false (fun h => nomatch h) ?_
      rintro ⟨_, hfits, _⟩
      omega
    · rw [if_neg hwide, cutFrom_fault_eq_none_iff m offset _ (lt_callEnd start stop)]
      exact ⟨fun h => ⟨hle, Int.not_lt.1 hwide, h⟩, fun ⟨_, _, h⟩ => h⟩

/-- An interval of the model holds the minute in which an instant lies. -/
def Covers (m : WeekModel) (offset t : Int) : Prop :=
  ∃ e ∈ m.intervals (weekday offset t),
    e.span.start ≤ secondOfDay offset t / 60 ∧ secondOfDay offset t / 60 ≤ e.span.stop

instance (m : WeekModel) (offset t : Int) : Decidable (m.Covers offset t) :=
  inferInstanceAs (Decidable (∃ e ∈ m.intervals (weekday offset t), _))

/-- Where a model covers an instant, an interval is found. -/
theorem exists_lookupEntry_of_covers {m : WeekModel} (hm : m.Built) {offset t : Int}
    (h : m.Covers offset t) :
    ∃ e, m.lookupEntry (weekday offset t) (secondOfDay offset t / 60) = some e := by
  obtain ⟨e, he, hminute⟩ := h
  have hslot : slot e ∈ m.slots (weekday offset t) :=
    Multiset.mem_coe.2 (List.mem_map_of_mem he)
  obtain ⟨found, hfound, _⟩ := Option.map_eq_some_iff.1
    ((hm.lookupEntry_eq_some_iff _ _ (slot e)).2 ⟨hslot, hminute⟩)
  exact ⟨found, hfound⟩

/-- A call whose first minute is covered is cut into a segment at least. -/
theorem cutFrom_segments_ne_nil {m : WeekModel} (hm : m.Built) (offset total : Int)
    {start stop : Int} (h : start < stop) (hcalendar : InCalendar start)
    (hcovers : m.Covers offset start) : (m.cutFrom offset total stop start).segments ≠ [] := by
  obtain ⟨e, he⟩ := exists_lookupEntry_of_covers hm hcovers
  have hmidnight := lt_nextMidnight offset start
  rw [cutFrom_eq_foldr, sliceStarts_of_lt h, List.foldr_cons, cutSlice, if_pos hcalendar]
  simp only
  rw [cutDay_of_some (by omega) he]
  exact List.cons_ne_nil _ _

/-- The answer to a call whose first minute is covered is not empty. -/
theorem cut_result_ne_nil {m : WeekModel} (hm : m.Built) {offset start : Int} (stop : Int)
    (hcovers : m.Covers offset start) : (m.cut offset start stop).result ≠ .ok [] := by
  intro hnil
  obtain ⟨hfault, hsegments⟩ := (Cut.result_eq_ok_iff _ _).1 hnil
  obtain ⟨hle, hspan, hcalendar⟩ := (m.cut_fault_eq_none_iff offset start stop).1 hfault
  rw [cut_of_le m offset hle, callEnd_sub, if_neg (Int.not_lt.2 hspan)] at hsegments
  exact cutFrom_segments_ne_nil hm offset _ (lt_callEnd start stop) (hcalendar start (.inl rfl))
    hcovers hsegments.symm

/-- How a cut ends.  The loops come to an end after as many rounds as there are segments and
slices, whatever the model holds.  A call is refused because it runs backwards, else because it
is too long, else for its first slice that begins outside the calendar, and else it is answered
with segments, of which there are some if the model covers the first minute. -/
theorem cut_ends_by_outcome (m : WeekModel) (offset start stop : Int) :
    m.CutsInRounds offset start (callEnd start stop) ∧
    (∀ a b, (m.cut offset start stop).result = .error (.reversed a b) ↔
      stop < start ∧ a = start ∧ b = stop) ∧
    (∀ seconds, (m.cut offset start stop).result = .error (.tooWide seconds) ↔
      start ≤ stop ∧ maxSpan < max 1 (stop - start) ∧ seconds = max 1 (stop - start)) ∧
    (∀ t, (m.cut offset start stop).result = .error (.outOfRange t) ↔
      start ≤ stop ∧ max 1 (stop - start) ≤ maxSpan ∧
        IsFirstOutside offset start (callEnd start stop) t) ∧
    ((∃ segments, (m.cut offset start stop).result = .ok segments) ↔
      start ≤ stop ∧ max 1 (stop - start) ≤ maxSpan ∧
        ∀ t, IsSliceStart offset start (callEnd start stop) t → InCalendar t) ∧
    (m.Built → m.Covers offset start → (m.cut offset start stop).result ≠ .ok []) := by
  have hfault := m.cut_fault_eq_some_iff offset start stop
  refine ⟨m.cutsInRounds offset (lt_callEnd start stop), fun a b => ?_, fun seconds => ?_,
    fun t => ?_, ?_, fun hm hcovers => cut_result_ne_nil hm stop hcovers⟩
  · rw [Cut.result_eq_error_iff, hfault]
    simp
  · rw [Cut.result_eq_error_iff, hfault]
    simp
  · rw [Cut.result_eq_error_iff, hfault]
    simp
  · rw [← m.cut_fault_eq_none_iff offset start stop]
    exact ⟨fun ⟨segments, h⟩ => ((Cut.result_eq_ok_iff _ segments).1 h).1,
      fun h => ⟨_, (Cut.result_eq_ok_iff _ _).2 ⟨h, rfl⟩⟩⟩

/-- A call over the last midnight of the calendar is refused for the day slice behind it, and a
call of no length in a minute that is covered is answered. -/
theorem cut_past_calendar : ∃ m : WeekModel, m.Built ∧
    (m.cut 3600 8210266876700 8210266960000).result = .error (.outOfRange 8210266959600) ∧
    m.Covers 3600 1704578370 ∧ (m.cut 3600 1704578370 1704578370).result ≠ .ok [] := by
  have hm : WeekModel.Built _ := .add 6 1320 0 "night" (.empty "M") rfl
  refine ⟨_, hm, ?_, ?_⟩
  · refine ((cut_ends_by_outcome _ 3600 8210266876700 8210266960000).2.2.2.1 _).2
      ⟨by decide, by decide, .inr (by decide), by decide, fun u hu hlt => ?_⟩
    rcases hu with rfl | ⟨hlater, _, hmidnight⟩
    · decide
    · -- The local midnight before is 82800 seconds ahead of the start.
      simp only [secondOfDay, secondsPerDay] at hmidnight
      omega
  · suffices hcovers : Covers _ 3600 1704578370 from
      ⟨hcovers, (cut_ends_by_outcome _ 3600 1704578370 1704578370).2.2.2.2.2 hm hcovers⟩
    decide

end WeekModel
end Tariff
