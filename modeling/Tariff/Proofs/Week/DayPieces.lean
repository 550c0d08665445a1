import Mathlib.Data.Int.Range
import Mathlib.Data.List.Basic
import Tariff.Proofs.Week.Built
import Tariff.Week.Segment

/-!
# Days and their pieces

What a call should be cut into, said without any cursor: for each local day that the call
meets, the seconds of that day that lie in the call are shared out among the intervals
of the weekday, and the pieces are kept as long as each begins right behind the one
before it.

Main results:

- Theorem {lit}`WeekModel.cutDay_fst`: the pieces of a day slice are the unbroken ones.
- Theorem {lit}`WeekModel.cutFrom_eq`: cutting from an instant on goes through the local
  days from there.
- Theorem {lit}`WeekModel.cut_result_eq_ok_iff`: when a call is cut, and into what.
-/

namespace Tariff

/-- Some seconds of a day, both ends included, with the result that holds in them. -/
structure Piece where
  first : Int
  last : Int
  result : String
deriving DecidableEq, Repr

namespace Piece

/-- The seconds that an interval shares with those from {lit}`first` to {lit}`last`, if
there are any.  An interval owns every second of its last minute. -/
def shared? (first last : Int) (e : Entry String) : Option Piece :=
  let lo := max first (60 * e.span.start)
  let hi := min last (60 * e.span.stop + 59)
  if lo ≤ hi then some ⟨lo, hi, e.value⟩ else none

/-- The pieces from the front on, as long as the first one begins at {lit}`first` and
each other one a second after the end of the one before it. -/
def unbroken (first : Int) : List Piece → List Piece
  | [] => []
  | p :: ps => if p.first = first then p :: unbroken (p.last + 1) ps else []

/-- The segment of a piece on a weekday. -/
def segment (day : Nat) (total : Int) (p : Piece) : Segment :=
  Segment.between day p.first p.last p.result total

/-- The piece that an interval has of a day is what both share, if there is any. -/
theorem shared?_eq_some_iff (first last : Int) (e : Entry String) (p : Piece) :
    shared? first last e = some p ↔
      p.first = max first (60 * e.span.start) ∧
        p.last = min last (60 * e.span.stop + 59) ∧ p.first ≤ p.last ∧
          p.result = e.value := by
  obtain ⟨lo, hi, result⟩ := p
  simp only [shared?]
  split
  · simp only [Option.some.injEq, Piece.mk.injEq]
    constructor
    · rintro ⟨rfl, rfl, rfl⟩
      exact ⟨rfl, rfl, by omega, rfl⟩
    · rintro ⟨rfl, rfl, _, rfl⟩
      exact ⟨rfl, rfl, rfl⟩
  · simp only [reduceCtorEq, false_iff]
    rintro ⟨rfl, rfl, hle, _⟩
    omega

/-- An interval that is over before the seconds begin shares none of them. -/
theorem shared?_eq_none_of_before {first last : Int} {e : Entry String}
    (h : 60 * e.span.stop + 59 < first) : shared? first last e = none := by
  unfold shared?
  rw [if_neg (by omega)]

/-- Where the seconds begin does not matter to an interval that starts later. -/
theorem shared?_congr_of_after {first first' last : Int} {e : Entry String}
    (h : first ≤ 60 * e.span.start) (h' : first' ≤ 60 * e.span.start) :
    shared? first last e = shared? first' last e := by
  unfold shared?
  rw [Int.max_eq_right h, Int.max_eq_right h']

end Piece

namespace WeekModel

open Piece

/-- The intervals of a weekday, by start. -/
def intervals (m : WeekModel) (day : Nat) : List (Entry String) :=
  match m.day? day with
  | some l => l.entries
  | none => []

/-- The pieces of the seconds from {lit}`first` to {lit}`last` of a weekday, up to the
first second that no interval covers. -/
def dayPieces (m : WeekModel) (day : Nat) (first last : Int) : List Piece :=
  unbroken first ((m.intervals day).filterMap (shared? first last))

/-! ## One day -/

/-- Where no interval covers the first second, no piece begins there. -/
theorem unbroken_eq_nil {first last : Int} {es : List (Entry String)}
    (h : ∀ e ∈ es, ¬ (e.span.start ≤ first / 60 ∧ first / 60 ≤ e.span.stop)) :
    unbroken first (es.filterMap (shared? first last)) = [] := by
  cases hpieces : es.filterMap (shared? first last) with
  | nil => rfl
  | cons p ps =>
    have hp : p ∈ es.filterMap (shared? first last) := by
      rw [hpieces]
      exact List.mem_cons_self
    obtain ⟨e, he, hshared⟩ := List.mem_filterMap.1 hp
    obtain ⟨hfirst, hlast, hle, _⟩ := (shared?_eq_some_iff first last e p).1 hshared
    have huncovered := h e he
    have hne : ¬ p.first = first := by omega
    simp [unbroken, hne]

/-- The interval that covers the first second has the first piece, and the others go on
where it ends. -/
theorem unbroken_eq_cons {first last : Int} {front back : List (Entry String)}
    {e : Entry String} (hle : first ≤ last) (hstart : e.span.start ≤ first / 60)
    (hstop : first / 60 ≤ e.span.stop) (hfront : ∀ f ∈ front, f.span.stop < e.span.start)
    (hback : ∀ f ∈ back, e.span.stop < f.span.start) :
    unbroken first ((front ++ e :: back).filterMap (shared? first last)) =
      ⟨first, pieceEnd e last, e.value⟩ ::
        unbroken (pieceEnd e last + 1)
          ((front ++ e :: back).filterMap (shared? (pieceEnd e last + 1) last)) := by
  have hend : pieceEnd e last = min last (60 * e.span.stop + 59) := by
    unfold pieceEnd
    omega
  have hnone : ∀ from', first ≤ from' →
      front.filterMap (shared? from' last) = [] := by
    intro from' hfrom
    rw [List.filterMap_eq_nil_iff]
    intro f hf
    have := hfront f hf
    exact shared?_eq_none_of_before (by omega)
  have hown : shared? first last e = some ⟨first, pieceEnd e last, e.value⟩ := by
    rw [shared?_eq_some_iff]
    exact ⟨by simp only; omega, hend, by simp only; omega, rfl⟩
  have hspent : shared? (pieceEnd e last + 1) last e = none := by
    rw [Option.eq_none_iff_forall_ne_some]
    intro p hp
    obtain ⟨hfirst, hlast, hpieces, _⟩ := (shared?_eq_some_iff _ last e p).1 hp
    omega
  have hrest : back.filterMap (shared? first last) =
      back.filterMap (shared? (pieceEnd e last + 1) last) := by
    apply List.filterMap_congr
    intro f hf
    have := hback f hf
    apply shared?_congr_of_after <;> omega
  rw [List.filterMap_append, List.filterMap_append, hnone first (by omega),
    hnone (pieceEnd e last + 1) (by omega), List.filterMap_cons_some hown,
    List.filterMap_cons_none hspent, hrest]
  simp [unbroken]

/-- Where no interval covers the first second, the day has no pieces. -/
theorem dayPieces_of_none {m : WeekModel} (hm : m.Built) {day : Nat} {first : Int}
    (h : m.lookupEntry day (first / 60) = none) (last : Int) :
    m.dayPieces day first last = [] := by
  unfold lookupEntry at h
  unfold dayPieces intervals
  cases hl : m.day? day with
  | none => rfl
  | some l =>
    rw [hl] at h
    exact unbroken_eq_nil (((hm.isRoster hl).lookupEntry_eq_none_iff (first / 60)).1 h)

/-- The interval that covers the first second has the first piece of the day. -/
theorem dayPieces_of_some {m : WeekModel} (hm : m.Built) {day : Nat} {first last : Int}
    {e : Entry String} (hle : first ≤ last)
    (h : m.lookupEntry day (first / 60) = some e) :
    m.dayPieces day first last =
      ⟨first, pieceEnd e last, e.value⟩ :: m.dayPieces day (pieceEnd e last + 1) last := by
  obtain ⟨l, hl, he⟩ := Option.bind_eq_some_iff.1 h
  have hroster := hm.isRoster hl
  have hintervals : m.intervals day = l.entries := by
    unfold intervals
    rw [hl]
  obtain ⟨hmem, hstart, hminute⟩ := (hroster.lookupEntry_eq_some_iff (first / 60) e).1 he
  obtain ⟨front, back, hsplit⟩ := List.append_of_mem hmem
  have hdisjoint := hroster.stop_lt_start
  rw [hsplit] at hdisjoint
  obtain ⟨_, hback, hfront⟩ := List.pairwise_append.1 hdisjoint
  unfold dayPieces
  rw [hintervals, hsplit]
  exact unbroken_eq_cons hle hstart hminute
    (fun f hf => hfront f hf e List.mem_cons_self) (List.pairwise_cons.1 hback).1

/-- No seconds have no pieces. -/
theorem dayPieces_of_lt (m : WeekModel) (day : Nat) {first last : Int} (h : last < first) :
    m.dayPieces day first last = [] := by
  have hnil : (m.intervals day).filterMap (shared? first last) = [] := by
    rw [List.filterMap_eq_nil_iff]
    intro e _
    unfold shared?
    rw [if_neg (by omega)]
  unfold dayPieces
  rw [hnil]
  rfl

/-- The pieces of a day slice are the unbroken ones.  Each round takes the piece of one interval.
-/
theorem cutDay_fst {m : WeekModel} (hm : m.Built) (day : Nat) (total first last : Int) :
    (m.cutDay day total first last).1 =
      (m.dayPieces day first last).map (Piece.segment day total) := by
  fun_induction cutDay m day total first last with
  | case1 first hle hnone =>
    rw [dayPieces_of_none hm hnone]
    rfl
  | case2 first hle e hsome stop hstop rest ih =>
    rw [dayPieces_of_some hm hle hsome, List.map_cons, ← ih]
    rfl
  | case3 first hgt =>
    rw [m.dayPieces_of_lt day (by omega)]
    rfl

/-! ## Many days -/

/-- The local day of an instant, counted from the one of instant 0 at no offset. -/
def localDay (offset instant : Int) : Int :=
  (instant + offset) / secondsPerDay

/-- The weekday of a local day, 0 for Sunday.  Day 0 is a Thursday. -/
def dayOfWeek (d : Int) : Nat :=
  ((d + 4) % 7).toNat

/-- The instant at which a local day begins. -/
def midnight (offset d : Int) : Int :=
  d * secondsPerDay - offset

/-- The local days that meet the span from {lit}`start` up to {lit}`stop`, in order. -/
def localDays (offset start stop : Int) : List Int :=
  Int.range (localDay offset start) (localDay offset (stop - 1) + 1)

/-- The segments of a local day: of its seconds that lie in the span. -/
def daySegments (m : WeekModel) (offset total start stop d : Int) : List Segment :=
  let first := max 0 (start - midnight offset d)
  let last := min (secondsPerDay - 1) (stop - 1 - midnight offset d)
  (m.dayPieces (dayOfWeek d) first last).map (Piece.segment (dayOfWeek d) total)

/-- The segments of all local days that the span meets. -/
def segmentsByDay (m : WeekModel) (offset total start stop : Int) : List Segment :=
  (localDays offset start stop).flatMap (m.daySegments offset total start stop)

/-- There are seven days in a week. -/
theorem dayOfWeek_lt (d : Int) : dayOfWeek d < 7 := by
  unfold dayOfWeek
  omega

/-- An instant does not lie in front of its midnight. -/
theorem midnight_localDay_le (offset t : Int) : midnight offset (localDay offset t) ≤ t := by
  simp only [midnight, localDay, secondsPerDay]
  omega

/-- Later days have later midnights. -/
theorem midnight_le_midnight {offset d d' : Int} (h : d ≤ d') :
    midnight offset d ≤ midnight offset d' := by
  simp only [midnight, secondsPerDay]
  omega

/-- The second of the day is the distance to midnight. -/
theorem secondOfDay_eq (offset t : Int) :
    secondOfDay offset t = t - midnight offset (localDay offset t) := by
  simp only [secondOfDay, midnight, localDay, secondsPerDay]
  omega

/-- The next midnight is that of the day behind. -/
theorem nextMidnight_eq (offset t : Int) :
    nextMidnight offset t = midnight offset (localDay offset t + 1) := by
  simp only [nextMidnight, secondOfDay, midnight, localDay, secondsPerDay]
  omega

/-- The next midnight lies on the day behind. -/
theorem localDay_nextMidnight (offset t : Int) :
    localDay offset (nextMidnight offset t) = localDay offset t + 1 := by
  simp only [nextMidnight, secondOfDay, localDay, secondsPerDay]
  omega

/-- A range with something in it starts with its lower end. -/
theorem range_eq_cons {m n : Int} (h : m < n) : Int.range m n = m :: Int.range (m + 1) n := by
  obtain ⟨k, hk⟩ : ∃ k : Nat, (n - m).toNat = k + 1 := ⟨(n - m).toNat - 1, by omega⟩
  have hk' : (n - (m + 1)).toNat = k := by omega
  unfold Int.range
  rw [hk, hk', List.range_succ_eq_map, List.map_cons, List.map_map]
  refine congrArg₂ List.cons (by simp) (List.map_congr_left fun i _ => ?_)
  simp only [Function.comp_apply, Nat.succ_eq_add_one, Int.natCast_add, Int.natCast_one]
  omega

/-- A span that ends by the next midnight meets one day. -/
theorem localDays_of_le {offset start stop : Int} (hlt : start < stop)
    (h : stop ≤ nextMidnight offset start) :
    localDays offset start stop = [localDay offset start] := by
  have hday : localDay offset (stop - 1) = localDay offset start := by
    simp only [nextMidnight, secondOfDay, localDay, secondsPerDay] at h ⊢
    omega
  unfold localDays
  rw [hday, range_eq_cons (by omega)]
  simp [Int.range]

/-- A span that goes on behind the next midnight meets its first day and those of the
rest. -/
theorem localDays_of_lt {offset start stop : Int} (h : nextMidnight offset start < stop) :
    localDays offset start stop =
      localDay offset start :: localDays offset (nextMidnight offset start) stop := by
  have hle : localDay offset start ≤ localDay offset (stop - 1) := by
    simp only [nextMidnight, secondOfDay, localDay, secondsPerDay] at h ⊢
    omega
  unfold localDays
  rw [localDay_nextMidnight, range_eq_cons (by omega)]

/-- The days of the rest begin no earlier than the rest. -/
theorem nextMidnight_le_midnight {offset start stop d : Int}
    (hd : d ∈ localDays offset (nextMidnight offset start) stop) :
    nextMidnight offset start ≤ midnight offset d := by
  rw [localDays, Int.mem_range_iff, localDay_nextMidnight] at hd
  rw [nextMidnight_eq]
  exact midnight_le_midnight hd.1

/-- Where a span begins does not matter to the days of the rest. -/
theorem max_midnight_of_later {offset start stop d : Int}
    (hd : d ∈ localDays offset (nextMidnight offset start) stop) :
    max start (midnight offset d) = max (nextMidnight offset start) (midnight offset d) := by
  have hlater := nextMidnight_le_midnight hd
  have hstart := lt_nextMidnight offset start
  omega

/-- The segments of a later day do not depend on where the first day was begun. -/
theorem daySegments_of_later (m : WeekModel) (total : Int) {offset start stop d : Int}
    (hd : d ∈ localDays offset (nextMidnight offset start) stop) :
    m.daySegments offset total start stop d =
      m.daySegments offset total (nextMidnight offset start) stop d := by
  have hlater := max_midnight_of_later hd
  have hmax : max 0 (start - midnight offset d) =
      max 0 (nextMidnight offset start - midnight offset d) := by
    omega
  unfold daySegments
  rw [hmax]

/-- A call that ends by the next midnight has the segments of one day. -/
theorem segmentsByDay_of_le (m : WeekModel) (total : Int) {offset start stop : Int}
    (hlt : start < stop) (h : stop ≤ nextMidnight offset start) :
    m.segmentsByDay offset total start stop =
      m.daySegments offset total start stop (localDay offset start) := by
  unfold segmentsByDay
  rw [localDays_of_le hlt h]
  simp

/-- A call that goes on behind the next midnight has the segments of its first day in front of
those of the others. -/
theorem segmentsByDay_of_lt (m : WeekModel) (total : Int) {offset start stop : Int}
    (h : nextMidnight offset start < stop) :
    m.segmentsByDay offset total start stop =
      m.daySegments offset total start stop (localDay offset start) ++
        m.segmentsByDay offset total (nextMidnight offset start) stop := by
  unfold segmentsByDay
  rw [localDays_of_lt h, List.flatMap_cons,
    List.flatMap_congr fun d hd => m.daySegments_of_later total hd]

/-- Of an instant and its midnight, the instant is the later one. -/
theorem max_midnight_localDay (offset t : Int) :
    max t (midnight offset (localDay offset t)) = t := by
  have := midnight_localDay_le offset t
  omega

/-- The day on which a call starts is one of its days. -/
theorem localDay_mem_localDays {offset start stop : Int} (hlt : start < stop) :
    localDay offset start ∈ localDays offset start stop := by
  by_cases hmore : nextMidnight offset start < stop
  · rw [localDays_of_lt hmore]
    exact List.mem_cons_self
  · rw [localDays_of_le hlt (by omega)]
    exact List.mem_cons_self

/-! ## The whole call -/

/-- The first slice that is cut makes the segments of the first day. -/
theorem cutDay_slice {m : WeekModel} (hm : m.Built) (offset total : Int)
    {start stop : Int} :
    (m.cutDay (weekday offset start) total (secondOfDay offset start)
        (secondOfDay offset start + (min stop (nextMidnight offset start) - start) - 1)).1 =
      m.daySegments offset total start stop (localDay offset start) := by
  have hday : weekday offset start = dayOfWeek (localDay offset start) := rfl
  have hle := midnight_localDay_le offset start
  have hfirst : secondOfDay offset start =
      max 0 (start - midnight offset (localDay offset start)) := by
    rw [secondOfDay_eq]
    omega
  have hlast : secondOfDay offset start +
      (min stop (nextMidnight offset start) - start) - 1 =
        min (secondsPerDay - 1) (stop - 1 - midnight offset (localDay offset start)) := by
    rw [secondOfDay_eq, nextMidnight_eq]
    simp only [midnight, secondsPerDay]
    omega
  rw [hday, hlast, hfirst, cutDay_fst hm]
  rfl

/-- Cutting goes through the local days.  It succeeds when each day slice begins in the
calendar, and then yields the segments of the days. -/
theorem cutFrom_eq {m : WeekModel} (hm : m.Built) (offset total : Int) {start stop : Int}
    (hlt : start < stop) :
    ((m.cutFrom offset total stop start).fault = none ↔
        ∀ d ∈ localDays offset start stop,
          Bounds.closed.contains calendar (max start (midnight offset d)) = true) ∧
      ((m.cutFrom offset total stop start).fault = none →
        (m.cutFrom offset total stop start).segments =
          m.segmentsByDay offset total start stop) := by
  fun_induction cutFrom m offset total stop start with
  | case1 start hlt' hcalendar sliceStop hslice first day rest ih =>
    have hnow := max_midnight_localDay offset start
    have hday : day.1 = m.daySegments offset total start stop (localDay offset start) :=
      cutDay_slice hm offset total
    by_cases hmore : nextMidnight offset start < stop
    · have hsliceStop : sliceStop = nextMidnight offset start := Int.min_eq_right (by omega)
      have hrest : rest = m.cutFrom offset total stop (nextMidnight offset start) := by
        rw [← hsliceStop]
      obtain ⟨hfault, hsegments⟩ := ih (by omega)
      rw [hsliceStop] at hfault hsegments
      simp only [hrest]
      constructor
      · rw [hfault, localDays_of_lt hmore, List.forall_mem_cons, hnow]
        constructor
        · intro hall
          refine ⟨hcalendar, fun d hd => ?_⟩
          rw [max_midnight_of_later hd]
          exact hall d hd
        · intro hall d hd
          rw [← max_midnight_of_later hd]
          exact hall.2 d hd
      · intro hnone
        rw [hsegments hnone, hday, m.segmentsByDay_of_lt total hmore]
    · have hsliceStop : sliceStop = stop := Int.min_eq_left (by omega)
      have hend : stop ≤ nextMidnight offset start := by omega
      have hrest : rest = ⟨[], 0, none⟩ := by
        have hdone : ¬ sliceStop < stop := by omega
        show m.cutFrom offset total stop sliceStop = _
        rw [cutFrom, dif_neg hdone]
      simp only [hrest]
      constructor
      · rw [localDays_of_le hlt hend, List.forall_mem_singleton, hnow]
        simp [hcalendar]
      · intro _
        rw [hday, m.segmentsByDay_of_le total hlt hend, List.append_nil]
  | case2 start hlt' hcalendar =>
    constructor
    · constructor
      · intro h
        cases h
      · intro hall
        have hfirst := hall (localDay offset start) (localDay_mem_localDays hlt)
        rw [max_midnight_localDay] at hfirst
        exact absurd hfirst hcalendar
    · intro h
      cases h
  | case3 start hge => omega

/-- A cut gives segments exactly if it has no fault, and then its own. -/
theorem Cut.result_eq_ok_iff (c : Cut) (segments : List Segment) :
    c.result = .ok segments ↔ c.fault = none ∧ segments = c.segments := by
  unfold Cut.result
  cases c.fault with
  | none => simp [eq_comm]
  | some f => simp

/-- The end of a call.  A call without length counts as one second. -/
def callEnd (start stop : Int) : Int :=
  max stop (start + 1)

/-- A call ends behind its start. -/
theorem lt_callEnd (start stop : Int) : start < callEnd start stop := by
  unfold callEnd
  omega

/-- A call that stops before it starts is reversed. -/
theorem cut_of_lt (m : WeekModel) (offset : Int) {start stop : Int} (h : stop < start) :
    m.cut offset start stop = ⟨[], 0, some (.reversed start stop)⟩ := by
  unfold cut
  simp only [if_pos h]

/-- A call that does not stop before it starts is cut from its start, unless it is too wide. -/
theorem cut_of_le (m : WeekModel) (offset : Int) {start stop : Int} (h : start ≤ stop) :
    m.cut offset start stop =
      if maxSpan < callEnd start stop - start then
        ⟨[], 0, some (.tooWide (callEnd start stop - start))⟩
      else m.cutFrom offset (callEnd start stop - start) (callEnd start stop) start := by
  have hend : (if stop = start then start + 1 else stop) = callEnd start stop := by
    unfold callEnd
    split <;> omega
  unfold cut
  simp only [hend, if_neg (Int.not_lt.2 h)]

/-- When a call is cut, and into what: it runs forward, is not too long and each of its
day slices begins in the calendar. -/
theorem cut_result_eq_ok_iff {m : WeekModel} (hm : m.Built) (offset start stop : Int)
    (segments : List Segment) :
    (m.cut offset start stop).result = .ok segments ↔
      start ≤ stop ∧ callEnd start stop - start ≤ maxSpan ∧
        (∀ d ∈ localDays offset start (callEnd start stop),
          Bounds.closed.contains calendar (max start (midnight offset d)) = true) ∧
        segments = m.segmentsByDay offset (callEnd start stop - start) start
          (callEnd start stop) := by
  rw [Cut.result_eq_ok_iff]
  by_cases hreversed : stop < start
  · have hnot : ¬ start ≤ stop := by omega
    rw [cut_of_lt m offset hreversed]
    simp [hnot]
  · have hle : start ≤ stop := Int.not_lt.1 hreversed
    rw [cut_of_le m offset hle]
    by_cases hwide : maxSpan < callEnd start stop - start
    · have hnot : ¬ callEnd start stop - start ≤ maxSpan := by omega
      simp [hwide, hnot]
    · obtain ⟨hfault, hsegments⟩ :=
        cutFrom_eq hm offset (callEnd start stop - start) (lt_callEnd start stop)
      rw [if_neg hwide, hfault]
      constructor
      · rintro ⟨hcalendar, rfl⟩
        exact ⟨hle, by omega, hcalendar, hsegments (hfault.2 hcalendar)⟩
      · rintro ⟨_, _, hcalendar, rfl⟩
        exact ⟨hcalendar, (hsegments (hfault.2 hcalendar)).symm⟩

/-! ## The pieces lie in their day -/

/-- The unbroken pieces are some of the pieces. -/
theorem mem_of_mem_unbroken {first : Int} {ps : List Piece} {p : Piece}
    (h : p ∈ unbroken first ps) : p ∈ ps := by
  induction ps generalizing first with
  | nil => cases h
  | cons q qs ih =>
    unfold unbroken at h
    split at h
    · rcases List.mem_cons.1 h with rfl | h
      · exact List.mem_cons_self
      · exact List.mem_cons_of_mem q (ih h)
    · cases h

/-- No piece is empty or leaves the seconds that are shared out. -/
theorem bounds_of_mem_dayPieces {m : WeekModel} {day : Nat} {first last : Int} {p : Piece}
    (h : p ∈ m.dayPieces day first last) :
    first ≤ p.first ∧ p.first ≤ p.last ∧ p.last ≤ last := by
  obtain ⟨e, _, hshared⟩ := List.mem_filterMap.1 (mem_of_mem_unbroken h)
  obtain ⟨hfirst, hlast, hle, _⟩ := (shared?_eq_some_iff first last e p).1 hshared
  omega

/-- A segment that is written as it should be: of a weekday, between two seconds of the
day in this order, with the length of the whole call. -/
structure IsProper (total : Int) (s : Segment) : Prop where
  day_lt : s.day < 7
  startMinute : 0 ≤ s.startMinute ∧ s.startMinute ≤ 1439
  startSecond : 0 ≤ s.startSecond ∧ s.startSecond ≤ 59
  endMinute : 0 ≤ s.endMinute ∧ s.endMinute ≤ 1439
  endSecond : 0 ≤ s.endSecond ∧ s.endSecond ≤ 59
  one_le_duration : 1 ≤ s.duration
  total_eq : s.total = total

/-- Each segment of the days is a proper one. -/
theorem isProper_of_mem_segmentsByDay {m : WeekModel} {offset total start stop : Int}
    {s : Segment} (h : s ∈ m.segmentsByDay offset total start stop) : IsProper total s := by
  obtain ⟨d, _, hs⟩ := List.mem_flatMap.1 h
  obtain ⟨p, hp, rfl⟩ := List.mem_map.1 hs
  obtain ⟨hfirst, hle, hlast⟩ := bounds_of_mem_dayPieces hp
  have hfirst : 0 ≤ p.first := by omega
  have hlast : p.last ≤ 86399 := by
    simp only [secondsPerDay] at hlast
    omega
  have hduration : (Piece.segment (dayOfWeek d) total p).duration = p.last - p.first + 1 :=
    Segment.duration_eq _ _ _ _ _
  refine ⟨dayOfWeek_lt d, ?_, ?_, ?_, ?_, ?_, rfl⟩
  · simp only [Piece.segment, Segment.between]
    omega
  · simp only [Piece.segment, Segment.between]
    omega
  · simp only [Piece.segment, Segment.between]
    omega
  · simp only [Piece.segment, Segment.between]
    omega
  · rw [hduration]
    omega

/-- A call is cut into the segments of the local days that it meets, or refused for its
direction, its length or the calendar, and each segment is proper. -/
theorem cut_eq_segmentsByDay {m : WeekModel} (hm : m.Built) (offset start stop : Int) :
    (∀ segments, (m.cut offset start stop).result = .ok segments ↔
      start ≤ stop ∧ callEnd start stop - start ≤ maxSpan ∧
        (∀ d ∈ localDays offset start (callEnd start stop),
          Bounds.closed.contains calendar (max start (midnight offset d)) = true) ∧
        segments = m.segmentsByDay offset (callEnd start stop - start) start
          (callEnd start stop)) ∧
      ∀ s ∈ m.segmentsByDay offset (callEnd start stop - start) start (callEnd start stop),
        IsProper (callEnd start stop - start) s :=
  ⟨cut_result_eq_ok_iff hm offset start stop, fun _ => isProper_of_mem_segmentsByDay⟩

/-- A call over midnight into a day with a gap: what lies behind the gap is left out. -/
theorem cut_over_midnight : ∃ m : WeekModel, m.Built ∧
    (m.cut 3600 1704578370 1704585720).result =
      .ok [⟨6, 1379, 30, 1439, 59, "night", 7350⟩, ⟨0, 0, 0, 59, 59, "night", 7350⟩] := by
  have hsaturday : WeekModel.Built _ := .add 6 1320 0 "night" (.empty "M") rfl
  have hmorning : WeekModel.Built _ := .add 0 61 1439 "day" hsaturday rfl
  have hm : WeekModel.Built _ := .add 0 0 59 "night" hmorning rfl
  refine ⟨_, hm, ?_⟩
  exact ((cut_eq_segmentsByDay hm 3600 1704578370 1704585720).1 _).2
    ⟨by decide, by decide, by decide, by decide⟩

end WeekModel
end Tariff
