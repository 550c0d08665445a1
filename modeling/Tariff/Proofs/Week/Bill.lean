import Mathlib.Algebra.Ring.Int.Defs
import Mathlib.Data.Finset.Card
import Tariff.Proofs.Week.DayPieces

/-!
# Bills

The bill of a call holds its pieces in absolute time.  A second is on the bill if no gap of
the model lies between it and the start of the call or of the local day, whichever is
later.  A call that is taken up again in the middle starts behind the gaps of the first
part of that day, so that splitting a call takes no second off its bill, and may put some
on it.

Main results:

- Theorem {lit}`WeekModel.segmentsByDay_eq`: the segments of a call are its bill, shown on
  the local clock.
- Theorem {lit}`WeekModel.isBilled_bill_iff`: which seconds are on the bill, and at which
  result.
- Theorem {lit}`WeekModel.secondsAt_billed`: the durations at a result count the seconds
  that are billed at it.
- Theorem {lit}`WeekModel.split_call`: what splitting a call does to its bill.
-/

namespace Tariff

/-! ## Pieces in absolute time -/

namespace Piece

/-- The piece that lies so much later. -/
def later (shift : Int) (p : Piece) : Piece :=
  ⟨p.first + shift, p.last + shift, p.result⟩

/-- The segment that shows a piece in absolute time on the local clock. -/
def shown (offset total : Int) (p : Piece) : Segment :=
  Segment.between (WeekModel.weekday offset p.first) (WeekModel.secondOfDay offset p.first)
    (WeekModel.secondOfDay offset p.last) p.result total

/-- The numbers of a range are in order. -/
theorem pairwise_lt_range (m n : Int) : (Int.range m n).Pairwise fun x y => x < y := by
  unfold Int.range
  rw [List.pairwise_map]
  refine List.pairwise_lt_range.imp ?_
  intro x y h
  omega

/-- The seconds of a piece. -/
def seconds (p : Piece) : Finset Int :=
  (Int.range p.first (p.last + 1)).toFinset

/-- The seconds of a piece lie from its first to its last. -/
theorem mem_seconds_iff {p : Piece} {t : Int} : t ∈ p.seconds ↔ p.first ≤ t ∧ t ≤ p.last := by
  unfold seconds
  rw [List.mem_toFinset, Int.mem_range_iff, Int.lt_add_one_iff]

/-- The length of a piece counts its seconds. -/
theorem card_seconds {p : Piece} (h : p.first ≤ p.last) :
    (p.seconds.card : Int) = p.last - p.first + 1 := by
  have hnodup : (Int.range p.first (p.last + 1)).Nodup :=
    (pairwise_lt_range _ _).imp fun {x y} hlt => Int.ne_of_lt hlt
  unfold seconds
  rw [List.toFinset_card_of_nodup hnodup]
  unfold Int.range
  rw [List.length_map, List.length_range]
  omega

/-- A second lies in one of the pieces, which has a result. -/
def IsBilled (ps : List Piece) (t : Int) (result : String) : Prop :=
  ∃ p ∈ ps, p.result = result ∧ p.first ≤ t ∧ t ≤ p.last

/-- The seconds of the pieces that have a result. -/
def instants (result : String) : List Piece → Finset Int
  | [] => ∅
  | p :: ps =>
    if p.result = result then p.seconds ∪ instants result ps
    else instants result ps

/-- The instants of a result are those that are billed at it. -/
theorem mem_instants_iff {result : String} {ps : List Piece} {t : Int} :
    t ∈ instants result ps ↔ IsBilled ps t result := by
  unfold IsBilled
  induction ps with
  | nil => simp [instants]
  | cons p ps ih =>
    unfold instants
    by_cases hp : p.result = result
    · rw [if_pos hp, Finset.mem_union, mem_seconds_iff, ih]
      simp [hp]
    · rw [if_neg hp, ih]
      simp [hp]

/-- The pieces follow one another, and none of them is empty. -/
structure InOrder (ps : List Piece) : Prop where
  last_lt_first : ps.Pairwise fun p q => p.last < q.first
  first_le_last : ∀ p ∈ ps, p.first ≤ p.last

/-- The lengths of pieces that follow one another count their seconds. -/
theorem InOrder.sum_eq_card {ps : List Piece} (h : InOrder ps) (result : String) :
    ((ps.filter fun p => p.result = result).map fun p => p.last - p.first + 1).sum =
      ((instants result ps).card : Int) := by
  obtain ⟨hordered, hle⟩ := h
  induction ps with
  | nil => rfl
  | cons p ps ih =>
    obtain ⟨hp, hps⟩ := List.pairwise_cons.1 hordered
    obtain ⟨hple, hpsle⟩ := List.forall_mem_cons.1 hle
    have ih := ih hps hpsle
    unfold instants
    by_cases hresult : p.result = result
    · have hdisjoint : Disjoint p.seconds (instants result ps) := by
        rw [Finset.disjoint_left]
        intro t ht hrest
        obtain ⟨q, hq, _, hfirst, _⟩ := mem_instants_iff.1 hrest
        have hlater := hp q hq
        rw [mem_seconds_iff] at ht
        omega
      have hcard := card_seconds hple
      rw [if_pos hresult, Finset.card_union_of_disjoint hdisjoint,
        List.filter_cons_of_pos (by simpa using hresult), List.map_cons, List.sum_cons, ih]
      omega
    · rw [if_neg hresult, List.filter_cons_of_neg (by simpa using hresult), ih]

end Piece

namespace WeekModel

open Piece

/-- The result that holds at an instant. -/
def resultAt (m : WeekModel) (offset t : Int) : Option String :=
  m.lookup (weekday offset t) (secondOfDay offset t / 60)

/-- The pieces of a local day in absolute time: of its seconds that lie in the call. -/
def dayBill (m : WeekModel) (offset start stop d : Int) : List Piece :=
  let first := max 0 (start - midnight offset d)
  let last := min (secondsPerDay - 1) (stop - 1 - midnight offset d)
  (m.dayPieces (dayOfWeek d) first last).map (Piece.later (midnight offset d))

/-- The pieces of a call in absolute time. -/
def bill (m : WeekModel) (offset start stop : Int) : List Piece :=
  (localDays offset start stop).flatMap (m.dayBill offset start stop)

/-- The segments that show the bill of a call on the local clock. -/
def billed (m : WeekModel) (offset start stop : Int) : List Segment :=
  (m.bill offset start stop).map (Piece.shown offset (stop - start))

/-- No gap lies between the start of a call, or of the local day, and an instant. -/
def IsReached (m : WeekModel) (offset start t : Int) : Prop :=
  ∀ u, start ≤ u → midnight offset (localDay offset t) ≤ u → u ≤ t →
    (m.resultAt offset u).isSome = true

/-- The total duration of the segments with a result. -/
def secondsAt (result : String) (ss : List Segment) : Int :=
  ((ss.filter fun s => s.result = result).map Segment.duration).sum

/-- Every minute of every day has a result. -/
def IsGapless (m : WeekModel) : Prop :=
  ∀ day minute, day < 7 → 0 ≤ minute → minute ≤ TimeOfDay.lastMinute →
    (m.lookup day minute).isSome = true

/-! ## The local clock -/

/-- The local day of a second of a day is that day. -/
theorem localDay_midnight_add (offset d : Int) {x : Int} (h : 0 ≤ x ∧ x < secondsPerDay) :
    localDay offset (x + midnight offset d) = d := by
  simp only [localDay, midnight, secondsPerDay] at h ⊢
  omega

/-- The second of the day is counted from midnight. -/
theorem secondOfDay_midnight_add (offset d : Int) {x : Int} (h : 0 ≤ x ∧ x < secondsPerDay) :
    secondOfDay offset (x + midnight offset d) = x := by
  simp only [secondOfDay, midnight, secondsPerDay] at h ⊢
  omega

/-- The result that holds at a second of a local day. -/
theorem resultAt_midnight_add (m : WeekModel) (offset d : Int) {x : Int}
    (h : 0 ≤ x ∧ x < secondsPerDay) :
    m.resultAt offset (x + midnight offset d) = m.lookup (dayOfWeek d) (x / 60) := by
  have hday : weekday offset (x + midnight offset d) =
      dayOfWeek (localDay offset (x + midnight offset d)) := rfl
  unfold resultAt
  rw [hday, localDay_midnight_add offset d h, secondOfDay_midnight_add offset d h]

/-- An instant lies less than a day behind its midnight. -/
theorem secondOfDay_bounds (offset t : Int) :
    0 ≤ secondOfDay offset t ∧ secondOfDay offset t < secondsPerDay := by
  simp only [secondOfDay, secondsPerDay]
  omega

/-- An instant is its second of the day, counted from its midnight. -/
theorem secondOfDay_add_midnight (offset t : Int) :
    secondOfDay offset t + midnight offset (localDay offset t) = t := by
  rw [secondOfDay_eq]
  omega

/-- A model without gaps has a result at every instant. -/
theorem isSome_resultAt_of_isGapless {m : WeekModel} (h : m.IsGapless) (offset t : Int) :
    (m.resultAt offset t).isSome = true := by
  have hbounds := secondOfDay_bounds offset t
  refine h _ _ (dayOfWeek_lt (localDay offset t)) (by omega) ?_
  simp only [secondsPerDay, TimeOfDay.lastMinute] at hbounds ⊢
  omega

/-- A piece of a day that is put in its place is shown as a segment of that day. -/
theorem shown_later (offset total d : Int) {p : Piece} (hfirst : 0 ≤ p.first)
    (hle : p.first ≤ p.last) (hlast : p.last < secondsPerDay) :
    (p.later (midnight offset d)).shown offset total = p.segment (dayOfWeek d) total := by
  have hday : weekday offset (p.first + midnight offset d) =
      dayOfWeek (localDay offset (p.first + midnight offset d)) := rfl
  unfold shown later Piece.segment
  simp only
  rw [hday, localDay_midnight_add offset d ⟨hfirst, by omega⟩,
    secondOfDay_midnight_add offset d ⟨hfirst, by omega⟩,
    secondOfDay_midnight_add offset d ⟨by omega, hlast⟩]

/-! ## The bill of a day -/

variable {m : WeekModel}

/-- Each minute of the piece that begins at a second has the result of the piece. -/
theorem lookup_of_le_pieceEnd (hm : m.Built) {day : Nat} {first last x : Int}
    {e : Entry String} (h : m.lookupEntry day (first / 60) = some e) (hfirst : first ≤ x)
    (hlast : x ≤ pieceEnd e last) : m.lookup day (x / 60) = some e.value := by
  obtain ⟨l, hl, he⟩ := Option.bind_eq_some_iff.1 h
  have hroster := hm.isRoster hl
  obtain ⟨hmem, hstart, hstop⟩ := (hroster.lookupEntry_eq_some_iff (first / 60) e).1 he
  have hfound : m.lookupEntry day (x / 60) = some e := by
    unfold lookupEntry
    rw [hl]
    refine (hroster.lookupEntry_eq_some_iff (x / 60) e).2 ⟨hmem, by omega, ?_⟩
    unfold pieceEnd at hlast
    omega
  unfold lookup
  rw [hfound]
  rfl

/-- Which seconds of a day are billed, and at which result.  The induction is on the cursor: a
second is in the first piece or behind it. -/
theorem isBilled_dayPieces_iff (hm : m.Built) (day : Nat) (first last x : Int)
    (result : String) :
    IsBilled (m.dayPieces day first last) x result ↔
      first ≤ x ∧ x ≤ last ∧ m.lookup day (x / 60) = some result ∧
        ∀ y, first ≤ y → y ≤ x → (m.lookup day (y / 60)).isSome = true := by
  unfold IsBilled
  fun_induction cutDay m day 0 first last with
  | case1 first hle hnone =>
    have hgap : m.lookup day (first / 60) = none := by
      unfold lookup
      rw [hnone]
      rfl
    rw [dayPieces_of_none hm hnone]
    refine iff_of_false (by simp) ?_
    rintro ⟨hfirst, _, _, hreached⟩
    have hsome := hreached first (Int.le_refl _) hfirst
    rw [hgap] at hsome
    cases hsome
  | case2 first hle e hsome stop hstop rest ih =>
    have hpiece : ∀ y, first ≤ y → y ≤ stop → m.lookup day (y / 60) = some e.value :=
      fun y => lookup_of_le_pieceEnd hm hsome
    have hstop' : stop ≤ last := Int.min_le_left _ _
    rw [dayPieces_of_some hm hle hsome, List.exists_mem_cons_iff, ih]
    by_cases hx : x ≤ stop
    · constructor
      · rintro (⟨rfl, hfirst, _⟩ | ⟨hlater, _⟩)
        · exact ⟨hfirst, by omega, hpiece x hfirst hx,
            fun y hy hyx => Option.isSome_iff_exists.2 ⟨_, hpiece y hy (by omega)⟩⟩
        · omega
      · rintro ⟨hfirst, _, hresult, _⟩
        rw [hpiece x hfirst hx, Option.some_inj] at hresult
        exact .inl ⟨hresult, hfirst, hx⟩
    · constructor
      · rintro (⟨_, _, hlast⟩ | ⟨_, hlast, hresult, hreached⟩)
        · exact absurd hlast hx
        · refine ⟨by omega, hlast, hresult, fun y hy hyx => ?_⟩
          by_cases hys : y ≤ stop
          · rw [hpiece y hy hys]
            rfl
          · exact hreached y (by omega) hyx
      · rintro ⟨_, hlast, hresult, hreached⟩
        exact .inr ⟨by omega, hlast, hresult, fun y hy hyx => hreached y (by omega) hyx⟩
  | case3 first hgt =>
    rw [m.dayPieces_of_lt day (by omega)]
    refine iff_of_false (by simp) ?_
    rintro ⟨hfirst, hlast, _⟩
    omega

/-- The pieces of a day follow one another. -/
theorem last_lt_first_dayPieces (hm : m.Built) (day : Nat) (first last : Int) :
    (m.dayPieces day first last).Pairwise fun p q => p.last < q.first := by
  fun_induction cutDay m day 0 first last with
  | case1 first hle hnone =>
    rw [dayPieces_of_none hm hnone]
    exact List.Pairwise.nil
  | case2 first hle e hsome stop hstop rest ih =>
    rw [dayPieces_of_some hm hle hsome]
    refine List.pairwise_cons.2 ⟨fun q hq => ?_, ih⟩
    have hbounds := bounds_of_mem_dayPieces hq
    simp only
    omega
  | case3 first hgt =>
    rw [m.dayPieces_of_lt day (by omega)]
    exact List.Pairwise.nil

/-- A piece of the bill of a day is one of the day that is put in its place. -/
theorem mem_dayBill_iff {offset start stop d : Int} {p : Piece} :
    p ∈ m.dayBill offset start stop d ↔
      ∃ q ∈ m.dayPieces (dayOfWeek d) (max 0 (start - midnight offset d))
        (min (secondsPerDay - 1) (stop - 1 - midnight offset d)),
        q.later (midnight offset d) = p :=
  List.mem_map

/-- The bill of a day lies in the day and in the call. -/
theorem bounds_of_mem_dayBill {offset start stop d : Int} {p : Piece}
    (h : p ∈ m.dayBill offset start stop d) :
    start ≤ p.first ∧ p.first ≤ p.last ∧ p.last < stop ∧
      midnight offset d ≤ p.first ∧ p.last < midnight offset (d + 1) := by
  obtain ⟨q, hq, rfl⟩ := mem_dayBill_iff.1 h
  obtain ⟨hfirst, hle, hlast⟩ := bounds_of_mem_dayPieces hq
  simp only [later, midnight, secondsPerDay] at hfirst hle hlast ⊢
  omega

/-- Which seconds are on the bill of a day, and at which result. -/
theorem isBilled_dayBill_iff (hm : m.Built) (offset start stop d t : Int) (result : String) :
    IsBilled (m.dayBill offset start stop d) t result ↔
      localDay offset t = d ∧ start ≤ t ∧ t < stop ∧
        m.resultAt offset t = some result ∧ m.IsReached offset start t := by
  have hlater : IsBilled (m.dayBill offset start stop d) t result ↔
      IsBilled (m.dayPieces (dayOfWeek d) (max 0 (start - midnight offset d))
        (min (secondsPerDay - 1) (stop - 1 - midnight offset d)))
        (t - midnight offset d) result := by
    unfold IsBilled
    simp only [mem_dayBill_iff, exists_exists_and_eq_and, later]
    refine exists_congr fun p => and_congr_right fun _ => and_congr_right fun _ => ?_
    omega
  rw [hlater, isBilled_dayPieces_iff hm]
  have hnext : midnight offset (d + 1) = midnight offset d + secondsPerDay := by
    simp only [midnight, secondsPerDay]
    omega
  have hlookup : ∀ u, midnight offset d ≤ u → u < midnight offset (d + 1) →
      m.lookup (dayOfWeek d) ((u - midnight offset d) / 60) = m.resultAt offset u := by
    intro u hu hu'
    rw [← m.resultAt_midnight_add offset d ⟨by omega, by omega⟩]
    congr 1
    omega
  constructor
  · rintro ⟨hfirst, hlast, hresult, hreached⟩
    have hday : localDay offset t = d := by
      have h := localDay_midnight_add offset d (x := t - midnight offset d)
        ⟨by omega, by omega⟩
      rwa [Int.sub_add_cancel] at h
    rw [hlookup t (by omega) (by omega)] at hresult
    refine ⟨hday, by omega, by omega, hresult, fun u hstart hmidnight hu => ?_⟩
    rw [hday] at hmidnight
    rw [← hlookup u hmidnight (by omega)]
    exact hreached (u - midnight offset d) (by omega) (by omega)
  · rintro ⟨rfl, hstart, hstop, hresult, hreached⟩
    have hbounds := secondOfDay_bounds offset t
    have hsecond := secondOfDay_add_midnight offset t
    rw [hlookup t (by omega) (by omega)]
    refine ⟨by omega, by omega, hresult, fun y hy hyt => ?_⟩
    have hy' := hlookup (y + midnight offset (localDay offset t)) (by omega) (by omega)
    rw [Int.add_sub_cancel] at hy'
    rw [hy']
    exact hreached _ (by omega) (by omega) (by omega)

/-! ## The bill of a call -/

/-- Later instants lie on later local days, or on the same. -/
theorem localDay_mono (offset : Int) {t u : Int} (h : t ≤ u) :
    localDay offset t ≤ localDay offset u := by
  simp only [localDay, secondsPerDay]
  omega

/-- The local days that a call meets are those of its seconds. -/
theorem mem_localDays_iff (offset : Int) {start stop d : Int} (h : start < stop) :
    d ∈ localDays offset start stop ↔ ∃ t, start ≤ t ∧ t < stop ∧ localDay offset t = d := by
  unfold localDays
  rw [Int.mem_range_iff]
  constructor
  · rintro ⟨hfirst, hlast⟩
    refine ⟨max start (midnight offset d), by omega, ?_, ?_⟩
    · simp only [localDay, midnight, secondsPerDay] at hfirst hlast ⊢
      omega
    · simp only [localDay, midnight, secondsPerDay] at hfirst hlast ⊢
      omega
  · rintro ⟨t, hstart, hstop, rfl⟩
    have hfirst := localDay_mono offset hstart
    have hlast := localDay_mono offset (Int.le_sub_one_of_lt hstop)
    omega

/-- Which seconds are on the bill of a call, and at which result: those that no gap keeps
from the start of the call or of the day. -/
theorem isBilled_bill_iff (hm : m.Built) (offset start stop t : Int) (result : String) :
    IsBilled (m.bill offset start stop) t result ↔
      start ≤ t ∧ t < stop ∧ m.resultAt offset t = some result ∧
        m.IsReached offset start t := by
  have hdays : IsBilled (m.bill offset start stop) t result ↔
      ∃ d ∈ localDays offset start stop,
        IsBilled (m.dayBill offset start stop d) t result := by
    unfold IsBilled bill
    simp only [List.mem_flatMap]
    constructor
    · rintro ⟨p, ⟨d, hd, hp⟩, hbilled⟩
      exact ⟨d, hd, p, hp, hbilled⟩
    · rintro ⟨d, hd, p, hp, hbilled⟩
      exact ⟨p, ⟨d, hd, hp⟩, hbilled⟩
  rw [hdays]
  simp only [isBilled_dayBill_iff hm]
  constructor
  · rintro ⟨_, _, _, hbilled⟩
    exact hbilled
  · rintro ⟨hstart, hstop, hbilled⟩
    have hmem := (mem_localDays_iff offset (by omega)).2 ⟨t, hstart, hstop, rfl⟩
    exact ⟨localDay offset t, hmem, rfl, hstart, hstop, hbilled⟩

/-- The pieces of a call follow one another. -/
theorem inOrder_bill (hm : m.Built) (offset start stop : Int) :
    InOrder (m.bill offset start stop) := by
  constructor
  · refine List.pairwise_flatMap.2 ⟨fun d _ => ?_, ?_⟩
    · refine List.pairwise_map.2 ((last_lt_first_dayPieces hm _ _ _).imp ?_)
      intro p q hpq
      simp only [later]
      omega
    · refine (pairwise_lt_range _ _).imp ?_
      intro d d' hlt p hp q hq
      have hfirst := bounds_of_mem_dayBill hp
      have hsecond := bounds_of_mem_dayBill hq
      have hmidnight : midnight offset (d + 1) ≤ midnight offset d' :=
        midnight_le_midnight (Int.add_one_le_of_lt hlt)
      omega
  · intro p hp
    obtain ⟨d, _, hp⟩ := List.mem_flatMap.1 hp
    exact (bounds_of_mem_dayBill hp).2.1

/-- The segments of a call are its bill, shown on the local clock. -/
theorem segmentsByDay_eq (m : WeekModel) (offset start stop : Int) :
    m.segmentsByDay offset (stop - start) start stop = m.billed offset start stop := by
  unfold billed bill segmentsByDay
  rw [List.map_flatMap]
  refine List.flatMap_congr fun d _ => ?_
  unfold daySegments dayBill
  rw [List.map_map]
  refine List.map_congr_left fun p hp => ?_
  obtain ⟨hfirst, hle, hlast⟩ := bounds_of_mem_dayPieces hp
  exact (shown_later offset _ d (by omega) hle (by omega)).symm

/-- The durations at a result count the seconds that are billed at it. -/
theorem secondsAt_billed (hm : m.Built) (offset start stop : Int) (result : String) :
    secondsAt result (m.billed offset start stop) =
      ((instants result (m.bill offset start stop)).card : Int) := by
  rw [← (inOrder_bill hm offset start stop).sum_eq_card result]
  unfold secondsAt billed
  rw [List.filter_map, List.map_map]
  refine congrArg List.sum (List.map_congr_left fun p hp => ?_)
  obtain ⟨d, _, hp⟩ := List.mem_flatMap.1 (List.mem_of_mem_filter hp)
  obtain ⟨q, hq, rfl⟩ := mem_dayBill_iff.1 hp
  obtain ⟨hfirst, hle, hlast⟩ := bounds_of_mem_dayPieces hq
  have hshown := shown_later offset (stop - start) d (p := q) (by omega) hle (by omega)
  have hduration := Segment.duration_eq (dayOfWeek d) q.first q.last q.result (stop - start)
  simp only [Function.comp_apply]
  rw [hshown]
  unfold Piece.segment
  rw [hduration]
  simp only [later]
  omega

/-- A call in the calendar that is not too long is cut into its bill. -/
theorem cut_result_eq_billed (hm : m.Built) (offset : Int) {start stop : Int}
    (hlt : start < stop) (hlimit : stop - start ≤ maxSpan)
    (hcalendar : ∀ t, start ≤ t → t < stop → Bounds.closed.contains calendar t = true) :
    (m.cut offset start stop).result = .ok (m.billed offset start stop) := by
  have hend : callEnd start stop = stop := by
    unfold callEnd
    omega
  refine (cut_result_eq_ok_iff hm offset start stop _).2 ?_
  rw [hend, segmentsByDay_eq]
  refine ⟨by omega, hlimit, fun d hd => ?_, rfl⟩
  obtain ⟨t, hstart, hstop, rfl⟩ := (mem_localDays_iff offset hlt).1 hd
  have hmidnight := midnight_localDay_le offset t
  exact hcalendar _ (by omega) (by omega)

/-! ## Splitting a call -/

/-- A second that is reached from the start of a call is reached from any instant behind
it. -/
theorem IsReached.of_le {offset start start' t : Int} (h : m.IsReached offset start t)
    (hle : start ≤ start') : m.IsReached offset start' t :=
  fun u hstart => h u (by omega)

/-- Where a call is split, each second keeps its place on the bill or gets one: those in
front of the split stay as they are, and those behind it have fewer gaps in their way. -/
theorem isBilled_of_split (hm : m.Built) (offset : Int) {a b c : Int} (hab : a < b)
    (hbc : b < c) (t : Int) (result : String) :
    (IsBilled (m.bill offset a c) t result →
      IsBilled (m.bill offset a b) t result ∨ IsBilled (m.bill offset b c) t result) ∧
      (m.IsGapless → IsBilled (m.bill offset a b) t result ∨
        IsBilled (m.bill offset b c) t result → IsBilled (m.bill offset a c) t result) := by
  simp only [isBilled_bill_iff hm]
  constructor
  · rintro ⟨ha, hc, hresult, hreached⟩
    by_cases hb : t < b
    · exact .inl ⟨ha, hb, hresult, hreached⟩
    · exact .inr ⟨by omega, hc, hresult, hreached.of_le (Int.le_of_lt hab)⟩
  · intro hgapless hbilled
    have hreached : m.IsReached offset a t :=
      fun u _ _ _ => isSome_resultAt_of_isGapless hgapless offset u
    rcases hbilled with ⟨ha, hb, hresult, _⟩ | ⟨hb, hc, hresult, _⟩
    · exact ⟨ha, by omega, hresult, hreached⟩
    · exact ⟨by omega, hc, hresult, hreached⟩

/-- No second is on the bills of both parts. -/
theorem disjoint_instants_of_split (hm : m.Built) (offset a b c : Int) (result : String) :
    Disjoint (instants result (m.bill offset a b)) (instants result (m.bill offset b c)) := by
  rw [Finset.disjoint_left]
  intro t hfront hback
  obtain ⟨_, hlt, _⟩ := (isBilled_bill_iff hm offset a b t result).1
    (mem_instants_iff.1 hfront)
  obtain ⟨hle, _⟩ := (isBilled_bill_iff hm offset b c t result).1 (mem_instants_iff.1 hback)
  omega

/-- A call in the calendar that is not too long may be split anywhere: all three calls are
cut, and the parts together are rated at each result for at least as many seconds as the
whole, and for just as many if the model has no gap.  Each second that the whole is rated
for, one of the parts is rated for at the same result. -/
theorem split_call (hm : m.Built) (offset : Int) {a b c : Int} (hab : a < b) (hbc : b < c)
    (hlimit : c - a ≤ maxSpan)
    (hcalendar : ∀ t, a ≤ t → t < c → Bounds.closed.contains calendar t = true) :
    let whole := m.billed offset a c
    let front := m.billed offset a b
    let back := m.billed offset b c
    (m.cut offset a c).result = .ok whole ∧ (m.cut offset a b).result = .ok front ∧
      (m.cut offset b c).result = .ok back ∧
      (∀ result, secondsAt result whole ≤ secondsAt result front + secondsAt result back) ∧
      (m.IsGapless → ∀ result,
        secondsAt result whole = secondsAt result front + secondsAt result back) ∧
      ∀ t result, IsBilled (m.bill offset a c) t result →
        IsBilled (m.bill offset a b) t result ∨ IsBilled (m.bill offset b c) t result := by
  intro whole front back
  have hsum : ∀ result, secondsAt result front + secondsAt result back =
      ((instants result (m.bill offset a b) ∪ instants result (m.bill offset b c)).card :
        Int) := by
    intro result
    rw [Finset.card_union_of_disjoint (disjoint_instants_of_split hm offset a b c result),
      secondsAt_billed hm, secondsAt_billed hm, Int.natCast_add]
  have hkept : ∀ result, instants result (m.bill offset a c) ⊆
      instants result (m.bill offset a b) ∪ instants result (m.bill offset b c) := by
    intro result t ht
    rw [Finset.mem_union, mem_instants_iff, mem_instants_iff]
    exact (isBilled_of_split hm offset hab hbc t result).1 (mem_instants_iff.1 ht)
  refine ⟨?_, ?_, ?_, ?_, ?_, ?_⟩
  · exact cut_result_eq_billed hm offset (by omega) hlimit hcalendar
  · exact cut_result_eq_billed hm offset hab (by omega)
      fun t ha hb => hcalendar t ha (by omega)
  · exact cut_result_eq_billed hm offset hbc (by omega)
      fun t hb hc => hcalendar t (by omega) hc
  · intro result
    rw [hsum, secondsAt_billed hm]
    exact_mod_cast Finset.card_le_card (hkept result)
  · intro hgapless result
    have hequal : instants result (m.bill offset a c) =
        instants result (m.bill offset a b) ∪ instants result (m.bill offset b c) := by
      refine (hkept result).antisymm fun t ht => ?_
      rw [Finset.mem_union, mem_instants_iff, mem_instants_iff] at ht
      exact mem_instants_iff.2 ((isBilled_of_split hm offset hab hbc t result).2 hgapless ht)
    rw [hsum, secondsAt_billed hm, hequal]
  · intro t result
    exact (isBilled_of_split hm offset hab hbc t result).1

/-- A call from nine to twelve on a Sunday with a gap from ten to eleven is split at eleven.
The whole call is rated up to the gap, and the second part is rated behind it. -/
theorem split_call_behind_gap : ∃ m : WeekModel, m.Built ∧
    (∀ t, 1704614400 ≤ t → t < 1704625200 → Bounds.closed.contains calendar t = true) ∧
    (1704625200 : Int) - 1704614400 ≤ maxSpan ∧
    (m.cut 3600 1704614400 1704625200).result = .ok [⟨0, 540, 0, 599, 59, "night", 10800⟩] ∧
    (m.cut 3600 1704614400 1704621600).result = .ok [⟨0, 540, 0, 599, 59, "night", 7200⟩] ∧
    (m.cut 3600 1704621600 1704625200).result = .ok [⟨0, 660, 0, 719, 59, "day", 3600⟩] ∧
    ∀ result, secondsAt result (m.billed 3600 1704614400 1704625200) ≤
      secondsAt result (m.billed 3600 1704614400 1704621600) +
        secondsAt result (m.billed 3600 1704621600 1704625200) := by
  have hnight : WeekModel.Built _ := .add 0 0 599 "night" (.empty "M") rfl
  have hm : WeekModel.Built _ := .add 0 660 1439 "day" hnight rfl
  have hcalendar : ∀ t : Int, 1704614400 ≤ t → t < 1704625200 →
      Bounds.closed.contains calendar t = true := by
    intro t ha hc
    rw [Bounds.contains_iff]
    simp only [calendar, Bounds.lastInstant]
    omega
  obtain ⟨hwhole, hfront, hback, hle, _, _⟩ :=
    split_call hm 3600 (show (1704614400 : Int) < 1704621600 by decide) (by decide)
      (by decide) hcalendar
  refine ⟨_, hm, hcalendar, by decide, ?_, ?_, ?_, hle⟩
  · rw [hwhole]
    decide
  · rw [hfront]
    decide
  · rw [hback]
    decide

end WeekModel
end Tariff
