import Tariff.Proofs.Week.Bill
import Tariff.Proofs.Week.Collection
import Tariff.Proofs.Week.Rounds

/-!
# Coverage

The gaps of a weekday are found in one sweep over its ranges, which stand in order.  Looking up
a minute searches the ranges another way, and so does cutting a call.  All three agree on
which minutes have no result.

Main results:

- Theorem {lit}`WeekModel.exists_mem_gapsFrom_iff`: the sweep finds exactly the minutes that no
  range holds.
- Theorem {lit}`WeekModel.cutDay_snd_eq_false_iff`: a day slice meets no gap if each of its
  seconds has a result.
- Theorem {lit}`WeekModels.gaps_complement_ranges`: what the gaps of a model are, and when there
  are none.
-/

namespace Tariff
namespace WeekModel

/-! ## The sweep -/

/-- The spans lie in the day from a minute on, and each is over before the next one starts. -/
def Follow (next : Int) : List Span → Prop
  | [] => True
  | s :: rest =>
    next ≤ s.start ∧ s.start ≤ s.stop ∧ s.stop ≤ TimeOfDay.lastMinute ∧ Follow (s.stop + 1) rest

/-- Spans that are disjoint and in order follow one another. -/
theorem follow_of_pairwise {next : Int} {ss : List Span}
    (hordered : ss.Pairwise fun r s => r.stop < s.start)
    (hin : ∀ s ∈ ss, next ≤ s.start ∧ s.start ≤ s.stop ∧ s.stop ≤ TimeOfDay.lastMinute) :
    Follow next ss := by
  induction ss generalizing next with
  | nil => trivial
  | cons s rest ih =>
    obtain ⟨hs, hrest⟩ := List.forall_mem_cons.1 hin
    obtain ⟨hlater, hordered⟩ := List.pairwise_cons.1 hordered
    refine ⟨hs.1, hs.2.1, hs.2.2, ih hordered fun r hr => ?_⟩
    exact ⟨hlater r hr, (hrest r hr).2⟩

/-- The sweep goes on behind the end of a span. -/
theorem gapsFrom_cons {next : Int} {s : Span} (hstart : next ≤ s.start)
    (hstop : s.start ≤ s.stop) (rest : List Span) :
    gapsFrom next (s :: rest) =
      (if next < s.start then [⟨next, s.start - 1⟩] else []) ++ gapsFrom (s.stop + 1) rest := by
  have hnext : max next (s.stop + 1) = s.stop + 1 := by omega
  rw [gapsFrom, hnext]

/-- Ranges that follow a minute start there or later. -/
theorem Follow.lt_start {next : Int} {ss : List Span} (h : Follow next ss) :
    ∀ s ∈ ss, next ≤ s.start := by
  induction ss generalizing next with
  | nil => exact List.forall_mem_nil _
  | cons s rest ih =>
    obtain ⟨hstart, hstop, _, hrest⟩ := h
    refine List.forall_mem_cons.2 ⟨hstart, fun r hr => ?_⟩
    have := ih hrest r hr
    omega

/-- The stretches lie in the day, from where the sweep begins. -/
theorem bounds_of_mem_gapsFrom {next : Int} {ss : List Span} (h : Follow next ss) {g : Span}
    (hg : g ∈ gapsFrom next ss) :
    next ≤ g.start ∧ g.start ≤ g.stop ∧ g.stop ≤ TimeOfDay.lastMinute := by
  induction ss generalizing next with
  | nil =>
    unfold gapsFrom at hg
    obtain ⟨hle, hg⟩ := List.mem_ite_nil_right.1 hg
    rw [List.mem_singleton.1 hg]
    exact ⟨Int.le_refl _, hle, Int.le_refl _⟩
  | cons s rest ih =>
    obtain ⟨hstart, hstop, hlast, hrest⟩ := h
    rw [gapsFrom_cons hstart hstop] at hg
    rcases List.mem_append.1 hg with hg | hg
    · obtain ⟨hlt, hg⟩ := List.mem_ite_nil_right.1 hg
      rw [List.mem_singleton.1 hg]
      simp only
      omega
    · have := ih hrest hg
      omega

/-- The sweep finds exactly the minutes that no span holds. -/
theorem exists_mem_gapsFrom_iff {next : Int} {ss : List Span} (h : Follow next ss)
    (minute : Int) :
    (∃ g ∈ gapsFrom next ss, g.start ≤ minute ∧ minute ≤ g.stop) ↔
      next ≤ minute ∧ minute ≤ TimeOfDay.lastMinute ∧
        ∀ s ∈ ss, ¬ (s.start ≤ minute ∧ minute ≤ s.stop) := by
  induction ss generalizing next with
  | nil =>
    unfold gapsFrom
    by_cases hle : next ≤ TimeOfDay.lastMinute
    · simp [hle]
    · simp only [if_neg hle, List.not_mem_nil, false_and, exists_false, false_iff]
      omega
  | cons s rest ih =>
    obtain ⟨hstart, hstop, hlast, hrest⟩ := h
    have hlater := hrest.lt_start
    rw [gapsFrom_cons hstart hstop, List.forall_mem_cons]
    simp only [List.mem_append, or_and_right, exists_or, ih hrest, List.mem_ite_nil_right,
      List.mem_singleton]
    constructor
    · rintro (⟨g, ⟨hlt, rfl⟩, hfirst, hend⟩ | ⟨hnext, hday, hothers⟩)
      · simp only at hfirst hend
        refine ⟨hfirst, by omega, by omega, fun r hr hheld => ?_⟩
        have := hlater r hr
        omega
      · exact ⟨by omega, hday, by omega, hothers⟩
    · rintro ⟨hnext, hday, hs, hothers⟩
      by_cases hbefore : minute < s.start
      · exact .inl ⟨⟨next, s.start - 1⟩, ⟨by omega, rfl⟩, hnext, by simp only; omega⟩
      · exact .inr ⟨by omega, hday, hothers⟩

/-- Between two stretches there is a minute that a span holds. -/
theorem pairwise_gapsFrom {next : Int} {ss : List Span} (h : Follow next ss) :
    (gapsFrom next ss).Pairwise fun g g' => ∃ minute, g.stop < minute ∧ minute < g'.start ∧
      ∃ s ∈ ss, s.start ≤ minute ∧ minute ≤ s.stop := by
  induction ss generalizing next with
  | nil =>
    unfold gapsFrom
    split
    · exact List.pairwise_singleton _ _
    · exact List.Pairwise.nil
  | cons s rest ih =>
    obtain ⟨hstart, hstop, hlast, hrest⟩ := h
    have hlater := (ih hrest).imp (S := fun g g' => ∃ minute, g.stop < minute ∧
        minute < g'.start ∧ ∃ r ∈ s :: rest, r.start ≤ minute ∧ minute ≤ r.stop) <| by
      rintro g g' ⟨minute, hg, hg', r, hr, hheld⟩
      exact ⟨minute, hg, hg', r, List.mem_cons_of_mem s hr, hheld⟩
    rw [gapsFrom_cons hstart hstop]
    refine List.pairwise_append.2 ⟨?_, hlater, fun g hg g' hg' => ?_⟩
    · split
      · exact List.pairwise_singleton _ _
      · exact List.Pairwise.nil
    · -- The span itself stands between the stretch in front of it and all later ones.
      obtain ⟨_, hg⟩ := List.mem_ite_nil_right.1 hg
      have hbounds := bounds_of_mem_gapsFrom hrest hg'
      rw [List.mem_singleton.1 hg]
      exact ⟨s.start, by simp only; omega, by omega, s, List.mem_cons_self, Int.le_refl _, hstop⟩

/-! ## The gaps of a model -/

/-- The spans are the stretches of a weekday in which the model has no result: they lie in the
day, and between two of them there is a minute that has one. -/
structure IsUncovered (m : WeekModel) (day : Nat) (gs : List Span) : Prop where
  bounds : ∀ g ∈ gs, 0 ≤ g.start ∧ g.start ≤ g.stop ∧ g.stop ≤ TimeOfDay.lastMinute
  apart : gs.Pairwise fun g g' => ∃ minute, g.stop < minute ∧ minute < g'.start ∧
    (m.lookup day minute).isSome = true
  lookup_eq_none_iff : ∀ minute, 0 ≤ minute → minute ≤ TimeOfDay.lastMinute →
    (m.lookup day minute = none ↔ ∃ g ∈ gs, g.start ≤ minute ∧ minute ≤ g.stop)

/-- A minute has no result if no range of its day holds it. -/
theorem Built.lookup_eq_none_iff {m : WeekModel} (hm : m.Built) (day : Nat) (minute : Int) :
    m.lookup day minute = none ↔
      ∀ s ∈ (m.intervals day).map (·.span), ¬ (s.start ≤ minute ∧ minute ≤ s.stop) := by
  unfold lookup lookupEntry intervals
  rw [Option.map_eq_none_iff, List.forall_mem_map]
  cases hl : m.day? day with
  | none => simp
  | some l => exact (hm.isRoster hl).lookupEntry_eq_none_iff minute

/-- The ranges of a day of a built model follow one another. -/
theorem Built.follow {m : WeekModel} (hm : m.Built)
    (hin : ∀ day, ∀ r ∈ m.slots day, InDay r.1) (day : Nat) :
    Follow 0 ((m.intervals day).map (·.span)) := by
  refine follow_of_pairwise ?_ (List.forall_mem_map.2 fun e he => ?_)
  · rw [List.pairwise_map]
    unfold intervals
    cases hl : m.day? day with
    | none => exact List.Pairwise.nil
    | some l => exact (hm.isRoster hl).stop_lt_start
  · obtain ⟨l, _, hroster, hmem⟩ := hm.isRoster_of_mem he
    obtain ⟨hstart, hstop⟩ := hin day (slot e) (Multiset.mem_coe.2 (List.mem_map_of_mem he))
    exact ⟨hstart, hroster.start_le_stop e hmem, hstop⟩

/-- The gaps of a weekday are its uncovered stretches. -/
theorem Built.isUncovered_gaps {m : WeekModel} (hm : m.Built)
    (hin : ∀ day, ∀ r ∈ m.slots day, InDay r.1) {day : Nat} (hday : day < 7) :
    m.IsUncovered day (m.gaps day) := by
  have hfollow := hm.follow hin day
  have hgaps : m.gaps day = gapsFrom 0 ((m.intervals day).map (·.span)) := by
    rw [gaps_eq, if_pos hday, List.map_map]
    rfl
  rw [hgaps]
  refine ⟨fun g hg => bounds_of_mem_gapsFrom hfollow hg, (pairwise_gapsFrom hfollow).imp ?_,
    fun minute hfirst hlast => ?_⟩
  · rintro g g' ⟨minute, hg, hg', s, hs, hheld⟩
    refine ⟨minute, hg, hg', Option.isSome_iff_ne_none.2 fun hnone => ?_⟩
    exact (hm.lookup_eq_none_iff day minute).1 hnone s hs hheld
  · rw [exists_mem_gapsFrom_iff hfollow, hm.lookup_eq_none_iff]
    exact ⟨fun h => ⟨hfirst, hlast, h⟩, fun h => h.2.2⟩

/-- There are no gaps behind the last day of the week. -/
theorem gaps_of_le (m : WeekModel) {day : Nat} (hday : 7 ≤ day) : m.gaps day = [] := by
  rw [gaps_eq, if_neg (Nat.not_lt.2 hday)]

/-- There is nothing to find behind the last day of the week. -/
theorem lookup_of_le (m : WeekModel) {day : Nat} (hday : 7 ≤ day) (minute : Int) :
    m.lookup day minute = none := by
  unfold lookup lookupEntry day?
  rw [Vector.getElem?_eq_none hday]
  rfl

/-- A day has no gaps if each of its minutes has a result. -/
theorem IsUncovered.eq_nil_iff {m : WeekModel} {day : Nat} {gs : List Span}
    (h : m.IsUncovered day gs) :
    gs = [] ↔ ∀ minute, 0 ≤ minute → minute ≤ TimeOfDay.lastMinute →
      (m.lookup day minute).isSome = true := by
  constructor
  · rintro rfl minute hfirst hlast
    rw [Option.isSome_iff_ne_none]
    intro hnone
    obtain ⟨g, hg, _⟩ := (h.lookup_eq_none_iff minute hfirst hlast).1 hnone
    cases hg
  · intro hall
    refine List.eq_nil_iff_forall_not_mem.2 fun g hg => ?_
    obtain ⟨hfirst, hle, hlast⟩ := h.bounds g hg
    have hsome := hall g.start hfirst (by omega)
    rw [(h.lookup_eq_none_iff g.start hfirst (by omega)).2 ⟨g, hg, Int.le_refl _, hle⟩] at hsome
    cases hsome

/-! ## Gaps that a call meets -/

/-- A day slice meets no gap if each of its seconds has a result.  Each round passes over the
seconds of one interval. -/
theorem cutDay_snd_eq_false_iff {m : WeekModel} (hm : m.Built) (day : Nat)
    (total first last : Int) :
    (m.cutDay day total first last).2 = false ↔
      ∀ x, first ≤ x → x ≤ last → (m.lookup day (x / 60)).isSome = true := by
  fun_induction cutDay m day total first last with
  | case1 first hle hnone =>
    refine iff_of_false (by simp) fun hall => ?_
    have hsome := hall first (Int.le_refl _) hle
    unfold lookup at hsome
    rw [hnone] at hsome
    cases hsome
  | case2 first hle e hsome stop hstop rest ih =>
    rw [ih]
    constructor
    · intro hall x hfirst hlast
      by_cases hx : x ≤ stop
      · rw [lookup_of_le_pieceEnd hm hsome hfirst hx]
        rfl
      · exact hall x (by omega) hlast
    · intro hall x hfirst hlast
      exact hall x (by omega) hlast
  | case3 first hgt =>
    refine iff_of_true rfl fun x hfirst hlast => ?_
    omega

/-- A call inside one local day is cut as one slice. -/
theorem cutFrom_gaps_of_le (m : WeekModel) (offset total : Int) {start stop : Int}
    (hlt : start < stop) (h : stop ≤ nextMidnight offset start) :
    (m.cutFrom offset total stop start).gaps =
      if InCalendar start then
        (m.cutDay (weekday offset start) total (secondOfDay offset start)
          (secondOfDay offset start + (stop - start) - 1)).2.toNat
      else 0 := by
  have hslice : min stop (nextMidnight offset start) = stop := Int.min_eq_left h
  rw [cutFrom_eq_foldr, sliceStarts_of_lt hlt, hslice, sliceStarts_of_le (Int.le_refl stop),
    List.foldr_cons, List.foldr_nil, cutSlice, hslice]
  split <;> rfl

/-- All local days that the call meets are of one weekday. -/
def LiesOn (day : Nat) (offset start stop : Int) : Prop :=
  ∀ d ∈ localDays offset start (callEnd start stop), dayOfWeek d = day

/-- A call on one weekday ends by the next midnight. -/
theorem LiesOn.callEnd_le {day : Nat} {offset start stop : Int}
    (h : LiesOn day offset start stop) :
    weekday offset start = day ∧ callEnd start stop ≤ nextMidnight offset start := by
  have hlt := lt_callEnd start stop
  have hfirst : dayOfWeek (localDay offset start) = day := h _ (localDay_mem_localDays hlt)
  refine ⟨hfirst, Int.not_lt.1 fun hmore => ?_⟩
  unfold LiesOn at h
  rw [localDays_of_lt hmore, List.forall_mem_cons] at h
  have hnext := h.2 _ (localDay_mem_localDays hmore)
  rw [localDay_nextMidnight, ← hfirst] at hnext
  unfold dayOfWeek at hnext
  omega

/-- Each day of the week begins at an instant of the calendar, such as its midnight in the first
full week. -/
theorem exists_midnight {day : Nat} (hday : day < 7) :
    ∃ start, InCalendar start ∧ weekday 0 start = day ∧ secondOfDay 0 start = 0 := by
  refine ⟨midnight 0 (day + 3), ?_, ?_, ?_⟩
  · unfold InCalendar
    rw [Bounds.contains_iff]
    simp only [calendar, midnight, secondsPerDay, Bounds.lastInstant]
    omega
  · simp only [weekday, midnight, secondsPerDay]
    omega
  · simp only [secondOfDay, midnight, secondsPerDay]
    omega

/-- A day whose minutes all have a result is one on which no call meets a gap. -/
theorem forall_isSome_iff_forall_cut {m : WeekModel} (hm : m.Built) {day : Nat}
    (hday : day < 7) :
    (∀ minute, 0 ≤ minute → minute ≤ TimeOfDay.lastMinute →
        (m.lookup day minute).isSome = true) ↔
      ∀ offset start stop, start ≤ stop → LiesOn day offset start stop →
        (m.cut offset start stop).gaps = 0 := by
  constructor
  · intro hall offset start stop hle hlies
    obtain ⟨hweekday, hend⟩ := hlies.callEnd_le
    have hlt := lt_callEnd start stop
    rw [cut_of_le m offset hle]
    split
    · rfl
    · rw [cutFrom_gaps_of_le m offset _ hlt hend, hweekday]
      have hnone := (cutDay_snd_eq_false_iff hm day (callEnd start stop - start)
        (secondOfDay offset start) (secondOfDay offset start + (callEnd start stop - start) - 1)).2
        fun x hfirst hlast => by
          have hbounds := secondOfDay_bounds offset start
          simp only [nextMidnight, secondsPerDay] at hend hbounds
          exact hall (x / 60) (by omega) (by simp only [TimeOfDay.lastMinute]; omega)
      rw [hnone]
      split <;> rfl
  · intro hall minute hfirst hlast
    obtain ⟨start, hcalendar, hstart, hsecond⟩ := exists_midnight hday
    have hnext : nextMidnight 0 start = start + 86400 := by
      simp only [nextMidnight, hsecond, secondsPerDay]
      omega
    have hend : callEnd start (start + 86400) = start + 86400 := by
      unfold callEnd
      omega
    have hgaps := hall 0 start (start + 86400) (by omega) (by
      unfold LiesOn
      rw [hend, localDays_of_le (by omega) (by omega)]
      exact List.forall_mem_singleton.2 hstart)
    have hspan : ¬ maxSpan < start + 86400 - start := by
      simp only [maxSpan, secondsPerDay]
      omega
    rw [cut_of_le m 0 (by omega), hend, if_neg hspan,
      cutFrom_gaps_of_le m 0 _ (by omega) (by omega), if_pos hcalendar, hstart, hsecond,
      Bool.toNat_eq_zero, cutDay_snd_eq_false_iff hm] at hgaps
    have hminute := hgaps (60 * minute) (by omega) (by
      simp only [TimeOfDay.lastMinute] at hlast
      omega)
    rw [Int.mul_ediv_cancel_left minute (by decide)] at hminute
    exact hminute

end WeekModel

namespace WeekModels

/-- Whatever intervals were handed to a collection, the gaps of each of its models are the
stretches of a day without a result, days that do not exist have neither gaps nor results, and
a day has no gaps if no call on it meets one. -/
theorem gaps_complement_ranges (writes : List Write) {name : String} {m : WeekModel}
    (hm : (Session.run write WeekModels.empty writes).1.model? name = some m) :
    (∀ day, day < 7 → m.IsUncovered day (m.gaps day)) ∧
      (∀ day, 7 ≤ day → m.gaps day = [] ∧ ∀ minute, m.lookup day minute = none) ∧
      ∀ day, day < 7 → (m.gaps day = [] ↔
        ∀ offset start stop, start ≤ stop → WeekModel.LiesOn day offset start stop →
          (m.cut offset start stop).gaps = 0) := by
  obtain ⟨hbuilt, hin⟩ := isKept_run writes name m hm
  refine ⟨fun day => hbuilt.isUncovered_gaps hin,
    fun day hday => ⟨m.gaps_of_le hday, m.lookup_of_le hday⟩, fun day hday => ?_⟩
  rw [(hbuilt.isUncovered_gaps hin hday).eq_nil_iff,
    WeekModel.forall_isSome_iff_forall_cut hbuilt hday]

/-- A day with two ranges, the second one up to midnight; two more intervals are refused.  The
gap between the ranges is the only one, and a call on that day meets it. -/
theorem gaps_between_two_ranges : ∃ m : WeekModel,
    (Session.run write WeekModels.empty [.interval "M" 3 "10:00" "0000" "day",
        .interval "M" 3 "0000" "0759" "night", .interval "M" 3 "1100" "1200" "noon",
        .interval "M" 7 "0000" "0759" "night"]).1.model? "M" = some m ∧
      m.gaps 3 = [⟨480, 599⟩] ∧ m.lookup 3 599 = none ∧ m.lookup 3 600 ≠ none ∧
      ∃ offset start stop, start ≤ stop ∧ WeekModel.LiesOn 3 offset start stop ∧
        (m.cut offset start stop).gaps ≠ 0 := by
  obtain ⟨m, hm⟩ := Option.isSome_iff_exists.1
    (show ((Session.run write WeekModels.empty [.interval "M" 3 "10:00" "0000" "day",
        .interval "M" 3 "0000" "0759" "night", .interval "M" 3 "1100" "1200" "noon",
        .interval "M" 7 "0000" "0759" "night"]).1.model? "M").isSome = true by decide +kernel)
  have hgaps : (some m).map (·.gaps 3) = some [⟨480, 599⟩] := by
    rw [← hm]
    decide +kernel
  have hgaps : m.gaps 3 = [⟨480, 599⟩] := Option.some.inj hgaps
  obtain ⟨huncovered, _, hempty⟩ := gaps_complement_ranges _ hm
  have hlookup := (huncovered 3 (by decide)).lookup_eq_none_iff
  rw [hgaps] at hlookup
  refine ⟨m, hm, hgaps, (hlookup 599 (by decide) (by decide)).2 (by decide), fun hnone => ?_, ?_⟩
  · have hin := (hlookup 600 (by decide) (by decide)).1 hnone
    revert hin
    decide
  · have hmeets := mt (hempty 3 (by decide)).2 (by rw [hgaps]; exact List.cons_ne_nil _ _)
    simpa only [not_forall, exists_prop] using hmeets

end WeekModels
end Tariff
