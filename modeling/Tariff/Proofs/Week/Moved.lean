import Tariff.Proofs.Week.DayPieces

/-!
# Calls that are moved

A weekly model does not know which week it is, and an offset only says how far the local
clock is ahead of universal time.  A call that is moved by whole weeks, or that is told in
local time, is therefore cut as before: at each instant the clocks show the same weekday
and the same time of day.  This holds of negative instants and of any offset, as days are
counted downwards from the calendar's zero as they are upwards.

Main results:

- Theorem {lit}`WeekModel.InStep.cutFrom`: clocks in step cut the days from an instant on
  alike.
- Theorem {lit}`WeekModel.InStep.cut`: clocks in step cut a call alike.
- Theorem {lit}`WeekModel.cut_of_moved_call`: moving a call by whole weeks, or telling it in
  local time, leaves the result as it was.
-/

namespace Tariff
namespace WeekModel

/-! ## Cuts that are moved -/

/-- The fault of a call that lies so much later. -/
def CutFault.moved (shift : Int) : CutFault → CutFault
  | reversed start stop => reversed (start + shift) (stop + shift)
  | tooWide seconds => tooWide seconds
  | outOfRange instant => outOfRange (instant + shift)

/-- The cut of a call that lies so much later: the same segments and gaps, and the same
fault. -/
def Cut.moved (shift : Int) (c : Cut) : Cut :=
  { c with fault := c.fault.map (CutFault.moved shift) }

/-- No day slice began outside the calendar. -/
def Cut.StaysInCalendar (c : Cut) : Prop :=
  ∀ t, c.fault ≠ some (.outOfRange t)

/-- A cut that is moved has the same result, or the same fault moved. -/
theorem Cut.result_moved (shift : Int) (c : Cut) :
    (c.moved shift).result = c.result.mapError (CutFault.moved shift) := by
  obtain ⟨segments, gaps, fault⟩ := c
  cases fault with
  | none => rfl
  | some f => rfl

/-- A cut that gives segments stays in the calendar. -/
theorem Cut.staysInCalendar_of_result_eq_ok {c : Cut} {segments : List Segment}
    (h : c.result = .ok segments) : c.StaysInCalendar := by
  intro t ht
  rw [((c.result_eq_ok_iff segments).1 h).1] at ht
  cases ht

/-! ## Clocks in step -/

/-- The seconds of a week. -/
def secondsPerWeek : Int := 7 * secondsPerDay

/-- The clock at the second offset shows, so much later, what the clock at the first one
shows: whole weeks lie between them. -/
def InStep (offset offset' shift : Int) : Prop :=
  ∃ weeks, offset' + shift = offset + weeks * secondsPerWeek

/-- A move by whole weeks keeps in step. -/
theorem inStep_weeks (offset weeks : Int) : InStep offset offset (weeks * secondsPerWeek) :=
  ⟨weeks, rfl⟩

/-- The clock of universal time shows local time so much later as that clock is ahead. -/
theorem inStep_universal (offset : Int) : InStep offset 0 offset :=
  ⟨0, by omega⟩

namespace InStep

variable {offset offset' shift : Int}

/-- A move in step keeps the day of the week. -/
theorem weekday_eq (h : InStep offset offset' shift) (t : Int) :
    weekday offset' (t + shift) = weekday offset t := by
  obtain ⟨weeks, h⟩ := h
  simp only [weekday, secondsPerWeek, secondsPerDay] at h ⊢
  omega

/-- A move in step keeps the second of the day. -/
theorem secondOfDay_eq (h : InStep offset offset' shift) (t : Int) :
    secondOfDay offset' (t + shift) = secondOfDay offset t := by
  obtain ⟨weeks, h⟩ := h
  simp only [secondOfDay, secondsPerWeek, secondsPerDay] at h ⊢
  omega

/-- A move in step moves the next midnight as well. -/
theorem nextMidnight_eq (h : InStep offset offset' shift) (t : Int) :
    nextMidnight offset' (t + shift) = nextMidnight offset t + shift := by
  simp only [nextMidnight, h.secondOfDay_eq]
  omega

/-- Clocks in step cut the days from an instant on alike, as long as both stay in the
calendar. -/
theorem cutFrom (h : InStep offset offset' shift) (m : WeekModel) (total stop cursor : Int)
    (hfirst : (m.cutFrom offset total stop cursor).StaysInCalendar)
    (hsecond : (m.cutFrom offset' total (stop + shift) (cursor + shift)).StaysInCalendar) :
    m.cutFrom offset' total (stop + shift) (cursor + shift) =
      (m.cutFrom offset total stop cursor).moved shift := by
  -- The induction is on the cursor: both runs cut one local day in each round.
  fun_induction WeekModel.cutFrom m offset total stop cursor with
  | case1 cursor hlt hcalendar sliceStop hslice first day rest ih =>
    have hlt' : cursor + shift < stop + shift := by omega
    have hsliceStop : min (stop + shift) (nextMidnight offset' (cursor + shift)) =
        sliceStop + shift := by
      rw [h.nextMidnight_eq]
      omega
    have hlength : sliceStop + shift - (cursor + shift) = sliceStop - cursor := by omega
    by_cases hcalendar' : Bounds.closed.contains calendar (cursor + shift) = true
    · have hunfold : m.cutFrom offset' total (stop + shift) (cursor + shift) =
          { segments := day.1 ++
              (m.cutFrom offset' total (stop + shift) (sliceStop + shift)).segments
            gaps := day.2.toNat +
              (m.cutFrom offset' total (stop + shift) (sliceStop + shift)).gaps
            fault := (m.cutFrom offset' total (stop + shift) (sliceStop + shift)).fault } := by
        conv_lhs => unfold WeekModel.cutFrom
        rw [dif_pos hlt', if_pos hcalendar']
        simp only [hsliceStop, hlength, h.weekday_eq, h.secondOfDay_eq]
        rfl
      rw [hunfold] at hsecond ⊢
      have hrest := ih hfirst hsecond
      rw [hrest]
      rfl
    · have hout : m.cutFrom offset' total (stop + shift) (cursor + shift) =
          ⟨[], 0, some (.outOfRange (cursor + shift))⟩ := by
        unfold WeekModel.cutFrom
        rw [dif_pos hlt', if_neg hcalendar']
      rw [hout] at hsecond
      exact absurd rfl (hsecond (cursor + shift))
  | case2 cursor hlt hcalendar => exact absurd rfl (hfirst cursor)
  | case3 cursor hge =>
    unfold WeekModel.cutFrom
    rw [dif_neg (by omega)]
    rfl

/-- Clocks in step cut a call alike, as long as both stay in the calendar. -/
theorem cut (h : InStep offset offset' shift) (m : WeekModel) (start stop : Int)
    (hfirst : (m.cut offset start stop).StaysInCalendar)
    (hsecond : (m.cut offset' (start + shift) (stop + shift)).StaysInCalendar) :
    m.cut offset' (start + shift) (stop + shift) = (m.cut offset start stop).moved shift := by
  have hend : (if stop + shift = start + shift then start + shift + 1 else stop + shift) =
      (if stop = start then start + 1 else stop) + shift := by
    split <;> split <;> omega
  unfold WeekModel.cut at hfirst hsecond ⊢
  simp only [hend] at hfirst hsecond ⊢
  generalize (if stop = start then start + 1 else stop) = last at hfirst hsecond ⊢
  have hlength : last + shift - (start + shift) = last - start := by omega
  rw [hlength] at hsecond ⊢
  by_cases hreversed : stop < start
  · rw [if_pos hreversed, if_pos (by omega)]
    rfl
  · rw [if_neg hreversed] at hfirst ⊢
    rw [if_neg (by omega)] at hsecond ⊢
    by_cases hwide : maxSpan < last - start
    · rw [if_pos hwide, if_pos hwide]
      rfl
    · rw [if_neg hwide] at hfirst hsecond ⊢
      rw [if_neg hwide]
      exact h.cutFrom m (last - start) last start hfirst hsecond

end InStep

/-- A call that is moved by whole weeks is cut into the same segments, or refused for the
same fault, and so is a call that is told in local time and cut in universal time.  Only the
calendar can tell them apart. -/
theorem cut_of_moved_call (m : WeekModel) (offset start stop weeks : Int) :
    let shift := weeks * secondsPerWeek
    ((m.cut offset start stop).StaysInCalendar →
      (m.cut offset (start + shift) (stop + shift)).StaysInCalendar →
        (m.cut offset (start + shift) (stop + shift)).result =
          (m.cut offset start stop).result.mapError (CutFault.moved shift)) ∧
      ((m.cut offset start stop).StaysInCalendar →
        (m.cut 0 (start + offset) (stop + offset)).StaysInCalendar →
          (m.cut 0 (start + offset) (stop + offset)).result =
            (m.cut offset start stop).result.mapError (CutFault.moved offset)) := by
  intro shift
  constructor
  · intro hfirst hsecond
    rw [(inStep_weeks offset weeks).cut m start stop hfirst hsecond, Cut.result_moved]
  · intro hfirst hsecond
    rw [(inStep_universal offset).cut m start stop hfirst hsecond, Cut.result_moved]

/-- A call from before instant 0 to behind it, at an offset that is no whole number of
minutes, two weeks earlier and in universal time. -/
theorem cut_of_moved_call_over_zero : ∃ m : WeekModel, m.Built ∧
    let segments := [⟨3, 1377, 19, 1439, 59, "night", 7300⟩, ⟨4, 0, 0, 58, 58, "night", 7300⟩]
    let shift := -2 * secondsPerWeek
    (m.cut (-3661) (-100) 7200).StaysInCalendar ∧
      (m.cut (-3661) (-100 + shift) (7200 + shift)).StaysInCalendar ∧
      (m.cut 0 (-100 + -3661) (7200 + -3661)).StaysInCalendar ∧
      (m.cut (-3661) (-100 + shift) (7200 + shift)).result = .ok segments ∧
      (m.cut 0 (-100 + -3661) (7200 + -3661)).result = .ok segments := by
  have hevening : WeekModel.Built _ := .add 3 1320 1439 "night" (.empty "M") rfl
  have hm : WeekModel.Built _ := .add 4 0 59 "night" hevening rfl
  refine ⟨_, hm, ?_⟩
  intro segments shift
  have hcut := cut_result_eq_ok_iff hm
  have hresult := (hcut (-3661) (-100) 7200 segments).2
    ⟨by decide, by decide, by decide, by decide⟩
  have hhere := Cut.staysInCalendar_of_result_eq_ok hresult
  have hearlier := Cut.staysInCalendar_of_result_eq_ok
    ((hcut (-3661) (-100 + shift) (7200 + shift) _).2 ⟨by decide, by decide, by decide, rfl⟩)
  have huniversal := Cut.staysInCalendar_of_result_eq_ok
    ((hcut 0 (-100 + -3661) (7200 + -3661) _).2 ⟨by decide, by decide, by decide, rfl⟩)
  obtain ⟨hweeks, hlocal⟩ := cut_of_moved_call _ (-3661) (-100) 7200 (-2)
  refine ⟨hhere, hearlier, huniversal, ?_, ?_⟩
  · rw [hweeks hhere hearlier, hresult]
    rfl
  · rw [hlocal hhere huniversal, hresult]
    rfl

end WeekModel
end Tariff
