import Tariff.Week.Model

/-!
# Segments

A span of absolute time is cut at local midnights and at the ends of the intervals of
a weekly model.  Each piece carries its place in the day to the second, both ends
included, and the result of the interval that covers it.  Where no interval covers a
minute, the rest of that day is left out.

Main results:

- Theorem {lit}`Segment.duration_eq`: the duration counts the seconds from the first
  to the last.
- Theorem {lit}`WeekModel.lt_nextMidnight`: each day slice ends after it begins, so
  that cutting moves on.
-/

namespace Tariff

/-- A piece of a span inside one day and one interval.  Both ends belong to it. -/
structure Segment where
  /-- The weekday, from Sunday on. -/
  day : Nat
  startMinute : Int
  startSecond : Int
  endMinute : Int
  endSecond : Int
  result : String
  /-- The length of the whole span that was cut, in seconds. -/
  total : Int
deriving DecidableEq, Repr

namespace Segment

/-- The first second, counted from midnight. -/
def startOffset (s : Segment) : Int :=
  s.startMinute * 60 + s.startSecond

/-- The last second, counted from midnight. -/
def endOffset (s : Segment) : Int :=
  s.endMinute * 60 + s.endSecond

/-- The number of seconds. -/
def duration (s : Segment) : Int :=
  s.endOffset - s.startOffset + 1

/-- The piece of a day between two seconds counted from midnight. -/
def between (day : Nat) (first last : Int) (result : String) (total : Int) : Segment :=
  ⟨day, first / 60, first % 60, last / 60, last % 60, result, total⟩

@[simp] theorem startOffset_between (day : Nat) (first last : Int) (result : String)
    (total : Int) : (between day first last result total).startOffset = first := by
  simp only [between, startOffset]
  omega

@[simp] theorem endOffset_between (day : Nat) (first last : Int) (result : String)
    (total : Int) : (between day first last result total).endOffset = last := by
  simp only [between, endOffset]
  omega

/-- The duration counts the seconds from the first to the last. -/
theorem duration_eq (day : Nat) (first last : Int) (result : String) (total : Int) :
    (between day first last result total).duration = last - first + 1 := by
  simp [duration]

end Segment

namespace WeekModel

/-- The seconds of a day. -/
def secondsPerDay : Int := 86400

/-- The longest span that is cut, 31 days. -/
def maxSpan : Int := 31 * secondsPerDay

/-- The first and the last instant of the calendar. -/
def calendar : Span := ⟨-8334601228800, 8210266876799⟩

/-- Why a span is not cut. -/
inductive CutFault where
  /-- The span ends before it starts. -/
  | reversed (start stop : Int)
  /-- The span is longer than the limit. -/
  | tooWide (seconds : Int)
  /-- A day slice starts outside the calendar. -/
  | outOfRange (instant : Int)
deriving DecidableEq, Repr

/-- The wording of a refusal to cut. -/
def CutFault.message : CutFault → String
  | reversed start stop =>
    "end " ++ toString stop ++ " is before start " ++ toString start
  | tooWide seconds =>
    "span of " ++ toString seconds ++ "s exceeds the segmenting limit"
  | outOfRange instant =>
    "timestamp " ++ toString instant ++ " is outside the representable calendar range"

/-- What cutting produced: the pieces, the number of days that a gap cut short, and
the fault that ended it early. -/
structure Cut where
  segments : List Segment
  gaps : Nat
  fault : Option CutFault
deriving DecidableEq, Repr

/-- The pieces, unless there was a fault. -/
def Cut.result (c : Cut) : Except CutFault (List Segment) :=
  match c.fault with
  | some f => .error f
  | none => .ok c.segments

/-! ## One day -/

/-- The last second of the piece that begins at a second of the day. -/
def pieceEnd (e : Entry String) (last : Int) : Int :=
  min last ((e.span.stop + 1) * 60 - 1)

/-- A piece does not end in front of its start. -/
theorem le_pieceEnd {m : WeekModel} {day : Nat} {first last : Int} {e : Entry String}
    (h : m.lookupEntry day (first / 60) = some e) (hle : first ≤ last) :
    first ≤ pieceEnd e last := by
  have := le_stop_of_lookupEntry h
  simp only [pieceEnd]
  omega

/-- The pieces of the seconds from {lit}`first` to {lit}`last` of a weekday, and
whether a gap ended them. -/
def cutDay (m : WeekModel) (day : Nat) (total first last : Int) : List Segment × Bool :=
  if hle : first ≤ last then
    match h : m.lookupEntry day (first / 60) with
    | none => ([], true)
    | some e =>
      let stop := pieceEnd e last
      have : first ≤ stop := le_pieceEnd h hle
      let rest := cutDay m day total (stop + 1) last
      (Segment.between day first stop e.value total :: rest.1, rest.2)
  else ([], false)
termination_by (last + 1 - first).toNat
decreasing_by omega

/-! ## Many days -/

/-- The weekday of an instant at an offset, 0 for Sunday. -/
def weekday (offset instant : Int) : Nat :=
  (((instant + offset) / secondsPerDay + 4) % 7).toNat

/-- The second of the local day at an instant. -/
def secondOfDay (offset instant : Int) : Int :=
  (instant + offset) % secondsPerDay

/-- The instant of the local midnight after an instant. -/
def nextMidnight (offset instant : Int) : Int :=
  instant - secondOfDay offset instant + secondsPerDay

/-- The next midnight is still to come. -/
theorem lt_nextMidnight (offset instant : Int) : instant < nextMidnight offset instant := by
  simp only [nextMidnight, secondOfDay, secondsPerDay]
  omega

/-- Cuts the days from an instant on. -/
def cutFrom (m : WeekModel) (offset total stop cursor : Int) : Cut :=
  if hlt : cursor < stop then
    if Bounds.closed.contains calendar cursor then
      let sliceStop := min stop (nextMidnight offset cursor)
      have : cursor < sliceStop := by
        have := lt_nextMidnight offset cursor
        omega
      let first := secondOfDay offset cursor
      let day := cutDay m (weekday offset cursor) total first (first + (sliceStop - cursor) - 1)
      let rest := cutFrom m offset total stop sliceStop
      { segments := day.1 ++ rest.segments
        gaps := day.2.toNat + rest.gaps
        fault := rest.fault }
    else ⟨[], 0, some (.outOfRange cursor)⟩
  else ⟨[], 0, none⟩
termination_by (stop - cursor).toNat
decreasing_by omega

/-- Cuts the span from {lit}`start` up to {lit}`stop` at an offset from universal time
in seconds.  An empty span counts as one second. -/
def cut (m : WeekModel) (offset start stop : Int) : Cut :=
  let end' := if stop = start then start + 1 else stop
  if stop < start then ⟨[], 0, some (.reversed start stop)⟩
  else if maxSpan < end' - start then ⟨[], 0, some (.tooWide (end' - start))⟩
  else cutFrom m offset (end' - start) end' start

end WeekModel
end Tariff
