import Tariff.Text.Quoted
import Tariff.Timeline
import Tariff.Week.TimeOfDay

/-!
# Weekly models

A weekly model says which result holds at each minute of each weekday: one exclusive
timeline of closed minute ranges per day, from Sunday on.

Main results:

- Theorem {lit}`WeekModel.days_of_add`: an interval that is added changes its own day
  and no other.
- Theorem {lit}`WeekModel.lookup_contains`: the interval found at a minute contains it.
-/

namespace Tariff

/-- The result that holds at each minute of a week. -/
structure WeekModel where
  name : String
  /-- The ranges of each day, from Sunday on. -/
  days : Vector (Timeline String) 7

namespace WeekModel

/-- Why an interval is refused. -/
inductive Fault where
  /-- A text that should name a time of day does not. -/
  | unreadableTime (text : String)
  /-- There is no weekday of this number. -/
  | noSuchDay (day : Nat)
  /-- The interval ends before it starts. -/
  | reversed (start stop : Int)
  /-- The day has an interval with the same start. -/
  | duplicateStart (day : Nat) (minute : Int)
  /-- The day has an interval that overlaps. -/
  | overlap (cause : Timeline.Refusal)
deriving DecidableEq, Repr

/-- The wording of a refusal by a model of a name. -/
def Fault.message (model : String) (f : Fault) : String :=
  "time model " ++ model ++ ": " ++
    match f with
    | unreadableTime text => "unparseable time of day " ++ Text.Quoted.quote text
    | noSuchDay day => "day " ++ toString day ++ " outside 0..=6"
    | reversed start stop =>
      "interval " ++ toString start ++ ".." ++ toString stop ++ " has from after to"
    | duplicateStart day minute =>
      "day " ++ toString day ++ " already has an interval starting at minute " ++
        toString minute
    | overlap cause => cause.message

/-- A model without intervals. -/
def empty (name : String) : WeekModel :=
  ⟨name, Vector.replicate 7 (Timeline.exclusive .closed)⟩

/-- The ranges of a weekday. -/
def day? (m : WeekModel) (day : Nat) : Option (Timeline String) :=
  m.days[day]?

/-- The interval that holds at a minute of a weekday. -/
def lookupEntry (m : WeekModel) (day : Nat) (minute : Int) : Option (Entry String) :=
  (m.day? day).bind (·.lookupEntry minute)

/-- The result that holds at a minute of a weekday. -/
def lookup (m : WeekModel) (day : Nat) (minute : Int) : Option String :=
  (m.lookupEntry day minute).map (·.value)

/-- The stretches from a minute on that no span covers, up to the end of the day.
The spans come by start. -/
def gapsFrom (next : Int) : List Span → List Span
  | [] => if next ≤ TimeOfDay.lastMinute then [⟨next, TimeOfDay.lastMinute⟩] else []
  | s :: rest =>
    let before : List Span := if next < s.start then [⟨next, s.start - 1⟩] else []
    before ++ gapsFrom (max next (s.stop + 1)) rest

/-- The closed minute ranges of a weekday that no interval covers. -/
def gaps (m : WeekModel) (day : Nat) : List Span :=
  match m.day? day with
  | some l => gapsFrom 0 (l.entries.map (·.span))
  | none => []

/-- Adds a closed range of minutes to the timeline of a day. -/
def addToDay (l : Timeline String) (day : Nat) (span : Span) (result : String) :
    Except Fault (Timeline String) :=
  if span.stop < span.start then .error (.reversed span.start span.stop)
  else if l.entries.any fun e => decide (e.span.start = span.start) then
    .error (.duplicateStart day span.start)
  else
    match l.insert 0 span result with
    | (l', .ok _) => .ok l'
    | (_, .error (.emptySpan s)) => .error (.reversed s.start s.stop)
    | (_, .error (.overlap s e)) => .error (.overlap (.overlap s e))

/-- Adds an interval to a weekday.  An end at midnight is the end of the day. -/
def add (m : WeekModel) (day : Nat) (start stop : Int) (result : String) :
    Except Fault WeekModel :=
  if h : day < 7 then
    (addToDay m.days[day] day ⟨start, TimeOfDay.endMinute stop⟩ result).map fun l =>
      { m with days := m.days.set day l }
  else .error (.noSuchDay day)

/-! ## Laws -/

/-- The interval found at a minute contains it. -/
theorem lookup_contains {m : WeekModel} {day : Nat} {minute : Int} {e : Entry String}
    (h : m.lookupEntry day minute = some e) :
    ∃ l, m.day? day = some l ∧ l.bounds.contains e.span minute = true := by
  obtain ⟨l, hl, he⟩ := Option.bind_eq_some_iff.1 h
  exact ⟨l, hl, Timeline.contains_of_lookupEntry he⟩

/-- Whatever the bounds, the minute is not past the end of the interval found. -/
theorem le_stop_of_lookupEntry {m : WeekModel} {day : Nat} {minute : Int} {e : Entry String}
    (h : m.lookupEntry day minute = some e) : minute ≤ e.span.stop := by
  obtain ⟨l, _, hc⟩ := lookup_contains h
  rw [Bounds.contains_iff] at hc
  cases hb : l.bounds <;> simp only [hb, Bounds.lastInstant] at hc <;> omega

/-- An interval that is added changes its own day and no other. -/
theorem days_of_add {m m' : WeekModel} {day : Nat} {start stop : Int} {result : String}
    (h : m.add day start stop result = .ok m') (other : Nat) (hne : other ≠ day) :
    m'.day? other = m.day? other := by
  unfold add at h
  split at h
  · cases hl : addToDay m.days[day] day ⟨start, TimeOfDay.endMinute stop⟩ result with
    | error f => simp [hl, Except.map] at h
    | ok l =>
      simp only [hl, Except.map, Except.ok.injEq] at h
      subst h
      simp only [day?]
      rw [Vector.getElem?_set_ne]
      omega
  · cases h

end WeekModel
end Tariff
