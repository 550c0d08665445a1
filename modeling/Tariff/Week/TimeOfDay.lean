import Tariff.Text.Blank
import Tariff.Text.Numeral

/-!
# Times of day

A time of day is a minute from midnight on, written with two digits for the minute
and one or two for the hour.  The last minute of a day also stands for its end.

Main results:

- Theorem {lit}`TimeOfDay.parse?_bounds`: what is read is a minute of the day.
- Theorem {lit}`TimeOfDay.endMinute_eq_self_iff`: only midnight means another minute
  when it ends an interval.
-/

namespace Tariff
namespace TimeOfDay

/-- The last minute of a day, 23:59. -/
def lastMinute : Int := 1439

/-- The minute that hours and minutes name.  24:00 is the end of the day. -/
def ofClock? (hours minutes : Nat) : Option Int :=
  if hours = 24 ∧ minutes = 0 then some lastMinute
  else if hours ≤ 23 ∧ minutes ≤ 59 then some (hours * 60 + minutes)
  else none

/-- The minute that the digits of an hour and those of a minute name. -/
def ofDigits? (hours minutes : List Char) : Option Int := do
  let h ← Numeral.read? 10 hours
  let m ← Numeral.read? 10 minutes
  ofClock? h m

/-- Reads a time of day.  Blanks around it and colons anywhere in it do not count. -/
def parse? (s : String) : Option Int :=
  match (Text.trim s.toList).filter (· ≠ ':') with
  | [h, m₁, m₂] => ofDigits? [h] [m₁, m₂]
  | [h₁, h₂, m₁, m₂] => ofDigits? [h₁, h₂] [m₁, m₂]
  | _ => none

/-- The minute at which an interval ends.  Midnight ends the day and does not begin
it. -/
def endMinute (minute : Int) : Int :=
  if minute = 0 then lastMinute else minute

theorem ofClock?_bounds {hours minutes : Nat} {minute : Int}
    (h : ofClock? hours minutes = some minute) : 0 ≤ minute ∧ minute ≤ lastMinute := by
  unfold ofClock? at h
  split at h
  · cases h
    decide
  · split at h
    · cases h
      simp only [lastMinute]
      omega
    · cases h

theorem ofDigits?_bounds {hours minutes : List Char} {minute : Int}
    (h : ofDigits? hours minutes = some minute) : 0 ≤ minute ∧ minute ≤ lastMinute := by
  unfold ofDigits? at h
  cases hh : Numeral.read? 10 hours with
  | none => simp [hh] at h
  | some x =>
    cases hm : Numeral.read? 10 minutes with
    | none => simp [hh, hm] at h
    | some y => exact ofClock?_bounds (by simpa [hh, hm] using h)

/-- What is read is a minute of the day. -/
theorem parse?_bounds {s : String} {minute : Int} (h : parse? s = some minute) :
    0 ≤ minute ∧ minute ≤ lastMinute := by
  unfold parse? at h
  split at h
  · exact ofDigits?_bounds h
  · exact ofDigits?_bounds h
  · cases h

/-- Only midnight means another minute when it ends an interval. -/
theorem endMinute_eq_self_iff (minute : Int) : endMinute minute = minute ↔ minute ≠ 0 := by
  unfold endMinute lastMinute
  split <;> omega

end TimeOfDay
end Tariff
