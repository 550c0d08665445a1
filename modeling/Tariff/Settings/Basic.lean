import Tariff.Options

/-!
# Settings

What an operator can set, with the values that hold where nothing is set, and what
follows for a store.

Main results:

- Theorem {lit}`Settings.options_isOk_iff`: a store can be set up exactly when local time
  is less than a day away from universal time.
-/

namespace Tariff

/-- What an operator can set. -/
structure Settings where
  mode : Catalogue.Mode
  policy : Catalogue.Policy
  /-- The minutes by which local time is ahead of universal time. -/
  offsetMinutes : Int32
  reload : ReloadMode
  /-- The seconds between two reloads; none happens where this is zero. -/
  period : UInt64
  /-- The path of the journal. -/
  journal : String
  /-- The number of the TCP endpoint at which counters are served, if they are. -/
  endpoint : Option UInt16
  /-- The directive that filters the log. -/
  level : String
deriving DecidableEq, Repr

namespace Settings

/-- The settings where nothing is set. -/
def standard : Settings :=
  { mode := .exclusive
    policy := .reject
    offsetMinutes := 0
    reload := .full
    period := 300
    journal := "./data/ratecache.journal"
    endpoint := none
    level := "info" }

/-! ## Numbers -/

/-- A number of minutes, if it is not too large. -/
def minutes? (n : Int) : Option Int32 :=
  if -2147483648 ≤ n ∧ n ≤ 2147483647 then some (Int32.ofInt n) else none

/-- A number of seconds, if it is not too large. -/
def seconds? (n : Int) : Option UInt64 :=
  if 0 ≤ n ∧ n ≤ 18446744073709551615 then some (UInt64.ofNat n.toNat) else none

/-- The number of an endpoint, if it is one. -/
def endpoint? (n : Int) : Option UInt16 :=
  if 0 ≤ n ∧ n ≤ 65535 then some (UInt16.ofNat n.toNat) else none

/-! ## What follows -/

/-- Local time is a day or more away from universal time. -/
structure OffsetFault where
  minutes : Int32
deriving DecidableEq, Repr

/-- The text of the fault. -/
def OffsetFault.message (f : OffsetFault) : String :=
  "utc offset of " ++ toString f.minutes.toInt ++ " minutes is out of range"

/-- The seconds in a day. -/
def daySeconds : Nat := 86400

/-- What a store is set up with. -/
def options (s : Settings) : Except OffsetFault Options :=
  let offset := s.offsetMinutes.toInt * 60
  if offset.natAbs < daySeconds then
    .ok { mode := s.mode, policy := s.policy, reload := s.reload, offset }
  else .error ⟨s.offsetMinutes⟩

/-- The seconds between two reloads, if there are any. -/
def reloadPeriod? (s : Settings) : Option UInt64 :=
  if s.period = 0 then none else some s.period

/-- A store can be set up exactly when local time is less than a day away. -/
theorem options_isOk_iff (s : Settings) :
    s.options.isOk = true ↔ s.offsetMinutes.toInt.natAbs < 1440 := by
  have h : (s.offsetMinutes.toInt * 60).natAbs < daySeconds ↔
      s.offsetMinutes.toInt.natAbs < 1440 := by
    rw [Int.natAbs_mul, daySeconds, show Int.natAbs 60 = 60 from rfl]
    omega
  rw [← h]
  unfold options
  by_cases hc : (s.offsetMinutes.toInt * 60).natAbs < daySeconds
  · simp [hc, Except.isOk, Except.toBool]
  · simp [hc, Except.isOk, Except.toBool]

end Settings
end Tariff
