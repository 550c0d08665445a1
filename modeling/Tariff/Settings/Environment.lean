import Tariff.Settings.Document

/-!
# Settings from the environment

Variables that win over a document.  A variable that cannot be read counts as one that is
not set.

Main results:

- Theorem {lit}`Settings.override_unset`: an environment in which nothing is set changes
  nothing.
-/

namespace Tariff

/-- The values of variables by their names. -/
abbrev Environment := String → Option String

namespace Settings

/-- The value of a variable, or another one where it is not set or cannot be read. -/
def fromVariable {α : Type} (env : Environment) (name : String) (read? : String → Option α)
    (otherwise : α) : α :=
  ((env name).bind read?).getD otherwise

/-- A whole number with an optional sign, within its bounds. -/
def readNumber? {α : Type} (signed : Bool) (ofInt? : Int → Option α) (s : String) : Option α :=
  (Numeral.readInt? signed s.toList).bind ofInt?

/-- The settings with what the environment says. -/
def override (env : Environment) (s : Settings) : Settings :=
  { mode := fromVariable env "RATECACHE_INDEX_MODE" Catalogue.Mode.ofName? s.mode
    policy := fromVariable env "RATECACHE_CONFLICT_POLICY" Catalogue.Policy.ofName? s.policy
    offsetMinutes :=
      fromVariable env "RATECACHE_UTC_OFFSET_MINUTES" (readNumber? true minutes?)
        s.offsetMinutes
    reload := fromVariable env "RATECACHE_RELOAD_MODE" ReloadMode.ofName? s.reload
    period :=
      fromVariable env "RATECACHE_RELOAD_PERIOD_SECS" (readNumber? false seconds?) s.period
    journal := fromVariable env "RATECACHE_JOURNAL" some s.journal
    endpoint :=
      fromVariable env "RATECACHE_METRICS_PORT"
        (fun v => (readNumber? false endpoint? v).map some) s.endpoint
    level := fromVariable env "RATECACHE_LOG_LEVEL" some s.level }

/-- The settings of a process: those of the file that a variable names, or else the
standard ones, with what the environment says. -/
def ofEnvironment (file : String → Option (List UInt8)) (env : Environment) :
    Except Fault Settings := do
  let s ← match env "RATECACHE_CONFIG" with
    | none => .ok standard
    | some path => ofFile (file path)
  .ok (s.override env)

/-- An environment in which nothing is set changes nothing. -/
theorem override_unset (s : Settings) : s.override (fun _ => none) = s := rfl

end Settings
end Tariff
