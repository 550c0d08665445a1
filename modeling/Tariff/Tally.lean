import Tariff.Directory
import Tariff.Options

/-!
# Tallies

A tally keeps what a store has done and how large its tables are.  A figure is there
once it has been touched.

Main results:

- Theorem {lit}`Tally.get?_add`: counting changes one figure.
- Theorem {lit}`Tally.get?_set`: setting changes one figure.
-/

namespace Tariff

/-- What was looked up. -/
inductive LookupKind where
  | validity
  | validityAll
  | segment
  | rule
  | ruleAll
deriving DecidableEq, Repr

/-- A figure of a tally. -/
inductive Figure where
  | lookups (kind : LookupKind) (hit : Bool)
  | segmentGaps
  | conflicts (policy : Catalogue.Policy)
  | reloads (mode : ReloadMode) (succeeded : Bool)
  /-- How often the time of a reload was taken. -/
  | reloadTimes (mode : ReloadMode)
  | keys
  | entries
deriving DecidableEq, Repr

/-- The name of a kind of lookup. -/
def LookupKind.name : LookupKind → String
  | validity => "validity"
  | validityAll => "validity_all"
  | segment => "segment"
  | rule => "predicate"
  | ruleAll => "predicate_all"

namespace Figure

/-- The name of a figure without its labels. -/
def name : Figure → String
  | lookups .. => "ratecache_lookups_total"
  | segmentGaps => "ratecache_segment_gaps_total"
  | conflicts _ => "ratecache_validity_conflicts_total"
  | reloads .. => "ratecache_reloads_total"
  | reloadTimes _ => "ratecache_reload_duration_seconds"
  | keys => "ratecache_validity_keys"
  | entries => "ratecache_validity_intervals"

/-- The labels of a figure, in alphabetical order. -/
def labels : Figure → List (String × String)
  | lookups kind hit =>
    [("kind", kind.name), ("outcome", if hit then "hit" else "no_match")]
  | conflicts policy => [("policy", policy.name)]
  | reloads mode succeeded =>
    [("mode", mode.name), ("status", if succeeded then "ok" else "error")]
  | reloadTimes mode => [("mode", mode.name)]
  | segmentGaps | keys | entries => []

/-- The name of a figure with its labels. -/
def text (f : Figure) : String :=
  f.name ++ "\x7b" ++ ",".intercalate (f.labels.map fun l => l.1 ++ "=" ++ l.2) ++ "\x7d"

end Figure

/-- The figures that have been touched. -/
structure Tally where
  figures : Directory Figure Nat

namespace Tally

/-- No figure has been touched. -/
def empty : Tally := ⟨Directory.empty⟩

/-- A figure. -/
def get? (t : Tally) (f : Figure) : Option Nat :=
  t.figures.get? f

/-- The tally with a figure set. -/
def set (t : Tally) (f : Figure) (n : Nat) : Tally :=
  ⟨t.figures.set f n⟩

/-- The tally with a figure raised.  Nothing added leaves it untouched. -/
def add (t : Tally) (f : Figure) (n : Nat) : Tally :=
  if n = 0 then t else t.set f ((t.get? f).getD 0 + n)

/-- All figures by the text of their names. -/
def rows (t : Tally) : List (String × Nat) :=
  (t.figures.entries.map fun e => (e.1.text, e.2)).mergeSort fun a b => decide (a.1 ≤ b.1)

/-! ## Laws -/

/-- Setting changes one figure. -/
theorem get?_set (t : Tally) (f g : Figure) (n : Nat) :
    (t.set f n).get? g = if g = f then some n else t.get? g :=
  Directory.get?_set t.figures f n g

/-- Counting changes one figure. -/
theorem get?_add (t : Tally) (f g : Figure) (n : Nat) :
    (t.add f n).get? g = if g = f ∧ n ≠ 0 then some ((t.get? f).getD 0 + n) else t.get? g := by
  unfold add
  by_cases hn : n = 0
  · simp [hn]
  · simp [hn, get?_set]

end Tally
end Tariff
