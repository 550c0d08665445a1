/-!
# Spans of time and their bounds

A span is a pair of instants.  Whether its end belongs to it is not a property of
the span but of the list that holds it: stretches of absolute time are half open,
minute ranges of a day are closed.

Main results:

- Theorems {lit}`Bounds.contains_iff`, {lit}`Bounds.admits_iff` and
  {lit}`Bounds.overlaps_iff`: whatever its bounds, a span reaches from its start to its last
  instant.
-/

namespace Tariff

/-- A pair of instants.  Nothing forces them to be in order. -/
structure Span where
  start : Int
  stop : Int
deriving DecidableEq, Repr

/-- Which end of a span belongs to it. -/
inductive Bounds where
  /-- The start belongs to the span and the end does not. -/
  | halfOpen
  /-- Both ends belong to the span. -/
  | closed
deriving DecidableEq, Repr

namespace Bounds

/-- The instant {lit}`t` lies in the span. -/
def contains : Bounds → Span → Int → Bool
  | halfOpen, s, t => decide (s.start ≤ t) && decide (t < s.stop)
  | closed, s, t => decide (s.start ≤ t) && decide (t ≤ s.stop)

/-- The span is not empty. -/
def admits : Bounds → Span → Bool
  | halfOpen, s => decide (s.start < s.stop)
  | closed, s => decide (s.start ≤ s.stop)

/-- Each span begins before the other one is over.  Half-open spans that only
touch do not overlap, closed ones do. -/
def overlaps : Bounds → Span → Span → Bool
  | halfOpen, a, b => decide (a.start < b.stop) && decide (b.start < a.stop)
  | closed, a, b => decide (a.start ≤ b.stop) && decide (b.start ≤ a.stop)

/-- The last instant that a span of these bounds can contain. -/
def lastInstant : Bounds → Span → Int
  | halfOpen, s => s.stop - 1
  | closed, s => s.stop

/-- Containment is a two-sided bound by the last instant. -/
theorem contains_iff (b : Bounds) (s : Span) (t : Int) :
    b.contains s t = true ↔ s.start ≤ t ∧ t ≤ b.lastInstant s := by
  cases b with
  | halfOpen =>
    simp only [contains, lastInstant, Bool.and_eq_true, decide_eq_true_eq]
    omega
  | closed => simp only [contains, lastInstant, Bool.and_eq_true, decide_eq_true_eq]

/-- A span is admitted when its start is not past its last instant. -/
theorem admits_iff (b : Bounds) (s : Span) :
    b.admits s = true ↔ s.start ≤ b.lastInstant s := by
  cases b with
  | halfOpen =>
    simp only [admits, lastInstant, decide_eq_true_eq]
    omega
  | closed => simp only [admits, lastInstant, decide_eq_true_eq]

/-- Overlap compares each start with the other span's last instant. -/
theorem overlaps_iff (b : Bounds) (r s : Span) :
    b.overlaps r s = true ↔ r.start ≤ b.lastInstant s ∧ s.start ≤ b.lastInstant r := by
  cases b with
  | halfOpen =>
    simp only [overlaps, lastInstant, Bool.and_eq_true, decide_eq_true_eq]
    omega
  | closed => simp only [overlaps, lastInstant, Bool.and_eq_true, decide_eq_true_eq]

/-- A half-open span that is not empty is not empty under any bounds. -/
theorem admits_of_halfOpen (b : Bounds) {s : Span} (h : halfOpen.admits s = true) :
    b.admits s = true := by
  cases b with
  | halfOpen => exact h
  | closed =>
    simp only [admits, decide_eq_true_eq] at h ⊢
    omega

/-- Overlap does not depend on the order of the two spans. -/
theorem overlaps_comm (b : Bounds) (r s : Span) : b.overlaps r s = b.overlaps s r := by
  rw [Bool.eq_iff_iff, overlaps_iff, overlaps_iff]
  exact And.comm

end Bounds

end Tariff
