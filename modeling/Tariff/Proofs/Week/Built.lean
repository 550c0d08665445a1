import Tariff.Proofs.Timeline.WellFormed
import Tariff.Week.Model

/-!
# Built models

Intervals come to a weekly model without ids, so that none is ever replaced.  The days
of a model that intervals were added to are therefore exclusive timelines of disjoint
closed ranges, and the interval found at a minute is the only one that contains it.

Main results:

- Theorem {lit}`WeekModel.Built.isRoster`: each day of a built model holds disjoint
  ranges in order.
- Theorem {lit}`WeekModel.IsRoster.lookupEntry_eq_some_iff`: looking up a minute finds
  the range that contains it.
-/

namespace Tariff
namespace WeekModel

/-- A timeline of disjoint closed ranges, as the days of a model are. -/
structure IsRoster (l : Timeline String) : Prop where
  wellFormed : l.WellFormed
  closed : l.bounds = .closed
  exclusive : l.concurrent = false
  uncrossed : l.crossed = false

/-- A model that intervals were added to, from the empty one on.  An interval that is
refused leaves no trace. -/
inductive Built : WeekModel → Prop
  | empty (name : String) : Built (WeekModel.empty name)
  | add {m m' : WeekModel} (day : Nat) (start stop : Int) (result : String) :
      Built m → m.add day start stop result = .ok m' → Built m'

namespace IsRoster

variable {l : Timeline String}

/-- A day without intervals is a roster. -/
theorem empty : IsRoster (Timeline.exclusive .closed) :=
  ⟨Timeline.wellFormed_exclusive .closed, rfl, rfl, rfl⟩

/-- Each range is over before the next one starts. -/
theorem stop_lt_start (h : IsRoster l) :
    l.entries.Pairwise fun e f => e.span.stop < f.span.start := by
  have hdisjoint := h.wellFormed.disjoint h.exclusive h.uncrossed
  have hboth := h.wellFormed.sorted.and hdisjoint
  refine hboth.imp_of_mem ?_
  intro e f _ hf hef
  have hover := Timeline.WellFormed.lastInstant_lt hef.1 (h.wellFormed.admitted f hf) hef.2
  rw [h.closed] at hover
  exact hover

/-- Looking up a minute finds the range that contains it. -/
theorem lookupEntry_eq_some_iff (h : IsRoster l) (minute : Int) (e : Entry String) :
    l.lookupEntry minute = some e ↔
      e ∈ l.entries ∧ e.span.start ≤ minute ∧ minute ≤ e.span.stop := by
  have hhits : ∀ f, f ∈ l.hits minute ↔
      f ∈ l.entries ∧ f.span.start ≤ minute ∧ minute ≤ f.span.stop := by
    intro f
    rw [h.wellFormed.hits_eq_filter, List.mem_filter, h.closed, Bounds.contains_iff]
    rfl
  have hfound : l.lookupEntry minute =
      (l.startedBy minute).getLast?.filter fun f => l.bounds.contains f.span minute := by
    unfold Timeline.lookupEntry
    simp [h.exclusive, h.uncrossed]
  rw [← hhits, h.wellFormed.hits_eq_getLast? h.exclusive h.uncrossed, hfound,
    Option.mem_toList]

/-- A minute at which nothing is found is in no range. -/
theorem lookupEntry_eq_none_iff (h : IsRoster l) (minute : Int) :
    l.lookupEntry minute = none ↔
      ∀ e ∈ l.entries, ¬ (e.span.start ≤ minute ∧ minute ≤ e.span.stop) := by
  rw [Option.eq_none_iff_forall_ne_some]
  constructor
  · intro hnone e he hminute
    exact hnone e ((h.lookupEntry_eq_some_iff minute e).2 ⟨he, hminute⟩)
  · intro hnone e he
    obtain ⟨hmem, hminute⟩ := (h.lookupEntry_eq_some_iff minute e).1 he
    exact hnone e hmem hminute

/-- A range that is added to a day is placed among the others. -/
theorem addToDay (h : IsRoster l) {l' : Timeline String} {day : Nat} {span : Span}
    {result : String} (hl : WeekModel.addToDay l day span result = .ok l') :
    IsRoster l' := by
  unfold WeekModel.addToDay at hl
  split at hl
  · cases hl
  · split at hl
    · cases hl
    · split at hl
      · rename_i l₁ c hinsert
        cases hl
        have hwell := h.wellFormed.insert hinsert
        obtain ⟨_, hcase⟩ := (Timeline.insert_ok_iff l 0 span result c _).1 hinsert
        rcases hcase with ⟨hknows, _, _⟩ | ⟨_, _, _, rfl⟩
        · exact absurd rfl (Timeline.ne_zero_of_knows hknows)
        · exact ⟨hwell, h.closed, h.exclusive, h.uncrossed⟩
      · cases hl
      · cases hl

end IsRoster

/-- What an interval that is added does: one day gets another timeline. -/
theorem add_ok_iff (m m' : WeekModel) (day : Nat) (start stop : Int) (result : String) :
    m.add day start stop result = .ok m' ↔
      ∃ (h : day < 7) (l : Timeline String),
        addToDay m.days[day] day ⟨start, TimeOfDay.endMinute stop⟩ result = .ok l ∧
          m' = { m with days := m.days.set day l } := by
  unfold add
  by_cases h : day < 7
  · simp only [h, dif_pos, exists_true_left]
    cases addToDay m.days[day] day ⟨start, TimeOfDay.endMinute stop⟩ result with
    | error f => simp [Except.map]
    | ok l => simp [Except.map, eq_comm]
  · simp [h]

/-- Each day of a built model is a timeline of disjoint ranges. -/
theorem Built.isRoster {m : WeekModel} (h : m.Built) {day : Nat} {l : Timeline String}
    (hl : m.day? day = some l) : IsRoster l := by
  induction h generalizing day l with
  | empty name =>
    unfold day? WeekModel.empty at hl
    obtain ⟨hday, rfl⟩ := Vector.getElem?_eq_some_iff.1 hl
    rw [Vector.getElem_replicate]
    exact IsRoster.empty
  | @add m m' day' start stop result _ hadd ih =>
    obtain ⟨hday', l', hl', rfl⟩ := (add_ok_iff m m' day' start stop result).1 hadd
    have hold : IsRoster m.days[day'] := ih (Vector.getElem?_eq_getElem hday')
    unfold day? at hl
    rw [Vector.getElem?_set] at hl
    split at hl
    · cases hl
      exact hold.addToDay hl'
    · exact ih hl

end WeekModel
end Tariff
