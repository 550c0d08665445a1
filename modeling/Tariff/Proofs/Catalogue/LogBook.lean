import Mathlib.Data.Finmap
import Tariff.Proofs.Catalogue.WellFormed

/-!
# Log books

A log book is the plain account of a catalogue: for each key what was written to it, in the
order of writing, and the set of the keys that were dropped.  It knows no groups, and it
creates nothing that it may have to take back.  A catalogue is a log book that has been put in
order, with shortcuts.

Main results:

- Theorem {lit}`LogBook.add_eq_write`: an entry for a key that was not dropped is a writing to
  the log of the key, or a case for the policy.
- Theorem {lit}`Catalogue.Represents.step`: a call to a catalogue is the same call to its log
  book, with the same answer.
- Theorem {lit}`Catalogue.run_refines_logBook`: whatever is called, a catalogue answers as its
  log book does, and nothing is left behind of a key that was dropped.
-/

namespace Tariff

open Catalogue (Mode Policy Outcome)

variable {α : Type}

/-- A call that may change a catalogue. -/
inductive Catalogue.Call (α : Type) where
  | add (k : Key) (w : Writing α)
  | clear

/-- What was written for each key, and the keys that were dropped. -/
structure LogBook (α : Type) where
  mode : Mode
  policy : Policy
  logs : Finmap fun _ : Key => List (Writing α)
  invalidated : Finset Key

namespace LogBook

/-- Nothing was written. -/
def empty (mode : Mode) (policy : Policy) : LogBook α :=
  ⟨mode, policy, ∅, ∅⟩

/-- What was written for a key, in the order of writing. -/
def writings (g : LogBook α) (k : Key) : List (Writing α) :=
  (g.logs.lookup k).getD []

/-- The book with other writings for a key. -/
def keep (g : LogBook α) (k : Key) (ws : List (Writing α)) : LogBook α :=
  { g with logs := g.logs.insert k ws }

/-- The book without the writings for a key, which is invalidated. -/
def strike (g : LogBook α) (k : Key) : LogBook α :=
  { g with logs := g.logs.erase k, invalidated := insert k g.invalidated }

/-- What the policy makes of a writing that overlaps another one. -/
def settle (g : LogBook α) (k : Key) : LogBook α × Outcome :=
  match g.policy with
  | .reject => (g, .rejected)
  | .invalidateKey => (g.strike k, .invalidated)

/-- Adds an entry for a key.  In multi mode the id is ignored and all is taken; in exclusive
mode a known id, which is no bare 0, replaces its entry whatever the new one overlaps. -/
def add (g : LogBook α) (k : Key) (w : Writing α) :
    LogBook α × Except Timeline.Refusal Outcome :=
  if Bounds.halfOpen.admits w.span = false then (g, .error (.emptySpan w.span))
  else if k ∈ g.invalidated then (g, .ok .skipped)
  else
    match g.mode with
    | .multi => (g.keep k (g.writings k ++ [{ w with id := 0 }]), .ok .added)
    | .exclusive =>
      if w.id ≠ 0 ∧ ∃ v ∈ g.writings k, v.id = w.id then
        (g.keep k ((g.writings k).filter (fun v => decide (v.id ≠ w.id)) ++ [w]), .ok .updated)
      else if ∃ v ∈ g.writings k, Bounds.halfOpen.overlaps v.span w.span = true then
        ((g.settle k).1, .ok (g.settle k).2)
      else (g.keep k (g.writings k ++ [w]), .ok .added)

/-- The book with nothing written and no key invalidated. -/
def clear (g : LogBook α) : LogBook α :=
  empty g.mode g.policy

/-- Makes a call to the book, with the outcome that an addition has. -/
def step (g : LogBook α) :
    Catalogue.Call α → LogBook α × Except Timeline.Refusal (Option Outcome)
  | .add k w => ((g.add k w).1, (g.add k w).2.map some)
  | .clear => (g.clear, .ok none)

theorem step_add (g : LogBook α) (k : Key) (w : Writing α) :
    g.step (.add k w) = ((g.add k w).1, (g.add k w).2.map some) := rfl

/-! ## Questions to the book -/

/-- The writings for a key that contain an instant, in the order of writing. -/
def hits (g : LogBook α) (k : Key) (t : Int) : List (Writing α) :=
  (g.writings k).filter fun w => Bounds.halfOpen.contains w.span t

/-- The value of a key at an instant: the last one written in exclusive mode, the first one in
multi mode. -/
def first? (g : LogBook α) (k : Key) (t : Int) : Option α :=
  match g.mode with
  | .exclusive => (g.hits k t).getLast?.map (·.value)
  | .multi => (g.hits k t).head?.map (·.value)

/-- All values of a key at an instant, in the order of writing. -/
def all (g : LogBook α) (k : Key) (t : Int) : List α :=
  (g.hits k t).map (·.value)

/-- The log of a key that has one. -/
def log? (g : LogBook α) (k : Key) : Option (WriteLog α) :=
  (g.logs.lookup k).map fun ws => ⟨.halfOpen, g.mode.concurrent, ws⟩

/-- The writings for a key by start, equal starts in the order of writing. -/
def list? (g : LogBook α) (k : Key) : Option (List (Writing α)) :=
  (g.log? k).map WriteLog.byStart

/-- The number of keys with a log. -/
def keyCount (g : LogBook α) : Nat :=
  g.logs.keys.card

/-- The number of writings in all logs. -/
def entryCount (g : LogBook α) : Nat :=
  (g.logs.entries.map fun e => e.2.length).sum

/-! ## The log of a key -/

/-- The log of a key, which may be empty. -/
def log (g : LogBook α) (k : Key) : WriteLog α :=
  ⟨.halfOpen, g.mode.concurrent, g.writings k⟩

/-- The log of a key knows the ids that were written for it, but no bare 0. -/
theorem knows_log_iff (g : LogBook α) (k : Key) (id : Nat) :
    (g.log k).knows id = true ↔ id ≠ 0 ∧ ∃ v ∈ g.writings k, v.id = id := by
  unfold WriteLog.knows log
  simp

/-- An exclusive log has an obstacle exactly if a writing overlaps the span. -/
theorem obstacle_log_isSome_iff {g : LogBook α} (hmode : g.mode = .exclusive) (k : Key)
    (span : Span) :
    ((g.log k).obstacle span).isSome = true ↔
      ∃ v ∈ g.writings k, Bounds.halfOpen.overlaps v.span span = true := by
  have hconcurrent : (g.log k).concurrent = false := by
    unfold log
    rw [hmode]
    rfl
  unfold WriteLog.obstacle
  rw [hconcurrent]
  simp only [Bool.false_eq_true, if_false, Option.isSome_map, List.find?_isSome]
  have hmem : ∀ v, v ∈ (g.log k).byStart ↔ v ∈ g.writings k := fun v => List.mem_mergeSort
  simp only [hmem]
  rfl

/-- A log of multi mode takes what comes without an id. -/
theorem write_log_multi {g : LogBook α} (hmode : g.mode = .multi) (k : Key) {w : Writing α}
    (hspan : Bounds.halfOpen.admits w.span = true) (hid : w.id = 0) :
    (g.log k).write w =
      (⟨.halfOpen, g.mode.concurrent, g.writings k ++ [w]⟩, .ok .added) := by
  have hknows : (g.log k).knows w.id = false := by
    rw [← Bool.not_eq_true, knows_log_iff]
    exact fun h => h.1 hid
  have hobstacle : (g.log k).obstacle w.span = none := by
    unfold WriteLog.obstacle log
    rw [hmode]
    rfl
  unfold WriteLog.write
  rw [hknows, hobstacle, show (g.log k).bounds = .halfOpen from rfl, if_pos hspan]
  rfl

/-- A log of exclusive mode replaces a known id, and refuses an overlap to a fresh one. -/
theorem write_log_exclusive {g : LogBook α} (hmode : g.mode = .exclusive) (k : Key)
    {w : Writing α} (hspan : Bounds.halfOpen.admits w.span = true) :
    ((w.id ≠ 0 ∧ ∃ v ∈ g.writings k, v.id = w.id) ∧
      (g.log k).write w =
        (⟨.halfOpen, g.mode.concurrent,
          (g.writings k).filter (fun v => decide (v.id ≠ w.id)) ++ [w]⟩, .ok .updated)) ∨
    (¬ (w.id ≠ 0 ∧ ∃ v ∈ g.writings k, v.id = w.id) ∧
      (∃ v ∈ g.writings k, Bounds.halfOpen.overlaps v.span w.span = true) ∧
      ∃ existing, (g.log k).write w = (g.log k, .error (.overlap w.span existing))) ∨
    (¬ (w.id ≠ 0 ∧ ∃ v ∈ g.writings k, v.id = w.id) ∧
      ¬ (∃ v ∈ g.writings k, Bounds.halfOpen.overlaps v.span w.span = true) ∧
      (g.log k).write w =
        (⟨.halfOpen, g.mode.concurrent, g.writings k ++ [w]⟩, .ok .added)) := by
  rw [← knows_log_iff, ← obstacle_log_isSome_iff hmode]
  unfold WriteLog.write
  rw [show (g.log k).bounds = .halfOpen from rfl, if_pos hspan]
  by_cases hknows : (g.log k).knows w.id = true
  · rw [if_pos hknows]
    exact .inl ⟨hknows, rfl⟩
  · rw [if_neg hknows]
    cases hobstacle : (g.log k).obstacle w.span with
    | some existing => exact .inr (.inl ⟨hknows, rfl, existing, rfl⟩)
    | none => exact .inr (.inr ⟨hknows, Bool.false_ne_true, rfl⟩)

/-- An entry for a key that was not dropped is a writing to the log of the key, or a case for
the policy. -/
theorem add_eq_write {g : LogBook α} {k : Key} {w : Writing α}
    (hspan : Bounds.halfOpen.admits w.span = true) (hk : k ∉ g.invalidated) :
    g.add k w =
      match (g.log k).write { w with id := g.mode.entryId w.id } with
      | (log, .ok ch) => (g.keep k log.writings, .ok (.ofChange ch))
      | (_, .error _) => ((g.settle k).1, .ok (g.settle k).2) := by
  have hadmits : ¬ Bounds.halfOpen.admits w.span = false := by
    rw [Bool.not_eq_false]
    exact hspan
  unfold add
  rw [if_neg hadmits, if_neg hk]
  cases hmode : g.mode with
  | multi =>
    simp only [Mode.entryId]
    rw [write_log_multi (w := { w with id := 0 }) hmode k hspan rfl]
    rfl
  | exclusive =>
    simp only [Mode.entryId]
    rcases write_log_exclusive hmode k hspan with
      ⟨hknows, hwrite⟩ | ⟨hknows, hoverlap, existing, hwrite⟩ | ⟨hknows, hoverlap, hwrite⟩
    · rw [hwrite, if_pos hknows]
      rfl
    · rw [hwrite, if_neg hknows, if_pos hoverlap]
    · rw [hwrite, if_neg hknows, if_neg hoverlap]
      rfl

end LogBook

/-! ## Catalogues and their log books -/

namespace Catalogue

/-- Makes a call, with the outcome that an addition has. -/
def step (c : Catalogue α) : Call α → Catalogue α × Except Timeline.Refusal (Option Outcome)
  | .add k w =>
    let (c', outcome) := c.add k w.id w.span w.value
    (c', outcome.map some)
  | .clear => (c.clear, .ok none)

/-- The call that adds an entry leads to the catalogue that the addition leads to. -/
theorem step_add_of_ok {c c' : Catalogue α} {k : Key} {w : Writing α} {o : Outcome}
    (h : c.add k w.id w.span w.value = (c', .ok o)) :
    c.step (.add k w) = (c', .ok (some o)) := by
  simp only [step, h]
  rfl

/-- The call that adds an entry is an error if the addition is one. -/
theorem step_add_of_error {c c' : Catalogue α} {k : Key} {w : Writing α} {r : Timeline.Refusal}
    (h : c.add k w.id w.span w.value = (c', .error r)) : c.step (.add k w) = (c', .error r) := by
  simp only [step, h]
  rfl

/-- The catalogue holds what the book holds. -/
structure Represents (c : Catalogue α) (g : LogBook α) : Prop where
  wellFormed : c.WellFormed
  mode : c.mode = g.mode
  policy : c.policy = g.policy
  logs : ∀ k, (c.timeline? k).map (fun l => l.log.writings) = g.logs.lookup k
  invalidated : ∀ k, c.isInvalidated k = true ↔ k ∈ g.invalidated

/-- A new catalogue holds what a new book holds, which is nothing. -/
theorem represents_empty (mode : Mode) (policy : Policy) :
    (empty mode policy : Catalogue α).Represents (LogBook.empty mode policy) := by
  refine ⟨wellFormed_empty mode policy, rfl, rfl, fun k => ?_, fun k => ?_⟩
  · exact (Finmap.lookup_empty (β := fun _ : Key => List (Writing α)) k).symm
  · rw [isInvalidated_empty]
    exact iff_of_false Bool.false_ne_true (Finset.notMem_empty k)

variable {c : Catalogue α} {g : LogBook α}

namespace Represents

/-- A catalogue and its book are cleared alike. -/
theorem clear (h : c.Represents g) : c.clear.Represents g.clear := by
  unfold Catalogue.clear LogBook.clear
  rw [h.mode, h.policy]
  exact represents_empty g.mode g.policy

/-- The timeline that is handed an entry has the log of its key. -/
theorem log_target (h : c.Represents g) (k : Key) : (c.target k).log = g.log k := by
  have hkeeps := keeps_target h.wellFormed k
  have hwritings : (c.target k).log.writings = g.writings k := by
    unfold LogBook.writings target
    rw [← h.logs k]
    cases c.timeline? k with
    | some l => rfl
    | none => cases c.mode <;> rfl
  unfold LogBook.log
  rw [← hwritings, ← h.mode, ← hkeeps.bounds, ← hkeeps.concurrent]
  rfl

/-- Placing an entry in the timeline of a key is keeping its log in the book. -/
theorem keep (h : c.Represents g) {k : Key} {l : Timeline α}
    (hwell : ((c.prepare k).put k l).WellFormed) :
    ((c.prepare k).put k l).Represents (g.keep k l.log.writings) := by
  refine ⟨hwell, h.mode, h.policy, fun j => ?_, h.invalidated⟩
  rw [timeline?_put_prepare]
  unfold LogBook.keep
  by_cases hj : j = k
  · rw [if_pos hj, hj, Finmap.lookup_insert]
    rfl
  · rw [if_neg hj, Finmap.lookup_insert_of_ne _ hj]
    exact h.logs j

/-- A rejected entry leaves a catalogue with the book that it had. -/
theorem prepare_of_overlap (h : c.Represents g) {k : Key} {id : Nat}
    {span s existing : Span} {value : α}
    (hl : (c.target k).insert id span value = (c.target k, .error (.overlap s existing))) :
    (c.prepare k).Represents g := by
  refine ⟨h.wellFormed.prepare_of_overlap hl, h.mode, h.policy, fun j => ?_, h.invalidated⟩
  rw [timeline?_prepare_of_overlap hl]
  exact h.logs j

/-- Dropping a key is striking it from the book. -/
theorem strike (h : c.Represents g) (k : Key) :
    ((c.prepare k).drop k).Represents (g.strike k) := by
  refine ⟨h.wellFormed.drop_prepare k, h.mode, h.policy, fun j => ?_, fun j => ?_⟩
  · rw [timeline?_drop_prepare]
    unfold LogBook.strike
    by_cases hj : j = k
    · rw [if_pos hj, hj, Finmap.lookup_erase]
      rfl
    · rw [if_neg hj, Finmap.lookup_erase_ne hj]
      exact h.logs j
  · rw [isInvalidated_drop]
    unfold LogBook.strike
    rw [Finset.mem_insert, ← h.invalidated j]
    rfl

/-- Adding an entry to a catalogue is adding it to its book, with the same answer. -/
theorem step_add (h : c.Represents g) (k : Key) (w : Writing α) :
    (c.step (.add k w)).2 = (g.step (.add k w)).2 ∧
      (c.step (.add k w)).1.Represents (g.step (.add k w)).1 := by
  rw [LogBook.step_add]
  by_cases hspan : Bounds.halfOpen.admits w.span = true
  · by_cases hk : c.isInvalidated k = true
    · have hg : g.add k w = (g, .ok .skipped) := by
        unfold LogBook.add
        rw [if_neg (by rw [Bool.not_eq_false]; exact hspan), if_pos ((h.invalidated k).1 hk)]
      rw [step_add_of_ok (add_skipped c k w.id w.span w.value hspan hk), hg]
      exact ⟨rfl, h⟩
    · have hwell := (keeps_target h.wellFormed k).wellFormed
      have hwrite := Timeline.log_write hwell { w with id := c.mode.entryId w.id }
      have hg := LogBook.add_eq_write (g := g) hspan fun hmem => hk ((h.invalidated k).2 hmem)
      rw [Bool.not_eq_true] at hk
      rw [← h.mode, ← h.log_target k, hwrite] at hg
      unfold Timeline.write at hg
      rcases (c.target k).insert_cases (c.mode.entryId w.id) w.span w.value with
        ⟨r, hinsert⟩ | ⟨ch, l, hinsert⟩
      · rw [hinsert] at hg
        rcases ((Timeline.insert_error_iff _ _ _ _ _ _).1 hinsert).2 with
          ⟨hempty, _⟩ | ⟨_, _, existing, _, rfl⟩
        · rw [(keeps_target h.wellFormed k).bounds, hspan] at hempty
          cases hempty
        · rw [hg]
          unfold LogBook.settle
          rw [← h.policy]
          cases hpolicy : c.policy with
          | reject =>
            have hadd := (add_ok_iff c k w.id w.span w.value .rejected (c.prepare k)).2
              ⟨hspan, .inr (.inr ⟨hk, w.span, existing, hinsert, .inl ⟨hpolicy, rfl, rfl⟩⟩)⟩
            rw [step_add_of_ok hadd]
            exact ⟨rfl, h.prepare_of_overlap hinsert⟩
          | invalidateKey =>
            have hadd := (add_ok_iff c k w.id w.span w.value .invalidated
              ((c.prepare k).drop k)).2
              ⟨hspan, .inr (.inr ⟨hk, w.span, existing, hinsert, .inr ⟨hpolicy, rfl, rfl⟩⟩)⟩
            rw [step_add_of_ok hadd]
            exact ⟨rfl, h.strike k⟩
      · have hadd := (add_ok_iff c k w.id w.span w.value (.ofChange ch)
          ((c.prepare k).put k l)).2 ⟨hspan, .inr (.inl ⟨hk, ch, l, hinsert, rfl, rfl⟩)⟩
        rw [hinsert] at hg
        rw [step_add_of_ok hadd, hg]
        exact ⟨rfl, h.keep (h.wellFormed.add hadd)⟩
  · have hc : c.add k w.id w.span w.value = (c, .error (.emptySpan w.span)) := by
      unfold Catalogue.add
      rw [if_neg hspan]
    have hg : g.add k w = (g, .error (.emptySpan w.span)) := by
      unfold LogBook.add
      rw [if_pos (Bool.not_eq_true _ ▸ hspan)]
    rw [step_add_of_error hc, hg]
    exact ⟨rfl, h⟩

/-- A call to a catalogue is the same call to its log book, with the same answer. -/
theorem step (h : c.Represents g) (call : Call α) :
    (c.step call).2 = (g.step call).2 ∧ (c.step call).1.Represents (g.step call).1 := by
  cases call with
  | add k w => exact h.step_add k w
  | clear => exact ⟨rfl, h.clear⟩

/-! ## Answers -/

/-- A catalogue has the logs that its book has. -/
theorem log? (h : c.Represents g) (k : Key) : (c.timeline? k).map Timeline.log = g.log? k := by
  unfold LogBook.log?
  rw [← h.logs k, Option.map_map]
  cases hl : c.timeline? k with
  | none => rfl
  | some l =>
    have hkeeps := h.wellFormed.keeps k l hl
    rw [Option.map_some, Option.map_some, ← h.mode, ← hkeeps.concurrent, ← hkeeps.bounds]
    rfl

/-- The hits in the timeline of a key are those in the book. -/
theorem hits (h : c.Represents g) (k : Key) (t : Int) :
    (c.target k).log.hits t = g.hits k t := by
  rw [h.log_target k]
  rfl

/-- All values of a key are the same in a catalogue and in its book. -/
theorem all (h : c.Represents g) (k : Key) (t : Int) : c.all k t = g.all k t := by
  unfold LogBook.all
  rw [← h.hits k t, ← Timeline.lookupAll_log (keeps_target h.wellFormed k).wellFormed]
  unfold Catalogue.all target
  cases c.timeline? k with
  | some l => rfl
  | none => cases c.mode <;> rfl

/-- The value of a key is the same in a catalogue and in its book. -/
theorem first? (h : c.Represents g) (k : Key) (t : Int) : c.first? k t = g.first? k t := by
  have hkeeps := keeps_target h.wellFormed k
  have hlookup := Timeline.lookup_log hkeeps.wellFormed t
  have htarget : c.first? k t = (c.target k).lookup t := by
    unfold Catalogue.first? target
    cases c.timeline? k with
    | some l => rfl
    | none => cases c.mode <;> rfl
  rw [htarget, hlookup, hkeeps.concurrent, h.hits k t, h.mode]
  unfold LogBook.first?
  cases g.mode <;> rfl

/-- The logs of the book are the rows of the catalogue, each timeline as its log. -/
theorem entries_logs (h : c.Represents g) :
    g.logs.entries =
      ↑(c.rows.map fun r => (⟨r.1, r.2.log.writings⟩ : Sigma fun _ : Key => List (Writing α))) := by
  have hnested := h.wellFormed.nested
  refine (Multiset.Nodup.ext g.logs.nodup_entries (Multiset.coe_nodup.2 ?_)).2 ?_
  · refine (List.nodup_map_iff_inj_on hnested.nodup_rows).2 ?_
    rintro ⟨j, l⟩ hl ⟨k, m⟩ hm heq
    have hkeys : j = k := congrArg Sigma.fst heq
    rw [hnested.mem_rows] at hl hm
    rw [hkeys, hm, Option.some_inj] at hl
    rw [hkeys, hl]
  · rintro ⟨k, ws⟩
    rw [← Finmap.lookup_eq_some_iff, ← h.logs k, Multiset.mem_coe, List.mem_map]
    constructor
    · intro hws
      obtain ⟨l, hl, rfl⟩ := Option.map_eq_some_iff.1 hws
      exact ⟨(k, l), hnested.mem_rows.2 hl, rfl⟩
    · rintro ⟨⟨j, l⟩, hl, heq⟩
      obtain ⟨rfl, hws⟩ := Sigma.mk.inj heq
      rw [hnested.mem_rows.1 hl, ← eq_of_heq hws]
      rfl

/-- A catalogue has as many keys as its book. -/
theorem keyCount (h : c.Represents g) : c.keyCount = g.keyCount := by
  unfold LogBook.keyCount
  have hcard : g.logs.keys.card = Multiset.card g.logs.entries := Multiset.card_map _ _
  rw [keyCount_eq_length_rows, hcard, h.entries_logs, Multiset.coe_card, List.length_map]

/-- A catalogue has as many entries as there are writings in its book. -/
theorem entryCount (h : c.Represents g) : c.entryCount = g.entryCount := by
  unfold LogBook.entryCount
  have hsize : ∀ r : Key × Timeline α, r.2.size = r.2.log.writings.length := by
    intro r
    have hlength := (Timeline.sortByStamp_perm r.2.entries).length_eq
    unfold Timeline.log Timeline.size
    rw [List.length_map, hlength]
  rw [entryCount_eq_sum_rows, h.entries_logs, Multiset.map_coe, Multiset.sum_coe, List.map_map,
    List.map_congr_left fun r _ => hsize r]
  rfl

end Represents

/-- A catalogue answers each question as a log book does. -/
structure AnswersAs (c : Catalogue α) (g : LogBook α) : Prop where
  first : ∀ k t, c.first? k t = g.first? k t
  all : ∀ k t, c.all k t = g.all k t
  log : ∀ k, (c.timeline? k).map Timeline.log = g.log? k
  list : ∀ k, (c.timeline? k).map (fun l => l.entries.map Entry.writing) = g.list? k
  invalidated : ∀ k, c.isInvalidated k = decide (k ∈ g.invalidated)
  keyCount : c.keyCount = g.keyCount
  entryCount : c.entryCount = g.entryCount

/-- A catalogue that holds what a book holds answers each question as the book does. -/
theorem Represents.answersAs (h : c.Represents g) : c.AnswersAs g := by
  refine ⟨h.first?, h.all, h.log?, fun k => ?_, fun k => ?_, h.keyCount, h.entryCount⟩
  · unfold LogBook.list?
    rw [← h.log? k, Option.map_map]
    cases hl : c.timeline? k with
    | none => rfl
    | some l =>
      have hwell := (h.wellFormed.keeps k l hl).wellFormed
      rw [Option.map_some, Option.map_some, ← Timeline.byStart_log hwell]
      rfl
  · rw [Bool.eq_iff_iff, decide_eq_true_iff]
    exact h.invalidated k

/-! ## Dropped keys -/

/-- A dropped key stays so until the catalogue is cleared. -/
theorem isInvalidated_step {k : Key} (hk : c.isInvalidated k = true) {call : Call α}
    (hcall : call ≠ .clear) : (c.step call).1.isInvalidated k = true := by
  cases call with
  | clear => exact absurd rfl hcall
  | add j w =>
    rcases c.add_cases j w.id w.span w.value with ⟨r, hadd⟩ | ⟨o, c', hadd⟩
    · rw [step_add_of_error hadd]
      exact hk
    · rw [step_add_of_ok hadd]
      obtain ⟨_, hcase⟩ := (add_ok_iff c j w.id w.span w.value o c').1 hadd
      rcases hcase with ⟨_, _, rfl⟩ | ⟨_, _, _, _, _, rfl⟩ |
        ⟨_, _, _, _, ⟨_, _, rfl⟩ | ⟨_, _, rfl⟩⟩
      · exact hk
      · exact hk
      · exact hk
      · exact (isInvalidated_drop (c.prepare j) j k).2 (.inr hk)

/-- A dropped key stays so as long as the catalogue is not cleared. -/
theorem isInvalidated_run {k : Key} (hk : c.isInvalidated k = true) {calls : List (Call α)}
    (hcalls : .clear ∉ calls) : (Session.run step c calls).1.isInvalidated k = true := by
  induction calls generalizing c with
  | nil => exact hk
  | cons call calls ih =>
    rw [List.mem_cons, not_or] at hcalls
    exact ih (isInvalidated_step hk fun heq => hcalls.1 heq.symm) hcalls.2

/-- A call keeps a catalogue well formed. -/
theorem WellFormed.step (h : c.WellFormed) (call : Call α) : (c.step call).1.WellFormed := by
  cases call with
  | clear => exact wellFormed_empty c.mode c.policy
  | add k w =>
    rcases c.add_cases k w.id w.span w.value with ⟨r, hadd⟩ | ⟨o, c', hadd⟩
    · rw [step_add_of_error hadd]
      exact h
    · rw [step_add_of_ok hadd]
      exact h.add hadd

/-- Any calls keep a catalogue well formed. -/
theorem WellFormed.run (h : c.WellFormed) (calls : List (Call α)) :
    (Session.run Catalogue.step c calls).1.WellFormed :=
  Session.invariant (P := WellFormed) (fun _ call hc => WellFormed.step hc call) h calls

/-- A call that is an error changes nothing. -/
theorem step_of_error {call : Call α} {r : Timeline.Refusal}
    (h : (c.step call).2 = .error r) : (c.step call).1 = c := by
  cases call with
  | clear => cases h
  | add k w =>
    rcases c.add_cases k w.id w.span w.value with ⟨s, hadd⟩ | ⟨o, c', hadd⟩
    · rw [step_add_of_error hadd]
    · rw [step_add_of_ok hadd] at h
      cases h

/-- A key that was dropped has no timeline and no value at any instant. -/
theorem WellFormed.answers_of_isInvalidated (h : c.WellFormed) {k : Key}
    (hk : c.isInvalidated k = true) :
    c.timeline? k = none ∧ ∀ t, c.first? k t = none ∧ c.all k t = [] := by
  have hnone := h.dropped k hk
  refine ⟨hnone, fun t => ⟨?_, ?_⟩⟩
  · unfold first?
    rw [hnone]
    rfl
  · unfold all
    rw [hnone]

/-- Whatever entries are added and however often the catalogue is cleared, additions that are
errors included, each answer is that of the log book, and so is the answer to each question
afterwards.  An error changes nothing, no timeline and no group is empty, and a key that was
dropped has no timeline and no value until the catalogue is cleared. -/
theorem run_refines_logBook (mode : Mode) (policy : Policy) (calls : List (Call α)) :
    let c := Session.run step (empty mode policy) calls
    let g := Session.run LogBook.step (LogBook.empty mode policy) calls
    c.2 = g.2 ∧ c.1.AnswersAs g.1 ∧
      (∀ call r, (c.1.step call).2 = .error r → (c.1.step call).1 = c.1) ∧
      (∀ k l, c.1.timeline? k = some l → l.entries ≠ []) ∧
      (∀ e ∈ c.1.groups.entries, e.2.entries ≠ []) ∧
      ∀ k, c.1.isInvalidated k = true → ∀ adds, .clear ∉ adds →
        let d := (Session.run step c.1 adds).1
        d.isInvalidated k = true ∧ d.timeline? k = none ∧
          ∀ t, d.first? k t = none ∧ d.all k t = [] := by
  intro c g
  obtain ⟨hanswers, hend⟩ := Session.simulation
    (fun (c : Catalogue α) g call (h : c.Represents g) => h.step call)
    (represents_empty mode policy) calls
  refine ⟨hanswers, hend.answersAs, fun call r => step_of_error, hend.wellFormed.filled,
    hend.wellFormed.nested.filled, ?_⟩
  intro k hk adds hadds d
  have hd : d.isInvalidated k = true := isInvalidated_run hk hadds
  exact ⟨hd, (hend.wellFormed.run adds).answers_of_isInvalidated hd⟩

end Catalogue
end Tariff
