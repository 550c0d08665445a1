import Tariff.Proofs.Catalogue.Sizes
import Tariff.Proofs.Store.Published

/-!
# Gauges

Loads and deltas that succeed, and clearing, set the gauges of the tally to the sizes of the
published tables.  Adding a single entry changes the tables and leaves the gauges as they
were, so that they are wrong from the first entry that makes a difference until the next
measurement, unless another entry makes up for it.

Main results:

- Theorem {lit}`Store.Becomes.sizes_eq_iff`: what is answered tells whether the sizes of the
  tables have changed.
- Theorem {lit}`Store.gauged_until_resized`: after a measurement the gauges show the sizes of
  the tables for as long as no entry changes them.
-/

namespace Tariff
namespace Answer

/-- The answer to a write that measures the tables: one that publishes others, or a delta. -/
def isMeasured : Answer → Bool
  | loaded (.ok _) | done => true
  | _ => false

/-- The answer to an entry that changes the sizes of the tables. -/
def isResized : Answer → Bool
  | inserted (.ok .added) | inserted (.ok .invalidated) => true
  | _ => false

variable {a : Answer}

/-- What is measured has been written. -/
theorem isWritten_of_isMeasured (h : a.isMeasured = true) : a.isWritten = true := by
  cases a with
  | loaded r =>
    cases r with
    | ok summary => rfl
    | error f => cases h
  | done => rfl
  | _ => cases h

/-- What changes the sizes has been written. -/
theorem isWritten_of_isResized (h : a.isResized = true) : a.isWritten = true := by
  cases a with
  | inserted r =>
    cases r with
    | ok outcome => rfl
    | error f => cases h
  | _ => cases h

/-- A measurement is none of the changes that the gauges miss. -/
theorem isResized_of_isMeasured (h : a.isMeasured = true) : a.isResized = false := by
  cases a with
  | inserted r => cases h
  | _ => rfl

end Answer

namespace Store

variable {s s' : Store} {a : Answer} {o : Options}

/-! ## One operation -/

/-- After a measurement the gauges show the sizes of the tables. -/
theorem Becomes.isGauged_of_isMeasured (h : Becomes s a s') (ha : a.isMeasured = true) :
    s'.IsGauged := by
  cases h with
  | counted hnot _ _ =>
    rw [Answer.isWritten_of_isMeasured ha] at hnot
    cases hnot
  | built _ _ hgauged | updated _ _ hgauged | cleared _ hgauged => exact hgauged
  | inserted _ _ _ _ => cases ha

/-- Only a measurement sets the gauges. -/
theorem Becomes.gauges_eq (h : Becomes s a s') (ha : a.isMeasured = false) :
    s'.gauges = s.gauges := by
  cases h with
  | counted _ _ hgauges | inserted _ _ _ hgauges => exact hgauges
  | built _ _ _ | updated _ _ _ | cleared _ _ => cases ha

/-- What is no measurement changes the sizes of the tables just if it is answered so. -/
theorem Becomes.sizes_eq_iff (h : Becomes s a s') (hs : s.IsChecked o)
    (ha : a.isMeasured = false) : s'.sizes = s.sizes ↔ a.isResized = false := by
  cases h with
  | counted hnot halike _ =>
    refine iff_of_true ?_ ?_
    · unfold sizes
      rw [halike.tables]
    · cases hresized : a.isResized with
      | false => rfl
      | true =>
        rw [Answer.isWritten_of_isResized hresized] at hnot
        cases hnot
  | @inserted key id span results outcome c _ _ hadd halike _ =>
    have hold : s.sizes = (s.tables.catalogue.keyCount, s.tables.catalogue.entryCount) := rfl
    have hnew : s'.sizes = (c.keyCount, c.entryCount) := by
      unfold sizes
      rw [← halike.tables]
      rfl
    have hchange := hs.tables.sound.catalogue.sizes_add hadd
    rw [hold, hnew, Prod.mk.injEq]
    cases outcome with
    | added =>
      simp only at hchange
      refine iff_of_false (fun h => ?_) (fun h => nomatch h)
      omega
    | invalidated =>
      simp only at hchange
      refine iff_of_false (fun h => ?_) (fun h => nomatch h)
      omega
    | updated | rejected | skipped => exact iff_of_true hchange rfl
  | built _ _ _ | updated _ _ _ | cleared _ _ => cases ha

/-- Gauges that are left as they were are right just if the sizes are what they were. -/
theorem IsGauged.iff_sizes_eq (h : s.IsGauged) (hgauges : s'.gauges = s.gauges) :
    s'.IsGauged ↔ s'.sizes = s.sizes := by
  unfold IsGauged at h ⊢
  rw [hgauges, h, Prod.mk.injEq, Option.some_inj, Option.some_inj, Prod.ext_iff]
  exact and_congr eq_comm eq_comm

/-- Gauges that were right are so after an operation, unless an entry has changed the sizes of
the tables. -/
theorem Becomes.isGauged_iff (h : Becomes s a s') (hs : s.IsChecked o) (hgauged : s.IsGauged) :
    s'.IsGauged ↔ a.isResized = false := by
  cases ha : a.isMeasured with
  | true =>
    exact iff_of_true (h.isGauged_of_isMeasured ha) (Answer.isResized_of_isMeasured ha)
  | false => exact (hgauged.iff_sizes_eq (h.gauges_eq ha)).trans (h.sizes_eq_iff hs ha)

/-! ## Many operations -/

/-- The gauges stay as they are for as long as nothing is measured. -/
theorem gauges_run {ops : List Operation}
    (h : ∀ a ∈ (Session.run perform s ops).2, a.isMeasured = false) :
    (Session.run perform s ops).1.gauges = s.gauges :=
  Session.invariant_of_answers (P := fun u => u.gauges = s.gauges)
    (fun u op hu ha => ((u.becomes_perform op).gauges_eq ha).trans hu) rfl h

/-- The gauges stay right for as long as no entry changes the sizes of the tables. -/
theorem isGauged_run (hs : s.IsChecked o) (hgauged : s.IsGauged) {ops : List Operation}
    (h : ∀ a ∈ (Session.run perform s ops).2, a.isResized = false) :
    (Session.run perform s ops).1.IsGauged := by
  have hstep : ∀ (u : Store) op, u.IsChecked o ∧ u.IsGauged →
      (u.perform op).2.isResized = false →
        (u.perform op).1.IsChecked o ∧ (u.perform op).1.IsGauged := by
    rintro u op ⟨hu, hgauged⟩ ha
    have hbecomes := u.becomes_perform op
    exact ⟨hbecomes.isChecked hu, (hbecomes.isGauged_iff hu hgauged).2 ha⟩
  exact (Session.invariant_of_answers (P := fun u => u.IsChecked o ∧ u.IsGauged) hstep
    ⟨hs, hgauged⟩ h).2

/-- A load, a delta or a clearing that is carried out, whatever came before it, sets the
gauges to the sizes of the tables.  After it, whatever is asked and whatever fails, they show
these sizes for as long as no entry is answered to have changed them, and an entry that is
makes gauges wrong that were right.  As long as nothing is measured anew, they are right just
if the sizes are those that were measured. -/
theorem gauged_until_resized (o : Options) (front : List Operation) (last : Operation)
    (back : List Operation) :
    let measured := (Session.run perform (new o) front).1.perform last
    let session := Session.run perform measured.1 back
    measured.2.isMeasured = true →
      measured.1.IsGauged ∧
        ((∀ a ∈ session.2, a.isResized = false) → session.1.IsGauged) ∧
        (∀ op, session.1.IsGauged →
          ((session.1.perform op).1.IsGauged ↔ (session.1.perform op).2.isResized = false)) ∧
        ((∀ a ∈ session.2, a.isMeasured = false) →
          (session.1.IsGauged ↔ session.1.sizes = measured.1.sizes)) := by
  intro measured session hmeasured
  have hbecomes := becomes_perform (Session.run perform (new o) front).1 last
  have hchecked : measured.1.IsChecked o :=
    hbecomes.isChecked (isChecked_run (isChecked_new o) front)
  have hgauged : measured.1.IsGauged := hbecomes.isGauged_of_isMeasured hmeasured
  refine ⟨hgauged, isGauged_run hchecked hgauged, ?_, ?_⟩
  · intro op hop
    exact (session.1.becomes_perform op).isGauged_iff (isChecked_run hchecked back) hop
  · intro hback
    exact hgauged.iff_sizes_eq (gauges_run hback)

/-- After a load, an entry that overlaps another one is rejected and a key is looked up.  The
gauges still show one key with one entry. -/
theorem gauged_after_rejection :
    let load : Operation := .loadRecords [.validity ⟨1, "tariff", "eu", 0, 10, ["A"], 5⟩]
    let back : List Operation :=
      [.insert ⟨"tariff", "eu"⟩ 2 ⟨5, 15⟩ ["B"], .lookup ⟨"tariff", "eu"⟩ 4]
    let measured := (new ⟨.exclusive, .reject, .full, 0⟩).perform load
    let session := Session.run perform measured.1 back
    measured.2.isMeasured = true ∧ (∀ a ∈ session.2, a.isResized = false) ∧
      session.1.sizes = (1, 1) ∧ session.1.IsGauged := by
  intro load back measured session
  have hmeasured : measured.2.isMeasured = true := by decide +kernel
  have hback : ∀ a ∈ session.2, a.isResized = false := by decide +kernel
  have hgauged :=
    (gauged_until_resized ⟨.exclusive, .reject, .full, 0⟩ [] load back hmeasured).2.1 hback
  exact ⟨hmeasured, hback, by decide +kernel, hgauged⟩

/-- An entry is added to tables that a load has left empty.  The tables have one key with one
entry then, and the gauges show none. -/
theorem not_gauged_after_insertion :
    let loaded := (new ⟨.exclusive, .reject, .full, 0⟩).perform (.loadRecords [])
    let added := loaded.1.perform (.insert ⟨"tariff", "eu"⟩ 1 ⟨0, 10⟩ ["A"])
    loaded.2.isMeasured = true ∧ added.1.sizes = (1, 1) ∧
      added.1.gauges = (some 0, some 0) ∧ ¬ added.1.IsGauged := by
  decide +kernel

end Store
end Tariff
