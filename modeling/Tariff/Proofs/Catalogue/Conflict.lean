import Tariff.Proofs.Catalogue.LogBook

/-!
# Keys in conflict

A catalogue that drops keys in conflict looks at the entries one by one, and at each of them
only at what its key holds at that time.  Still it serves a key just if no two of all its
entries overlap, whichever comes first: the first entry that overlaps one before it is found
in any order, and nothing brings the key back.

Main results:

- Theorem {lit}`LogBook.Tells.run`: the answers to the calls for a key are told by what was
  written for it, whatever was called for other keys.
- Theorem {lit}`Catalogue.exists_verdicts_eq`: where entries overlap, one of them is the first
  to meet another one.
- Theorem {lit}`Catalogue.served_iff_conflictFree`: a key is served just if its entries do not
  overlap, in any order.
-/

namespace Tariff

open Catalogue (Outcome)

variable {α : Type}

namespace Catalogue

/-! ## The calls for one key -/

/-- What a call writes for a key. -/
def Call.writing? (k : Key) : Call α → Option (Writing α)
  | .add j w => if j = k then some w else none
  | .clear => none

/-- What some calls write for a key, in order. -/
def writingsFor (k : Key) (calls : List (Call α)) : List (Writing α) :=
  calls.filterMap (Call.writing? k)

/-- The answers to the calls for a key among the answers to all calls. -/
def answersFor {β : Type} (k : Key) (calls : List (Call α)) (answers : List β) : List β :=
  ((calls.zip answers).filter fun x => (x.1.writing? k).isSome).map Prod.snd

/-- No two writings overlap. -/
def ConflictFree (ws : List (Writing α)) : Prop :=
  ws.Pairwise fun v w => Bounds.halfOpen.overlaps v.span w.span = false

/-- No two writings have the same id, a bare 0 apart. -/
def IdsDiffer (ws : List (Writing α)) : Prop :=
  ws.Pairwise fun v w => v.id = w.id → v.id = 0

instance (ws : List (Writing α)) : Decidable (ConflictFree ws) :=
  inferInstanceAs (Decidable (ws.Pairwise _))

instance (ws : List (Writing α)) : Decidable (IdsDiffer ws) :=
  inferInstanceAs (Decidable (ws.Pairwise _))

/-- What becomes of a writing behind others for the same key: it is added if all is free of
conflict, and it drops the key if it is the first to overlap another one. -/
def verdict (before : List (Writing α)) (w : Writing α) : Outcome :=
  if ConflictFree (before ++ [w]) then .added
  else if ConflictFree before then .invalidated
  else .skipped

/-- What becomes of writings one after the other. -/
def verdicts (before : List (Writing α)) : List (Writing α) → List Outcome
  | [] => []
  | w :: ws => verdict before w :: verdicts (before ++ [w]) ws

/-! ## Writings without conflict -/

/-- One range more keeps a list free of conflicts if it overlaps none of the others. -/
theorem conflictFree_append_singleton (ws : List (Writing α)) (w : Writing α) :
    ConflictFree (ws ++ [w]) ↔ ConflictFree ws ∧
      ∀ v ∈ ws, Bounds.halfOpen.overlaps v.span w.span = false := by
  unfold ConflictFree
  rw [List.pairwise_append]
  simp

/-- The first ranges of a list that is free of conflicts are free of conflicts. -/
theorem ConflictFree.of_append {before ws : List (Writing α)} (h : ConflictFree (before ++ ws)) :
    ConflictFree before :=
  (List.pairwise_append.1 h).1

/-- The order of the writings does not matter. -/
theorem ConflictFree.perm {ws ws' : List (Writing α)} (h : ConflictFree ws) (hperm : ws'.Perm ws) :
    ConflictFree ws' := by
  refine hperm.symm.pairwise h fun {v w} hvw => ?_
  rw [Bounds.overlaps_comm]
  exact hvw

/-- Whether ids differ does not depend on the order. -/
theorem IdsDiffer.perm {ws ws' : List (Writing α)} (h : IdsDiffer ws) (hperm : ws'.Perm ws) :
    IdsDiffer ws' := by
  refine hperm.symm.pairwise h fun {v w} hvw hid => ?_
  rw [hid]
  exact hvw hid.symm

/-- At most one of the writings contains an instant, since two that contain it would overlap. -/
theorem ConflictFree.filter_contains {ws : List (Writing α)} (h : ConflictFree ws) (t : Int) :
    ws.filter (fun w => Bounds.halfOpen.contains w.span t) = [] ∨
      ∃ w, ws.filter (fun w => Bounds.halfOpen.contains w.span t) = [w] := by
  have hfree := List.Pairwise.filter (fun w => Bounds.halfOpen.contains w.span t) h
  match hhits : ws.filter fun w => Bounds.halfOpen.contains w.span t with
  | [] => exact .inl hhits
  | [w] => exact .inr ⟨w, hhits⟩
  | v :: w :: rest =>
    have hcontains : ∀ u ∈ [v, w], Bounds.halfOpen.contains u.span t = true := by
      intro u hu
      have hmem : u ∈ v :: w :: rest := List.mem_append_left rest hu
      rw [← hhits] at hmem
      exact (List.mem_filter.1 hmem).2
    have hv := (Bounds.contains_iff .halfOpen v.span t).1 (hcontains v (by simp))
    have hw := (Bounds.contains_iff .halfOpen w.span t).1 (hcontains w (by simp))
    have hoverlap := (Bounds.overlaps_iff .halfOpen v.span w.span).2 ⟨by omega, by omega⟩
    rw [hhits] at hfree
    rw [(List.pairwise_cons.1 hfree).1 w List.mem_cons_self] at hoverlap
    cases hoverlap

/-- Of writings without conflict, the same ones contain an instant in any order. -/
theorem ConflictFree.filter_contains_perm {ws ws' : List (Writing α)} (h : ConflictFree ws)
    (hperm : ws'.Perm ws) (t : Int) :
    ws'.filter (fun w => Bounds.halfOpen.contains w.span t) =
      ws.filter (fun w => Bounds.halfOpen.contains w.span t) := by
  have hhits := hperm.filter fun w => Bounds.halfOpen.contains w.span t
  rcases h.filter_contains t with hnone | ⟨w, hone⟩
  · rw [hnone] at hhits ⊢
    exact List.perm_nil.1 hhits
  · rw [hone] at hhits ⊢
    exact List.perm_singleton.1 hhits

/-- Writings without conflict start at different instants, so that any order of them is sorted
alike. -/
theorem ConflictFree.byStart_perm {ws ws' : List (Writing α)} (h : ConflictFree ws)
    (hperm : ws'.Perm ws) (hspans : ∀ w ∈ ws, Bounds.halfOpen.admits w.span = true)
    (bounds : Bounds) (concurrent : Bool) :
    (⟨bounds, concurrent, ws'⟩ : WriteLog α).byStart =
      (⟨bounds, concurrent, ws⟩ : WriteLog α).byStart := by
  have hsame : ∀ v ∈ ws, ∀ w ∈ ws, v.span.start = w.span.start → v = w := by
    intro v hv w hw hstart
    by_contra hne
    have : Std.Symm fun v w : Writing α => Bounds.halfOpen.overlaps v.span w.span = false :=
      ⟨fun v w hvw => (Bounds.overlaps_comm .halfOpen w.span v.span).trans hvw⟩
    have hdisjoint := List.Pairwise.forall h hv hw hne
    have hvspan := (Bounds.admits_iff .halfOpen v.span).1 (hspans v hv)
    have hwspan := (Bounds.admits_iff .halfOpen w.span).1 (hspans w hw)
    rw [(Bounds.overlaps_iff .halfOpen v.span w.span).2 ⟨by omega, by omega⟩] at hdisjoint
    cases hdisjoint
  refine List.Perm.eq_of_pairwise ?_ (WriteLog.sorted_byStart _) (WriteLog.sorted_byStart _)
    ((List.mergeSort_perm ws' _).trans (hperm.trans (List.mergeSort_perm ws _).symm))
  intro v w hv hw hvw hwv
  exact hsame v (hperm.mem_iff.1 (List.mem_mergeSort.1 hv)) w (List.mem_mergeSort.1 hw)
    (Int.le_antisymm hvw hwv)

/-- Where no two writings overlap, each is added. -/
theorem verdicts_of_conflictFree {before ws : List (Writing α)}
    (h : ConflictFree (before ++ ws)) :
    verdicts before ws = List.replicate ws.length .added := by
  induction ws generalizing before with
  | nil => rfl
  | cons w ws ih =>
    rw [List.append_cons] at h
    have hverdict : verdict before w = .added := if_pos h.of_append
    rw [verdicts, hverdict, ih h]
    rfl

/-- Where two writings overlap already, the others are skipped. -/
theorem verdicts_of_not_conflictFree {before : List (Writing α)} (h : ¬ ConflictFree before)
    (ws : List (Writing α)) : verdicts before ws = List.replicate ws.length .skipped := by
  induction ws generalizing before with
  | nil => rfl
  | cons w ws ih =>
    have hnext : ¬ ConflictFree (before ++ [w]) := fun hfree => h hfree.of_append
    have hverdict : verdict before w = .skipped := by
      unfold verdict
      rw [if_neg hnext, if_neg h]
    rw [verdicts, hverdict, ih hnext]
    rfl

/-- Where two writings overlap in the end, one of them is the first to overlap another one:
those before it are added, and those behind it are skipped. -/
theorem exists_verdicts_eq {before ws : List (Writing α)} (hbefore : ConflictFree before)
    (h : ¬ ConflictFree (before ++ ws)) :
    ∃ n m, verdicts before ws =
      List.replicate n .added ++ .invalidated :: List.replicate m .skipped := by
  induction ws generalizing before with
  | nil =>
    rw [List.append_nil] at h
    exact absurd hbefore h
  | cons w ws ih =>
    by_cases hnext : ConflictFree (before ++ [w])
    · rw [List.append_cons] at h
      obtain ⟨n, m, hrest⟩ := ih hnext h
      have hverdict : verdict before w = .added := if_pos hnext
      refine ⟨n + 1, m, ?_⟩
      rw [verdicts, hverdict, hrest]
      rfl
    · have hverdict : verdict before w = .invalidated := by
        unfold verdict
        rw [if_neg hnext, if_pos hbefore]
      refine ⟨0, ws.length, ?_⟩
      rw [verdicts, hverdict, verdicts_of_not_conflictFree hnext]
      rfl

end Catalogue

/-! ## What the log book tells of a key -/

open Catalogue (Call writingsFor answersFor ConflictFree IdsDiffer verdict verdicts)

namespace LogBook

/-- The book drops keys in conflict, and it has kept what was written for a key, unless this
is in conflict. -/
structure Tells (g : LogBook α) (k : Key) (ws : List (Writing α)) : Prop where
  mode : g.mode = .exclusive
  policy : g.policy = .invalidateKey
  invalidated : k ∈ g.invalidated ↔ ¬ ConflictFree ws
  lookup : g.logs.lookup k = if ws ≠ [] ∧ ConflictFree ws then some ws else none

/-- A book in which nothing was written tells of no calls. -/
theorem tells_empty (k : Key) :
    (empty .exclusive .invalidateKey : LogBook α).Tells k [] := by
  have hfree : ConflictFree ([] : List (Writing α)) := List.Pairwise.nil
  refine ⟨rfl, rfl, ?_, ?_⟩
  · exact iff_of_false (Finset.notMem_empty k) (not_not_intro hfree)
  · rw [if_neg fun h => h.1 rfl]
    exact Finmap.lookup_empty (β := fun _ : Key => List (Writing α)) k

namespace Tells

variable {g : LogBook α} {k : Key} {ws : List (Writing α)}

/-- As long as no two ranges overlap, all writings for the key are kept. -/
theorem writings_of_conflictFree (h : g.Tells k ws) (hfree : ConflictFree ws) :
    g.writings k = ws := by
  unfold writings
  rw [h.lookup]
  by_cases hnil : ws = []
  · rw [if_neg fun hboth => hboth.1 hnil, hnil]
    rfl
  · rw [if_pos ⟨hnil, hfree⟩]
    rfl

/-- Once two ranges overlap, no writing for the key is kept. -/
theorem writings_of_not_conflictFree (h : g.Tells k ws) (hconflict : ¬ ConflictFree ws) :
    g.writings k = [] := by
  unfold writings
  rw [h.lookup, if_neg fun hboth => hconflict hboth.2]
  rfl

/-- A writing for the key gets the verdict that it deserves. -/
theorem add (h : g.Tells k ws) {w : Writing α}
    (hspan : Bounds.halfOpen.admits w.span = true)
    (hid : ∀ v ∈ ws, v.id = w.id → v.id = 0) :
    (g.add k w).2 = .ok (verdict ws w) ∧ (g.add k w).1.Tells k (ws ++ [w]) := by
  have hadmits : ¬ Bounds.halfOpen.admits w.span = false := by
    rw [Bool.not_eq_false]
    exact hspan
  unfold LogBook.add verdict
  rw [if_neg hadmits, h.mode]
  by_cases hfree : ConflictFree ws
  · have hk : k ∉ g.invalidated := fun hmem => h.invalidated.1 hmem hfree
    have hwritings := h.writings_of_conflictFree hfree
    have hnew : ¬ (w.id ≠ 0 ∧ ∃ v ∈ ws, v.id = w.id) := by
      rintro ⟨hne, v, hv, hvid⟩
      exact hne (hvid ▸ hid v hv hvid)
    rw [if_neg hk, hwritings]
    simp only [if_neg hnew]
    by_cases hoverlap : ∃ v ∈ ws, Bounds.halfOpen.overlaps v.span w.span = true
    · have hnext : ¬ ConflictFree (ws ++ [w]) := by
        rw [Catalogue.conflictFree_append_singleton]
        rintro ⟨_, hnone⟩
        obtain ⟨v, hv, hvw⟩ := hoverlap
        rw [hnone v hv] at hvw
        cases hvw
      have hsettle : g.settle k = (g.strike k, .invalidated) := by
        unfold settle
        rw [h.policy]
      rw [if_pos hoverlap, if_neg hnext, if_pos hfree, hsettle]
      refine ⟨rfl, h.mode, h.policy, ?_, ?_⟩
      · exact iff_of_true (Finset.mem_insert_self k _) hnext
      · rw [if_neg fun hboth => hnext hboth.2]
        exact Finmap.lookup_erase k _
    · have hnext : ConflictFree (ws ++ [w]) := by
        rw [Catalogue.conflictFree_append_singleton]
        refine ⟨hfree, fun v hv => ?_⟩
        rw [← Bool.not_eq_true]
        exact fun hvw => hoverlap ⟨v, hv, hvw⟩
      rw [if_neg hoverlap, if_pos hnext]
      refine ⟨rfl, h.mode, h.policy, ?_, ?_⟩
      · exact iff_of_false hk (not_not_intro hnext)
      · rw [if_pos ⟨List.append_ne_nil_of_right_ne_nil _ (List.cons_ne_nil _ _), hnext⟩]
        exact Finmap.lookup_insert _
  · have hk : k ∈ g.invalidated := h.invalidated.2 hfree
    have hnext : ¬ ConflictFree (ws ++ [w]) := fun hall => hfree hall.of_append
    rw [if_pos hk, if_neg hnext, if_neg hfree]
    refine ⟨rfl, h.mode, h.policy, iff_of_true hk hnext, ?_⟩
    rw [h.lookup, if_neg fun hboth => hfree hboth.2, if_neg fun hboth => hnext hboth.2]

/-- A writing for another key changes nothing that is told of the key. -/
theorem add_of_ne (h : g.Tells k ws) {j : Key} (hne : k ≠ j) (w : Writing α) :
    (g.add j w).1.Tells k ws := by
  have hkeep : ∀ vs, (g.keep j vs).Tells k ws := by
    intro vs
    exact ⟨h.mode, h.policy, h.invalidated,
      (Finmap.lookup_insert_of_ne _ hne).trans h.lookup⟩
  have hstrike : (g.strike j).Tells k ws := by
    refine ⟨h.mode, h.policy, ?_, (Finmap.lookup_erase_ne hne).trans h.lookup⟩
    unfold strike
    rw [Finset.mem_insert, or_iff_right hne]
    exact h.invalidated
  unfold LogBook.add settle
  rw [h.mode, h.policy]
  split
  · exact h
  · split
    · exact h
    · simp only
      split
      · exact hkeep _
      · split
        · exact hstrike
        · exact hkeep _

/-- The answers to the calls for a key are told by what was written for it, whatever is called
for other keys in between. -/
theorem run (h : g.Tells k ws) {calls : List (Call α)} (hclear : .clear ∉ calls)
    (hspans : ∀ w ∈ writingsFor k calls, Bounds.halfOpen.admits w.span = true)
    (hids : IdsDiffer (ws ++ writingsFor k calls)) :
    answersFor k calls (Session.run LogBook.step g calls).2 =
        (verdicts ws (writingsFor k calls)).map (fun o => .ok (some o)) ∧
      (Session.run LogBook.step g calls).1.Tells k (ws ++ writingsFor k calls) := by
  induction calls generalizing g ws with
  | nil =>
    refine ⟨rfl, ?_⟩
    have hnone : writingsFor k ([] : List (Call α)) = [] := rfl
    rw [hnone, List.append_nil]
    exact h
  | cons call calls ih =>
    rw [List.mem_cons, not_or] at hclear
    cases call with
    | clear => exact absurd rfl hclear.1
    | add j w =>
      rw [Session.run_cons, step_add]
      by_cases hj : j = k
      · subst hj
        have hwriting : Call.writing? j (.add j w) = some w := if_pos rfl
        have hwritings : writingsFor j (.add j w :: calls) = w :: writingsFor j calls :=
          List.filterMap_cons_some hwriting
        rw [hwritings, List.append_cons] at hids
        rw [hwritings] at hspans
        obtain ⟨hspan, hspans⟩ := List.forall_mem_cons.1 hspans
        have hid : ∀ v ∈ ws, v.id = w.id → v.id = 0 := fun v hv =>
          (List.pairwise_append.1 (List.pairwise_append.1 hids).1).2.2 v hv w
            List.mem_cons_self
        obtain ⟨hanswer, hnext⟩ := h.add hspan hid
        obtain ⟨hanswers, hend⟩ := ih hnext hclear.2 hspans hids
        rw [hwritings, List.append_cons]
        refine ⟨?_, hend⟩
        unfold answersFor at hanswers ⊢
        rw [List.zip_cons_cons, List.filter_cons_of_pos (by simp [hwriting]), List.map_cons,
          hanswers, hanswer]
        rfl
      · have hwriting : Call.writing? k (.add j w) = none := if_neg hj
        have hwritings : writingsFor k (.add j w :: calls) = writingsFor k calls :=
          List.filterMap_cons_none hwriting
        rw [hwritings] at hspans hids ⊢
        obtain ⟨hanswers, hend⟩ :=
          ih (h.add_of_ne (fun heq => hj heq.symm) w) hclear.2 hspans hids
        refine ⟨?_, hend⟩
        unfold answersFor at hanswers ⊢
        rw [List.zip_cons_cons, List.filter_cons_of_neg (by simp [hwriting])]
        exact hanswers

/-- The hits of a key are the writings that contain the instant, unless they are in
conflict. -/
theorem hits_of_conflictFree (h : g.Tells k ws) (hfree : ConflictFree ws) (t : Int) :
    g.hits k t = ws.filter fun w => Bounds.halfOpen.contains w.span t := by
  unfold hits
  rw [h.writings_of_conflictFree hfree]

/-- Once two ranges overlap, nothing is found at any instant. -/
theorem hits_of_not_conflictFree (h : g.Tells k ws) (hconflict : ¬ ConflictFree ws) (t : Int) :
    g.hits k t = [] := by
  unfold hits
  rw [h.writings_of_not_conflictFree hconflict]
  rfl

/-- In exclusive mode the value of a key is the one that was written last. -/
theorem first?_eq (h : g.Tells k ws) (t : Int) :
    g.first? k t = (g.hits k t).getLast?.map (·.value) := by
  unfold LogBook.first?
  rw [h.mode]

/-- What is written for a key answers alike in any order. -/
theorem answers_perm {g' : LogBook α} {ws' : List (Writing α)} (h : g.Tells k ws)
    (h' : g'.Tells k ws') (hperm : ws'.Perm ws)
    (hspans : ∀ w ∈ ws, Bounds.halfOpen.admits w.span = true) :
    (k ∈ g'.invalidated ↔ k ∈ g.invalidated) ∧ (∀ t, g'.hits k t = g.hits k t) ∧
      g'.list? k = g.list? k := by
  have hfree : ConflictFree ws' ↔ ConflictFree ws :=
    ⟨fun hws => hws.perm hperm.symm, fun hws => hws.perm hperm⟩
  have hnil : ws' = [] ↔ ws = [] := ⟨fun heq => List.nil_perm.1 (heq ▸ hperm),
    fun heq => List.perm_nil.1 (heq ▸ hperm)⟩
  refine ⟨?_, fun t => ?_, ?_⟩
  · rw [h.invalidated, h'.invalidated, hfree]
  · by_cases hws : ConflictFree ws
    · rw [h.hits_of_conflictFree hws, h'.hits_of_conflictFree (hfree.2 hws)]
      exact hws.filter_contains_perm hperm t
    · rw [h.hits_of_not_conflictFree hws,
        h'.hits_of_not_conflictFree fun hws' => hws (hfree.1 hws')]
  · unfold list? log?
    rw [h.lookup, h'.lookup, h.mode, h'.mode]
    by_cases hws : ws ≠ [] ∧ ConflictFree ws
    · rw [if_pos hws, if_pos ⟨fun heq => hws.1 (hnil.1 heq), hfree.2 hws.2⟩]
      exact congrArg some (hws.2.byStart_perm hperm hspans _ _)
    · rw [if_neg hws, if_neg fun hws' => hws ⟨fun heq => hws'.1 (hnil.2 heq), hfree.1 hws'.2⟩]

end Tells

end LogBook

namespace Catalogue

variable {c : Catalogue α}

/-- After any calls without a clearing in between, the book of a cleared catalogue that drops
keys in conflict tells of a key what was written for it. -/
theorem exists_tells (hmode : c.mode = .exclusive) (hpolicy : c.policy = .invalidateKey)
    (k : Key) {calls : List (Call α)} (hclear : .clear ∉ calls)
    (hspans : ∀ w ∈ writingsFor k calls, Bounds.halfOpen.admits w.span = true)
    (hids : IdsDiffer (writingsFor k calls)) :
    answersFor k calls (Session.run step c.clear calls).2 =
        (verdicts [] (writingsFor k calls)).map (fun o => .ok (some o)) ∧
      ∃ g : LogBook α, (Session.run step c.clear calls).1.AnswersAs g ∧
        g.Tells k (writingsFor k calls) := by
  have hstart : c.clear.Represents (LogBook.empty .exclusive .invalidateKey) := by
    unfold clear
    rw [hmode, hpolicy]
    exact represents_empty _ _
  obtain ⟨hanswers, hend⟩ := Session.simulation
    (fun (c : Catalogue α) g call (h : c.Represents g) => h.step call) hstart calls
  obtain ⟨hverdicts, htells⟩ := (LogBook.tells_empty k).run hclear hspans hids
  rw [hanswers]
  exact ⟨hverdicts, _, hend.answersAs, htells⟩

/-- Entries are added for a key, no two of them with the same id, to a cleared catalogue that
drops keys in conflict, and whatever else for other keys.  The key ends dropped just if two of
its entries overlap.  Then the first one that overlaps an earlier one dropped it, and no
instant has a value.  Otherwise all were added, and each instant has the value of the only
entry that contains it.  The order in which they came does not matter. -/
theorem served_iff_conflictFree (hmode : c.mode = .exclusive) (hpolicy : c.policy = .invalidateKey)
    (k : Key) {calls : List (Call α)} (hclear : .clear ∉ calls)
    (hspans : ∀ w ∈ writingsFor k calls, Bounds.halfOpen.admits w.span = true)
    (hids : IdsDiffer (writingsFor k calls)) :
    let ws := writingsFor k calls
    let after := Session.run step c.clear calls
    let answers := answersFor k calls after.2
    (after.1.isInvalidated k = true ↔ ¬ ConflictFree ws) ∧
      (¬ ConflictFree ws →
        (∃ n m, answers = List.replicate n (.ok (some .added)) ++
          .ok (some .invalidated) :: List.replicate m (.ok (some .skipped))) ∧
          ∀ t, after.1.first? k t = none ∧ after.1.all k t = []) ∧
      (ConflictFree ws →
        answers = List.replicate ws.length (.ok (some .added)) ∧
          ∀ t, let hits := ws.filter fun w => Bounds.halfOpen.contains w.span t
            (hits = [] ∧ after.1.first? k t = none) ∨
              ∃ w, hits = [w] ∧ after.1.first? k t = some w.value) ∧
      ∀ calls', .clear ∉ calls' → (writingsFor k calls').Perm ws →
        let other := (Session.run step c.clear calls').1
        other.isInvalidated k = after.1.isInvalidated k ∧
          (∀ t, other.first? k t = after.1.first? k t ∧ other.all k t = after.1.all k t) ∧
          (other.timeline? k).map (fun l => l.entries.map Entry.writing) =
            (after.1.timeline? k).map fun l => l.entries.map Entry.writing := by
  intro ws after answers
  obtain ⟨hanswers, g, hg, htells⟩ := exists_tells hmode hpolicy k hclear hspans hids
  have hanswers : answers = (verdicts [] ws).map fun o => .ok (some o) := hanswers
  have hfirst : ∀ t, after.1.first? k t = (g.hits k t).getLast?.map (·.value) :=
    fun t => (hg.first k t).trans (htells.first?_eq t)
  have hall : ∀ t, after.1.all k t = (g.hits k t).map (·.value) := hg.all k
  have hempty : ConflictFree ([] : List (Writing α)) := List.Pairwise.nil
  refine ⟨?_, fun hconflict => ⟨?_, fun t => ?_⟩, fun hfree => ⟨?_, fun t => ?_⟩, ?_⟩
  · rw [hg.invalidated, decide_eq_true_iff]
    exact htells.invalidated
  · have hconflict : ¬ ConflictFree ([] ++ ws) := hconflict
    obtain ⟨n, m, hverdicts⟩ := exists_verdicts_eq hempty hconflict
    refine ⟨n, m, ?_⟩
    rw [hanswers, hverdicts, List.map_append, List.map_cons, List.map_replicate,
      List.map_replicate]
  · rw [hfirst, hall, htells.hits_of_not_conflictFree hconflict]
    exact ⟨rfl, rfl⟩
  · have hfree : ConflictFree ([] ++ ws) := hfree
    rw [hanswers, verdicts_of_conflictFree hfree, List.map_replicate]
  · rw [hfirst, htells.hits_of_conflictFree hfree]
    rcases hfree.filter_contains t with hnone | ⟨w, hone⟩
    · refine .inl ⟨hnone, ?_⟩
      rw [hnone]
      rfl
    · refine .inr ⟨w, hone, ?_⟩
      rw [hone]
      rfl
  · intro calls' hclear' hperm other
    have hspans' : ∀ w ∈ writingsFor k calls', Bounds.halfOpen.admits w.span = true :=
      fun w hw => hspans w (hperm.mem_iff.1 hw)
    obtain ⟨_, g', hg', htells'⟩ :=
      exists_tells hmode hpolicy k hclear' hspans' (hids.perm hperm)
    obtain ⟨hinvalidated, hhits, hlist⟩ := htells.answers_perm htells' hperm hspans
    refine ⟨?_, fun t => ⟨?_, ?_⟩, ?_⟩
    · rw [hg.invalidated, hg'.invalidated, decide_eq_decide]
      exact hinvalidated
    · rw [hfirst, hg'.first, htells'.first?_eq, hhits]
    · rw [hall, hg'.all, ← hhits]
      rfl
    · rw [hg.list, hg'.list, hlist]

/-- The third of four entries for a key overlaps the first one, with an empty span for another
key in between.  The key is dropped, and it is dropped too if the entries come the other way
round. -/
theorem dropped_in_either_order :
    let k : Key := ⟨"tariff", "eu"⟩
    let calls : List (Call String) :=
      [.add k ⟨1, ⟨0, 10⟩, "A"⟩, .add ⟨"tariff", "us"⟩ ⟨1, ⟨9, 3⟩, "X"⟩,
        .add k ⟨0, ⟨20, 30⟩, "B"⟩, .add k ⟨2, ⟨5, 15⟩, "C"⟩, .add k ⟨3, ⟨40, 50⟩, "D"⟩]
    let c : Catalogue String := empty .exclusive .invalidateKey
    c.mode = .exclusive ∧ c.policy = .invalidateKey ∧ .clear ∉ calls ∧
      (∀ w ∈ writingsFor k calls, Bounds.halfOpen.admits w.span = true) ∧
      IdsDiffer (writingsFor k calls) ∧
      (Session.run step c.clear calls).1.isInvalidated k = true ∧
      (∀ t, (Session.run step c.clear calls).1.first? k t = none) ∧
      (Session.run step c.clear calls.reverse).1.isInvalidated k = true := by
  intro k calls c
  have hclear : .clear ∉ calls := by simp [calls]
  have hspans : ∀ w ∈ writingsFor k calls, Bounds.halfOpen.admits w.span = true := by
    decide +kernel
  have hids : IdsDiffer (writingsFor k calls) := by decide +kernel
  have hconflict : ¬ ConflictFree (writingsFor k calls) := by decide +kernel
  obtain ⟨hinvalidated, hdropped, _, hother⟩ :=
    served_iff_conflictFree (c := c) rfl rfl k hclear hspans hids
  have hreverse := hother calls.reverse (by simp [calls])
    ((List.reverse_perm calls).filterMap _)
  refine ⟨rfl, rfl, hclear, hspans, hids, hinvalidated.2 hconflict,
    fun t => ((hdropped hconflict).2 t).1, ?_⟩
  exact hreverse.1.trans (hinvalidated.2 hconflict)

end Catalogue
end Tariff
