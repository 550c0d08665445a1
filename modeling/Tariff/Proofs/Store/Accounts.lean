import Tariff.Proofs.Loading.Accounts
import Tariff.Proofs.Store.Gauges

/-!
# Accounts of a store

A load that succeeds is answered with a summary.  It accounts for each record that was handed
over and for the change of the published tables, whether these were built anew or changed by a
delta.  The watermark of the store is the latest one that a summary has told since the store
started over, by a full load or by a clearing.

Main results:

- Theorem {lit}`Store.loads_perform`: which records a load that succeeds has taken in, and how.
- Theorem {lit}`Store.Loads.account`: the summary accounts for them.
- Theorem {lit}`Store.watermark_run`: the watermark is the latest one told.
- Theorem {lit}`Store.accounts_of_run`: summaries, entries and watermark after any operations.
-/

namespace Tariff
namespace Answer

variable {a : Answer}

/-- The watermark of the summary in an answer. -/
def told : Answer → List (Option Int)
  | .loaded (.ok summary) => [summary.watermark]
  | _ => []

/-- An answer that reports no load tells no watermark. -/
theorem told_of_not_isMeasured (ha : a.isMeasured = false) : a.told = [] := by
  cases a with
  | loaded r =>
    cases r with
    | ok summary => cases ha
    | error f => rfl
  | _ => rfl

/-- The answers that concern the watermark: the summary of a load, and that a store was
cleared. -/
theorem eq_of_isMeasured (ha : a.isMeasured = true) :
    (∃ summary, a = .loaded (.ok summary)) ∨ a = .done := by
  cases a with
  | loaded r =>
    cases r with
    | ok summary => exact .inl ⟨summary, rfl⟩
    | error f => cases ha
  | done => exact .inr rfl
  | _ => cases ha

end Answer

namespace Store

variable {s s' : Store} {o : Options} {mode : ReloadMode} {rs : List Record} {summary : Summary}

/-! ## Loads that succeed -/

/-- The records that an operation hands over to the store, and whether tables are to be built
from them or to be changed by them. -/
def handover? (s : Store) : Operation → Option (ReloadMode × List Record)
  | .loadRecords rs => some (.full, rs)
  | .reloadFull load => (load none).toOption.map fun rs => (.full, rs)
  | .reloadIncremental load => (load s.watermark).toOption.map fun rs => (.incremental, rs)
  | .refresh load =>
    if s.options.reload = .incremental ∧ s.watermark.isSome then
      (load s.watermark).toOption.map fun rs => (.incremental, rs)
    else (load none).toOption.map fun rs => (.full, rs)
  | _ => none

/-- A load of records that succeeds, with its summary and the store that it leaves behind. -/
inductive Loads (s : Store) : ReloadMode → List Record → Summary → Store → Prop
  | full {rs : List Record} {l : Loading} {s' : Store}
    (hbuild : Loading.build s.options rs = (l, none))
    (halike : Alike { s with tables := l.tables, watermark := l.summary.watermark } s') :
    Loads s .full rs l.summary s'
  | incremental {rs : List Record} {l : Loading} {s' : Store}
    (hdelta : Loading.delta s.tables rs = (l, none))
    (halike : Alike { s with
      tables := l.tables, watermark := raise s.watermark l.summary.watermark } s') :
    Loads s .incremental rs l.summary s'

/-- A reload may be counted after the load. -/
theorem Loads.countReload (h : Loads s mode rs summary s') {α : Type} (way : ReloadMode)
    (r : Except LoadFault α) : Loads s mode rs summary (s'.countReload way r) := by
  cases h with
  | full hbuild halike =>
    exact .full hbuild ⟨halike.options, halike.tables, halike.watermark⟩
  | incremental hdelta halike =>
    exact .incremental hdelta ⟨halike.options, halike.tables, halike.watermark⟩

/-- A load of records that succeeds takes in these records. -/
theorem loads_loadRecords (h : (s.loadRecords rs).2 = .ok summary) :
    Loads s .full rs summary (s.loadRecords rs).1 := by
  unfold loadRecords at h ⊢
  rcases hbuild : Loading.build s.options rs with ⟨l, _ | f⟩
  · rw [hbuild] at h
    cases h
    exact .full hbuild ⟨rfl, rfl, rfl⟩
  · rw [hbuild] at h
    cases h

/-- A delta that succeeds takes in its records. -/
theorem loads_applyDelta (h : (s.applyDelta rs).2 = .ok summary) :
    Loads s .incremental rs summary (s.applyDelta rs).1 := by
  unfold applyDelta at h ⊢
  rcases hdelta : Loading.delta s.tables rs with ⟨l, _ | f⟩
  · rw [hdelta] at h
    cases h
    exact .incremental hdelta ⟨rfl, rfl, rfl⟩
  · rw [hdelta] at h
    cases h

/-- A full reload that succeeds takes in all that the provider has. -/
theorem loads_reloadFull {load : Source.Loader} (h : (s.reloadFull load).2 = .ok summary) :
    ∃ rs, load none = .ok rs ∧ Loads s .full rs summary (s.reloadFull load).1 := by
  unfold reloadFull at h ⊢
  cases hload : load none with
  | error f =>
    rw [hload] at h
    cases h
  | ok rs =>
    rw [hload] at h
    exact ⟨rs, rfl, (loads_loadRecords h).countReload _ _⟩

/-- An incremental reload that succeeds takes in what the provider has since the watermark. -/
theorem loads_reloadIncremental {load : Source.Loader}
    (h : (s.reloadIncremental load).2 = .ok summary) :
    ∃ rs, load s.watermark = .ok rs ∧
      Loads s .incremental rs summary (s.reloadIncremental load).1 := by
  unfold reloadIncremental at h ⊢
  cases hload : load s.watermark with
  | error f =>
    rw [hload] at h
    cases h
  | ok rs =>
    rw [hload] at h
    exact ⟨rs, rfl, (loads_applyDelta h).countReload _ _⟩

/-- The answer to an incremental reload is its summary or its fault. -/
theorem snd_perform_reloadIncremental (s : Store) (load : Source.Loader) :
    (s.perform (.reloadIncremental load)).2 = .loaded (s.reloadIncremental load).2 := rfl

/-- The answer to an entry is its outcome or its fault. -/
theorem snd_perform_insert (s : Store) (key : Key) (id : Nat) (span : Span)
    (results : List String) :
    (s.perform (.insert key id span results)).2 =
      .inserted (s.insert key id span results).2 := rfl

/-- Which records a load that succeeds has taken in, and how. -/
theorem loads_perform {op : Operation} (h : (s.perform op).2 = .loaded (.ok summary)) :
    ∃ mode rs, s.handover? op = some (mode, rs) ∧ Loads s mode rs summary (s.perform op).1 := by
  cases op with
  | loadRecords rs => exact ⟨_, _, rfl, loads_loadRecords (Answer.loaded.inj h)⟩
  | reloadFull load =>
    obtain ⟨rs, hload, hloads⟩ := loads_reloadFull (Answer.loaded.inj h)
    refine ⟨_, rs, ?_, hloads⟩
    simp only [handover?]
    rw [hload]
    rfl
  | reloadIncremental load =>
    obtain ⟨rs, hload, hloads⟩ := loads_reloadIncremental (Answer.loaded.inj h)
    refine ⟨_, rs, ?_, hloads⟩
    simp only [handover?]
    rw [hload]
    rfl
  | refresh load =>
    have hok : (s.refresh load).2 = .ok summary := Answer.loaded.inj h
    have hafter : (s.perform (.refresh load)).1 = (s.refresh load).1 := rfl
    rw [hafter]
    simp only [handover?]
    unfold refresh at hok ⊢
    by_cases hmode : s.options.reload = .incremental ∧ s.watermark.isSome
    · rw [if_pos hmode] at hok ⊢
      obtain ⟨rs, hload, hloads⟩ := loads_reloadIncremental hok
      refine ⟨_, rs, ?_, by rw [if_pos hmode]; exact hloads⟩
      rw [hload]
      rfl
    · rw [if_neg hmode] at hok ⊢
      obtain ⟨rs, hload, hloads⟩ := loads_reloadFull hok
      refine ⟨_, rs, ?_, by rw [if_neg hmode]; exact hloads⟩
      rw [hload]
      rfl
  | segmentForPlan | segment | matchFirst | matchAll | lookup | lookupAll | isInvalidated | insert
    | clear | stats | watermark | snapshot => cases h

/-! ## What a summary accounts for -/

/-- What the summary of a load says of the records that were handed over and of the change of
the store. -/
structure Account (o : Options) (s : Store) (mode : ReloadMode) (rs : List Record)
    (summary : Summary) (s' : Store) : Prop where
  records : summary.records = rs.length
  /-- Each record is counted once. -/
  balanced : summary.records = summary.added + summary.updated + summary.rejected +
    summary.invalidated + summary.skipped
  /-- The watermark is the greatest time of modification, whatever has become of its entry. -/
  watermark : summary.watermark =
    ((rs.filterMap Record.validity?).map fun v => v.modified.toInt).max?
  watermark_eq_none_iff : summary.watermark = none ↔ ∀ r ∈ rs, r.validity? = none
  /-- The entries that count as added are those by which the tables have grown. -/
  entries : o.policy = .reject →
    match mode with
    | .full => s'.tables.stats.entries + Record.otherCount rs = summary.added
    | .incremental => s'.tables.stats.entries = s.tables.stats.entries + summary.added
  /-- Where any number of values may hold at an instant, entries meet no other. -/
  free : o.mode = .multi →
    summary.updated = 0 ∧ summary.rejected = 0 ∧ summary.invalidated = 0

/-- What a load does to the entries is all that depends on the way in which it is made. -/
theorem account_of_counted (hrecords : summary.records = rs.length)
    (hcounted : summary.counted = rs.length)
    (hlatest : summary.watermark = Validity.latest none (rs.filterMap Record.validity?))
    (hentries : o.policy = .reject →
      match mode with
      | .full => s'.tables.stats.entries + Record.otherCount rs = summary.added
      | .incremental => s'.tables.stats.entries = s.tables.stats.entries + summary.added)
    (hfree : o.mode = .multi → ∀ outcome, outcome ≠ .added → outcome ≠ .skipped →
      summary.number outcome = 0) :
    Account o s mode rs summary s' := by
  rw [Validity.latest_eq_max?] at hlatest
  refine ⟨hrecords, hrecords.trans hcounted.symm, hlatest, ?_, hentries, fun hmode => ?_⟩
  · rw [hlatest, List.max?_eq_none_iff, List.map_eq_nil_iff, List.filterMap_eq_nil_iff]
  · exact ⟨hfree hmode .updated (fun h => nomatch h) (fun h => nomatch h),
      hfree hmode .rejected (fun h => nomatch h) (fun h => nomatch h),
      hfree hmode .invalidated (fun h => nomatch h) (fun h => nomatch h)⟩

/-- The summary of a load that succeeds accounts for its records and for the change of the
store. -/
theorem Loads.account (h : Loads s mode rs summary s') (hs : s.IsChecked o) :
    Account o s mode rs summary s' := by
  obtain ⟨rfl, htables⟩ := hs
  cases h with
  | @full rs l s' hbuild halike =>
    have hbooked := Loading.booked_build hbuild
    have hlatest := Loading.watermark_build (congrArg Prod.snd hbuild)
    have hafter : s'.tables = l.tables := halike.tables.symm
    rw [hbuild] at hlatest
    refine account_of_counted hbooked.records ?_ hlatest (fun hpolicy => ?_)
      fun hmode outcome hadded hskipped => ?_
    · exact hbooked.counted.trans (Nat.zero_add _)
    · have hentries := hbooked.entries hpolicy
      have hstart : (Tables.empty s.options).catalogue.entryCount = 0 := rfl
      simp only [hstart, Summary.start, Nat.zero_add, Nat.add_zero] at hentries
      simp only [Tables.stats, hafter]
      exact hentries
    · rw [hbooked.free hmode outcome hadded hskipped]
      exact Summary.number_start _ outcome
  | @incremental rs l s' hdelta halike =>
    have hbooked := Loading.booked_delta htables.sound hdelta
    have hlatest := Loading.watermark_delta (congrArg Prod.snd hdelta)
    have hafter : s'.tables = l.tables := halike.tables.symm
    rw [hdelta] at hlatest
    refine account_of_counted hbooked.records ?_ hlatest (fun hpolicy => ?_)
      fun hmode outcome hadded hskipped => ?_
    · rw [hbooked.counted, List.length_map, Loading.counted_deltaStart]
    · have hentries := hbooked.entries hpolicy
      rw [Record.otherCount_map_validity] at hentries
      simp only [Tables.stats, hafter]
      exact hentries
    · rw [hbooked.free hmode outcome hadded hskipped]
      cases outcome with
      | added => exact absurd rfl hadded
      | skipped => exact absurd rfl hskipped
      | updated | rejected | invalidated => rfl

/-- Under the policy that rejects what overlaps, an entry that is added is one more, and any
other answer to it leaves the number as it was. -/
theorem Becomes.entries_of_reject {outcome : Catalogue.Outcome}
    (h : Becomes s (.inserted (.ok outcome)) s') (hs : s.IsChecked o)
    (hpolicy : o.policy = .reject) :
    s'.tables.stats.entries = s.tables.stats.entries + if outcome = .added then 1 else 0 := by
  cases h with
  | counted ha _ _ => cases ha
  | @inserted key id span results _ c _ hcheck hadd halike _ =>
    have hsound := hs.tables.sound
    have hafter : s'.tables = { s.tables with catalogue := c } := halike.tables.symm
    simp only [Tables.stats, hafter]
    exact hsound.catalogue.entryCount_of_reject (hsound.policy.trans hpolicy) hadd

/-! ## The watermark -/

/-- The operation forgets what the watermark was before: it is a full load that succeeds, or
clears the store. -/
def startsOver (s : Store) (op : Operation) : Bool :=
  match (s.perform op).2, s.handover? op with
  | .loaded (.ok _), some (.full, _) => true
  | .done, _ => true
  | _, _ => false

/-- The watermarks of the summaries that were given since the store started over. -/
def window (s : Store) (past : List (Option Int)) : List Operation → List (Option Int)
  | [] => past
  | op :: ops =>
    (s.perform op).1.window
      ((if s.startsOver op then [] else past) ++ (s.perform op).2.told) ops

/-- The greatest of some watermarks. -/
def greatest (ws : List (Option Int)) : Option Int :=
  (ws.filterMap id).max?

/-- Raising the greatest of some watermarks takes one more into account. -/
theorem raise_greatest (ws : List (Option Int)) (w : Option Int) :
    raise (greatest ws) w = greatest (ws ++ [w]) := by
  unfold greatest
  rw [List.filterMap_append]
  cases w with
  | none =>
    have hnone : [none].filterMap id = ([] : List Int) := rfl
    rw [hnone, List.append_nil]
    rfl
  | some t =>
    have hone : [some t].filterMap id = [t] := rfl
    rw [hone]
    cases ws.filterMap id with
    | nil => rfl
    | cons u us =>
      rw [List.cons_append, List.max?_cons', List.max?_cons', List.foldl_append]
      rfl

/-- Only loads that succeed and clearing change the watermark. -/
theorem Becomes.watermark_eq {a : Answer} (h : Becomes s a s') (ha : a.isMeasured = false) :
    s'.watermark = s.watermark := by
  cases h with
  | counted _ halike _ | inserted _ _ halike _ => exact halike.watermark.symm
  | built _ _ _ | updated _ _ _ | cleared _ _ => cases ha

/-- A store that was cleared has no watermark. -/
theorem Becomes.watermark_of_done (h : Becomes s .done s') : s'.watermark = none := by
  cases h with
  | counted ha _ _ => cases ha
  | cleared halike _ => exact halike.watermark.symm

/-- Only an operation that reports a load, or a clearing, lets the watermark start over. -/
theorem startsOver_of_not_isMeasured {op : Operation}
    (ha : (s.perform op).2.isMeasured = false) : s.startsOver op = false := by
  unfold startsOver
  generalize (s.perform op).2 = a at ha
  cases a with
  | loaded r =>
    cases r with
    | ok summary => cases ha
    | error f => rfl
  | done => cases ha
  | _ => rfl

/-- The watermark after a load that succeeds. -/
theorem Loads.watermark_eq (h : Loads s mode rs summary s') :
    s'.watermark = match mode with
      | .full => summary.watermark
      | .incremental => raise s.watermark summary.watermark := by
  cases h with
  | full _ halike | incremental _ halike => exact halike.watermark.symm

/-- An operation leaves the watermark at the latest one told if it has been that before. -/
theorem watermark_perform (op : Operation) {past : List (Option Int)}
    (h : s.watermark = greatest past) :
    (s.perform op).1.watermark =
      greatest ((if s.startsOver op then [] else past) ++ (s.perform op).2.told) := by
  have hbecomes := s.becomes_perform op
  cases ha : (s.perform op).2.isMeasured with
  | false =>
    rw [hbecomes.watermark_eq ha, startsOver_of_not_isMeasured ha, Answer.told_of_not_isMeasured ha,
      List.append_nil]
    exact h
  | true =>
    rcases Answer.eq_of_isMeasured ha with ⟨summary, hanswer⟩ | hanswer
    · obtain ⟨mode, rs, hhandover, hloads⟩ := loads_perform hanswer
      rw [hloads.watermark_eq]
      unfold startsOver
      rw [hanswer, hhandover]
      cases mode with
      | full => cases hw : summary.watermark <;> simp [Answer.told, greatest, hw]
      | incremental =>
        rw [h, raise_greatest]
        rfl
    · rw [hanswer] at hbecomes
      unfold startsOver
      rw [hbecomes.watermark_of_done, hanswer]
      rfl

/-- After any operations the watermark is the latest one that was told since the store started
over. -/
theorem watermark_run {past : List (Option Int)} (h : s.watermark = greatest past)
    (ops : List Operation) :
    (Session.run perform s ops).1.watermark = greatest (s.window past ops) := by
  induction ops generalizing s past with
  | nil => exact h
  | cons op ops ih => exact ih (watermark_perform op h)

/-- The greatest of some watermarks is at least each of them. -/
theorem le_greatest {ws : List (Option Int)} {w : Int} (h : some w ∈ ws) :
    ∃ w', greatest ws = some w' ∧ w ≤ w' := by
  have hmem : w ∈ ws.filterMap id := List.mem_filterMap.2 ⟨some w, h, rfl⟩
  unfold greatest
  cases hmax : (ws.filterMap id).max? with
  | none =>
    rw [List.max?_eq_none_iff.1 hmax] at hmem
    cases hmem
  | some w' => exact ⟨w', rfl, (List.max?_eq_some_iff.1 hmax).2 w hmem⟩

/-- An operation by which the store does not start over does not lower the watermark. -/
theorem le_watermark_perform {op : Operation} (hop : s.startsOver op = false) {w : Int}
    (hw : s.watermark = some w) : ∃ w', (s.perform op).1.watermark = some w' ∧ w ≤ w' := by
  have hpast : s.watermark = greatest [s.watermark] := by
    rw [hw]
    rfl
  rw [watermark_perform op hpast, hop, if_neg Bool.false_ne_true, hw]
  exact le_greatest (List.mem_append_left _ List.mem_cons_self)

/-! ## All together -/

/-- After any operations on a new store, each load that succeeds is accounted for by its
summary, and under the policy that rejects what overlaps, each entry by its answer.  The
watermark is the greatest one that the summaries have told since the store started over, by a
full load that succeeded or a clearing.  Right after a clearing there is none, and nothing but
starting over lowers it. -/
theorem accounts_of_run (o : Options) (front : List Operation) (op : Operation) :
    let s := (Session.run perform (new o) front).1
    (∀ summary, (s.perform op).2 = .loaded (.ok summary) →
      ∃ mode rs, s.handover? op = some (mode, rs) ∧
        Account o s mode rs summary (s.perform op).1) ∧
    (∀ outcome, o.policy = .reject → (s.perform op).2 = .inserted (.ok outcome) →
      (s.perform op).1.tables.stats.entries =
        s.tables.stats.entries + if outcome = .added then 1 else 0) ∧
    s.watermark = greatest ((new o).window [] front) ∧
    (s.perform .clear).1.watermark = none ∧
    (s.startsOver op = false → ∀ w, s.watermark = some w →
      ∃ w', (s.perform op).1.watermark = some w' ∧ w ≤ w') := by
  intro s
  have hchecked : s.IsChecked o := isChecked_run (isChecked_new o) front
  refine ⟨fun summary hanswer => ?_, fun outcome hpolicy hanswer => ?_, watermark_run rfl front,
    rfl, fun hop w => le_watermark_perform hop⟩
  · obtain ⟨mode, rs, hhandover, hloads⟩ := loads_perform hanswer
    exact ⟨mode, rs, hhandover, hloads.account hchecked⟩
  · have hbecomes := s.becomes_perform op
    rw [hanswer] at hbecomes
    exact hbecomes.entries_of_reject hchecked hpolicy

/-- A load of an entry and a rule, then a delta in which the later entry overlaps the one that
was loaded, and then a single entry.  The delta is accounted for and raises the watermark by an
entry that was rejected. -/
theorem accounts_over_rejection :
    let o : Options := ⟨.exclusive, .reject, .incremental, 0⟩
    let old : List Record :=
      [.validity ⟨1, "tariff", "eu", 0, 10, ["A"], 5⟩, .rule "discount" [] ["5"]]
    let news : List Record :=
      [.validity ⟨2, "tariff", "eu", 10, 20, ["B"], 7⟩,
        .validity ⟨3, "tariff", "eu", 4, 6, ["C"], 9⟩, .mapping "GOLD" "WEEK"]
    let delta : Operation := .reloadIncremental fun _ => .ok news
    let entry : Operation := .insert ⟨"tariff", "us"⟩ 4 ⟨0, 10⟩ ["D"]
    let loaded := (Session.run perform (new o) [.loadRecords old]).1
    let updated := (Session.run perform (new o) [.loadRecords old, delta]).1
    let summary : Summary := ⟨3, 1, 0, 1, 0, 1, some 9⟩
    (loaded.perform delta).2 = .loaded (.ok summary) ∧
      Account o loaded .incremental news summary (loaded.perform delta).1 ∧
      loaded.startsOver delta = false ∧ loaded.watermark = some 5 ∧
      (∃ w, (loaded.perform delta).1.watermark = some w ∧ 5 ≤ w) ∧
      updated.watermark = some 9 ∧ (updated.perform entry).2 = .inserted (.ok .added) ∧
      (updated.perform entry).1.tables.stats.entries = updated.tables.stats.entries + 1 := by
  intro o old news delta entry loaded updated summary
  have hreload : (loaded.reloadIncremental fun _ => .ok news).2 = .ok summary := by decide +kernel
  have hinsert : (updated.insert ⟨"tariff", "us"⟩ 4 ⟨0, 10⟩ ["D"]).2 = .ok .added := by
    decide +kernel
  have hdelta : (loaded.perform delta).2 = .loaded (.ok summary) :=
    (snd_perform_reloadIncremental loaded _).trans (congrArg Answer.loaded hreload)
  have hentry : (updated.perform entry).2 = .inserted (.ok .added) :=
    (snd_perform_insert updated _ _ _ _).trans (congrArg Answer.inserted hinsert)
  have hgoesOn : loaded.startsOver delta = false := by decide +kernel
  have hwatermark : loaded.watermark = some 5 := by decide +kernel
  have hloaded : (Session.run perform (new o) [.loadRecords old]).1 = loaded := rfl
  have hupdated : (Session.run perform (new o) [.loadRecords old, delta]).1 = updated := rfl
  obtain ⟨haccounts, -, -, -, hraised⟩ := accounts_of_run o [.loadRecords old] delta
  obtain ⟨-, hentries, hgreatest, -, -⟩ := accounts_of_run o [.loadRecords old, delta] entry
  rw [hloaded] at haccounts hraised
  rw [hupdated] at hentries hgreatest
  obtain ⟨mode, rs, hhandover, haccount⟩ := haccounts summary hdelta
  cases hhandover
  have hlatest : updated.watermark = some 9 := hgreatest.trans (by decide +kernel)
  refine ⟨hdelta, haccount, hgoesOn, hwatermark, hraised hgoesOn 5 hwatermark, hlatest, hentry, ?_⟩
  exact (hentries .added rfl hentry).trans (congrArg _ (if_pos rfl))

end Store
end Tariff
