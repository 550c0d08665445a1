import Tariff.Proofs.Loading.Cells

/-!
# The order of records

Records may be reordered as long as those about one key, one plan or one group of rules keep
their order; the intervals of a model may come in any order.  Such an order leads to the same
load: with a fault in both orders or in none, with the same summary, and with tables that
agree in every cell.

Main results:

- Theorem {lit}`Reordered.rearranged`: records are reordered by letting neighbours trade places
  that are free to.
- Theorem {lit}`Loading.Same.run`: loads of rearranged records go through alike.
- Theorem {lit}`Loading.exists_build_of_reordered`: what is built from reordered records is the
  same.
-/

namespace Tariff

/-- The same records, with those about one key, one plan or one group of rules in the same
order.  The intervals of weekly models may stand in any order. -/
structure Reordered (rs rs' : List Record) : Prop where
  perm : rs.Perm rs'
  entries : ∀ k, Rearranged.ofCell Record.cell (.key k) rs =
    Rearranged.ofCell Record.cell (.key k) rs'
  mappings : ∀ plan, Rearranged.ofCell Record.cell (.plan plan) rs =
    Rearranged.ofCell Record.cell (.plan plan) rs'
  rules : ∀ group, Rearranged.ofCell Record.cell (.group group) rs =
    Rearranged.ofCell Record.cell (.group group) rs'

namespace Reordered

variable {rs rs' : List Record}

/-- A list of records that was reordered can be put back in order. -/
theorem symm (h : Reordered rs rs') : Reordered rs' rs :=
  ⟨h.perm.symm, fun k => (h.entries k).symm, fun plan => (h.mappings plan).symm,
    fun group => (h.rules group).symm⟩

/-- Records are reordered by letting neighbours trade places that are free to. -/
theorem rearranged (h : Reordered rs rs') :
    Rearranged (Rearranged.Free Record.cell Cell.IsLoose) rs rs' := by
  apply Rearranged.of_perm h.perm
  intro c hc
  cases c with
  | key k => exact h.entries k
  | model name => exact absurd trivial hc
  | plan plan => exact h.mappings plan
  | group group => exact h.rules group

end Reordered

/-! ## Summaries -/

namespace Summary

/-- Two outcomes are counted in either order. -/
theorem count_count (s : Summary) (o o' : Catalogue.Outcome) :
    (s.count o).count o' = (s.count o').count o := by
  cases o <;> cases o' <;> rfl

/-- An outcome is counted before or after a time is observed. -/
theorem count_observe (s : Summary) (o : Catalogue.Outcome) (t : Int) :
    (s.observe t).count o = (s.count o).observe t := by
  cases o <;> rfl

/-- Two times are observed in either order. -/
theorem observe_observe (s : Summary) (t t' : Int) :
    (s.observe t).observe t' = (s.observe t').observe t := by
  unfold observe later
  cases s.watermark with
  | none => simp only [Int.max_comm]
  | some w => simp only [Int.max_assoc, Int.max_comm t t']

/-- In which order records are noted does not matter. -/
theorem note_note (s : Summary) (r r' : Record) (o o' : Catalogue.Outcome) :
    (s.note r o).note r' o' = (s.note r' o').note r o := by
  unfold note
  cases r.validity? with
  | none =>
    cases r'.validity? with
    | none => exact count_count s o o'
    | some v' => simp only [count_observe, count_count s o o']
  | some v =>
    cases r'.validity? with
    | none => simp only [count_observe, count_count s o o']
    | some v' =>
      simp only [count_observe, count_count s o o']
      exact observe_observe _ _ _

end Summary

/-! ## Loads -/

namespace Tables

/-- Tables from records that agree in every cell. -/
structure Same (options : Options) (t t' : Tables) : Prop where
  sound : t.Sound options
  sound' : t'.Sound options
  agree : ∀ c, t.AgreeAt t' c

/-- Sound tables are the same as themselves. -/
theorem Sound.same {options : Options} {t : Tables} (h : t.Sound options) : t.Same options t :=
  ⟨h, h, AgreeAt.refl t⟩

namespace Same

variable {options : Options} {t t' u : Tables}

/-- Tables that are the same as others are the same as whatever these are the same as. -/
theorem trans (h : t.Same options t') (h' : t'.Same options u) : t.Same options u :=
  ⟨h.sound, h'.sound', fun c => (h.agree c).trans (h'.agree c)⟩

/-- Tables that are the same take a record alike and stay the same. -/
theorem take (h : t.Same options t') {r : Record} {o : Catalogue.Outcome}
    (htake : t.take r = .ok (o, u)) : ∃ u', t'.take r = .ok (o, u') ∧ u.Same options u' := by
  obtain ⟨u', htake', hagree⟩ := h.sound.take_congr h.sound' (h.agree r.cell) htake
  refine ⟨u', htake', h.sound.take htake, h.sound'.take htake', fun c => ?_⟩
  by_cases hc : c = r.cell
  · subst hc
    exact hagree
  · exact ((agreeAt_take htake hc).trans (h.agree c)).trans (agreeAt_take htake' hc).symm

end Same

end Tables

namespace Loading

variable {l l' m n : Loading} {options : Options} {r : Record}

/-- A step of a load takes the record into the tables and notes its outcome. -/
theorem step_eq_ok_iff :
    step l r = .ok m ↔
      ∃ o t, l.tables.take r = .ok (o, t) ∧ m = ⟨t, l.summary.note r o⟩ := by
  rw [step_eq_map_take]
  cases l.tables.take r with
  | error f => simp [Except.map]
  | ok next =>
    obtain ⟨o, t⟩ := next
    simp [Except.map, eq_comm]

/-- Loads that have come to the same: tables that agree, and one summary. -/
structure Same (options : Options) (l l' : Loading) : Prop where
  tables : l.tables.Same options l'.tables
  summary : l.summary = l'.summary

namespace Same

theorem trans (h : Same options l l') (h' : Same options l' m) : Same options l m :=
  ⟨h.tables.trans h'.tables, h.summary.trans h'.summary⟩

/-- Loads that have come to the same go on alike. -/
theorem step (h : Same options l l') (hstep : Loading.step l r = .ok m) :
    ∃ m', Loading.step l' r = .ok m' ∧ Same options m m' := by
  obtain ⟨o, t, htake, rfl⟩ := step_eq_ok_iff.1 hstep
  obtain ⟨t', htake', htables⟩ := h.tables.take htake
  refine ⟨_, step_eq_ok_iff.2 ⟨o, t', htake', rfl⟩, htables, ?_⟩
  exact congrArg (fun s => Summary.note s r o) h.summary

/-- Records that are free to trade places lead to the same in either order. -/
theorem swap {a b : Record} (h : l.tables.Sound options)
    (hfree : Rearranged.Free Record.cell Cell.IsLoose a b) (ha : Loading.step l a = .ok m)
    (hb : Loading.step m b = .ok n) :
    ∃ m' n', Loading.step l b = .ok m' ∧ Loading.step m' a = .ok n' ∧ Same options n n' := by
  obtain ⟨x, ta, htake, rfl⟩ := step_eq_ok_iff.1 ha
  obtain ⟨y, tab, htake', rfl⟩ := step_eq_ok_iff.1 hb
  obtain ⟨tb, tba, hb', ha', hagree⟩ := h.take_take hfree htake htake'
  have hm' := step_eq_ok_iff.2 ⟨y, tb, hb', rfl⟩
  have hn' : Loading.step ⟨tb, l.summary.note b y⟩ a =
      .ok ⟨tba, (l.summary.note b y).note a x⟩ := step_eq_ok_iff.2 ⟨x, tba, ha', rfl⟩
  refine ⟨_, _, hm', hn', ⟨(h.take htake).take htake', (h.take hb').take ha', hagree⟩, ?_⟩
  exact Summary.note_note l.summary a b x y

end Same

/-- A load goes through if its first step does and the rest goes through from there. -/
theorem run_cons_eq_none_iff {rs : List Record} :
    run step l (r :: rs) = (n, none) ↔ ∃ m, step l r = .ok m ∧ run step m rs = (n, none) := by
  cases hstep : step l r with
  | error f =>
    have hrun : run step l (r :: rs) = (l, some f) := by
      unfold run
      rw [hstep]
    simp [hrun]
  | ok m =>
    have hrun : run step l (r :: rs) = run step m rs := by
      conv_lhs => unfold run
      rw [hstep]
    simp [hrun]

namespace Same

/-- Loads that have come to the same go through alike. -/
theorem run_self (h : Same options l l') {rs : List Record}
    (hrun : Loading.run Loading.step l rs = (m, none)) :
    ∃ m', Loading.run Loading.step l' rs = (m', none) ∧ Same options m m' := by
  induction rs generalizing l l' with
  | nil =>
    cases hrun
    exact ⟨l', rfl, h⟩
  | cons r rs ih =>
    obtain ⟨k, hstep, hrest⟩ := run_cons_eq_none_iff.1 hrun
    obtain ⟨k', hstep', hk⟩ := h.step hstep
    obtain ⟨m', hrest', hm⟩ := ih hk hrest
    exact ⟨m', run_cons_eq_none_iff.2 ⟨k', hstep', hrest'⟩, hm⟩

/-- Loads of rearranged records go through alike.  Where two records trade places, they do so in
the first load, and the second one follows it. -/
theorem run (h : Same options l l') {rs rs' : List Record}
    (hrs : Rearranged (Rearranged.Free Record.cell Cell.IsLoose) rs rs')
    (hrun : Loading.run Loading.step l rs = (m, none)) :
    ∃ m', Loading.run Loading.step l' rs' = (m', none) ∧ Same options m m' := by
  induction hrs generalizing l l' m with
  | refl rs => exact h.run_self hrun
  | cons r _ ih =>
    obtain ⟨k, hstep, hrest⟩ := run_cons_eq_none_iff.1 hrun
    obtain ⟨k', hstep', hk⟩ := h.step hstep
    obtain ⟨m', hrest', hm⟩ := ih hk hrest
    exact ⟨m', run_cons_eq_none_iff.2 ⟨k', hstep', hrest'⟩, hm⟩
  | @swap a b rs hfree =>
    obtain ⟨j, ha, hrest⟩ := run_cons_eq_none_iff.1 hrun
    obtain ⟨k, hb, hrest⟩ := run_cons_eq_none_iff.1 hrest
    obtain ⟨j', k', hb', ha', hk⟩ := swap h.tables.sound hfree ha hb
    obtain ⟨j'', hb'', hj⟩ := h.step hb'
    obtain ⟨k'', ha'', hk'⟩ := hj.step ha'
    obtain ⟨m', hrest', hm⟩ := (hk.trans hk').run_self hrest
    exact ⟨m', run_cons_eq_none_iff.2
      ⟨j'', hb'', run_cons_eq_none_iff.2 ⟨k'', ha'', hrest'⟩⟩, hm⟩
  | trans _ _ ih ih' =>
    have hself : Same options l l := ⟨h.tables.sound.same, rfl⟩
    obtain ⟨k, hrun', hk⟩ := ih hself hrun
    obtain ⟨m', hrun'', hm⟩ := ih' h hrun'
    exact ⟨m', hrun'', hk.trans hm⟩

end Same

/-! ## Builds -/

/-- If each plan has its model in some tables, so it has in tables that are the same. -/
theorem unmapped?_eq_none_of_same {t t' : Tables} (h : t.Same options t')
    (hmapped : unmapped? t = none) : unmapped? t' = none := by
  unfold unmapped? at hmapped ⊢
  rw [Option.map_eq_none_iff, WeekModels.unmapped?_eq_none_iff] at hmapped ⊢
  rintro ⟨plan, model⟩ hplan
  have hget : t.weeks.plans.get? plan = some model :=
    Eq.trans (h.agree (.plan plan)) (h.sound'.plansDiffer.get?_eq_some_iff.2 hplan)
  have hthere := hmapped (plan, model) (h.sound.plansDiffer.get?_eq_some_iff.1 hget)
  have hagree : (t.weeks.model? model).isSome = (t'.weeks.model? model).isSome := by
    rw [← Option.isSome_map, h.agree (.model model), Option.isSome_map]
  exact hagree.symm.trans hthere

/-- A build goes through if its load does and each plan has its model. -/
theorem build_eq_iff {rs : List Record} :
    build options rs = (m, none) ↔
      run step ⟨Tables.empty options, Summary.start rs.length⟩ rs = (m, none) ∧
        unmapped? m.tables = none := by
  unfold build
  rcases run step ⟨Tables.empty options, Summary.start rs.length⟩ rs with ⟨l, _ | f⟩
  · simp only [Option.none_or, Prod.mk.injEq, and_true]
    constructor
    · rintro ⟨rfl, hmapped⟩
      exact ⟨rfl, hmapped⟩
    · rintro ⟨rfl, hmapped⟩
      exact ⟨rfl, hmapped⟩
  · simp

/-- What is built from reordered records is the same. -/
theorem exists_build_of_reordered {rs rs' : List Record} (h : Reordered rs rs')
    (hbuild : build options rs = (m, none)) :
    ∃ m', build options rs' = (m', none) ∧ Same options m m' := by
  obtain ⟨hrun, hmapped⟩ := build_eq_iff.1 hbuild
  have hstart : Same options ⟨Tables.empty options, Summary.start rs.length⟩
      ⟨Tables.empty options, Summary.start rs'.length⟩ :=
    ⟨(Tables.sound_empty options).same, congrArg Summary.start h.perm.length_eq⟩
  obtain ⟨m', hrun', hm⟩ := hstart.run h.rearranged hrun
  exact ⟨m', build_eq_iff.2 ⟨hrun', unmapped?_eq_none_of_same hm.tables hmapped⟩, hm⟩

end Loading
end Tariff
