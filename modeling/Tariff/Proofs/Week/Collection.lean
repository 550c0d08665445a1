import Tariff.Proofs.Session
import Tariff.Proofs.Tables.WellFormed

/-!
# Collections of models

Models come into being with the first interval that is handed to them, and an interval may
be refused for its times or by its model.  A model that is there already stays as it is
then.  One that is not there yet begins to exist as soon as both times are read, so that an
interval which is refused by a new model leaves that model behind, without intervals.

Main results:

- Theorem {lit}`WeekModels.isKept_run`: whatever is written to a collection, its models are
  built from ranges that lie in their days.
- Theorem {lit}`WeekModels.refused_add_changes_nothing_iff`: when a collection that refuses an
  interval stays as it was, and what it has become otherwise.
-/

namespace Tariff

/-- A key that is set to the value it has changes nothing. -/
theorem Directory.set_of_get?_eq_some {κ α : Type} [DecidableEq κ] {d : Directory κ α} {k : κ}
    {v : α} (h : d.get? k = some v) : d.set k v = d := by
  obtain ⟨es⟩ := d
  unfold Directory.set
  congr 1
  induction es with
  | nil => cases h
  | cons e es ih =>
    unfold setEntries
    by_cases he : e.1 = k
    · have hvalue : e.2 = v := by simpa [get?, he] using h
      rw [if_pos he, ← he, ← hvalue]
    · have hrest : (⟨es⟩ : Directory κ α).get? k = some v := by simpa [get?, he] using h
      rw [if_neg he, ih hrest]

/-- A model that refuses an interval has no fault to find with how its times are written. -/
theorem WeekModel.ne_unreadableTime_of_add {m : WeekModel} {day : Nat} {start stop : Int}
    {result : String} {f : Fault} (h : m.add day start stop result = .error f) (text : String) :
    f ≠ .unreadableTime text := by
  rintro rfl
  unfold add at h
  by_cases hday : day < 7
  · rw [dif_pos hday] at h
    have hfault : addToDay m.days[day] day ⟨start, TimeOfDay.endMinute stop⟩ result =
        .error (.unreadableTime text) := by
      cases hadd : addToDay m.days[day] day ⟨start, TimeOfDay.endMinute stop⟩ result with
      | error f => simpa [hadd, Except.map] using h
      | ok l => simp [hadd, Except.map] at h
    unfold addToDay at hfault
    split at hfault
    · cases hfault
    · split at hfault
      · cases hfault
      · split at hfault <;> cases hfault
  · rw [dif_neg hday] at h
    cases h

namespace WeekModels

/-- The model that the intervals of a name come to. -/
def target (s : WeekModels) (model : String) : WeekModel :=
  (s.model? model).getD (WeekModel.empty model)

/-- What may become of an interval. -/
inductive Added (s : WeekModels) (model : String) (day : Nat) (start stop result : String) :
    WeekModels × Except WeekModel.Fault Unit → Prop
  | unreadable (text : String) : Added s model day start stop result
      (s, .error (.unreadableTime text))
  | refused {first last : Int} {f : WeekModel.Fault} (hstart : readTime start = .ok first)
      (hstop : readTime stop = .ok last)
      (hadd : (s.target model).add day first last result = .error f) :
      Added s model day start stop result
        ({ s with models := s.models.set model (s.target model) }, .error f)
  | taken {first last : Int} {m : WeekModel} (hstart : readTime start = .ok first)
      (hstop : readTime stop = .ok last)
      (hadd : (s.target model).add day first last result = .ok m) :
      Added s model day start stop result ({ s with models := s.models.set model m }, .ok ())

/-- A time that is not read is reported as it was written. -/
theorem readTime_eq_error {text : String} {f : WeekModel.Fault} (h : readTime text = .error f) :
    f = .unreadableTime text := by
  unfold readTime at h
  cases hparse : TimeOfDay.parse? text with
  | none =>
    rw [hparse] at h
    exact (Except.error.inj h).symm
  | some minute =>
    rw [hparse] at h
    cases h

/-- What an addition does is one of the outcomes of an addition. -/
theorem added_add (s : WeekModels) (model : String) (day : Nat) (start stop result : String) :
    Added s model day start stop result (s.add model day start stop result) := by
  unfold add
  cases hstart : readTime start with
  | error f =>
    rw [readTime_eq_error hstart]
    exact .unreadable start
  | ok first =>
    cases hstop : readTime stop with
    | error f =>
      rw [readTime_eq_error hstop]
      exact .unreadable stop
    | ok last =>
      cases hadd : (s.target model).add day first last result with
      | error f =>
        have hstep := hadd
        unfold target at hstep
        simp only [hstep]
        exact .refused hstart hstop hadd
      | ok m =>
        have hstep := hadd
        unfold target at hstep
        simp only [hstep]
        exact .taken hstart hstop hadd

/-! ## Writing to a collection -/

/-- What is written to a collection. -/
inductive Write where
  | interval (model : String) (day : Nat) (start stop result : String)
  | mapping (plan model : String)
deriving DecidableEq, Repr

/-- Writes to a collection, with what became of it. -/
def write (s : WeekModels) : Write → WeekModels × Except WeekModel.Fault Unit
  | .interval model day start stop result => s.add model day start stop result
  | .mapping plan model => (s.mapPlan plan model, .ok ())

/-- Each model was built from ranges that lie in their days. -/
def IsKept (s : WeekModels) : Prop :=
  ∀ name m, s.model? name = some m → m.Built ∧ ∀ day, ∀ r ∈ m.slots day, WeekModel.InDay r.1

/-- No models at all are kept. -/
theorem isKept_empty : WeekModels.empty.IsKept :=
  fun _ _ h => nomatch h

/-- The model that intervals come to is as those that are there. -/
theorem IsKept.target {s : WeekModels} (h : s.IsKept) (model : String) :
    (s.target model).Built ∧
      ∀ day, ∀ r ∈ (s.target model).slots day, WeekModel.InDay r.1 := by
  unfold WeekModels.target
  cases hm : s.model? model with
  | some m => exact h model m hm
  | none =>
    refine ⟨.empty model, fun day r hr => ?_⟩
    rw [Option.getD_none, WeekModel.slots_empty] at hr
    exact (Multiset.notMem_zero r hr).elim

/-- A model may be put in the place of the one of its name. -/
theorem IsKept.set {s : WeekModels} (h : s.IsKept) (model : String) {m : WeekModel}
    (hm : m.Built ∧ ∀ day, ∀ r ∈ m.slots day, WeekModel.InDay r.1) :
    { s with models := s.models.set model m }.IsKept := by
  intro name m' hm'
  unfold model? at hm'
  simp only [Directory.get?_set] at hm'
  by_cases hname : name = model
  · rw [if_pos hname, Option.some_inj] at hm'
    rw [← hm']
    exact hm
  · rw [if_neg hname] at hm'
    exact h name m' hm'

/-- A write leaves models that are kept. -/
theorem IsKept.write {s : WeekModels} (h : s.IsKept) (w : Write) : (s.write w).1.IsKept := by
  cases w with
  | interval model day start stop result =>
    have hadded := s.added_add model day start stop result
    show (s.add model day start stop result).1.IsKept
    generalize s.add model day start stop result = outcome at hadded ⊢
    have htarget := h.target model
    cases hadded with
    | unreadable text => exact h
    | refused hstart hstop hadd => exact h.set model htarget
    | taken hstart hstop hadd =>
      refine h.set model ⟨.add day _ _ result htarget.1 hadd, ?_⟩
      exact htarget.1.inDay_add hadd htarget.2 (readTime_bounds hstart).1
        (readTime_bounds hstop).2
  | mapping plan model => exact h

/-- Whatever is written to a collection, its models are built from ranges that lie in their
days. -/
theorem isKept_run (writes : List Write) : (Session.run write WeekModels.empty writes).1.IsKept :=
  Session.invariant (P := IsKept) (fun _ w h => h.write w) isKept_empty writes

/-! ## Refused intervals -/

/-- Two collections that cannot be told apart.  They have the same models, so that look-ups,
gaps and cuts are the same, too. -/
structure Agrees (s s' : WeekModels) : Prop where
  modelCount : s'.models.size = s.models.size
  planCount : s'.plans.size = s.plans.size
  model? : ∀ name, s'.model? name = s.model? name
  modelForPlan? : ∀ plan, s'.modelForPlan? plan = s.modelForPlan? plan
  unmapped? : s'.unmapped? = s.unmapped?

/-- Models agree with themselves. -/
theorem Agrees.refl (s : WeekModels) : s.Agrees s :=
  ⟨rfl, rfl, fun _ => rfl, fun _ => rfl, rfl⟩

/-- The model that an addition goes to is the one of that name. -/
theorem target_of_contains {s : WeekModels} {model : String}
    (h : s.models.contains model = true) : s.models.get? model = some (s.target model) := by
  obtain ⟨m, hm⟩ := Option.isSome_iff_exists.1 h
  have htarget : s.target model = m := by
    unfold target model?
    rw [hm, Option.getD_some]
  rw [hm, htarget]

/-- An addition to a new name goes to an empty model. -/
theorem target_of_not_contains {s : WeekModels} {model : String}
    (h : ¬ s.models.contains model = true) : s.target model = WeekModel.empty model := by
  have hnone : s.models.get? model = none := Option.not_isSome_iff_eq_none.1 h
  unfold target model?
  rw [hnone, Option.getD_none]

/-- What a collection that refuses an interval has become. -/
theorem fst_add_of_error {s : WeekModels} {model : String} {day : Nat}
    {start stop result : String} {f : WeekModel.Fault}
    (h : (s.add model day start stop result).2 = .error f) :
    (s.add model day start stop result).1 = s ∧ (∃ text, f = .unreadableTime text) ∨
      (s.add model day start stop result).1 =
          { s with models := s.models.set model (s.target model) } ∧
        ∀ text, f ≠ .unreadableTime text := by
  have hadded := s.added_add model day start stop result
  generalize s.add model day start stop result = outcome at h hadded ⊢
  cases hadded with
  | unreadable text => exact .inl ⟨rfl, text, (Except.error.inj h).symm⟩
  | refused hstart hstop hadd =>
    rw [← Except.error.inj h]
    exact .inr ⟨rfl, WeekModel.ne_unreadableTime_of_add hadd⟩
  | taken hstart hstop hadd => cases h

/-- A collection that refuses an interval stays as it was if one of the times cannot be read or
the model is there already.  Otherwise it has one more model, which is empty, and nothing else
has changed. -/
theorem refused_add_changes_nothing_iff {s : WeekModels} {model : String} {day : Nat}
    {start stop result : String} {f : WeekModel.Fault}
    (h : (s.add model day start stop result).2 = .error f) :
    let after := (s.add model day start stop result).1
    let harmless := (∃ text, f = .unreadableTime text) ∨ s.models.contains model = true
    (s.Agrees after ↔ harmless) ∧ (harmless → after = s) ∧
      (¬ harmless → after = { s with models := s.models.set model (WeekModel.empty model) } ∧
        after.models.size = s.models.size + 1) := by
  intro after harmless
  have hsame : harmless → after = s := by
    rintro (⟨text, htext⟩ | hthere)
    · rcases fst_add_of_error h with ⟨hafter, _⟩ | ⟨_, hread⟩
      · exact hafter
      · exact absurd htext (hread text)
    · rcases fst_add_of_error h with ⟨hafter, _⟩ | ⟨hafter, _⟩
      · exact hafter
      · rw [Directory.set_of_get?_eq_some (target_of_contains hthere)] at hafter
        exact hafter
  have hnew : ¬ harmless → after =
        { s with models := s.models.set model (WeekModel.empty model) } ∧
      after.models.size = s.models.size + 1 := by
    intro hnot
    obtain ⟨hread, hmissing⟩ := not_or.1 hnot
    rcases fst_add_of_error h with ⟨_, hunread⟩ | ⟨hafter, _⟩
    · exact absurd hunread hread
    · rw [target_of_not_contains hmissing] at hafter
      have hsize := s.models.size_set model (WeekModel.empty model)
      rw [if_neg hmissing] at hsize
      exact ⟨hafter, (congrArg (fun r : WeekModels => r.models.size) hafter).trans hsize⟩
  refine ⟨⟨fun hagrees => ?_, fun hharmless => ?_⟩, hsame, hnew⟩
  · by_contra hnot
    have hcount := hagrees.modelCount
    rw [(hnew hnot).2] at hcount
    omega
  · rw [hsame hharmless]
    exact Agrees.refl s

/-- A model that is there refuses an interval that overlaps another one, and nothing has
changed. -/
theorem refused_add_to_known_model :
    let s := (Session.run write WeekModels.empty
      [.mapping "GOLD" "WEEK", .interval "WEEK" 2 "0800" "0900" "A"]).1
    (s.add "WEEK" 2 "0830" "1000" "B").2 =
        .error (.overlap (.overlap ⟨510, 600⟩ ⟨480, 540⟩)) ∧
      (s.add "WEEK" 2 "0830" "1000" "B").1 = s := by
  intro s
  have hrefused : (s.add "WEEK" 2 "0830" "1000" "B").2 =
      .error (.overlap (.overlap ⟨510, 600⟩ ⟨480, 540⟩)) := by decide +kernel
  exact ⟨hrefused, (refused_add_changes_nothing_iff hrefused).2.1 (.inr (by decide +kernel))⟩

/-- An interval for a day that does not exist is refused.  It brings the model of the plan into
being all the same, and the plan passes the check from then on. -/
theorem refused_add_brings_model :
    let s := WeekModels.empty.mapPlan "GOLD" "WEEK"
    let outcome := s.add "WEEK" 7 "0000" "2359" "X"
    outcome.2 = .error (.noSuchDay 7) ∧ ¬ s.Agrees outcome.1 ∧
      (s.models.size, outcome.1.models.size) = (0, 1) ∧
      (s.unmapped?, outcome.1.unmapped?) = (some ("GOLD", "WEEK"), none) := by
  intro s outcome
  have hcounts : (s.models.size, outcome.1.models.size) = (0, 1) := by decide +kernel
  refine ⟨by decide +kernel, fun hagrees => ?_, hcounts, by decide +kernel⟩
  have hcount := hagrees.modelCount
  obtain ⟨hbefore, hafter⟩ := Prod.mk.inj hcounts
  omega

end WeekModels
end Tariff
