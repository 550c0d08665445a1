import Tariff.Directory
import Tariff.Week.Model

/-!
# Named models and plans

Weekly models go by name, and plans name the model that they are rated by.  A plan
may name a model that is not there yet.

Main results:

- Theorem {lit}`WeekModels.model?_mapPlan`: mapping a plan leaves every model alone.
- Theorem {lit}`WeekModels.unmapped?_eq_none_iff`: the check passes exactly when each
  plan names a model that is there.
-/

namespace Tariff

/-- The weekly models by name, and the model of each plan. -/
structure WeekModels where
  models : Directory String WeekModel
  plans : Directory String String

namespace WeekModels

/-- No models and no plans. -/
def empty : WeekModels := ⟨Directory.empty, Directory.empty⟩

/-- The model of a name. -/
def model? (s : WeekModels) (name : String) : Option WeekModel :=
  s.models.get? name

/-- The model that a plan is rated by. -/
def modelForPlan? (s : WeekModels) (plan : String) : Option WeekModel :=
  (s.plans.get? plan).bind s.model?

/-- Maps a plan to a model, in place of the one that it was mapped to. -/
def mapPlan (s : WeekModels) (plan model : String) : WeekModels :=
  { s with plans := s.plans.set plan model }

/-- Reads a time of day. -/
def readTime (text : String) : Except WeekModel.Fault Int :=
  match TimeOfDay.parse? text with
  | some minute => .ok minute
  | none => .error (.unreadableTime text)

/-- Adds an interval to a model, which begins to exist once both times are read. -/
def add (s : WeekModels) (model : String) (day : Nat) (start stop result : String) :
    WeekModels × Except WeekModel.Fault Unit :=
  match readTime start, readTime stop with
  | .error f, _ => (s, .error f)
  | .ok _, .error f => (s, .error f)
  | .ok first, .ok last =>
    let m := (s.model? model).getD (WeekModel.empty model)
    match m.add day first last result with
    | .ok m' => ({ s with models := s.models.set model m' }, .ok ())
    | .error f => ({ s with models := s.models.set model m }, .error f)

/-- A plan whose model is not there, with the name of that model. -/
def unmapped? (s : WeekModels) : Option (String × String) :=
  s.plans.entries.find? fun e => !s.models.contains e.2

/-! ## Laws -/

/-- Mapping a plan leaves every model alone. -/
@[simp] theorem model?_mapPlan (s : WeekModels) (plan model name : String) :
    (s.mapPlan plan model).model? name = s.model? name := rfl

/-- The check passes when each plan names a model that is there. -/
theorem unmapped?_eq_none_iff (s : WeekModels) :
    s.unmapped? = none ↔ ∀ e ∈ s.plans.entries, s.models.contains e.2 = true := by
  simp [unmapped?]

end WeekModels
end Tariff
