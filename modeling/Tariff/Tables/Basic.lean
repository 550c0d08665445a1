import Tariff.Catalogue
import Tariff.Options
import Tariff.Rule.Book
import Tariff.Week.Models

/-!
# Tables

What one load produces: the values by key and time, the weekly models with their plans,
and the rules.
-/

namespace Tariff

/-- The tables that queries are answered from. -/
structure Tables where
  catalogue : Catalogue (List String)
  weeks : WeekModels
  rules : RuleBook

/-- The sizes of tables. -/
structure Tables.Stats where
  keys : Nat
  entries : Nat
  models : Nat
  plans : Nat
  ruleGroups : Nat
deriving DecidableEq, Repr

namespace Tables

/-- Tables with nothing in them. -/
def empty (o : Options) : Tables :=
  ⟨Catalogue.empty o.mode o.policy, WeekModels.empty, RuleBook.empty⟩

/-- The sizes of the tables. -/
def stats (t : Tables) : Stats :=
  { keys := t.catalogue.keyCount
    entries := t.catalogue.entryCount
    models := t.weeks.models.size
    plans := t.weeks.plans.size
    ruleGroups := t.rules.groupCount }

end Tables
end Tariff
