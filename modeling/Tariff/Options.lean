import Tariff.Catalogue

/-!
# Options

What a store is set up with, and the names by which the choices go.

Main results:

- Theorem {lit}`ReloadMode.ofName?_name`: a choice is found by its name.
-/

namespace Tariff

namespace Catalogue

/-- The name of a mode. -/
def Mode.name : Mode → String
  | exclusive => "exclusive"
  | multi => "multi"

/-- The mode of a name. -/
def Mode.ofName? (name : String) : Option Mode :=
  [exclusive, multi].find? fun m => m.name == name

/-- The name of a policy. -/
def Policy.name : Policy → String
  | reject => "reject"
  | invalidateKey => "invalidate_key"

/-- The policy of a name. -/
def Policy.ofName? (name : String) : Option Policy :=
  [reject, invalidateKey].find? fun p => p.name == name

end Catalogue

/-- How changes of the source are taken over. -/
inductive ReloadMode where
  /-- All tables are built anew. -/
  | full
  /-- Validity entries modified since the last time are added. -/
  | incremental
deriving DecidableEq, Repr

namespace ReloadMode

/-- The name of a way to reload. -/
def name : ReloadMode → String
  | full => "full"
  | incremental => "incremental"

/-- The way to reload of a name. -/
def ofName? (s : String) : Option ReloadMode :=
  [full, incremental].find? fun m => m.name == s

/-- A choice is found by its name. -/
theorem ofName?_name (m : ReloadMode) : ofName? m.name = some m := by
  cases m <;> decide

end ReloadMode

/-- What a store is set up with. -/
structure Options where
  mode : Catalogue.Mode
  policy : Catalogue.Policy
  reload : ReloadMode
  /-- The offset of local time from universal time, in seconds. -/
  offset : Int
deriving DecidableEq, Repr

end Tariff
