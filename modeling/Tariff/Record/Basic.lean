/-!
# Records

What the tables are loaded from: validity entries, intervals of weekly models, mappings
of plans, and rules.

Main results:

- Theorem {lit}`Record.modifiedAfter_iff`: only a validity entry counts as modified, and
  only by its time of modification.
-/

namespace Tariff

/-- A value of a key over a span, with the time of its last modification. -/
structure Validity where
  id : UInt64
  group : String
  resource : String
  start : Int64
  stop : Int64
  results : List String
  modified : Int64
deriving DecidableEq, Repr

/-- A record of the source. -/
inductive Record where
  | validity (v : Validity)
  /-- An interval of a weekly model.  The times are texts. -/
  | interval (model : String) (day : UInt8) (start stop result : String)
  | mapping (plan model : String)
  | rule (group : String) (conditions results : List String)
deriving DecidableEq, Repr

namespace Record

/-- The validity entry of a record that is one. -/
def validity? : Record → Option Validity
  | validity v => some v
  | interval .. | mapping .. | rule .. => none

/-- The record is a validity entry that was modified after an instant. -/
def modifiedAfter (since : Int) (r : Record) : Bool :=
  match r.validity? with
  | some v => decide (since < v.modified.toInt)
  | none => false

/-- The records that count when only changes after an instant are wanted. -/
def since : Option Int → List Record → List Record
  | none, rs => rs
  | some t, rs => rs.filter (modifiedAfter t)

/-- Only validity entries count as modified. -/
theorem modifiedAfter_iff (t : Int) (r : Record) :
    r.modifiedAfter t = true ↔ ∃ v, r = .validity v ∧ t < v.modified.toInt := by
  cases r <;> simp [modifiedAfter, validity?]

@[simp] theorem since_none (rs : List Record) : since none rs = rs := rfl

end Record
end Tariff
