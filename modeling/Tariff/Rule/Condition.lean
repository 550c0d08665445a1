import Tariff.Pattern
import Tariff.Text.Blank
import Tariff.Text.Decimal

/-!
# Conditions

A condition tests one field.  It is written as a comparison with a number, as a pattern
that the whole field must match, or as a pattern behind an exclamation mark that the
field must not match.

Main results:

- Theorem {lit}`Condition.holds_null`: no condition holds of a field that is missing.
- Theorem {lit}`Condition.holds_eq_none_iff`: a test fails only where a number is asked
  for and the field is none.
-/

namespace Tariff

/-- How a field is compared with a number. -/
inductive Comparison where
  | equal
  | greater
  | less
  | atLeast
  | atMost
deriving DecidableEq, Repr

/-- A test of one field. -/
inductive Condition where
  | fits (p : Pattern)
  | excludes (p : Pattern)
  | compares (c : Comparison) (bound : Float)

namespace Condition

/-- Why a text is no condition. -/
inductive Fault where
  | badPattern (pattern : String)
  /-- What follows a comparison sign is not a number.  The whole text is kept. -/
  | badNumber (text : String)
deriving DecidableEq, Repr

/-- The number that a text holds, blanks at its ends aside. -/
def number? (cs : List Char) : Option Float :=
  (Decimal.read? (Text.trim cs)).map Decimal.toFloat

/-- The comparison sign at the front, the longer ones first, and what follows it. -/
def splitComparison : List Char → Option (Comparison × List Char)
  | '>' :: '=' :: rest => some (.atLeast, rest)
  | '<' :: '=' :: rest => some (.atMost, rest)
  | '=' :: rest => some (.equal, rest)
  | '>' :: rest => some (.greater, rest)
  | '<' :: rest => some (.less, rest)
  | _ => none

/-- The pattern of a condition without a comparison sign, and whether it excludes. -/
def splitPattern (text : String) : Bool × String :=
  match text.toList with
  | '!' :: rest => (true, String.ofList rest)
  | _ => (false, text)

/-- Reads a condition. -/
def read (text : String) : Except Fault Condition :=
  match splitComparison text.toList with
  | some (c, rest) =>
    match number? rest with
    | some n => .ok (.compares c n)
    | none => .error (.badNumber text)
  | none =>
    let (excluded, pattern) := splitPattern text
    match Pattern.whole? pattern with
    | some p => .ok (if excluded then .excludes p else .fits p)
    | none => .error (.badPattern pattern)

end Condition

/-- The comparison of two numbers. -/
def Comparison.holds : Comparison → Float → Float → Bool
  | equal, a, b => a == b
  | greater, a, b => a > b
  | less, a, b => a < b
  | atLeast, a, b => a >= b
  | atMost, a, b => a <= b

namespace Condition

/-- The condition tests numbers. -/
def isNumeric : Condition → Bool
  | compares _ _ => true
  | fits _ | excludes _ => false

/-- The condition holds of a field.  There is no answer where a number is asked for and
the field holds none. -/
def holds : Condition → Option String → Option Bool
  | _, none => some false
  | fits p, some value => some (p.isMatch value)
  | excludes p, some value => some (!p.isMatch value)
  | compares c bound, some value => (number? value.toList).map fun n => c.holds n bound

/-- No condition holds of a field that is missing. -/
@[simp] theorem holds_null (c : Condition) : c.holds none = some false := by
  cases c <;> rfl

/-- Where there is no answer. -/
theorem holds_eq_none_iff (c : Condition) (field : Option String) :
    c.holds field = none ↔
      c.isNumeric = true ∧ ∃ value, field = some value ∧ number? value.toList = none := by
  cases field with
  | none => simp
  | some value => cases c <;> simp [holds, isNumeric]

end Condition
end Tariff
