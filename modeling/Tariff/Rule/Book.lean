import Tariff.Directory
import Tariff.Rule.Condition
import Tariff.Text.Quoted

/-!
# Rule books

A rule is a row of conditions, one for each field of a query, with the results that it
yields.  Rules come in groups, and the rules of a group stay in the order in which they
were added.  All of them have equally many conditions and equally many results.

Main results:

- Theorem {lit}`RuleBook.rules_add`: a rule that is added comes last in its group and
  leaves the other groups alone.
- Theorem {lit}`Rule.test_nil`: a rule without conditions holds of every query.
-/

namespace Tariff

/-- A field that a number was asked of. -/
structure NotNumeric where
  /-- The place of the field, from 0. -/
  position : Nat
  value : String
deriving DecidableEq, Repr

/-- The wording of a query that a numeric condition could not read. -/
def NotNumeric.message (f : NotNumeric) : String :=
  "field " ++ toString f.position ++ " value " ++ Text.Quoted.quote f.value ++
    " is not numeric"

/-- A row of conditions and the results that it yields. -/
structure Rule where
  conditions : List Condition
  results : List String

namespace Rule

/-- Tests conditions against the fields from a position on, from left to right up to the
first one that does not hold.  Fields beyond the end of the query are missing. -/
def test (position : Nat) : List Condition → List (Option String) → Except NotNumeric Bool
  | [], _ => .ok true
  | c :: cs, fields =>
    match c.holds fields.head?.join with
    | some true => test (position + 1) cs fields.tail
    | some false => .ok false
    | none => .error ⟨position, fields.head?.join.getD ""⟩

/-- The rule holds of a query. -/
def holds (r : Rule) (fields : List (Option String)) : Except NotNumeric Bool :=
  test 0 r.conditions fields

/-- A rule without conditions holds of every query. -/
@[simp] theorem test_nil (position : Nat) (fields : List (Option String)) :
    test position [] fields = .ok true := rfl

end Rule

/-- Rules of equal shape, in order. -/
structure RuleGroup where
  conditionCount : Nat
  resultCount : Nat
  rules : List Rule

/-- Groups of rules by name. -/
structure RuleBook where
  groups : Directory String RuleGroup

namespace RuleBook

/-- The greatest number of conditions in a rule. -/
def maxConditions : Nat := 64

/-- The greatest number of results of a rule or of an entry. -/
def maxResults : Nat := 64

/-- Why a rule is refused. -/
inductive Fault where
  | tooManyConditions
  | tooManyResults
  /-- The rule is not of the shape of its group. -/
  | shape (group : String) (wantedConditions wantedResults conditions results : Nat)
  | badPattern (group pattern : String)
  | badNumber (group text : String)
deriving DecidableEq, Repr

/-- The wording of a refusal. -/
def Fault.message : Fault → String
  | tooManyConditions => "limit exceeded: too many predicate fields"
  | tooManyResults => "limit exceeded: too many result fields"
  | shape group wantedConditions wantedResults conditions results =>
    "predicate group " ++ group ++ ": expected " ++ toString wantedConditions ++ " keys + " ++
      toString wantedResults ++ " results, got " ++ toString conditions ++ " + " ++
      toString results
  | badPattern group pattern =>
    "predicate group " ++ group ++ ": bad pattern " ++ Text.Quoted.quote pattern
  | badNumber group text =>
    "predicate group " ++ group ++ ": numeric literal " ++ Text.Quoted.quote text ++
      " is not a number"

/-- No groups. -/
def empty : RuleBook := ⟨Directory.empty⟩

/-- The fault of a condition in a group. -/
def conditionFault (group : String) : Condition.Fault → Fault
  | .badPattern pattern => .badPattern group pattern
  | .badNumber text => .badNumber group text

/-- Reads conditions from left to right, up to the first one that is none. -/
def readConditions (group : String) : List String → Except Fault (List Condition)
  | [] => .ok []
  | text :: texts =>
    match Condition.read text with
    | .error f => .error (conditionFault group f)
    | .ok c => (readConditions group texts).map (c :: ·)

/-- The rules of a group, in order. -/
def rules (b : RuleBook) (group : String) : List Rule :=
  match b.groups.get? group with
  | some g => g.rules
  | none => []

/-- The number of groups. -/
def groupCount (b : RuleBook) : Nat :=
  b.groups.size

/-- The number of rules in a group. -/
def ruleCount (b : RuleBook) (group : String) : Nat :=
  (b.rules group).length

/-- The group that a rule of a shape may join: one with rules of that shape, or a new
one. -/
def groupFor (b : RuleBook) (group : String) (conditions results : Nat) :
    Except Fault RuleGroup :=
  match b.groups.get? group with
  | none => .ok ⟨conditions, results, []⟩
  | some g =>
    if g.conditionCount = conditions ∧ g.resultCount = results then .ok g
    else .error (.shape group g.conditionCount g.resultCount conditions results)

/-- Adds a rule at the end of a group. -/
def add (b : RuleBook) (group : String) (conditions results : List String) :
    Except Fault RuleBook :=
  if maxConditions < conditions.length then .error .tooManyConditions
  else if maxResults < results.length then .error .tooManyResults
  else
    match b.groupFor group conditions.length results.length with
    | .error f => .error f
    | .ok g =>
      match readConditions group conditions with
      | .error f => .error f
      | .ok cs =>
        .ok ⟨b.groups.set group { g with rules := g.rules ++ [⟨cs, results⟩] }⟩

/-! ## Queries -/

/-- The results of the first rule that holds. -/
def firstOf (fields : List (Option String)) :
    List Rule → Except NotNumeric (Option (List String))
  | [] => .ok none
  | r :: rs =>
    match r.holds fields with
    | .error f => .error f
    | .ok true => .ok (some r.results)
    | .ok false => firstOf fields rs

/-- The results of all rules that hold. -/
def allOf (fields : List (Option String)) : List Rule → Except NotNumeric (List (List String))
  | [] => .ok []
  | r :: rs =>
    match r.holds fields with
    | .error f => .error f
    | .ok true => (allOf fields rs).map (r.results :: ·)
    | .ok false => allOf fields rs

/-- The results of the first rule of a group that holds of a query. -/
def first (b : RuleBook) (group : String) (fields : List (Option String)) :
    Except NotNumeric (Option (List String)) :=
  firstOf fields (b.rules group)

/-- The results of all rules of a group that hold of a query, in order. -/
def all (b : RuleBook) (group : String) (fields : List (Option String)) :
    Except NotNumeric (List (List String)) :=
  allOf fields (b.rules group)

/-! ## Laws -/

@[simp] theorem rules_empty (group : String) : empty.rules group = [] := rfl

theorem rules_of_groupFor {b : RuleBook} {group : String} {conditions results : Nat}
    {g : RuleGroup} (h : b.groupFor group conditions results = .ok g) :
    g.rules = b.rules group := by
  unfold groupFor at h
  unfold rules
  split at h
  · cases h
    rename_i hg
    rw [hg]
  · rename_i g' hg
    split at h
    · cases h
      rw [hg]
    · cases h

/-- A rule that is added comes last in its group, and other groups keep theirs. -/
theorem rules_add {b b' : RuleBook} {group : String} {conditions results : List String}
    (h : b.add group conditions results = .ok b') :
    ∃ cs, readConditions group conditions = .ok cs ∧ ∀ other, b'.rules other =
      if other = group then b.rules group ++ [⟨cs, results⟩] else b.rules other := by
  unfold add at h
  split at h
  · cases h
  · split at h
    · cases h
    · split at h
      · cases h
      · rename_i g hg
        split at h
        · cases h
        · rename_i cs hcs
          cases h
          refine ⟨cs, hcs, fun other => ?_⟩
          unfold rules
          rw [Directory.get?_set]
          by_cases ho : other = group
          · simp only [ho, if_true]
            rw [rules_of_groupFor hg]
            rfl
          · simp only [ho, if_false]

end RuleBook
end Tariff
