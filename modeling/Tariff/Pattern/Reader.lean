import Tariff.Pattern.Bracket
import Tariff.Pattern.Group

/-!
# Reading patterns

A pattern is read from left to right.  The groups that are open wait on a stack, each
with what stands in front of it; nothing else has to be remembered but the names in use
and whether the extended form is on.
-/

namespace Tariff
namespace Pattern

/-- A part of a pattern that is still being read: its finished branches and the items
of its last one, each list the last one first. -/
structure Level where
  branches : List Expr
  items : List Expr

namespace Level

/-- A part with nothing in it. -/
def empty : Level := ⟨[], []⟩

/-- Adds an item. -/
def push (l : Level) (e : Expr) : Level :=
  { l with items := e :: l.items }

/-- The sequence of some items. -/
def seqOf : List Expr → Expr
  | [] => .empty
  | [e] => e
  | e :: es => .seq e (seqOf es)

/-- The choice between some branches. -/
def choiceOf : List Expr → Expr
  | [] => .empty
  | [e] => e
  | e :: es => .branch e (choiceOf es)

/-- Ends a branch. -/
def branch (l : Level) : Level :=
  ⟨seqOf l.items.reverse :: l.branches, []⟩

/-- What has been read. -/
def close (l : Level) : Expr :=
  choiceOf l.branch.branches.reverse

/-- Repeats the last item.  Flags cannot be repeated. -/
def repeatLast? (l : Level) (min : Nat) (max : Option Nat) (greedy : Bool) : Option Level :=
  match l.items with
  | [] | .flags _ :: _ => none
  | e :: es => some { l with items := .repeated e min max greedy :: es }

end Level

/-- A group that is open. -/
structure Pending where
  /-- What stands in front of the group. -/
  outer : Level
  capturing : Bool
  change : FlagChange
  /-- The extended form was on in front of the group. -/
  extended : Bool

/-- How far a pattern has been read. -/
structure Reading where
  level : Level
  pending : List Pending
  extended : Bool
  /-- The names of groups so far. -/
  names : List (List Char)

namespace Reading

/-- Nothing has been read. -/
def start : Reading := ⟨Level.empty, [], false, []⟩

/-- Adds an item. -/
def push (r : Reading) (e : Expr) : Reading :=
  { r with level := r.level.push e }

/-- Goes into a group. -/
def enter (r : Reading) (capturing : Bool) (change : FlagChange) : Reading :=
  { r with
    level := Level.empty
    pending := ⟨r.level, capturing, change, r.extended⟩ :: r.pending
    extended := (change.get? .extended).getD r.extended }

/-- Takes in what an opening parenthesis begins.  A name serves one group only. -/
def openGroup? (r : Reading) : Opening → Option Reading
  | .capture none => some (r.enter true ⟨[], []⟩)
  | .capture (some name) =>
    if r.names.contains name then none
    else some { r.enter true ⟨[], []⟩ with names := name :: r.names }
  | .flagged change => some (r.enter false change)
  | .setFlags change =>
    some { r.push (.flags change) with
      extended := (change.get? .extended).getD r.extended }

/-- Leaves the innermost group. -/
def closeGroup? (r : Reading) : Option Reading :=
  match r.pending with
  | [] => none
  | p :: ps =>
    some { r with
      level := p.outer.push (.group p.capturing p.change r.level.close)
      pending := ps
      extended := p.extended }

/-- Repeats the last item. -/
def repeatLast? (r : Reading) (min : Nat) (max : Option Nat) (greedy : Bool) : Option Reading :=
  (r.level.repeatLast? min max greedy).map fun l => { r with level := l }

/-- The whole pattern, once all groups are closed. -/
def finish? (r : Reading) : Option Expr :=
  if r.pending.isEmpty then some r.level.close else none

end Reading

/-- Whether a repetition asks for many, and what is left behind it.  A question mark
asks for few. -/
def readGreed : List Char → Bool × List Char
  | '?' :: cs => (false, cs)
  | cs => (true, cs)

/-- How often to repeat. -/
structure Bounds where
  least : Nat
  most : Option Nat
deriving DecidableEq, Repr

/-- Reads how often to repeat, behind the opening brace. -/
def readBounds (extended : Bool) (cs : List Char) : Option (Bounds × List Char) := do
  let (least, rest) ← readCount extended (skip extended cs)
  match rest with
  | '\x7d' :: rest => some (⟨least, some least⟩, skip extended rest)
  | ',' :: rest =>
    match skip extended rest with
    | '\x7d' :: rest => some (⟨least, none⟩, skip extended rest)
    | rest => do
      let (most, rest) ← readCount extended rest
      match rest with
      | '\x7d' :: rest =>
        if least ≤ most then some (⟨least, some most⟩, skip extended rest) else none
      | _ => none
  | _ => none

/-- Repeats the last item and reads whether that asks for many. -/
def Reading.readRepetition (r : Reading) (bounds : Bounds) (cs : List Char) :
    Option (Reading × List Char) :=
  let (greedy, rest) := readGreed cs
  (r.repeatLast? bounds.least bounds.most greedy).map fun r => (r, rest)

/-- The expression of a primitive. -/
def Primitive.toExpr : Primitive → Expr
  | .literal l => .literal l
  | .anchor a => .anchor a
  | .shorthand negated kind => .shorthand negated kind
  | .property negated query => .property negated query

/-- Reads the part of a pattern that a character begins. -/
def readPart (r : Reading) (c : Char) (cs : List Char) : Option (Reading × List Char) :=
  match c with
  | '(' => do
    let (opening, rest) ← readOpening r.extended cs
    let r ← r.openGroup? opening
    some (r, rest)
  | ')' => r.closeGroup?.map fun r => (r, cs)
  | '|' => some ({ r with level := r.level.branch }, cs)
  | '[' => do
    let (negated, inner, rest) ← Bracket.read r.extended cs
    some (r.push (.bracket negated inner), rest)
  | '?' => r.readRepetition ⟨0, some 1⟩ cs
  | '*' => r.readRepetition ⟨0, none⟩ cs
  | '+' => r.readRepetition ⟨1, none⟩ cs
  | '\x7b' => do
    let (bounds, rest) ← readBounds r.extended cs
    r.readRepetition bounds rest
  | '\\' => (readEscape r.extended cs).map fun p => (r.push p.1.toExpr, p.2)
  | '.' => some (r.push .dot, cs)
  | '^' => some (r.push (.anchor .lineStart), cs)
  | '$' => some (r.push (.anchor .lineEnd), cs)
  | c => some (r.push (.literal ⟨c, false⟩), cs)

/-- Reads on to the end.  Each part takes a character away, so that {lit}`fuel` need
not exceed their number. -/
def readAll : Nat → Reading → List Char → Option Expr
  | fuel, r, cs =>
    match skip r.extended cs with
    | [] => r.finish?
    | c :: cs =>
      match fuel with
      | 0 => none
      | fuel + 1 =>
        match readPart r c cs with
        | some (r, rest) => readAll fuel r rest
        | none => none

/-- Reads a pattern. -/
def Expr.read? (cs : List Char) : Option Expr :=
  readAll cs.length Reading.start cs

/-- A branch may be empty. -/
example : Expr.read? "a|".toList = some (.branch (.literal ⟨'a', false⟩) .empty) := by
  decide +kernel

/-- There must be something to repeat. -/
example : Expr.read? "a|*".toList = none := by decide +kernel

/-- Flags cannot be repeated. -/
example : Expr.read? "(?i)*".toList = none := by decide +kernel

end Pattern
end Tariff
