import Tariff.Pattern.Escape

/-!
# Bracketed classes

A class in brackets lists characters, ranges and smaller classes.  Two lists may be
combined by intersection and difference, all operators binding alike and to the left.

Main results:

- Theorem {lit}`Bracket.close_nested`: a bracket without an operator closes to its
  items.
-/

namespace Tariff
namespace Pattern

/-- A bracket that is still open. -/
structure Bracket where
  negated : Bool
  /-- The items since the last operator, the last one first. -/
  items : List ClassExpr
  /-- What stands before the last operator, and the operator. -/
  left : Option (SetOp × ClassExpr)

namespace Bracket

/-- The union of a list of items. -/
def unionOf : List ClassExpr → ClassExpr
  | [] => .empty
  | [e] => e
  | e :: es => .union e (unionOf es)

/-- What has been read of a bracket. -/
def close (b : Bracket) : ClassExpr :=
  let last := unionOf b.items.reverse
  match b.left with
  | none => last
  | some (op, e) => .combine op e last

/-- Adds an item. -/
def push (b : Bracket) (e : ClassExpr) : Bracket :=
  { b with items := e :: b.items }

/-- Goes on behind an operator. -/
def operate (b : Bracket) (op : SetOp) : Bracket :=
  { b with items := [], left := some (op, b.close) }

/-- A bracket without an operator closes to its items. -/
theorem close_nested (negated : Bool) (items : List ClassExpr) :
    close ⟨negated, items, none⟩ = unionOf items.reverse := rfl

/-- The names of the ASCII classes. -/
def asciiNames : List (String × AsciiClass) :=
  [("alnum", .alnum), ("alpha", .alpha), ("ascii", .ascii), ("blank", .blank),
    ("cntrl", .cntrl), ("digit", .digit), ("graph", .graph), ("lower", .lower),
    ("print", .print), ("punct", .punct), ("space", .space), ("upper", .upper),
    ("word", .word), ("xdigit", .xdigit)]

/-- Reads a named class behind its opening bracket. -/
def readAscii : List Char → Option (ClassExpr × List Char)
  | ':' :: cs =>
    let (negated, cs) : Bool × List Char :=
      match cs with
      | '^' :: rest => (true, rest)
      | _ => (false, cs)
    let name := cs.takeWhile (· != ':')
    match cs.dropWhile (· != ':') with
    | ':' :: ']' :: rest =>
      (asciiNames.lookup (String.ofList name)).map fun kind => (.ascii negated kind, rest)
    | _ => none
  | _ => none

/-- Reads the start of a bracket: a caret negates it, leading hyphens are items, and so
is a closing bracket in front of all other items. -/
def readOpening (extended : Bool) (cs : List Char) : Option (Bracket × List Char) :=
  let (negated, cs) : Bool × List Char :=
    match skip extended cs with
    | '^' :: rest => (true, rest)
    | rest => (false, rest)
  let (hyphens, rest) := run extended (· == '-') cs
  let items := hyphens.map fun _ => ClassExpr.literal ⟨'-', false⟩
  match items, rest with
  | _, [] => none
  | [], ']' :: rest => some (⟨negated, [.literal ⟨']', false⟩], none⟩, rest)
  | items, rest => some (⟨negated, items, none⟩, rest)

/-- Reads one character or escape. -/
def readPrimitive (extended : Bool) : List Char → Option (Primitive × List Char)
  | [] => none
  | '\\' :: cs => readEscape extended cs
  | c :: cs => some (.literal ⟨c, false⟩, cs)

/-- The item that a primitive is.  Conditions on places are none. -/
def itemOf? : Primitive → Option ClassExpr
  | .literal l => some (.literal l)
  | .shorthand negated kind => some (.shorthand negated kind)
  | .property negated query => some (.property negated query)
  | .anchor _ => none

/-- The range between two primitives, which must be characters in order. -/
def rangeOf? : Primitive → Primitive → Option ClassExpr
  | .literal a, .literal b => if a.char ≤ b.char then some (.range a b) else none
  | _, _ => none

/-- Reads an item or a range.  A hyphen in front of a closing bracket or of another
hyphen makes no range. -/
def readItem (extended : Bool) (cs : List Char) : Option (ClassExpr × List Char) := do
  let (first, rest) ← readPrimitive extended cs
  match skip extended rest with
  | [] => none
  | '-' :: behind =>
    let next := glance extended behind
    if next = some ']' ∨ next = some '-' then
      (itemOf? first).map fun e => (e, '-' :: behind)
    else do
      let (last, rest) ← readPrimitive extended (skip extended behind)
      (rangeOf? first last).map fun e => (e, rest)
  | rest => (itemOf? first).map fun e => (e, rest)

/-- The operator at the front. -/
def operator? : List Char → Option (SetOp × List Char)
  | '&' :: '&' :: rest => some (.inter, rest)
  | '-' :: '-' :: rest => some (.diff, rest)
  | '~' :: '~' :: rest => some (.symmDiff, rest)
  | _ => none

/-- Reads the items of the open brackets, the innermost one given apart, until all are
closed.  The outermost one is given back with its negation.  Each step takes a character
away, so that {lit}`fuel` need not exceed their number. -/
def readItems (extended : Bool) :
    Nat → Bracket → List Bracket → List Char → Option (Bool × ClassExpr × List Char)
  | 0, _, _, _ => none
  | fuel + 1, b, outer, cs =>
    match skip extended cs with
    | [] => none
    | '[' :: rest =>
      match readAscii rest with
      | some (e, rest) => readItems extended fuel (b.push e) outer rest
      | none =>
        match readOpening extended rest with
        | some (inner, rest) => readItems extended fuel inner (b :: outer) rest
        | none => none
    | ']' :: rest =>
      match outer with
      | [] => some (b.negated, b.close, rest)
      | b' :: outer =>
        readItems extended fuel (b'.push (.bracket b.negated b.close)) outer rest
    | rest =>
      match operator? rest with
      | some (op, rest) => readItems extended fuel (b.operate op) outer rest
      | none =>
        match readItem extended rest with
        | some (e, rest) => readItems extended fuel (b.push e) outer rest
        | none => none

/-- Reads a class behind its opening bracket. -/
def read (extended : Bool) (cs : List Char) : Option (Bool × ClassExpr × List Char) := do
  let (b, rest) ← readOpening extended cs
  readItems extended rest.length b [] rest

/-- Operators bind to the left. -/
example : read false "a-c&&b--c]".toList =
    some (false, .combine .diff
      (.combine .inter (.range ⟨'a', false⟩ ⟨'c', false⟩) (.literal ⟨'b', false⟩))
      (.literal ⟨'c', false⟩), []) := by decide +kernel

end Bracket
end Pattern
end Tariff
