/-!
# Pattern expressions

What a pattern says, as it is written: sequences, branches, repetitions, groups, flags
and classes of characters.  Nothing is decided here about which flags hold where.

Main results:

- Theorem {lit}`Expr.depth_tail_le`: reading an expression as the tail of a longer one
  saves at most one level of nesting.
-/

namespace Tariff
namespace Pattern

/-- A flag that changes how a pattern is read. -/
inductive Flag where
  | ignoreCase
  | multiLine
  | dotAll
  | swapGreed
  | unicode
  | crlf
  | extended
deriving DecidableEq, Repr

/-- Flags that are switched on and off. -/
structure FlagChange where
  on : List Flag
  off : List Flag
deriving DecidableEq, Repr

/-- What a change says about a flag. -/
def FlagChange.get? (change : FlagChange) (flag : Flag) : Option Bool :=
  if change.on.contains flag then some true
  else if change.off.contains flag then some false
  else none

/-- A condition on a place between two characters. -/
inductive Anchor where
  | lineStart
  | lineEnd
  | textStart
  | textEnd
  | wordBoundary
  | notWordBoundary
  | wordStart
  | wordEnd
  | wordStartHalf
  | wordEndHalf
deriving DecidableEq, Repr

/-- A character that stands for itself. -/
structure Literal where
  char : Char
  /-- It was written as an octet, by two hexadecimal digits. -/
  octet : Bool
deriving DecidableEq, Repr

/-- A class with an escape of one letter. -/
inductive Shorthand where
  | digit
  | space
  | word
deriving DecidableEq, Repr

/-- A class of ASCII characters with a name. -/
inductive AsciiClass where
  | alnum
  | alpha
  | ascii
  | blank
  | cntrl
  | digit
  | graph
  | lower
  | print
  | punct
  | space
  | upper
  | word
  | xdigit
deriving DecidableEq, Repr

/-- A character property that is asked for: one that holds or not, or one that has a
value or, {lit}`differs`, has another. -/
inductive Property where
  | named (name : List Char)
  | valued (name value : List Char) (differs : Bool)
deriving DecidableEq, Repr

/-- How two sets in a bracket combine. -/
inductive SetOp where
  | inter
  | diff
  | symmDiff
deriving DecidableEq, Repr

/-- What stands in brackets.  A union that is the second part of a union goes on with
the same list of items. -/
inductive ClassExpr where
  | empty
  | literal (l : Literal)
  | range (first last : Literal)
  | ascii (negated : Bool) (kind : AsciiClass)
  | shorthand (negated : Bool) (kind : Shorthand)
  | property (negated : Bool) (query : Property)
  | bracket (negated : Bool) (inner : ClassExpr)
  | union (a b : ClassExpr)
  | combine (op : SetOp) (a b : ClassExpr)
deriving DecidableEq, Repr

/-- A pattern as it is written.  A sequence that is the second part of a sequence goes
on with the same list of items, and so do branches. -/
inductive Expr where
  | empty
  | flags (change : FlagChange)
  | literal (l : Literal)
  | dot
  | anchor (a : Anchor)
  | shorthand (negated : Bool) (kind : Shorthand)
  | property (negated : Bool) (query : Property)
  | bracket (negated : Bool) (inner : ClassExpr)
  | repeated (e : Expr) (min : Nat) (max : Option Nat) (greedy : Bool)
  /-- A group, with the flags that hold inside it alone. -/
  | group (capturing : Bool) (change : FlagChange) (e : Expr)
  | seq (a b : Expr)
  | branch (a b : Expr)
deriving DecidableEq, Repr

/-! ## Nesting -/

/-- How deep the brackets in a class nest.  {lit}`joined` tells that the expression is
a tail of a longer list of items. -/
def ClassExpr.depth (joined : Bool) : ClassExpr → Nat
  | bracket _ inner => inner.depth false + 1
  | union a b => max (a.depth false) (b.depth true) + (if joined then 0 else 1)
  | combine _ a b => max (a.depth false) (b.depth false) + 1
  | empty | literal _ | range _ _ | ascii _ _ | shorthand _ _ | property _ _ => 0

/-- What an expression is the tail of. -/
inductive Expr.Tail where
  | whole
  | ofSeq
  | ofBranch
deriving DecidableEq, Repr

/-- How deep a pattern nests, as the tail of a longer one or on its own. -/
def Expr.depth (tail : Expr.Tail) : Expr → Nat
  | bracket _ inner => inner.depth false + 1
  | repeated e _ _ _ => e.depth .whole + 1
  | group _ _ e => e.depth .whole + 1
  | seq a b => max (a.depth .whole) (b.depth .ofSeq) + (if tail = .ofSeq then 0 else 1)
  | branch a b => max (a.depth .whole) (b.depth .ofBranch) + (if tail = .ofBranch then 0 else 1)
  | empty | flags _ | literal _ | dot | anchor _ | shorthand _ _ | property _ _ => 0

/-- As the tail of a longer one an expression is at most one level less deep. -/
theorem Expr.depth_tail_le (tail : Expr.Tail) (e : Expr) :
    e.depth tail ≤ e.depth .whole ∧ e.depth .whole ≤ e.depth tail + 1 := by
  cases e <;> cases tail <;> simp [Expr.depth]

end Pattern
end Tariff
