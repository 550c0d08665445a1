import Tariff.Unicode.CharSet

/-!
# Regular expressions

A regular expression over leaves of some kind, and how one is matched.  The leaves of a
pattern are sets of characters, which take one character, and conditions on a place,
which take none.  A set of places in a text is a number whose bits are the places.

Main results:

- Theorems {lit}`Regex.ends_alt` and {lit}`Regex.ends_cat`: the places that a match can end
  at, by the parts of the expression.
-/

namespace Tariff

/-- A regular expression.  Whether a repetition prefers many and whether a group keeps
its place matter for the automaton of an expression and not for what it matches. -/
inductive Regex (α : Type) where
  | empty
  | leaf (a : α)
  | cat (r s : Regex α)
  | alt (r s : Regex α)
  | loop (r : Regex α) (min : Nat) (max : Option Nat) (greedy : Bool)
  | group (capturing : Bool) (r : Regex α)
deriving DecidableEq, Repr

namespace Regex

/-- The expression with other leaves. -/
def map {α β : Type} (f : α → β) : Regex α → Regex β
  | empty => empty
  | leaf a => leaf (f a)
  | cat r s => cat (r.map f) (s.map f)
  | alt r s => alt (r.map f) (s.map f)
  | loop r min max greedy => loop (r.map f) min max greedy
  | group capturing r => group capturing (r.map f)

/-! ## Leaves of a pattern -/

/-- How a place stands to the words around it. -/
inductive WordEdge where
  | boundary
  | notBoundary
  | start
  | stop
  /-- No word goes on up to here. -/
  | startHalf
  /-- No word goes on from here. -/
  | stopHalf
deriving DecidableEq, Repr

/-- A condition on a place. -/
inductive Look where
  | textStart
  | textEnd
  | lineStart (crlf : Bool)
  | lineEnd (crlf : Bool)
  /-- Words are runs of the characters given. -/
  | word (edge : WordEdge) (chars : CharSet)
deriving DecidableEq, Repr

/-- A part of a pattern that has no parts. -/
inductive Leaf where
  | set (s : CharSet)
  | look (l : Look)
deriving DecidableEq, Repr

/-- The edge condition, told whether a word character stands before and after. -/
def WordEdge.holds : WordEdge → Bool → Bool → Bool
  | boundary, before, after => before != after
  | notBoundary, before, after => before == after
  | start, before, after => !before && after
  | stop, before, after => before && !after
  | startHalf, before, _ => !before
  | stopHalf, _, after => !after

/-- The condition holds between two characters.  At the ends of a text there is none.
Where lines end in two characters, nothing begins or ends between them. -/
def Look.holds : Look → Option Char → Option Char → Bool
  | textStart, before, _ => before.isNone
  | textEnd, _, after => after.isNone
  | lineStart crlf, before, after =>
    before.isNone || before == some '\n' || (crlf && before == some '\r' && after != some '\n')
  | lineEnd crlf, before, after =>
    after.isNone || (crlf && after == some '\r') ||
      (after == some '\n' && !(crlf && before == some '\r'))
  | word edge chars, before, after =>
    edge.holds (before.any chars.contains) (after.any chars.contains)

/-! ## Matching -/

/-- What a leaf does with a set of places in one text. -/
inductive Move where
  /-- From each of these places to the next one. -/
  | forward (places : Nat)
  /-- Nowhere, at these places. -/
  | stay (places : Nat)
deriving DecidableEq, Repr

/-- The places that a set of places leads to. -/
def Move.apply : Move → Nat → Nat
  | forward places, m => (m &&& places) <<< 1
  | stay places, m => m &&& places

/-- The members of a list that satisfy a test, as a set of places. -/
def placesOf {α : Type} (test : α → Bool) : List α → Nat
  | [] => 0
  | a :: as => 2 * placesOf test as + (test a).toNat

/-- The places of a text, each by the characters before and after it. -/
def neighbours (before : Option Char) : List Char → List (Option Char × Option Char)
  | [] => [(before, none)]
  | c :: cs => (before, some c) :: neighbours (some c) cs

/-- What a leaf does in a text. -/
def Leaf.move (text : List Char) : Leaf → Move
  | set s => .forward (placesOf s.contains text)
  | look l => .stay (placesOf (fun p => l.holds p.1 p.2) (neighbours none text))

/-- A step repeated a number of times. -/
def iterate (step : Nat → Nat) : Nat → Nat → Nat
  | 0, m => m
  | n + 1, m => iterate step n (step m)

/-- A step repeated up to a number of times. -/
def upTo (step : Nat → Nat) : Nat → Nat → Nat
  | 0, m => m
  | n + 1, m =>
    let m' := m ||| step m
    if m' = m then m else upTo step n m'

/-- The places where a match can end that begins at one of the places {lit}`m`.  In a
text of {lit}`size` places a repetition does nothing new after so many rounds, since a
match of it that long stands still somewhere. -/
def ends (size : Nat) : Regex Move → Nat → Nat
  | empty, m => m
  | leaf a, m => a.apply m
  | cat r s, m => s.ends size (r.ends size m)
  | alt r s, m => r.ends size m ||| s.ends size m
  | loop r least most _, m =>
    let first := iterate (r.ends size) (min least size) m
    let more := match most with
      | none => size
      | some n => min (n - least) size
    upTo (r.ends size) more first
  | group _ r, m => r.ends size m

/-- The expression matches some part of a text. -/
def isMatch (r : Regex Leaf) (text : List Char) : Bool :=
  let size := text.length + 1
  (r.map (Leaf.move text)).ends size (Nat.pow 2 size - 1) != 0

/-! ## Laws -/

/-- What matches one of two expressions ends where either of them ends. -/
@[simp] theorem ends_alt (size : Nat) (r s : Regex Move) (m : Nat) :
    (alt r s).ends size m = r.ends size m ||| s.ends size m := rfl

/-- The second of two expressions begins where the first one ends. -/
@[simp] theorem ends_cat (size : Nat) (r s : Regex Move) (m : Nat) :
    (cat r s).ends size m = s.ends size (r.ends size m) := rfl

end Regex
end Tariff
