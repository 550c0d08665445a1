import Tariff.Pattern.Sketch

/-!
# Trees of texts

Branches that are all texts share the states of what they begin with, or of what they
end with where the automaton reads backward.  Where a text ends, those that come later
begin anew.
-/

namespace Tariff
namespace Pattern

/-- A tree of texts, node by node.  The ways out of a node are in parts, the latest part
first.  Between two parts stands a stop: a text ended there. -/
inductive TextTree where
  | leaf
  | way (octet : Nat) (behind : TextTree) (others : TextTree)
  | stop (earlier : TextTree)
deriving DecidableEq, Repr

namespace TextTree

/-- The tree of one text. -/
def single : List Nat → TextTree
  | [] => stop leaf
  | c :: cs => way c (single cs) leaf

/-- The tree with one more text.  Only ways of the latest part are shared, and a node
without ways has no second stop. -/
def insert : List Nat → TextTree → TextTree
  | [], stop leaf => stop leaf
  | [], t => stop t
  | c :: cs, way octet behind others =>
    if c = octet then way octet (insert cs behind) others
    else way octet behind (insert (c :: cs) others)
  | c :: cs, t => way c (single cs) t

/-- The tree of some texts. -/
def ofTexts (texts : List (List Nat)) : TextTree :=
  texts.foldl (fun t text => t.insert text) leaf

/-- No text goes on from the node. -/
def isEnd : TextTree → Bool
  | leaf | stop leaf => true
  | _ => false

/-- Adds a state for ways that no stop divides, if there are any, and the branch to it. -/
def addWays (ways : Nat) (k : Sketch) : Sketch :=
  if ways = 0 then k
  else (k.addState (if ways = 1 then 0 else ways)).addBranches 1

/-- Adds the states of a node and of all behind it.  {lit}`ways` counts the ways since the
last stop.  The state of a node that texts go on from branches to its ways and, for each
stop, to the end. -/
def addTo (ways : Nat) : TextTree → Sketch → Sketch
  | leaf, k => addWays ways k
  | way _ behind others, k =>
    addTo (ways + 1) others (if behind.isEnd then k else addTo 0 behind (k.addStates 1))
  | stop earlier, k => addTo 0 earlier ((addWays ways k).addBranches 1)

end TextTree

/-- The octets of a text in the order in which they are read. -/
def textOctets (d : Direction) (chars : List Nat) : List Nat :=
  let octets := chars.flatMap octetsOf
  match d with
  | .forward => octets
  | .backward => octets.reverse

/-- Adds the automaton of a choice between texts. -/
def Sketch.addTexts (d : Direction) (texts : List (List Nat)) (k : Sketch) : Sketch :=
  (TextTree.ofTexts (texts.map (textOctets d))).addTo 0 (k.addStates 2)

/-- Texts share what they begin with. -/
example : TextTree.ofTexts [[1, 2, 3], [1, 2, 4]] =
    .way 1 (.way 2 (.way 3 (.stop .leaf) (.way 4 (.stop .leaf) .leaf)) .leaf) .leaf := by
  decide +kernel

end Pattern
end Tariff
