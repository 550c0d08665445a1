import Tariff.Pattern.Outline
import Tariff.Pattern.TextTree

/-!
# The size of patterns

A pattern is refused when the automata that it asks for would be too large.  There is
one automaton that reads a text forward and one that reads it backward, both over the
octets of the text and both built from the outline of the pattern.
-/

namespace Tariff
namespace Pattern

/-- The texts of a choice, if all its branches are texts. -/
def texts? : Outline → Option (List (List Nat))
  | .leaf (.text cs) => some [cs]
  | .alt a b => do
    let xs ← texts? a
    let ys ← texts? b
    some (xs ++ ys)
  | _ => none

/-- Where an outline stands among the branches of a choice. -/
inductive Rank where
  | alone
  | second
  | later
deriving DecidableEq, Repr

/-- Joins a branch to the choice.  With the second one come the state that branches and
the one where the branches meet. -/
def Rank.join : Rank → Sketch → Sketch
  | alone, k => k
  | second, k => (k.addStates 2).addBranches 2
  | later, k => k.addBranches 1

/-- Adds the automaton of a repetition, given that of what is repeated.  {lit}`consumes`
tells that this takes at least one character. -/
def Sketch.addLoop (consumes : Bool) (least : Nat) (most : Option Nat)
    (part : Sketch → Sketch) (k : Sketch) : Sketch :=
  let fork (k : Sketch) := (k.addStates 1).addBranches 2
  match most with
  | none =>
    if 0 < least then fork (k.copies part least)
    else if consumes then part (fork k)
    else (fork (fork (part k))).addStates 1
  | some most =>
    if least = most then k.copies part most
    else if least = 0 ∧ most = 1 then (part (fork k)).addStates 1
    else
      let first := if least = 0 then k.addStates 1 else k.copies part least
      (first.addStates 1).copies (fun k => part (fork k)) (most - least)

/-- Adds the automaton of an outline.  Only the forward automaton keeps the places of
groups. -/
def Sketch.add (d : Direction) (rank : Rank) : Outline → Sketch → Sketch
  | .empty, k => rank.join (k.addStates 1)
  | .leaf (.text cs), k => rank.join (k.addStates (textOctets d cs).length)
  | .leaf (.set s), k => rank.join (k.addSet d s)
  | .leaf (.look _), k => rank.join (k.addStates 1)
  | .cat a b, k =>
    rank.join <| match d with
      | .forward => Sketch.add d .alone b (Sketch.add d .alone a k)
      | .backward => Sketch.add d .alone a (Sketch.add d .alone b k)
  | .alt a b, k =>
    match rank with
    | .alone =>
      match texts? (.alt a b) with
      | some texts => k.addTexts d texts
      | none => Sketch.add d .second b (Sketch.add d .alone a k)
    | rank => Sketch.add d .later b (rank.join (Sketch.add d .alone a k))
  | .loop r least most _, k =>
    let consumes := (Outline.minLength? r).any fun n => decide (0 < n)
    rank.join (k.addLoop consumes least most (Sketch.add d .alone r))
  | .group capturing r, k =>
    rank.join <| match d, capturing with
      | .forward, true => (Sketch.add d .alone r (k.addStates 1)).addStates 1
      | _, _ => Sketch.add d .alone r k

/-- Adds what comes before the first character of a match: one state where a match can
only begin at the edge of the text, and otherwise a loop over all octets. -/
def Sketch.addEntry (atEdge : Bool) (k : Sketch) : Sketch :=
  if atEdge then k.addStates 1
  else (((k.addStates 1).addBranches 2).addStates 1).addState 1

/-- The automaton of a whole pattern, which ends in a state of its own. -/
def Sketch.ofOutline (d : Direction) (o : Outline) : Sketch :=
  let atEdge := match d with
    | .forward => o.beginsWith .textStart
    | .backward => o.endsWith .textEnd
  (Sketch.add d .alone (.group true o) (empty.addEntry atEdge)).addStates 1

/-- Neither automaton takes too much room. -/
def fits (r : Regex Regex.Leaf) : Bool :=
  let o := Outline.ofRegex r
  (Sketch.ofOutline .forward o).fits && (Sketch.ofOutline .backward o).fits

/-- A letter a thousand times is no large pattern. -/
example :
    let a : Regex Regex.Leaf := .leaf (.set ⟨[(0x61, 0x61)]⟩)
    fits (.loop a 1000 (some 1000) true) = true := by
  decide +kernel

end Pattern
end Tariff
