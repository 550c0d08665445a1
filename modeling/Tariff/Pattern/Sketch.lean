import Std.Data.TreeMap
import Tariff.Pattern.Octets

/-!
# Sketches of automata

How large an automaton is, while it grows state by state.  Sizes are given in octets of
memory: every state takes the same room, and a state with several ways out takes more.
The states are numbered in the order in which they come.
-/

namespace Tariff
namespace Pattern

/-- The room that a state of an automaton takes. -/
def stateRoom : Nat := 32

/-- The room that one of several transitions from a state takes. -/
def transitionRoom : Nat := 8

/-- The room that one of the branches from a state takes. -/
def branchRoom : Nat := 4

/-- The room that an automaton may take, 10 MiB. -/
def maxRoom : Nat := 10 * 1024 * 1024

/-- Which way an automaton reads a text. -/
inductive Direction where
  | forward
  | backward
deriving DecidableEq, Repr

/-- How much of an automaton there is. -/
structure Sketch where
  /-- The number of states, which is the number of the next state. -/
  states : Nat
  /-- The room that is taken beside that of the states. -/
  links : Nat
deriving DecidableEq, Repr

namespace Sketch

/-- An automaton without states. -/
def empty : Sketch := ⟨0, 0⟩

/-- The room that an automaton takes. -/
def room (k : Sketch) : Nat :=
  stateRoom * k.states + k.links

/-- The automaton does not take too much room. -/
def fits (k : Sketch) : Bool :=
  decide (k.room ≤ maxRoom)

/-- Some states more. -/
def addStates (k : Sketch) (n : Nat) : Sketch :=
  { k with states := k.states + n }

/-- Some branches more from states that are there. -/
def addBranches (k : Sketch) (n : Nat) : Sketch :=
  { k with links := k.links + branchRoom * n }

/-- One state more, with some transitions. -/
def addState (k : Sketch) (transitions : Nat) : Sketch :=
  ⟨k.states + 1, k.links + transitionRoom * transitions⟩

/-- A part of an automaton added a number of times, as long as it fits. -/
def copies (part : Sketch → Sketch) : Nat → Sketch → Sketch
  | 0, k => k
  | n + 1, k => if k.fits then copies part n (part k) else k

end Sketch

/-! ## Sets of characters

States of a set that read the same on are shared as far as they are remembered.  The
memory has a fixed number of places, and what comes later displaces what came earlier. -/

/-- What is remembered: at each place the numbers of which it is the digest, and a
state. -/
abbrev Memory := Std.TreeMap Nat (List Nat × Nat)

/-- The place for some numbers in a memory of a size: their digest, of 64 bits by the
FNV-1a rule, modulo the size. -/
def placeOf (size : UInt64) (key : List Nat) : Nat :=
  let digest := key.foldl (fun d n => (d ^^^ n.toUInt64) * 1099511628211) 14695981039346656037
  (digest % size).toNat

/-- The state that is remembered for some numbers. -/
def Memory.recall? (m : Memory) (place : Nat) (key : List Nat) : Option Nat :=
  match m.get? place with
  | some entry => if entry.1 = key then some entry.2 else none
  | none => none

/-- How far the automaton of a set has been built. -/
structure SetSketch where
  sketch : Sketch
  memory : Memory

namespace SetSketch

/-- The state for some numbers: the one that is remembered, or a new one with some
transitions. -/
def state (size : UInt64) (key : List Nat) (transitions : Nat) (k : SetSketch) :
    Nat × SetSketch :=
  let place := placeOf size key
  match k.memory.recall? place key with
  | some n => (n, k)
  | none =>
    let n := k.sketch.states
    (n, ⟨k.sketch.addState transitions, k.memory.insert place (key, n)⟩)

/-- How many states the forward automaton of a set remembers. -/
def forwardSize : UInt64 := 10000

/-- How many states the backward automaton of a set remembers. -/
def backwardSize : UInt64 := 1000

/-- The forward state that reads some octet sequences, and goes to {lit}`target` behind
them.  Each of its transitions is remembered with the state that it leads to. -/
def tree (target : Nat) : Nat → List OctetRanges → SetSketch → Nat × SetSketch
  | 0, _, k => (target, k)
  | depth + 1, seqs, k =>
    match byFirst seqs with
    | [] => (target, k)
    | groups =>
      let (key, k) := groups.foldl
        (fun (key, k) group =>
          let (next, k) := tree target depth group.2 k
          (key ++ [group.1.1, group.1.2, next], k))
        ([], k)
      state forwardSize key groups.length k

/-- Adds the backward states that read an octet sequence from its end, which lead to
{lit}`target`. -/
def chain (target : Nat) (seq : OctetRanges) (k : SetSketch) : SetSketch :=
  (seq.foldl (fun (next, k) r => state backwardSize [next, r.1, r.2] 0 k) (target, k)).2

end SetSketch

/-- Adds the automaton of a set.  A set of ASCII characters has one state with a
transition for each range.  Of other sets the forward automaton shares the states that
read the same on, and the backward one those that come from the same first octets. -/
def Sketch.addSet (d : Direction) (s : CharSet) (k : Sketch) : Sketch :=
  if s.isAscii then (k.addStates 1).addState s.ranges.length
  else
    let seqs := octetSequences s
    match d with
    | .forward => (SetSketch.tree k.states 4 seqs ⟨k.addStates 1, ∅⟩).2.sketch
    | .backward =>
      let start : SetSketch := ⟨(k.addStates 2).addBranches seqs.length, ∅⟩
      (seqs.foldl (fun k' seq => SetSketch.chain (k.states + 1) seq k') start).sketch

/-- The characters of two octets take a state for each octet and one that ends the set. -/
example : Sketch.empty.addSet .forward ⟨[(0x80, 0x7FF)]⟩ = ⟨3, 16⟩ := by decide +kernel

end Pattern
end Tariff
