import Tariff.Toml.Text

/-!
# TOML keys

A key is bare or quoted, and a dotted key is a way of keys.  Blanks may stand around each
of them.

Main results:

- Theorem {lit}`Toml.length_readKey`: a dotted key has fewer parts than the limit.
-/

namespace Tariff
namespace Toml

/-- A space or a tab. -/
def isBlank (c : Char) : Bool :=
  c == ' ' || c == '\t'

/-- What is left behind blanks at the front. -/
def dropBlanks (cs : List Char) : List Char :=
  cs.dropWhile isBlank

/-- A character of a bare key. -/
def isBare (c : Char) : Bool :=
  c.isAlphanum || c == '_' || c == '-'

/-- Reads one part of a key. -/
def readPart (cs : List Char) : Option (String × List Char) :=
  match cs with
  | [] => none
  | c :: _ =>
    if c = '"' ∨ c = '\'' then (readLineText cs).map fun r => (String.ofList r.1, r.2)
    else
      let bare := cs.takeWhile isBare
      if bare.isEmpty then none else some (String.ofList bare, cs.dropWhile isBare)

/-- A key at the end of a way. -/
structure Path where
  way : List String
  key : String
deriving DecidableEq, Repr

/-- The number of parts that no key may have. -/
def maxParts : Nat := 80

/-- Reads a key of at most so many parts. -/
def readParts : Nat → List Char → Option (Path × List Char)
  | 0, _ => none
  | parts + 1, cs => do
    let (part, rest) ← readPart (dropBlanks cs)
    match dropBlanks rest with
    | '.' :: rest =>
      let (path, rest) ← readParts parts rest
      some (⟨part :: path.way, path.key⟩, rest)
    | rest => some (⟨[], part⟩, rest)

/-- Reads a key with the blanks around it. -/
def readKey (cs : List Char) : Option (Path × List Char) :=
  readParts (maxParts - 1) cs

private theorem length_readParts (parts : Nat) (cs : List Char) (r : Path × List Char)
    (h : readParts parts cs = some r) : r.1.way.length < parts := by
  induction parts generalizing cs r with
  | zero => simp [readParts] at h
  | succ parts ih =>
    simp only [readParts, Option.bind_eq_bind, Option.bind_eq_some_iff] at h
    obtain ⟨⟨part, rest⟩, -, h⟩ := h
    split at h
    · obtain ⟨p, hp, h⟩ := Option.bind_eq_some_iff.1 h
      cases h
      exact Nat.succ_lt_succ (ih _ p hp)
    · cases h
      exact Nat.succ_pos parts

/-- A dotted key has fewer parts than the limit. -/
theorem length_readKey {cs : List Char} {r : Path × List Char} (h : readKey cs = some r) :
    r.1.way.length + 1 < maxParts :=
  Nat.add_lt_of_lt_sub (length_readParts _ cs r h)

/-- Blanks around the parts do not count. -/
example : readKey " a . \"b c\" =".toList = some (⟨["a"], "b c"⟩, ['=']) := by
  decide +kernel

end Toml
end Tariff
