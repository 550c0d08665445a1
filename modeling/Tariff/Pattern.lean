import Tariff.Pattern.Meaning
import Tariff.Pattern.Reader
import Tariff.Pattern.Size

/-!
# Patterns

A pattern is a text that describes texts.  It is valid when it can be read, nests within
a limit, has a meaning and asks for no too large automaton.

Main results:

- Theorem {lit}`Pattern.text_compile?`: a pattern remembers the text that it was read
  from.
- Theorem {lit}`Pattern.whole?_eq`: a pattern for whole texts is read with its frame
  around it, as one text.
-/

namespace Tariff

/-- A valid pattern. -/
structure Pattern where
  /-- How it was written. -/
  text : String
  regex : Regex Regex.Leaf
deriving DecidableEq, Repr

namespace Pattern

/-- How deep a pattern may nest. -/
def maxDepth : Nat := 250

/-- The pattern that a text describes. -/
def compile? (text : String) : Option Pattern := do
  let e ← Expr.read? text.toList
  if e.depth .whole ≤ maxDepth then do
    let (r, _) ← e.regex? Flags.start
    if fits r then some ⟨text, r⟩ else none
  else none

/-- The pattern for whole texts that a text describes.  Its frame is put around it
before it is read. -/
def whole? (text : String) : Option Pattern :=
  compile? ("^(?:" ++ text ++ ")$")

/-- The pattern matches some part of a value. -/
def isMatch (p : Pattern) (value : String) : Bool :=
  p.regex.isMatch value.toList

/-! ## Laws -/

/-- A pattern remembers its text. -/
theorem text_compile? {text : String} {p : Pattern} (h : compile? text = some p) :
    p.text = text := by
  simp only [compile?, Option.bind_eq_bind, Option.bind_eq_some_iff] at h
  obtain ⟨e, _, h⟩ := h
  split at h
  · obtain ⟨r, _, h⟩ := Option.bind_eq_some_iff.1 h
    split at h
    · cases h
      rfl
    · cases h
  · cases h

/-- A pattern for whole texts is read with its frame around it. -/
theorem whole?_eq (text : String) : whole? text = compile? ("^(?:" ++ text ++ ")$") := rfl

/-- A dot is one character. -/
example : ((whole? ".").map fun p => ["", "a", "ab", "\n"].map p.isMatch) =
    some [false, true, false, false] := by decide +kernel

/-- A bounded repetition takes no more and no less. -/
example : ((whole? "a\x7b2,3\x7d").map fun p => ["a", "aa", "aaa", "aaaa"].map p.isMatch) =
    some [false, true, true, false] := by decide +kernel

end Pattern
end Tariff
