import Tariff.Pattern.Expr
import Tariff.Pattern.Regex
import Tariff.Unicode.CaseFold
import Tariff.Unicode.Property

/-!
# The meaning of patterns

Which regular expression a pattern stands for under the flags that hold.  Flags set
between two items hold to the end of the group, across its branches.  Without the flag
for Unicode a pattern speaks of octets, and a part that could match half a character is
refused.

Main results:

- Theorem {lit}`Flags.apply_empty`: a change that names no flag changes none.
-/

namespace Tariff
namespace Pattern

/-- The flags that bear on what a pattern stands for. -/
structure Flags where
  ignoreCase : Bool
  multiLine : Bool
  dotAll : Bool
  swapGreed : Bool
  unicode : Bool
  crlf : Bool
deriving DecidableEq, Repr

namespace Flags

/-- The flags at the start of a pattern. -/
def start : Flags := ⟨false, false, false, false, true, false⟩

/-- The flags after a change. -/
def apply (f : Flags) (change : FlagChange) : Flags :=
  { ignoreCase := (change.get? .ignoreCase).getD f.ignoreCase
    multiLine := (change.get? .multiLine).getD f.multiLine
    dotAll := (change.get? .dotAll).getD f.dotAll
    swapGreed := (change.get? .swapGreed).getD f.swapGreed
    unicode := (change.get? .unicode).getD f.unicode
    crlf := (change.get? .crlf).getD f.crlf }

/-- A change that names no flag changes none. -/
@[simp] theorem apply_empty (f : Flags) : f.apply ⟨[], []⟩ = f := rfl

end Flags

/-! ## Classes -/

/-- The characters of a named ASCII class. -/
def AsciiClass.chars : AsciiClass → CharSet
  | alnum => ⟨[(0x30, 0x39), (0x41, 0x5A), (0x61, 0x7A)]⟩
  | alpha => ⟨[(0x41, 0x5A), (0x61, 0x7A)]⟩
  | ascii => ⟨[(0x00, 0x7F)]⟩
  | blank => ⟨[(0x09, 0x09), (0x20, 0x20)]⟩
  | cntrl => ⟨[(0x00, 0x1F), (0x7F, 0x7F)]⟩
  | digit => ⟨[(0x30, 0x39)]⟩
  | graph => ⟨[(0x21, 0x7E)]⟩
  | lower => ⟨[(0x61, 0x7A)]⟩
  | print => ⟨[(0x20, 0x7E)]⟩
  | punct => ⟨[(0x21, 0x2F), (0x3A, 0x40), (0x5B, 0x60), (0x7B, 0x7E)]⟩
  | space => ⟨[(0x09, 0x0D), (0x20, 0x20)]⟩
  | upper => ⟨[(0x41, 0x5A)]⟩
  | word => ⟨[(0x30, 0x39), (0x41, 0x5A), (0x5F, 0x5F), (0x61, 0x7A)]⟩
  | xdigit => ⟨[(0x30, 0x39), (0x41, 0x46), (0x61, 0x66)]⟩

/-- The class of ASCII characters that a shorthand means without Unicode. -/
def Shorthand.asciiClass : Shorthand → AsciiClass
  | digit => .digit
  | space => .space
  | word => .word

/-- The characters that a shorthand means. -/
def Shorthand.chars (unicode : Bool) (kind : Shorthand) : CharSet :=
  if unicode then
    match kind with
    | digit => Unicode.decimalDigits
    | space => Unicode.whiteSpace
    | word => Unicode.wordCharacters
  else kind.asciiClass.chars

/-- The characters of a property.  Of one that asks for another value they are those that
do have the value. -/
def Property.chars? : Property → Option CharSet
  | named name => Unicode.byName? name
  | valued name value _ => Unicode.byValue? name value

/-- The characters of the property are the ones to leave out. -/
def Property.isNegated : Property → Bool
  | named _ => false
  | valued _ _ differs => differs

/-- The set with the case variants of its characters, if case does not count.  Without
Unicode only ASCII letters have variants. -/
def closeCase (f : Flags) (s : CharSet) : CharSet :=
  if f.ignoreCase then
    if f.unicode then s.closeCase
    else s.union ((s.inter AsciiClass.ascii.chars).closeCase.inter AsciiClass.ascii.chars)
  else s

/-- The set or its negation.  Without Unicode a set must keep to ASCII. -/
def complementIf? (f : Flags) (negated : Bool) (s : CharSet) : Option CharSet :=
  if f.unicode then some (if negated then s.negate else s)
  else if negated then none
  else some s

/-- The characters that a shorthand stands for. -/
def shorthandSet? (f : Flags) (negated : Bool) (kind : Shorthand) : Option CharSet :=
  complementIf? f negated (kind.chars f.unicode)

/-- The characters that a property stands for.  To leave out what has another value is to
take what has the value. -/
def propertySet? (f : Flags) (negated : Bool) (query : Property) : Option CharSet :=
  if f.unicode then do
    let s ← query.chars?
    complementIf? f (negated != query.isNegated) (closeCase f s)
  else none

/-- The literal names a character under the flags.  Without Unicode an octet beyond
ASCII names none. -/
def Literal.isChar (f : Flags) (l : Literal) : Bool :=
  f.unicode || !l.octet || decide (l.char.toNat < 128)

/-- The literal may stand in brackets under the flags. -/
def Literal.isItem (f : Flags) (l : Literal) : Bool :=
  f.unicode || decide (l.char.toNat < 128)

/-- The set that an operator makes of two. -/
def SetOp.apply : SetOp → CharSet → CharSet → CharSet
  | inter => CharSet.inter
  | diff => CharSet.diff
  | symmDiff => CharSet.symmDiff

/-- The characters that stand in brackets.  The case variants of a bracket are taken
when it closes and at each operator. -/
def ClassExpr.chars? (f : Flags) : ClassExpr → Option CharSet
  | empty => some CharSet.empty
  | literal l => if l.isItem f then some (CharSet.singleton l.char) else none
  | range first last =>
    if first.isItem f && last.isItem f then some (CharSet.range first.char last.char) else none
  | ascii negated kind => complementIf? f negated (Pattern.closeCase f kind.chars)
  | shorthand negated kind => Pattern.shorthandSet? f negated kind
  | property negated query => Pattern.propertySet? f negated query
  | bracket negated inner => do
    let s ← inner.chars? f
    complementIf? f negated (Pattern.closeCase f s)
  | union a b => do
    let s ← a.chars? f
    let t ← b.chars? f
    some (s.union t)
  | combine op a b => do
    let s ← a.chars? f
    let t ← b.chars? f
    some (op.apply (Pattern.closeCase f s) (Pattern.closeCase f t))

/-! ## Expressions -/

/-- The condition that an anchor stands for. -/
def Anchor.look (f : Flags) (a : Anchor) : Regex.Look :=
  let words := Shorthand.word.chars f.unicode
  match a with
  | lineStart => if f.multiLine then .lineStart f.crlf else .textStart
  | lineEnd => if f.multiLine then .lineEnd f.crlf else .textEnd
  | textStart => .textStart
  | textEnd => .textEnd
  | wordBoundary => .word .boundary words
  | notWordBoundary => .word .notBoundary words
  | wordStart => .word .start words
  | wordEnd => .word .stop words
  | wordStartHalf => .word .startHalf words
  | wordEndHalf => .word .stopHalf words

/-- The characters that a dot stands for. -/
def dotSet? (f : Flags) : Option CharSet :=
  let ends : CharSet := if f.crlf then ⟨[(0x0A, 0x0A), (0x0D, 0x0D)]⟩ else ⟨[(0x0A, 0x0A)]⟩
  if f.unicode then some (if f.dotAll then CharSet.univ else ends.compl) else none

/-- The leaf that takes a character of a set. -/
def ofSet (s : CharSet) : Regex Regex.Leaf :=
  .leaf (.set s)

/-- What a pattern stands for under some flags, and the flags behind it. -/
def Expr.regex? (f : Flags) : Expr → Option (Regex Regex.Leaf × Flags)
  | empty => some (.empty, f)
  | flags change => some (.empty, f.apply change)
  | literal l =>
    if l.isChar f then some (ofSet (Pattern.closeCase f (CharSet.singleton l.char)), f) else none
  | dot => (dotSet? f).map fun s => (ofSet s, f)
  | anchor a => some (.leaf (.look (a.look f)), f)
  | shorthand negated kind => (Pattern.shorthandSet? f negated kind).map fun s => (ofSet s, f)
  | property negated query => (Pattern.propertySet? f negated query).map fun s => (ofSet s, f)
  | bracket negated inner => do
    let s ← (ClassExpr.bracket negated inner).chars? f
    some (ofSet s, f)
  | repeated e min max greedy =>
    (e.regex? f).map fun r => (.loop r.1 min max (greedy != f.swapGreed), r.2)
  | group capturing change e => do
    let r ← e.regex? (f.apply change)
    some (.group capturing r.1, f)
  | seq a b => do
    let r ← a.regex? f
    let s ← b.regex? r.2
    some (.cat r.1 s.1, s.2)
  | branch a b => do
    let r ← a.regex? f
    let s ← b.regex? r.2
    some (.alt r.1 s.1, s.2)

end Pattern
end Tariff
