import Tariff.Pattern.Expr
import Tariff.Pattern.Scan

/-!
# Escapes

What a backslash introduces: a character that stands for itself, a character by its
code, a class, or a condition on a place.
-/

namespace Tariff
namespace Pattern

/-- What an escape or a plain character means. -/
inductive Primitive where
  | literal (l : Literal)
  | anchor (a : Anchor)
  | shorthand (negated : Bool) (kind : Shorthand)
  | property (negated : Bool) (query : Property)
deriving DecidableEq, Repr

/-- A character that has a meaning of its own in patterns. -/
def isMeta (c : Char) : Bool :=
  "\\.+*?()|[]\x7b\x7d^$#&-~".toList.contains c

/-- A character that may be escaped although it needs no escape: any other ASCII
character but letters, digits and the two angles. -/
def isEscapable (c : Char) : Bool :=
  isMeta c || (decide (c.toNat < 128) && !c.isAlphanum && c != '<' && c != '>')

/-- The control character of an escape letter. -/
def control? : Char → Option Char
  | 'a' => some '\x07'
  | 'f' => some '\x0c'
  | 't' => some '\t'
  | 'n' => some '\n'
  | 'r' => some '\r'
  | 'v' => some '\x0b'
  | _ => none

/-- The condition of an escape letter. -/
def anchor? : Char → Option Anchor
  | 'A' => some .textStart
  | 'z' => some .textEnd
  | 'B' => some .notWordBoundary
  | '<' => some .wordStart
  | '>' => some .wordEnd
  | _ => none

/-- The class of an escape letter, and whether it is negated. -/
def shorthand? : Char → Option (Bool × Shorthand)
  | 'd' => some (false, .digit)
  | 's' => some (false, .space)
  | 'w' => some (false, .word)
  | 'D' => some (true, .digit)
  | 'S' => some (true, .space)
  | 'W' => some (true, .word)
  | _ => none

/-- The number of digits in a character code without braces. -/
def codeDigits? : Char → Option Nat
  | 'x' => some 2
  | 'u' => some 4
  | 'U' => some 8
  | _ => none

/-- The side of a word that a name in braces stands for. -/
def wordSide? (name : List Char) : Option Anchor :=
  if name = "start".toList then some .wordStart
  else if name = "end".toList then some .wordEnd
  else if name = "start-half".toList then some .wordStartHalf
  else if name = "end-half".toList then some .wordEndHalf
  else none

/-- A character that a side of a word may be named by. -/
def isSideChar (c : Char) : Bool :=
  c.isAlpha || c == '-'

/-- Reads the code of a character behind its letter. -/
def readCode (extended : Bool) (digits : Nat) (cs : List Char) :
    Option (Primitive × List Char) :=
  match skip extended cs with
  | '\x7b' :: rest => do
    let (inside, rest) ← readBraced extended rest
    let n ← Numeral.read? 16 inside
    let c ← charOfCode? n
    some (.literal ⟨c, false⟩, rest)
  | start => do
    let (inside, rest) ← readHexDigits extended digits start
    let c ← charOfCode? (Numeral.value 16 inside)
    some (.literal ⟨c, digits == 2⟩, rest)

/-- Splits at the first place where a separator stands. -/
def splitAt? (separator : List Char) : List Char → Option (List Char × List Char)
  | [] => none
  | c :: cs =>
    if separator.isPrefixOf (c :: cs) then some ([], (c :: cs).drop separator.length)
    else (splitAt? separator cs).map fun r => (c :: r.1, r.2)

/-- The property that a text in braces asks for.  Of the three separators of name and
value one asks for another value, and is looked for first. -/
def propertyOf (inside : List Char) : Property :=
  match splitAt? "!=".toList inside with
  | some (name, value) => .valued name value true
  | none =>
    match (splitAt? ":".toList inside).or (splitAt? "=".toList inside) with
    | some (name, value) => .valued name value false
    | none => .named inside

/-- Reads the property behind its letter. -/
def readProperty (extended negated : Bool) (cs : List Char) : Option (Primitive × List Char) :=
  match skip extended cs with
  | [] => none
  | '\x7b' :: rest => do
    let (inside, rest) ← readBraced extended rest
    some (.property negated (propertyOf inside), rest)
  | c :: rest => if c = '\\' then none else some (.property negated (.named [c]), rest)

/-- Reads what stands behind the letter of a word boundary.  A brace that does not
begin with a letter or a hyphen counts repetitions and is left alone. -/
def readBoundary (extended : Bool) (cs : List Char) : Option (Primitive × List Char) :=
  match cs with
  | '\x7b' :: rest =>
    match skip extended rest with
    | [] => none
    | c :: _ =>
      if isSideChar c then do
        let (inside, rest) ← readBraced extended rest
        let side ← wordSide? inside
        some (.anchor side, rest)
      else some (.anchor .wordBoundary, cs)
  | _ => some (.anchor .wordBoundary, cs)

/-- Reads an escape behind its backslash. -/
def readEscape (extended : Bool) : List Char → Option (Primitive × List Char)
  | [] => none
  | c :: cs =>
    if c = 'p' ∨ c = 'P' then readProperty extended (c == 'P') cs
    else if c = 'b' then readBoundary extended cs
    else
      match codeDigits? c, shorthand? c with
      | some digits, _ => readCode extended digits cs
      | none, some (negated, kind) => some (.shorthand negated kind, cs)
      | none, none =>
        if isEscapable c then some (.literal ⟨c, false⟩, cs)
        else
          match control? c, anchor? c with
          | some l, _ => some (.literal ⟨l, false⟩, cs)
          | none, some a => some (.anchor a, cs)
          | none, none => none

/-- Digits name no earlier group. -/
example : readEscape false "1".toList = none := by decide +kernel

/-- A hyphen side of a word. -/
example : readEscape false "b\x7bstart-half\x7dx".toList =
    some (.anchor .wordStartHalf, ['x']) := by decide +kernel

end Pattern
end Tariff
