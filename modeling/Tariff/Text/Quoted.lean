import Tariff.Unicode.Addition

/-!
# Quoted text

How a message shows a text that somebody else wrote: between double quotes, with
the characters escaped that could not be told apart or would not show.

Main results:

- Theorem {lit}`Quoted.encodeChar_of_plain`: a character that is neither escaped by
  a letter nor hidden stands for itself.
- Theorem {lit}`Quoted.quote_toList`: a quoted text is its escaped characters between
  two quotes.
-/

namespace Tariff
namespace Text
namespace Quoted

/-- The letter that stands behind the backslash for a character. -/
def letter? : Char → Option Char
  | '"' => some '"'
  | '\\' => some '\\'
  | '\n' => some 'n'
  | '\r' => some 'r'
  | '\t' => some 't'
  | '\x00' => some '0'
  | _ => none

/-- The characters that do not show: controls, formats, unassigned and private
characters, all separators, and what may be ignored. -/
def unseen : CharSet :=
  (Unicode.categoryUnion ["cc", "cf", "cn", "co", "zl", "zp", "zs"]).union
    ((Unicode.find? Unicode.binaryProperties "di").getD CharSet.empty)

/-- The marks that join the character before them. -/
def joining : CharSet :=
  ((Unicode.find? Unicode.binaryProperties "graphemeextend").getD CharSet.empty).inter
    (Unicode.categoryUnion ["mc", "me", "mn"])

/-- The characters that do not show on their own. -/
def hidden : CharSet :=
  (unseen.union joining).diff Unicode.newVisible

/-- The character would not show on its own.  Among ASCII characters the controls would
not; the space does. -/
def isHidden (c : Char) : Bool :=
  if c.toNat < 0x80 then decide (c.toNat < 0x20) || decide (c.toNat = 0x7F)
  else hidden.contains c

/-- The code point of a hidden character, in braces. -/
def codePoint (c : Char) : List Char :=
  ['\\', 'u', '\x7b'] ++ Nat.toDigits 16 c.toNat ++ ['\x7d']

/-- The written form of one character. -/
def encodeChar (c : Char) : List Char :=
  match letter? c with
  | some l => ['\\', l]
  | none => if isHidden c then codePoint c else [c]

/-- The text between double quotes. -/
def quote (s : String) : String :=
  String.ofList ('"' :: s.toList.flatMap encodeChar ++ ['"'])

/-- A character without a letter of its own that shows stands for itself. -/
theorem encodeChar_of_plain {c : Char} (hl : letter? c = none) (hh : isHidden c = false) :
    encodeChar c = [c] := by
  simp [encodeChar, hl, hh]

/-- The characters of a quoted text. -/
@[simp] theorem quote_toList (s : String) :
    (quote s).toList = '"' :: s.toList.flatMap encodeChar ++ ['"'] := by
  simp [quote]

end Quoted
end Text
end Tariff
