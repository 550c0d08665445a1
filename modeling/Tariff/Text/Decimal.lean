import Tariff.Text.Numeral

/-!
# Decimal numbers

Numbers written in decimal, with an optional sign, point and exponent, and the words
for the two infinities and for no number.  A number that is read stands for the nearest
number of double precision.

Main results:

- Theorem {lit}`Decimal.split_append`: cutting off the leading digits loses nothing.
-/

namespace Tariff

/-- What a text says about a number. -/
inductive Decimal where
  /-- A whole number times a power of ten. -/
  | finite (negative : Bool) (mantissa : Nat) (exponent : Int)
  | infinite (negative : Bool)
  | nan
deriving DecidableEq, Repr

namespace Decimal

/-- The sign at the front, {lit}`true` for a minus, and what follows it. -/
def splitSign : List Char → Bool × List Char
  | '-' :: cs => (true, cs)
  | '+' :: cs => (false, cs)
  | cs => (false, cs)

/-- The leading digits, and what follows them. -/
def splitDigits (cs : List Char) : List Char × List Char :=
  (cs.takeWhile (Numeral.isDigit 10), cs.dropWhile (Numeral.isDigit 10))

/-- Reads an exponent behind its letter: an optional sign and digits to the end. -/
def readExponent (cs : List Char) : Option Int :=
  let (negative, ds) := splitSign cs
  (Numeral.read? 10 ds).map fun n => if negative then -Int.ofNat n else Int.ofNat n

/-- Reads what may follow the digits of a number: nothing or an exponent. -/
def readTail : List Char → Option Int
  | [] => some 0
  | 'e' :: cs | 'E' :: cs => readExponent cs
  | _ => none

/-- Reads a number without a sign: digits with at most one point among them, and an
exponent.  There must be a digit on either side of the point. -/
def readFinite (negative : Bool) (cs : List Char) : Option Decimal := do
  let (whole, rest) := splitDigits cs
  let (fraction, rest) : List Char × List Char :=
    match rest with
    | '.' :: rest => splitDigits rest
    | rest => ([], rest)
  let mantissa ← Numeral.read? 10 (whole ++ fraction)
  let exponent ← readTail rest
  some (finite negative mantissa (exponent - fraction.length))

/-- Reads a number.  The words count in either case. -/
def read? (cs : List Char) : Option Decimal :=
  let (negative, cs) := splitSign cs
  let word := String.ofList (cs.map Char.toLower)
  if word = "inf" ∨ word = "infinity" then some (infinite negative)
  else if word = "nan" then some nan
  else readFinite negative cs

/-- The greatest magnitude, as a power of ten, that a number of double precision can
come near. -/
def maxMagnitude : Int := 400

/-- The nearest number of double precision.  Far beyond the greatest and below the
least of them the powers of ten are not computed. -/
def toFloat : Decimal → Float
  | finite negative mantissa exponent =>
    let magnitude := exponent + (Nat.toDigits 10 mantissa).length
    let size : Float :=
      if mantissa = 0 ∨ magnitude < -maxMagnitude then 0.0
      else if maxMagnitude < magnitude then 1.0 / 0.0
      else Float.ofScientific mantissa (exponent < 0) exponent.natAbs
    if negative then -size else size
  | infinite negative => if negative then -(1.0 / 0.0) else 1.0 / 0.0
  | nan => 0.0 / 0.0

/-- Cutting off the leading digits loses nothing. -/
theorem split_append (cs : List Char) : (splitDigits cs).1 ++ (splitDigits cs).2 = cs :=
  List.takeWhile_append_dropWhile

/-- The point may stand at either end, but not alone. -/
example : [".5", "5.", ".", "1e", "-1.5E+3"].map (fun s => read? s.toList) =
    [some (finite false 5 (-1)), some (finite false 5 0), none, none,
      some (finite true 15 2)] := by decide +kernel

end Decimal
end Tariff
