import Tariff.Toml.Value

/-!
# TOML numbers and dates

Whole numbers in four bases, decimal fractions, dates and times.  An underscore may
stand between two digits.

Main results:

- Theorem {lit}`Toml.daysIn_pos`: every month has days.
-/

namespace Tariff
namespace Toml

/-! ## Digits -/

/-- The digits at the front behind a first one, underscores left out. -/
def moreDigits (base : Nat) : List Char → List Char × List Char
  | [] => ([], [])
  | '_' :: d :: cs =>
    if Numeral.isDigit base d then
      let r := moreDigits base cs
      (d :: r.1, r.2)
    else ([], '_' :: d :: cs)
  | c :: cs =>
    if Numeral.isDigit base c then
      let r := moreDigits base cs
      (c :: r.1, r.2)
    else ([], c :: cs)

/-- Reads one digit or more. -/
def readDigits (base : Nat) : List Char → Option (List Char × List Char)
  | [] => none
  | c :: cs =>
    if Numeral.isDigit base c then
      let r := moreDigits base cs
      some (c :: r.1, r.2)
    else none

/-- Reads a whole number in decimal without its sign: a zero, or digits of which the first
is none. -/
def readWhole : List Char → Option (List Char × List Char)
  | '0' :: cs => some (['0'], cs)
  | cs => readDigits 10 cs

/-- The whole numbers that can be written. -/
def isInteger (n : Int) : Bool :=
  decide (-9223372036854775808 ≤ n) && decide (n ≤ 9223372036854775807)

/-- Reads a whole number.  Only decimals have a sign. -/
def readInteger (cs : List Char) : Option (Int × List Char) :=
  let based (base : Nat) (cs : List Char) : Option (Int × List Char) := do
    let (ds, rest) ← readDigits base cs
    some (Int.ofNat (Numeral.value base ds), rest)
  let read := match cs with
    | '0' :: 'x' :: cs => based 16 cs
    | '0' :: 'o' :: cs => based 8 cs
    | '0' :: 'b' :: cs => based 2 cs
    | _ => do
      let (negative, cs) := Decimal.splitSign cs
      let (ds, rest) ← readWhole cs
      let n := Int.ofNat (Numeral.value 10 ds)
      some (if negative then -n else n, rest)
  match read with
  | some (n, rest) => if isInteger n then some (n, rest) else none
  | none => none

/-! ## Fractions -/

/-- Reads the digits behind a point, if there is one. -/
def readFraction : List Char → Option (Option (List Char) × List Char)
  | '.' :: cs => (readDigits 10 cs).map fun r => (some r.1, r.2)
  | cs => some (none, cs)

/-- Reads an exponent, if there is one. -/
def readExponent : List Char → Option (Option Int × List Char)
  | [] => some (none, [])
  | c :: cs =>
    if c = 'e' ∨ c = 'E' then do
      let (negative, cs) := Decimal.splitSign cs
      let (ds, rest) ← readDigits 10 cs
      let n := Int.ofNat (Numeral.value 10 ds)
      some (some (if negative then -n else n), rest)
    else some (none, c :: cs)

/-- The number is not too large for double precision.  Numbers below zero may be. -/
def isInRange (d : Decimal) : Bool :=
  match d with
  | .finite false _ _ => d.toFloat < 1.0 / 0.0
  | _ => true

/-- Reads a number with a point or an exponent, or the name of a special one. -/
def readFloat (cs : List Char) : Option (Decimal × List Char) :=
  let (negative, cs) := Decimal.splitSign cs
  match cs with
  | 'i' :: 'n' :: 'f' :: rest => some (.infinite negative, rest)
  | 'n' :: 'a' :: 'n' :: rest => some (.nan, rest)
  | _ => do
    let (whole, rest) ← readWhole cs
    let (fraction, rest) ← readFraction rest
    let (exponent, rest) ← readExponent rest
    if fraction.isNone ∧ exponent.isNone then none
    else
      let digits := fraction.getD []
      let d := Decimal.finite negative (Numeral.value 10 (whole ++ digits))
        (exponent.getD 0 - digits.length)
      if isInRange d then some (d, rest) else none

/-! ## Dates and times -/

/-- Reads a number of exactly so many digits within bounds. -/
def readField (size lo hi : Nat) (cs : List Char) : Option (Nat × List Char) := do
  let ds := cs.take size
  let n ← Numeral.read? 10 ds
  if ds.length = size ∧ lo ≤ n ∧ n ≤ hi then some (n, cs.drop size) else none

/-- Takes a character off the front. -/
def readChar (c : Char) : List Char → Option (List Char)
  | d :: cs => if d = c then some cs else none
  | [] => none

/-- The year has a day more. -/
def isLeap (year : Nat) : Bool :=
  year % 4 == 0 && (year % 100 != 0 || year % 400 == 0)

/-- The number of days in a month. -/
def daysIn (year month : Nat) : Nat :=
  if month = 2 then (if isLeap year then 29 else 28)
  else if month = 4 ∨ month = 6 ∨ month = 9 ∨ month = 11 then 30
  else 31

/-- What is left behind a date. -/
def passDate (cs : List Char) : Option (List Char) := do
  let (year, cs) ← readField 4 0 9999 cs
  let cs ← readChar '-' cs
  let (month, cs) ← readField 2 1 12 cs
  let cs ← readChar '-' cs
  let (_, cs) ← readField 2 1 (daysIn year month) cs
  some cs

/-- What is left behind a time of day. -/
def passTime (cs : List Char) : Option (List Char) := do
  let (_, cs) ← readField 2 0 23 cs
  let cs ← readChar ':' cs
  let (_, cs) ← readField 2 0 59 cs
  let cs ← readChar ':' cs
  let (_, cs) ← readField 2 0 60 cs
  match cs with
  | '.' :: rest =>
    let r := Decimal.splitDigits rest
    some (if r.1.isEmpty then cs else r.2)
  | _ => some cs

/-- What is left behind an offset from universal time. -/
def passOffset (cs : List Char) : Option (List Char) :=
  match cs with
  | c :: rest =>
    if c = 'Z' ∨ c = 'z' then some rest
    else if c = '+' ∨ c = '-' then do
      let (_, rest) ← readField 2 0 23 rest
      let rest ← readChar ':' rest
      let (_, rest) ← readField 2 0 59 rest
      some rest
    else none
  | [] => none

/-- What is left behind a time that follows a date. -/
def passTimeOfDate (cs : List Char) : Option (List Char) :=
  match cs with
  | c :: rest =>
    if c = 'T' ∨ c = 't' ∨ c = ' ' then do
      let rest ← passTime rest
      some ((passOffset rest).getD rest)
    else none
  | [] => none

/-- What is left behind a date, a time or both. -/
def passDateTime (cs : List Char) : Option (List Char) :=
  match passDate cs with
  | some rest => some ((passTimeOfDate rest).getD rest)
  | none => passTime cs

/-- Reads a number, a date or a time. -/
def readNumber (cs : List Char) : Option (Value × List Char) :=
  match passDateTime cs with
  | some rest =>
    some (.dateTime (String.ofList (cs.take (cs.length - rest.length))), rest)
  | none =>
    match readFloat cs with
    | some (d, rest) => some (.float d, rest)
    | none => (readInteger cs).map fun r => (.integer r.1, r.2)

/-- Every month has days. -/
theorem daysIn_pos (year month : Nat) : 28 ≤ daysIn year month := by
  unfold daysIn
  split
  · split <;> omega
  · split <;> omega

/-- Not every fourth year is a leap year. -/
example : ([1900, 2000, 2023, 2024].map isLeap) = [false, true, false, true] := by decide

end Toml
end Tariff
