import Tariff.Pattern.Expr
import Tariff.Pattern.Scan
import Tariff.Unicode.Addition

/-!
# Groups

What may stand behind an opening parenthesis: nothing, a name, or flags, which change
how the rest of the enclosing group is read or how their own group is.
-/

namespace Tariff
namespace Pattern

/-- What an opening parenthesis begins. -/
inductive Opening where
  | capture (name : Option (List Char))
  /-- A group with flags of its own. -/
  | flagged (change : FlagChange)
  /-- Flags for what follows. -/
  | setFlags (change : FlagChange)
deriving DecidableEq, Repr

/-- The flag of a letter. -/
def flag? : Char → Option Flag
  | 'i' => some .ignoreCase
  | 'm' => some .multiLine
  | 's' => some .dotAll
  | 'U' => some .swapGreed
  | 'u' => some .unicode
  | 'R' => some .crlf
  | 'x' => some .extended
  | _ => none

/-- Reads flags up to a colon or a closing parenthesis, which is given back.  A flag
stands at most once, a hyphen at most once and not at the end. -/
def readFlags (change : FlagChange) (negated : Bool) :
    List Char → Option (FlagChange × Char × List Char)
  | [] => none
  | c :: cs =>
    if c = ':' ∨ c = ')' then
      if negated ∧ change.off = [] then none else some (change, c, cs)
    else if c = '-' then
      if negated then none else readFlags change true cs
    else
      match flag? c with
      | none => none
      | some f =>
        if (change.get? f).isSome then none
        else if negated then readFlags { change with off := change.off ++ [f] } true cs
        else readFlags { change with on := change.on ++ [f] } false cs

/-- A character that a group name may begin with. -/
def isNameStart (c : Char) : Bool :=
  c == '_' || c.isAlpha || Unicode.latestAlphabetic.contains c

/-- A character that a group name may go on with. -/
def isNameChar (c : Char) : Bool :=
  c == '_' || c == '.' || c == '[' || c == ']' || c.isAlphanum ||
    Unicode.latestAlphabetic.contains c || Unicode.latestNumeric.contains c

/-- Reads the name of a group up to its closing angle. -/
def readName (cs : List Char) : Option (List Char × List Char) :=
  let name := cs.takeWhile (· != '>')
  match name, cs.dropWhile (· != '>') with
  | c :: more, _ :: rest =>
    if isNameStart c && more.all isNameChar then some (name, rest) else none
  | _, _ => none

/-- Reads what stands behind an opening parenthesis.  Conditions on what follows or
went before are not supported. -/
def readOpening (extended : Bool) (cs : List Char) : Option (Opening × List Char) :=
  match skip extended cs with
  | '?' :: '=' :: _ | '?' :: '!' :: _ | '?' :: '<' :: '=' :: _ | '?' :: '<' :: '!' :: _ => none
  | '?' :: 'P' :: '<' :: rest | '?' :: '<' :: rest =>
    (readName rest).map fun r => (.capture (some r.1), r.2)
  | '?' :: rest =>
    match readFlags ⟨[], []⟩ false rest with
    | none => none
    | some (change, stop, rest) =>
      if stop = ':' then some (.flagged change, rest)
      else if change.on = [] ∧ change.off = [] then none
      else some (.setFlags change, rest)
  | rest => some (.capture none, rest)

/-- A hyphen must be followed by a flag. -/
example : readFlags ⟨[], []⟩ false "i-:a".toList = none := by decide +kernel

/-- A bare question mark sets no flag. -/
example : readOpening false "?)".toList = none := by decide +kernel

end Pattern
end Tariff
