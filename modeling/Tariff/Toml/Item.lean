import Tariff.Toml.Key
import Tariff.Toml.Number

/-!
# TOML items

Reading values of every kind.  Arrays may run over several lines and may end with a
comma; tables in braces stand on one line and may not.  How deep they nest is limited.

Main results:

- Theorem {lit}`Toml.passLines_suffix`: passing over lines takes characters off the front
  and changes none.
-/

namespace Tariff
namespace Toml

/-! ## Between the items of an array -/

/-- What is left behind blanks, line ends and comments at the front.  A comment, which is
being passed over where the flag holds, ends with its line. -/
def passLines : Bool → List Char → Option (List Char)
  | _, '\n' :: cs => passLines false cs
  | _, '\r' :: '\n' :: cs => passLines false cs
  | true, [] => none
  | true, c :: cs => if isPlain c then passLines true cs else none
  | false, [] => some []
  | false, c :: cs =>
    if c = '#' then passLines true cs
    else if isBlank c then passLines false cs
    else some (c :: cs)

/-! ## Values that hold values -/

/-- Reads the items of an array and its closing bracket. -/
def readItems (read : List Char → Option (Value × List Char)) :
    Nat → List Char → Option (List Value × List Char)
  | 0, _ => none
  | fuel + 1, cs =>
    match passLines false cs with
    | none => none
    | some (']' :: rest) => some ([], rest)
    | some cs => do
      let (v, rest) ← read cs
      match ← passLines false rest with
      | ']' :: rest => some ([v], rest)
      | ',' :: rest => (readItems read fuel rest).map fun r => (v :: r.1, r.2)
      | _ => none

/-- Reads a key, an equals sign and a value. -/
def readPair (read : List Char → Option (Value × List Char)) (cs : List Char) :
    Option ((Path × Value) × List Char) := do
  let (path, rest) ← readKey cs
  match rest with
  | '=' :: rest =>
    let (v, rest) ← read (dropBlanks rest)
    some ((path, v), dropBlanks rest)
  | _ => none

/-- Reads the keys with values of a table in braces, one at least, and the closing
brace. -/
def readPairs (read : List Char → Option (Value × List Char)) :
    Nat → List Char → Option (List (Path × Value) × List Char)
  | 0, _ => none
  | fuel + 1, cs => do
    let (p, rest) ← readPair read cs
    match rest with
    | '\x7d' :: rest => some ([p], rest)
    | ',' :: rest => (readPairs read fuel rest).map fun r => (p :: r.1, r.2)
    | _ => none

/-- The table of keys with values. -/
def ofPairs? (ps : List (Path × Value)) : Option Entries :=
  ps.foldlM (fun es p => insertAt p.1.way p.1.key p.2 .braces es) .empty

/-- Reads a table behind its opening brace. -/
def readTable (read : List Char → Option (Value × List Char)) (cs : List Char) :
    Option (Value × List Char) :=
  match dropBlanks cs with
  | '\x7d' :: rest => some (.table .braces .empty, rest)
  | cs => do
    let (ps, rest) ← readPairs read cs.length cs
    let es ← ofPairs? ps
    some (.table .braces es, rest)

/-! ## Values -/

/-- Reads a value that holds no other. -/
def readScalar : List Char → Option (Value × List Char)
  | 't' :: 'r' :: 'u' :: 'e' :: rest => some (.boolean true, rest)
  | 'f' :: 'a' :: 'l' :: 's' :: 'e' :: rest => some (.boolean false, rest)
  | [] => none
  | c :: cs =>
    if c = '"' ∨ c = '\'' then
      (readText (c :: cs)).map fun r => (.string (String.ofList r.1), r.2)
    else readNumber (c :: cs)

/-- Reads a value of any kind, in which values nest at most so deep. -/
def readItem (nesting : Nat) (cs : List Char) : Option (Value × List Char) :=
  match nesting, cs with
  | 0, '[' :: _ => none
  | nesting + 1, '[' :: rest =>
    (readItems (readItem nesting) (rest.length + 1) rest).map fun r => (.array r.1, r.2)
  | 0, '\x7b' :: _ => none
  | nesting + 1, '\x7b' :: rest => readTable (readItem nesting) rest
  | _, cs => readScalar cs

/-- The depth to which values cannot nest. -/
def maxNesting : Nat := 80

/-- Reads a value. -/
def readValue (cs : List Char) : Option (Value × List Char) :=
  readItem (maxNesting - 1) cs

/-! ## Laws -/

/-- Passing over lines takes characters off the front and changes none. -/
theorem passLines_suffix {inComment : Bool} {cs rest : List Char}
    (h : passLines inComment cs = some rest) : rest <:+ cs := by
  fun_induction passLines inComment cs with
  | case1 _ cs ih => exact (ih h).trans (List.suffix_cons ..)
  | case2 _ cs ih => exact (ih h).trans ((List.suffix_cons ..).trans (List.suffix_cons ..))
  | case3 => cases h
  | case4 c cs _ _ _ ih => exact (ih h).trans (List.suffix_cons ..)
  | case5 => cases h
  | case6 => cases h; exact List.suffix_refl _
  | case7 _ _ _ ih => exact (ih h).trans (List.suffix_cons ..)
  | case8 _ _ _ _ _ _ ih => exact (ih h).trans (List.suffix_cons ..)
  | case9 => cases h; exact List.suffix_refl _

/-- An array is read to the depth that is left, and no deeper. -/
example : [0, 1, 2].map (fun n => (readItem n ['[', '[', ']', ']']).isSome) =
    [false, false, true] := by decide +kernel

end Toml
end Tariff
