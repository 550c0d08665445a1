import Tariff.Pattern.Regex

/-!
# Outlines

The outline of a regular expression is what its automaton is built from.  It matches the
same texts, but neighbouring characters are one text, branches that take one character
each are one set, and what all branches begin with stands in front of them.

Main results:

- Theorem {lit}`Outline.choice_branches`: an outline is the choice between its branches.
-/

namespace Tariff
namespace Pattern

/-- A part of an outline that has no parts. -/
inductive Piece where
  /-- Characters that stand for themselves, by their code points. -/
  | text (chars : List Nat)
  | set (s : CharSet)
  | look (l : Regex.Look)
deriving DecidableEq, Repr

/-- An outline.  No item of a sequence is a sequence or empty, no two of its neighbours
are texts, and no branch is a choice. -/
abbrev Outline := Regex Piece

namespace Outline

/-! ## Sequences -/

/-- An item put in front of an outline. -/
def cons (a b : Outline) : Outline :=
  match a, b with
  | .empty, b => b
  | a, .empty => a
  | .leaf (.text xs), .leaf (.text ys) => .leaf (.text (xs ++ ys))
  | .leaf (.text xs), .cat (.leaf (.text ys)) rest => .cat (.leaf (.text (xs ++ ys))) rest
  | a, b => .cat a b

/-- One outline after the other. -/
def append : Outline → Outline → Outline
  | .cat a rest, b => cons a (append rest b)
  | a, b => cons a b

/-- The sequence of some items. -/
def sequence (items : List Outline) : Outline :=
  items.foldr append .empty

/-- The items of a sequence. -/
def items : Outline → List Outline
  | .cat a rest => a :: items rest
  | a => [a]

/-! ## Branches -/

/-- The branches of a choice. -/
def branches : Outline → List Outline
  | .alt a rest => a :: branches rest
  | a => [a]

/-- The choice between some branches, as it stands. -/
def choice : List Outline → Outline
  | [] => .empty
  | [a] => a
  | a :: rest => .alt a (choice rest)

/-- The outline that takes a character of a set. -/
def ofSet (s : CharSet) : Outline :=
  match s.ranges with
  | [r] => if r.1 = r.2 then .leaf (.text [r.1]) else .leaf (.set s)
  | _ => .leaf (.set s)

/-- The character that an outline stands for, if it is a text of one character. -/
def char? : Outline → Option Nat
  | .leaf (.text [c]) => some c
  | _ => none

/-- The set that an outline takes a character of, if it is a set of not just one. -/
def set? : Outline → Option CharSet
  | .leaf (.set s) => some s
  | _ => none

/-- The set that some branches make up together: if all of them are characters, or all
are sets. -/
def union? (alts : List Outline) : Option CharSet :=
  ((alts.mapM char?).map fun cs => CharSet.ofRanges (cs.map fun c => (c, c))).or
    ((alts.mapM set?).map fun sets => sets.foldr CharSet.union CharSet.empty)

/-- The choice between some branches, which are one set where they can be. -/
def merge (alts : List Outline) : Outline :=
  match union? alts with
  | some s => ofSet s
  | none => choice alts

/-- There is a group in the outline whose place is kept. -/
def keepsPlace : Outline → Bool
  | .empty | .leaf _ => false
  | .cat r s | .alt r s => keepsPlace r || keepsPlace s
  | .loop r _ _ _ => keepsPlace r
  | .group capturing r => capturing || keepsPlace r

/-- The items that two sequences both begin with.  Groups whose place is kept are never
the same. -/
def common : List Outline → List Outline → List Outline
  | a :: as, b :: bs => if a = b ∧ ¬ keepsPlace a then a :: common as bs else []
  | _, _ => []

/-- The items that some branches all begin with, if all of them are sequences. -/
def shared : List Outline → List Outline
  | [] => []
  | first :: rest =>
    if (first :: rest).all fun b => decide (1 < (items b).length) then
      rest.foldl (fun shared b => common shared (items b)) (items first)
    else []

/-- The choice between some branches, none of which is a choice.  What they all begin
with is taken out in front; what is left of them has no such beginning any more. -/
def factor (alts : List Outline) : Outline :=
  match shared alts with
  | [] => choice alts
  | first =>
    append (sequence first)
      (merge (alts.flatMap fun b => branches (sequence ((items b).drop first.length))))

/-- The choice between some alternatives, whose own branches count as branches. -/
def either : List Outline → Outline
  | [a] => a
  | alternatives =>
    let alts := alternatives.flatMap branches
    match union? alts with
    | some s => ofSet s
    | none => factor alts

/-! ## Repetitions -/

/-- The outline can only match the empty text. -/
def isBlank : Outline → Bool
  | .empty | .leaf (.look _) => true
  | .leaf (.text _) | .leaf (.set _) => false
  | .cat r s | .alt r s => isBlank r && isBlank s
  | .loop r _ most _ => isBlank r && most.isSome
  | .group _ r => isBlank r

/-- A repetition.  What can only match the empty text is not repeated. -/
def repeated (r : Outline) (least : Nat) (most : Option Nat) (greedy : Bool) : Outline :=
  let least := if isBlank r then min least 1 else least
  let most := if isBlank r then some (min (most.getD 1) 1) else most
  if most = some 0 then .empty
  else if least = 1 ∧ most = some 1 then r
  else .loop r least most greedy

/-! ## Outlines of expressions -/

/-- The alternatives of an expression.  A group is one alternative. -/
def alternatives : Regex Regex.Leaf → List Outline
  | .empty => [.empty]
  | .leaf (.set s) => [ofSet s]
  | .leaf (.look l) => [.leaf (.look l)]
  | .cat r s => [append (either (alternatives r)) (either (alternatives s))]
  | .alt r s => either (alternatives r) :: alternatives s
  | .loop r least most greedy => [repeated (either (alternatives r)) least most greedy]
  | .group capturing r =>
    let inner := either (alternatives r)
    [if capturing then .group true inner else inner]

/-- The outline of an expression. -/
def ofRegex (r : Regex Regex.Leaf) : Outline :=
  either (alternatives r)

/-! ## What outlines say -/

/-- The fewest characters that the outline matches, if it can match at all. -/
def minLength? : Outline → Option Nat
  | .empty | .leaf (.look _) => some 0
  | .leaf (.text cs) => some cs.length
  | .leaf (.set s) => if s.ranges.isEmpty then none else some 1
  | .cat r s => do
    let m ← minLength? r
    let n ← minLength? s
    some (m + n)
  | .alt r s => do
    let m ← minLength? r
    let n ← minLength? s
    some (min m n)
  | .loop r least _ _ => (minLength? r).map (least * ·)
  | .group _ r => minLength? r

/-- Every match begins at a place where a condition holds that the outline names. -/
def beginsWith (l : Regex.Look) : Outline → Bool
  | .leaf (.look l') => l == l'
  | .cat r s => beginsWith l r || (isBlank r && beginsWith l s)
  | .alt r s => beginsWith l r && beginsWith l s
  | .loop r least _ _ => decide (0 < least) && beginsWith l r
  | .group _ r => beginsWith l r
  | .empty | .leaf (.text _) | .leaf (.set _) => false

/-- Every match ends at a place where a condition holds that the outline names. -/
def endsWith (l : Regex.Look) : Outline → Bool
  | .leaf (.look l') => l == l'
  | .cat r s => endsWith l s || (isBlank s && endsWith l r)
  | .alt r s => endsWith l r && endsWith l s
  | .loop r least _ _ => decide (0 < least) && endsWith l r
  | .group _ r => endsWith l r
  | .empty | .leaf (.text _) | .leaf (.set _) => false

/-! ## Laws -/

/-- Nothing behind an item adds nothing. -/
@[simp] theorem cons_empty (a : Outline) : cons a .empty = a := by
  cases a <;> rfl

/-- An outline is the choice between its branches. -/
theorem choice_branches (a : Outline) : choice (branches a) = a := by
  induction a with
  | alt a rest _ ih =>
    unfold branches
    match h : branches rest with
    | [] => cases rest <;> simp [branches] at h
    | b :: bs => rw [choice, ← h, ih]; simp
  | _ => rfl

/-- Two characters are a set. -/
example : union? [.leaf (.text [0x61]), .leaf (.text [0x62])] = some ⟨[(0x61, 0x62)]⟩ := by
  decide +kernel

end Outline
end Pattern
end Tariff
