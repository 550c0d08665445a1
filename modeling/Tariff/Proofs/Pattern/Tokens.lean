import Tariff.Proofs.Pattern.Brackets

/-!
# Parts of a pattern

A pattern is read part by part, and each part is taken into what has been read so far.  Apart from
the extended form, how a part is read does not depend on what stands in front of it.

Main results:

- Theorem {lit}`Pattern.readPart_eq`: a part is read and then taken in.
- Theorem {lit}`Pattern.readToken_cut`: a part without what follows it.
-/

namespace Tariff
namespace Pattern

variable (extended : Bool)

/-! ## Repetitions -/

theorem isLocal_readGreed : IsLocal fun cs => some (readGreed cs) := by
  refine IsLocal.congr (isLocal_atHead (d := '?') (by decide) (isLocal_pure false)
    (isLocal_pure true)) fun cs => ?_
  unfold readGreed
  split
  · rfl
  · rename_i hother
    rw [atHead_of_ne _ _ hother]

theorem isLocal_readBounds : IsLocal (readBounds extended) := by
  have hmost := fun least : Nat => (isLocal_readCount extended).bind fun most =>
    isLocal_atHead (d := '\x7d') (by decide)
      (((isLocal_pure (⟨least, some most⟩ : Bounds)).skip extended).ite (least ≤ most)
        isLocal_none) isLocal_none
  refine IsLocal.congr (.skip extended ((isLocal_readCount extended).bind fun least =>
    isLocal_atHead (d := '\x7d') (by decide)
      ((isLocal_pure (⟨least, some least⟩ : Bounds)).skip extended)
      (isLocal_atHead (d := ',') (by decide)
        (.skip extended (isLocal_atHead (d := '\x7d') (by decide)
          ((isLocal_pure (⟨least, none⟩ : Bounds)).skip extended) (hmost least)))
        isLocal_none))) fun cs => ?_
  unfold readBounds
  cases readCount extended (skip extended cs) with
  | none => rfl
  | some p =>
    obtain ⟨least, rest⟩ := p
    simp only [Option.bind_eq_bind, Option.bind_some]
    split
    · rfl
    · rename_i rest
      rw [atHead_of_ne _ _ (by simp), atHead_self]
      split
      · rename_i hclosed
        rw [hclosed, atHead_self]
      · rename_i hother
        rw [atHead_of_ne _ _ hother]
        cases readCount extended (skip extended rest) with
        | none => rfl
        | some p =>
          obtain ⟨most, rest⟩ := p
          simp only [Option.bind_some]
          split
          · rw [atHead_self]
          · rename_i hother
            rw [atHead_of_ne _ _ hother]
    · rename_i hclose hcomma
      rw [atHead_of_ne _ _ hclose, atHead_of_ne _ _ hcomma]

/-! ## Tokens -/

/-- A part of a pattern, told without what stands around it. -/
inductive Token where
  | opening (o : Opening)
  | closing
  | bar
  | item (e : Expr)
  | repetition (bounds : Bounds) (greedy : Bool)
deriving DecidableEq

/-- Reads the part of a pattern that a character begins. -/
def readToken (c : Char) (cs : List Char) : Option (Token × List Char) :=
  match c with
  | '(' => (readOpening extended cs).bind fun p => some (.opening p.1, p.2)
  | ')' => some (.closing, cs)
  | '|' => some (.bar, cs)
  | '[' => ((Bracket.read extended cs).map regroup).bind fun p =>
    some (.item (.bracket p.1.1 p.1.2), p.2)
  | '?' => (some (readGreed cs)).bind fun p => some (.repetition ⟨0, some 1⟩ p.1, p.2)
  | '*' => (some (readGreed cs)).bind fun p => some (.repetition ⟨0, none⟩ p.1, p.2)
  | '+' => (some (readGreed cs)).bind fun p => some (.repetition ⟨1, none⟩ p.1, p.2)
  | '\x7b' => (readBounds extended cs).bind fun p =>
    (some (readGreed p.2)).bind fun q => some (.repetition p.1 q.1, q.2)
  | '\\' => (readEscape extended cs).bind fun p => some (.item p.1.toExpr, p.2)
  | '.' => some (.item .dot, cs)
  | '^' => some (.item (.anchor .lineStart), cs)
  | '$' => some (.item (.anchor .lineEnd), cs)
  | c => some (.item (.literal ⟨c, false⟩), cs)

/-- Takes a part in. -/
def Reading.take? (r : Reading) : Token → Option Reading
  | .opening o => r.openGroup? o
  | .closing => r.closeGroup?
  | .bar => some { r with level := r.level.branch }
  | .item e => some (r.push e)
  | .repetition bounds greedy => r.repeatLast? bounds.least bounds.most greedy

/-- A part is read and taken in. -/
theorem readPart_eq (r : Reading) (c : Char) (cs : List Char) :
    readPart r c cs = (readToken r.extended c cs).bind fun p =>
      (r.take? p.1).map fun r => (r, p.2) := by
  unfold readPart readToken
  split
  · cases readOpening r.extended cs with
    | none => rfl
    | some p => cases h : r.openGroup? p.1 <;> simp [Reading.take?, h]
  · rfl
  · rfl
  · cases Bracket.read r.extended cs <;> rfl
  · rfl
  · rfl
  · rfl
  · cases readBounds r.extended cs <;> rfl
  · cases readEscape r.extended cs <;> rfl
  · rfl
  · rfl
  · rfl
  · simp only [Option.bind_some, Reading.take?, Option.map_some]

theorem isLocal_readToken {c : Char} (hc : c ≠ '\\') : IsLocal (readToken extended c) := by
  unfold readToken
  split
  · exact (isLocal_readOpening extended).bind fun o => isLocal_pure (Token.opening o)
  · exact isLocal_pure _
  · exact isLocal_pure _
  · exact (Bracket.isLocal_read extended).bind fun p =>
      isLocal_pure (Token.item (.bracket p.1 p.2))
  · exact isLocal_readGreed.bind fun greedy => isLocal_pure (Token.repetition ⟨0, some 1⟩ greedy)
  · exact isLocal_readGreed.bind fun greedy => isLocal_pure (Token.repetition ⟨0, none⟩ greedy)
  · exact isLocal_readGreed.bind fun greedy => isLocal_pure (Token.repetition ⟨1, none⟩ greedy)
  · exact (isLocal_readBounds extended).bind fun bounds => isLocal_readGreed.bind fun greedy =>
      isLocal_pure (Token.repetition bounds greedy)
  · exact absurd rfl hc
  · exact isLocal_pure _
  · exact isLocal_pure _
  · exact isLocal_pure _
  · exact isLocal_pure _

theorem readToken_suffix {c : Char} {cs rest : List Char} {token : Token}
    (h : readToken extended c cs = some (token, rest)) : rest <:+ cs := by
  by_cases hc : c = '\\'
  · subst hc
    obtain ⟨⟨x, rest'⟩, hescape, heq⟩ := Option.bind_eq_some_iff.1 h
    cases heq
    exact (readEscape_suffix extended hescape).trans (List.tail_suffix cs)
  · exact (isLocal_readToken extended hc).suffix h

/-- Where a part of a pattern leaves over a closing parenthesis and what follows, it is read the
same without them.  Only a word boundary may see that something follows its brace. -/
theorem readToken_cut {c : Char} {cs rest t : List Char} {token : Token}
    (h : readToken extended c (cs ++ ')' :: t) = some (token, rest ++ ')' :: t)) :
    readToken extended c cs = some (token, rest) ∨
      ∃ e, token = .item e ∧ Dangles extended rest := by
  by_cases hc : c = '\\'
  · subst hc
    obtain ⟨⟨x, rest'⟩, hescape, heq⟩ := Option.bind_eq_some_iff.1 h
    cases heq
    rcases readEscape_cut extended hescape with hescape | ⟨-, hdangles⟩
    · exact .inl (Option.bind_eq_some_iff.2 ⟨_, hescape, rfl⟩)
    · exact .inr ⟨_, rfl, hdangles⟩
  · exact .inl ((isLocal_readToken extended hc).cut h)

end Pattern
end Tariff
