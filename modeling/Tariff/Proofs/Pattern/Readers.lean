import Tariff.Proofs.Pattern.Local

/-!
# Readers of escapes and groups

What a backslash introduces and what an opening parenthesis begins is told by the characters up to
its end.  A word boundary alone looks at what follows, since a brace behind it may name a side of a
word or count repetitions.

Main results:

- Theorem {lit}`Pattern.readEscape_cut`: an escape without what follows it.
- Theorem {lit}`Pattern.isLocal_readOpening`: what an opening parenthesis begins.
-/

namespace Tariff
namespace Pattern

variable (extended : Bool)

/-! ## Numbers and codes -/

theorem isLocal_readCount : IsLocal (readCount extended) :=
  ((isLocal_run extended _).bind fun ds => isLocal_optionBind (Numeral.read? 10 ds) fun n =>
    ((isLocal_pure n).dropWhile Text.isBlank).ite (n ≤ maxCount) isLocal_none).dropWhile
      Text.isBlank

theorem isLocal_readHexDigits (n : Nat) : IsLocal (readHexDigits extended n) := by
  induction n with
  | zero => exact isLocal_pure []
  | succ n ih =>
    exact IsLocal.congr (.skip extended (isLocal_cons fun c =>
      (ih.map (c :: ·)).ite (Numeral.isDigit 16 c) isLocal_none)) fun _ => rfl

theorem isLocal_readBraced : IsLocal (readBraced extended) := by
  refine ((isLocal_run extended (· != '\x7d')).bind fun inside => isLocal_cons fun _ =>
    isLocal_pure inside).congr fun cs => ?_
  rw [readBraced, Option.bind_some]
  split <;> rename_i hrun <;> rw [hrun]

theorem isLocal_readCode (digits : Nat) : IsLocal (readCode extended digits) := by
  refine IsLocal.congr (.skip extended (isLocal_atHead (d := '\x7b') (by decide)
    ((isLocal_readBraced extended).bind fun inside =>
      isLocal_optionBind (Numeral.read? 16 inside) fun n =>
        isLocal_optionBind (charOfCode? n) fun c => isLocal_pure (.literal ⟨c, false⟩))
    ((isLocal_readHexDigits extended digits).bind fun inside =>
      isLocal_optionBind (charOfCode? (Numeral.value 16 inside)) fun c =>
        isLocal_pure (.literal ⟨c, digits == 2⟩)))) fun cs => ?_
  rw [readCode]
  split
  · rename_i hskip
    rw [hskip, atHead_self]
    rfl
  · rename_i hother
    rw [atHead_of_ne _ _ hother]
    rfl

theorem isLocal_readProperty (negated : Bool) : IsLocal (readProperty extended negated) := by
  refine IsLocal.congr (.skip extended (isLocal_atHead (d := '\x7b') (by decide)
    ((isLocal_readBraced extended).bind fun inside =>
      isLocal_pure (.property negated (propertyOf inside)))
    (isLocal_cons fun c =>
      isLocal_none.ite (c = '\\') (isLocal_pure (.property negated (.named [c])))))) fun cs => ?_
  rw [readProperty]
  split
  · rename_i hskip
    rw [hskip]
    rfl
  · rename_i hskip
    rw [hskip, atHead_self]
    rfl
  · rename_i c rest hother hskip
    rw [hskip, atHead, if_neg hother]

/-! ## Escapes -/

/-- There is a brace, and behind it nothing that counts. -/
def Dangles (cs : List Char) : Prop :=
  ∃ rest, cs = '\x7b' :: rest ∧ skip extended rest = []

theorem readBoundary_suffix {cs rest : List Char} {x : Primitive}
    (h : readBoundary extended cs = some (x, rest)) : rest <:+ cs := by
  unfold readBoundary at h
  split at h
  · split at h
    · cases h
    · split at h
      · obtain ⟨⟨inside, rest⟩, hbraced, h⟩ := Option.bind_eq_some_iff.1 h
        obtain ⟨side, -, h⟩ := Option.bind_eq_some_iff.1 h
        cases h
        exact ((isLocal_readBraced extended).suffix hbraced).trans (List.suffix_cons _ _)
      · cases h
        exact List.suffix_refl _
  · cases h
    exact List.suffix_refl _

/-- A brace behind a word boundary is looked into, and left over if nothing that counts follows. -/
theorem readBoundary_cut {cs rest t : List Char} {x : Primitive}
    (h : readBoundary extended (cs ++ ')' :: t) = some (x, rest ++ ')' :: t)) :
    readBoundary extended cs = some (x, rest) ∨
      x = .anchor .wordBoundary ∧ Dangles extended rest := by
  rcases cs with _ | ⟨c, cs⟩
  · obtain ⟨rfl, hrest⟩ := Prod.mk.inj (Option.some.inj h)
    obtain rfl : [] = rest := List.append_cancel_right hrest
    exact .inl rfl
  · by_cases hc : c = '\x7b'
    · subst hc
      rw [List.cons_append, readBoundary] at h
      by_cases hskip : skip extended cs = []
      · have hbraced : readBraced extended cs = none := by
          rw [readBraced, run_of_skip extended hskip]
        split at h
        · cases h
        · split at h
          · obtain ⟨⟨inside, rest'⟩, hread, h⟩ := Option.bind_eq_some_iff.1 h
            obtain ⟨side, -, h⟩ := Option.bind_eq_some_iff.1 h
            cases h
            rw [(isLocal_readBraced extended).cut hread] at hbraced
            cases hbraced
          · obtain ⟨rfl, hrest⟩ := Prod.mk.inj (Option.some.inj h)
            obtain rfl : '\x7b' :: cs = rest := List.append_cancel_right hrest
            exact .inr ⟨rfl, cs, rfl, hskip⟩
      · obtain ⟨d, rest', hd⟩ := List.exists_cons_of_ne_nil hskip
        rw [skip_append extended hskip, hd] at h
        left
        rw [readBoundary, hd]
        simp only [List.cons_append] at h ⊢
        split at h
        · obtain ⟨⟨inside, mid⟩, hread, h⟩ := Option.bind_eq_some_iff.1 h
          obtain ⟨side, hside, h⟩ := Option.bind_eq_some_iff.1 h
          cases h
          rw [if_pos ‹_›, (isLocal_readBraced extended).cut hread]
          simp [hside]
        · obtain ⟨rfl, hrest⟩ := Prod.mk.inj (Option.some.inj h)
          obtain rfl : '\x7b' :: cs = rest := List.append_cancel_right hrest
          exact if_neg ‹_›
    · have hplain : ∀ cs,
          readBoundary extended (c :: cs) = some (.anchor .wordBoundary, c :: cs) := by
        intro cs
        unfold readBoundary
        split
        · rename_i heq
          exact absurd (List.cons.inj heq).1 hc
        · rfl
      rw [List.cons_append, hplain] at h
      obtain ⟨rfl, hrest⟩ := Prod.mk.inj (Option.some.inj h)
      obtain rfl : c :: cs = rest := List.append_cancel_right hrest
      exact .inl (hplain cs)

/-- What stands behind any letter but that of a word boundary is read without looking further
ahead. -/
theorem isLocal_readEscape {c : Char} (hc : c ≠ 'b') :
    IsLocal fun cs => readEscape extended (c :: cs) := by
  simp only [readEscape, if_neg hc]
  refine (isLocal_readProperty extended (c == 'P')).ite (c = 'p' ∨ c = 'P') ?_
  cases codeDigits? c with
  | some digits => exact isLocal_readCode extended digits
  | none =>
    cases shorthand? c with
    | some kind => exact isLocal_pure _
    | none =>
      refine (isLocal_pure _).ite (isEscapable c = true) ?_
      cases control? c with
      | some l => exact isLocal_pure _
      | none =>
        cases anchor? c with
        | some a => exact isLocal_pure _
        | none => exact isLocal_none

/-- An escape takes its letter. -/
theorem readEscape_suffix {cs rest : List Char} {x : Primitive}
    (h : readEscape extended cs = some (x, rest)) : rest <:+ cs.tail := by
  match cs with
  | [] => cases h
  | c :: cs =>
    by_cases hc : c = 'b'
    · subst hc
      exact readBoundary_suffix extended h
    · exact (isLocal_readEscape extended hc).suffix h

/-- A reader of an escape that leaves a parenthesis over does not need it, unless it read a
boundary of words behind which a brace dangles. -/
theorem readEscape_cut {cs rest t : List Char} {x : Primitive}
    (h : readEscape extended (cs ++ ')' :: t) = some (x, rest ++ ')' :: t)) :
    readEscape extended cs = some (x, rest) ∨
      x = .anchor .wordBoundary ∧ Dangles extended rest := by
  rcases cs with _ | ⟨c, cs⟩
  · exact (not_suffix_of_suffix_tail (readEscape_suffix extended h)).elim
  · by_cases hc : c = 'b'
    · subst hc
      exact readBoundary_cut extended h
    · exact .inl ((isLocal_readEscape extended hc).cut h)

/-! ## Groups -/

/-- A result in three parts, the first two taken together. -/
def regroup {α β γ : Type} (r : α × β × γ) : (α × β) × γ :=
  ((r.1, r.2.1), r.2.2)

/-- A character among flags is out of place, ends them, or changes what is read behind it. -/
theorem readFlags_cons (change : FlagChange) (negated : Bool) (c : Char) :
    (∀ cs, readFlags change negated (c :: cs) = none) ∨
      (∀ cs, readFlags change negated (c :: cs) = some (change, c, cs)) ∨
      ∃ change' negated', c ≠ ')' ∧
        ∀ cs, readFlags change negated (c :: cs) = readFlags change' negated' cs := by
  simp only [readFlags]
  split
  · split
    · exact .inl fun _ => rfl
    · exact .inr (.inl fun _ => rfl)
  · rename_i hend
    have hc : c ≠ ')' := fun hc => hend (.inr hc)
    split
    · split
      · exact .inl fun _ => rfl
      · exact .inr (.inr ⟨_, _, hc, fun _ => rfl⟩)
    · split
      · exact .inl fun _ => rfl
      · split
        · exact .inl fun _ => rfl
        · split
          · exact .inr (.inr ⟨_, _, hc, fun _ => rfl⟩)
          · exact .inr (.inr ⟨_, _, hc, fun _ => rfl⟩)

theorem isLocal_readFlags (change : FlagChange) (negated : Bool) :
    IsLocal fun cs => (readFlags change negated cs).map regroup where
  suffix {cs x rest} h := by
    induction cs generalizing change negated with
    | nil => cases h
    | cons c cs ih =>
      rcases readFlags_cons change negated c with hnone | hend | ⟨change', negated', -, hnext⟩
      · simp [hnone] at h
      · rw [hend] at h
        cases h
        exact List.suffix_cons _ _
      · rw [hnext] at h
        exact (ih change' negated' h).trans (List.suffix_cons c cs)
  cut {cs x rest t} h := by
    induction cs generalizing change negated with
    | nil =>
      rw [List.nil_append] at h
      rcases readFlags_cons change negated ')' with hnone | hend | ⟨_, _, hparen, -⟩
      · simp [hnone] at h
      · rw [hend] at h
        obtain ⟨-, hrest⟩ := Prod.mk.inj (Option.some.inj h)
        have hlength := congrArg List.length (show t = rest ++ ')' :: t from hrest)
        simp at hlength
        omega
      · exact absurd rfl hparen
    | cons c cs ih =>
      rw [List.cons_append] at h
      rcases readFlags_cons change negated c with hnone | hend | ⟨change', negated', -, hnext⟩
      · simp [hnone] at h
      · rw [hend] at h ⊢
        exact (isLocal_pure (change, c)).cut h
      · rw [hnext] at h ⊢
        exact ih change' negated' h

/-- A group may have the name. -/
def isName : List Char → Bool
  | c :: more => isNameStart c && more.all isNameChar
  | [] => false

theorem isLocal_readName : IsLocal readName := by
  refine IsLocal.congr ((isLocal_span (· != '>')).bind fun name => isLocal_cons fun _ =>
    (isLocal_pure name).ite (isName name = true) isLocal_none) fun cs => ?_
  rw [readName, Option.bind_some]
  cases List.dropWhile (· != '>') cs with
  | nil => cases List.takeWhile (· != '>') cs <;> rfl
  | cons d rest => cases List.takeWhile (· != '>') cs <;> rfl

/-- What an opening parenthesis begins is told by the characters behind it. -/
theorem isLocal_readOpening : IsLocal (readOpening extended) := by
  have hname : IsLocal fun cs => (readName cs).map fun r => (Opening.capture (some r.1), r.2) :=
    isLocal_readName.map fun name => Opening.capture (some name)
  have hflags := (isLocal_readFlags ⟨[], []⟩ false).bind fun r =>
    (isLocal_pure (Opening.flagged r.1)).ite (r.2 = ':')
      (isLocal_none.ite (r.1.on = [] ∧ r.1.off = []) (isLocal_pure (Opening.setFlags r.1)))
  have hangle := isLocal_atHead (d := '=') (by decide) isLocal_none
    (isLocal_atHead (d := '!') (by decide) isLocal_none hname)
  have hquestion := isLocal_atHead (d := '=') (by decide) isLocal_none
    (isLocal_atHead (d := '!') (by decide) isLocal_none
      (isLocal_atHead (d := '<') (by decide) hangle
        (isLocal_atHead (d := 'P') (by decide)
          (isLocal_atHead (d := '<') (by decide) hname isLocal_none) hflags)))
  refine IsLocal.congr (.skip extended
    (isLocal_atHead (d := '?') (by decide) hquestion (isLocal_pure (.capture none)))) fun cs => ?_
  rw [readOpening]
  split
  case h_1 | h_2 | h_3 | h_4 | h_5 =>
    rename_i hskip
    rw [hskip]
    rfl
  · rename_i rest hequal hbang hskip
    rw [hskip, atHead_self, atHead_of_ne _ _ (by simp), atHead_of_ne _ _ (by simp), atHead_self,
      atHead_of_ne _ _ hequal, atHead_of_ne _ _ hbang]
  · rename_i rest hequal hbang _ _ hp hangle hskip
    rw [hskip, atHead_self, atHead_of_ne _ _ hequal, atHead_of_ne _ _ hbang,
      atHead_of_ne _ _ hangle]
    by_cases hletter : ∃ tail, rest = 'P' :: tail
    · obtain ⟨tail, rfl⟩ := hletter
      rw [atHead_self, atHead_of_ne _ _ fun rest h => hp rest (by rw [h])]
      rfl
    · rw [atHead_of_ne _ _ fun tail h => hletter ⟨tail, h⟩]
      cases readFlags ⟨[], []⟩ false rest <;> rfl
  · rename_i hother
    rw [atHead_of_ne _ _ hother]

end Pattern
end Tariff
