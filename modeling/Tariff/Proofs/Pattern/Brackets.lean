import Tariff.Proofs.Pattern.Readers

/-!
# Readers of brackets

A bracket is told by the characters up to the one that closes it.  Its parts are not, since the
start of a bracket and an item are read only if something follows them; but where nothing follows,
the bracket is not closed either.

Main results:

- Theorem {lit}`Pattern.Bracket.readItems_congr`: each item takes a character, so that the number of
  steps does not matter.
- Theorem {lit}`Pattern.Bracket.isLocal_read`: what an opening bracket begins.
-/

namespace Tariff
namespace Pattern
namespace Bracket

variable (extended : Bool)

/-! ## Names and operators -/

/-- Reads the name of a class up to its end. -/
def readAsciiName (negated : Bool) (cs : List Char) : Option (ClassExpr × List Char) :=
  match cs.dropWhile (· != ':') with
  | ':' :: ']' :: rest =>
    (asciiNames.lookup (String.ofList (cs.takeWhile (· != ':')))).map fun kind =>
      (.ascii negated kind, rest)
  | _ => none

theorem readAscii_eq :
    readAscii = atHead ':' (atHead '^' (readAsciiName true) (readAsciiName false))
      fun _ => none := by
  funext cs
  unfold readAscii
  split
  · rename_i cs
    rw [atHead_self]
    by_cases hcaret : ∃ rest, cs = '^' :: rest
    · obtain ⟨rest, rfl⟩ := hcaret
      rw [atHead_self]
      rfl
    · rw [atHead_of_ne _ _ fun rest h => hcaret ⟨rest, h⟩]
      have hplain : ∀ rest, cs = '^' :: rest → False := fun rest h => hcaret ⟨rest, h⟩
      simp only
      rfl
  · rename_i hother
    rw [atHead_of_ne _ _ hother]

theorem isLocal_readAsciiName (negated : Bool) : IsLocal (readAsciiName negated) := by
  refine IsLocal.congr ((isLocal_span (· != ':')).bind fun name =>
    isLocal_atPair (d := ':') (e := ']') (by decide) (by decide)
      (isLocal_optionBind (asciiNames.lookup (String.ofList name)) fun kind =>
        isLocal_pure (ClassExpr.ascii negated kind)) isLocal_none) fun cs => ?_
  rw [readAsciiName, Option.bind_some]
  split
  · rename_i hbehind
    rw [hbehind, atPair_self, Option.map_eq_bind]
    rfl
  · rename_i hother
    rw [atPair_of_ne _ _ hother]

theorem isLocal_readAscii : IsLocal readAscii := by
  rw [readAscii_eq]
  exact isLocal_atHead (by decide)
    (isLocal_atHead (by decide) (isLocal_readAsciiName true) (isLocal_readAsciiName false))
    isLocal_none

theorem readAsciiName_append {negated : Bool} {cs rest : List Char} {e : ClassExpr}
    (h : readAsciiName negated cs = some (e, rest)) (t : List Char) :
    readAsciiName negated (cs ++ t) = some (e, rest ++ t) := by
  unfold readAsciiName at h
  split at h
  · rename_i rest' hbehind
    obtain ⟨kind, hkind, heq⟩ := Option.map_eq_some_iff.1 h
    cases heq
    have hname : (cs.takeWhile (· != ':')).length ≠ cs.length := by
      have hsum : cs.takeWhile (· != ':') ++ cs.dropWhile (· != ':') = cs :=
        List.takeWhile_append_dropWhile
      have := congrArg List.length hsum
      simp only [hbehind, List.length_append, List.length_cons] at this
      omega
    have htake : (cs ++ t).takeWhile (· != ':') = cs.takeWhile (· != ':') := by
      rw [List.takeWhile_append, if_neg hname]
    have hdrop : (cs ++ t).dropWhile (· != ':') = ':' :: ']' :: (rest ++ t) := by
      rw [List.dropWhile_append, hbehind]
      rfl
    rw [readAsciiName, htake, hdrop]
    simp [hkind]
  · cases h

/-- The name of a class is told by the characters up to its end. -/
theorem readAscii_append {cs rest : List Char} {e : ClassExpr}
    (h : readAscii cs = some (e, rest)) (t : List Char) :
    readAscii (cs ++ t) = some (e, rest ++ t) := by
  rw [readAscii_eq] at h ⊢
  match cs with
  | [] => cases h
  | [c] =>
    rw [atHead] at h
    split at h
    · cases h
    · cases h
  | c :: c' :: cs =>
    rw [List.cons_append, List.cons_append, atHead] at *
    split at h
    · rw [if_pos ‹_›]
      rw [atHead] at *
      split at h
      · rw [if_pos ‹_›]
        exact readAsciiName_append h t
      · rw [if_neg ‹_›]
        exact readAsciiName_append h t
    · cases h

theorem operator?_append {cs rest : List Char} {op : SetOp}
    (h : operator? cs = some (op, rest)) (t : List Char) :
    operator? (cs ++ t) = some (op, rest ++ t) := by
  unfold operator? at h
  split at h <;> cases h <;> rfl

theorem operator?_suffix {cs rest : List Char} {op : SetOp}
    (h : operator? cs = some (op, rest)) : rest <:+ cs.tail := by
  unfold operator? at h
  split at h <;> cases h <;> exact List.suffix_cons _ _

theorem isLocal_operator? : IsLocal operator? := by
  refine IsLocal.congr
    (isLocal_atPair (d := '&') (e := '&') (by decide) (by decide) (isLocal_pure SetOp.inter) <|
      isLocal_atPair (d := '-') (e := '-') (by decide) (by decide) (isLocal_pure SetOp.diff) <|
        isLocal_atPair (d := '~') (e := '~') (by decide) (by decide)
          (isLocal_pure SetOp.symmDiff) isLocal_none) fun cs => ?_
  unfold operator?
  split
  · rfl
  · rfl
  · rfl
  · rename_i hinter hdiff hsymm
    rw [atPair_of_ne _ _ hinter, atPair_of_ne _ _ hdiff, atPair_of_ne _ _ hsymm]

/-- Reads what may stand in front of the items of a bracket: a caret, and hyphens. -/
def readMarks (cs : List Char) : Option ((Bool × List Char) × List Char) :=
  (atHead '^' (fun rest => some (true, rest)) (fun rest => some (false, rest))
    (skip extended cs)).bind fun p =>
      (some (run extended (· == '-') p.2)).bind fun q => some ((p.1, q.1), q.2)

/-- Begins a bracket in front of its items. -/
def begin? (marks : Bool × List Char) (rest : List Char) : Option (Bracket × List Char) :=
  match marks.2.map fun _ => ClassExpr.literal ⟨'-', false⟩, rest with
  | _, [] => none
  | [], ']' :: rest => some (⟨marks.1, [.literal ⟨']', false⟩], none⟩, rest)
  | items, rest => some (⟨marks.1, items, none⟩, rest)

theorem readOpening_eq (cs : List Char) :
    readOpening extended cs = (readMarks extended cs).bind fun p => begin? p.1 p.2 := by
  unfold readOpening readMarks
  by_cases hcaret : ∃ rest, skip extended cs = '^' :: rest
  · obtain ⟨rest, hrest⟩ := hcaret
    simp only [hrest, atHead_self, Option.bind_some]
    rfl
  · have hplain : ∀ rest, skip extended cs = '^' :: rest → False := fun rest h => hcaret ⟨rest, h⟩
    simp only [atHead_of_ne _ _ hplain, Option.bind_some]
    rfl

theorem isLocal_readMarks : IsLocal (readMarks extended) :=
  (IsLocal.skip extended (isLocal_atHead (by decide) (isLocal_pure true) (isLocal_pure false))).bind
    fun negated => (isLocal_run extended (· == '-')).bind fun hyphens =>
      isLocal_pure (negated, hyphens)

theorem begin?_suffix {marks : Bool × List Char} {cs rest : List Char} {b : Bracket}
    (h : begin? marks cs = some (b, rest)) : rest <:+ cs := by
  unfold begin? at h
  split at h
  · cases h
  · cases h
    exact List.suffix_cons _ _
  · cases h
    exact List.suffix_refl _

theorem begin?_plain (marks : Bool × List Char) {c : Char} (hc : c ≠ ']') (cs : List Char) :
    begin? marks (c :: cs) =
      some (⟨marks.1, marks.2.map fun _ => .literal ⟨'-', false⟩, none⟩, c :: cs) := by
  unfold begin?
  split
  · rename_i heq
    cases heq
  · rename_i heq
    exact absurd (List.cons.inj heq).1 hc
  · rfl

/-- A bracket is not begun at the end of a text. -/
theorem begin?_cut {marks : Bool × List Char} {cs rest t : List Char} {b : Bracket}
    (h : begin? marks (cs ++ ')' :: t) = some (b, rest ++ ')' :: t)) :
    begin? marks cs = some (b, rest) ∨ rest = [] := by
  match cs with
  | [] =>
    rw [List.nil_append, begin?_plain marks (by decide)] at h
    obtain ⟨-, hrest⟩ := Prod.mk.inj (Option.some.inj h)
    have hrest : [] = rest := List.append_cancel_right hrest
    exact .inr hrest.symm
  | c :: cs =>
    left
    rw [List.cons_append] at h
    by_cases hc : c = ']'
    · subst hc
      match marks with
      | (_, []) => exact (isLocal_pure _).cut h
      | (_, _ :: _) => exact (isLocal_pure _).cut h
    · rw [begin?_plain marks hc] at h ⊢
      exact (isLocal_pure _).cut h

theorem readOpening_suffix {cs rest : List Char} {b : Bracket}
    (h : readOpening extended cs = some (b, rest)) : rest <:+ cs := by
  rw [readOpening_eq] at h
  obtain ⟨⟨marks, mid⟩, hmarks, h⟩ := Option.bind_eq_some_iff.1 h
  exact (begin?_suffix h).trans ((isLocal_readMarks extended).suffix hmarks)

/-- A bracket is not begun in front of the end. -/
theorem readOpening_cut {cs rest t : List Char} {b : Bracket}
    (h : readOpening extended (cs ++ ')' :: t) = some (b, rest ++ ')' :: t)) :
    readOpening extended cs = some (b, rest) ∨ rest = [] := by
  rw [readOpening_eq] at h ⊢
  obtain ⟨⟨marks, mid'⟩, hmarks, h⟩ := Option.bind_eq_some_iff.1 h
  obtain ⟨mid, rfl⟩ := exists_append_of_suffix (begin?_suffix h)
  rw [(isLocal_readMarks extended).cut hmarks]
  exact begin?_cut h

theorem readPrimitive_plain {c : Char} (hc : c ≠ '\\') (cs : List Char) :
    readPrimitive extended (c :: cs) = some (.literal ⟨c, false⟩, cs) := by
  unfold readPrimitive
  split
  · rename_i heq
    cases heq
  · rename_i heq
    exact absurd (List.cons.inj heq).1 hc
  · rename_i heq
    cases heq
    rfl

theorem readPrimitive_escape (cs : List Char) :
    readPrimitive extended ('\\' :: cs) = readEscape extended cs := rfl

theorem readPrimitive_suffix {cs rest : List Char} {p : Primitive}
    (h : readPrimitive extended cs = some (p, rest)) : rest <:+ cs.tail := by
  match cs with
  | [] => cases h
  | c :: cs =>
    by_cases hc : c = '\\'
    · subst hc
      exact (readEscape_suffix extended h).trans (List.tail_suffix cs)
    · rw [readPrimitive_plain extended hc] at h
      cases h
      exact List.suffix_refl _

/-- A reader of a primitive that leaves a parenthesis over does not need it, unless it read a
boundary of words. -/
theorem readPrimitive_cut {cs rest t : List Char} {p : Primitive}
    (h : readPrimitive extended (cs ++ ')' :: t) = some (p, rest ++ ')' :: t)) :
    readPrimitive extended cs = some (p, rest) ∨ p = .anchor .wordBoundary := by
  match cs with
  | [] => exact (not_suffix_of_suffix_tail (readPrimitive_suffix extended h)).elim
  | c :: cs =>
    rw [List.cons_append] at h
    by_cases hc : c = '\\'
    · subst hc
      rw [readPrimitive_escape] at h ⊢
      exact (readEscape_cut extended h).imp_right And.left
    · rw [readPrimitive_plain extended hc] at h ⊢
      exact .inl ((isLocal_pure _).cut h)

/-- Reads on behind the first character of an item. -/
def readItemFrom (first : Primitive) (cs : List Char) : Option (ClassExpr × List Char) :=
  match cs with
  | [] => none
  | '-' :: behind =>
    let next := glance extended behind
    if next = some ']' ∨ next = some '-' then
      (itemOf? first).map fun e => (e, '-' :: behind)
    else do
      let (last, rest) ← readPrimitive extended (skip extended behind)
      (rangeOf? first last).map fun e => (e, rest)
  | rest => (itemOf? first).map fun e => (e, rest)

theorem readItem_eq (cs : List Char) :
    readItem extended cs = (readPrimitive extended cs).bind fun p =>
      readItemFrom extended p.1 (skip extended p.2) := rfl

/-- A hyphen makes a range of an item unless a bracket or a second hyphen follows it. -/
theorem readItemFrom_hyphen (first : Primitive) (behind : List Char) :
    readItemFrom extended first ('-' :: behind) =
      if glance extended behind = some ']' ∨ glance extended behind = some '-' then
        (itemOf? first).map fun e => (e, '-' :: behind)
      else (readPrimitive extended (skip extended behind)).bind fun p =>
        (rangeOf? first p.1).map fun e => (e, p.2) := rfl

theorem readItemFrom_plain (first : Primitive) {c : Char} (hc : c ≠ '-') (cs : List Char) :
    readItemFrom extended first (c :: cs) = (itemOf? first).map fun e => (e, c :: cs) := by
  unfold readItemFrom
  split
  · rename_i heq
    cases heq
  · rename_i heq
    exact absurd (List.cons.inj heq).1 hc
  · rfl

/-- A condition on a place is no item. -/
theorem readItemFrom_anchor (a : Anchor) (cs : List Char) :
    readItemFrom extended (.anchor a) cs = none := by
  match cs with
  | [] => rfl
  | c :: cs =>
    by_cases hc : c = '-'
    · subst hc
      rw [readItemFrom_hyphen]
      split
      · rfl
      · cases readPrimitive extended (skip extended cs) <;> rfl
    · rw [readItemFrom_plain extended _ hc]
      rfl

theorem readItemFrom_suffix {first : Primitive} {cs rest : List Char} {e : ClassExpr}
    (h : readItemFrom extended first cs = some (e, rest)) : rest <:+ cs := by
  match cs with
  | [] => cases h
  | c :: cs =>
    by_cases hc : c = '-'
    · subst hc
      rw [readItemFrom_hyphen] at h
      split at h
      · exact (isLocal_optionMap (itemOf? first)).suffix h
      · obtain ⟨⟨last, rest'⟩, hlast, h⟩ := Option.bind_eq_some_iff.1 h
        obtain ⟨_, _, heq⟩ := Option.map_eq_some_iff.1 h
        cases heq
        have hskip : skip extended cs <:+ '-' :: cs :=
          (skip_suffix extended cs).trans (List.suffix_cons _ _)
        exact (readPrimitive_suffix extended hlast).trans ((List.tail_suffix _).trans hskip)
    · rw [readItemFrom_plain extended first hc] at h
      exact (isLocal_optionMap (itemOf? first)).suffix h

/-- An item takes a character. -/
theorem readItem_suffix {cs rest : List Char} {e : ClassExpr}
    (h : readItem extended cs = some (e, rest)) : rest <:+ cs.tail := by
  rw [readItem_eq] at h
  obtain ⟨⟨first, mid⟩, hfirst, h⟩ := Option.bind_eq_some_iff.1 h
  have hskip : skip extended mid <:+ cs.tail :=
    (skip_suffix extended mid).trans (readPrimitive_suffix extended hfirst)
  exact (readItemFrom_suffix extended h).trans hskip

/-- The character that counts after the front one is the parenthesis, if no other one is. -/
theorem glance_append (cs t : List Char) :
    glance extended (cs ++ ')' :: t) = (glance extended cs).or (some ')') := by
  have hhead : ∀ cs : List Char, (cs ++ ')' :: t).head? = cs.head?.or (some ')') := by
    intro cs
    cases cs <;> rfl
  have hdrop : ∀ cs : List Char, (cs ++ ')' :: t).dropWhile Text.isBlank =
      cs.dropWhile Text.isBlank ++ ')' :: t := by
    intro cs
    rw [List.dropWhile_append]
    split
    · rename_i hempty
      rw [List.isEmpty_iff.1 hempty]
      rfl
    · rfl
  unfold glance
  split
  · rw [hdrop]
    match cs.dropWhile Text.isBlank with
    | [] => rfl
    | c :: rest =>
      by_cases hc : c = '#'
      · subst hc
        simp only [List.cons_append]
        rw [hdrop, hhead]
      · simp [hc]
  · exact hhead cs

/-- An item is not read at the end of a text. -/
theorem readItemFrom_cut {first : Primitive} {cs rest t : List Char} {e : ClassExpr}
    (h : readItemFrom extended first (cs ++ ')' :: t) = some (e, rest ++ ')' :: t)) :
    readItemFrom extended first cs = some (e, rest) ∨ rest = [] := by
  match cs with
  | [] =>
    rw [List.nil_append, readItemFrom_plain extended first (by decide)] at h
    obtain ⟨_, _, heq⟩ := Option.map_eq_some_iff.1 h
    obtain ⟨-, hrest⟩ := Prod.mk.inj heq
    have hrest : [] = rest := List.append_cancel_right hrest
    exact .inr hrest.symm
  | c :: cs =>
    left
    rw [List.cons_append] at h
    by_cases hc : c = '-'
    · subst hc
      have hglance : ∀ d : Char, d ≠ ')' →
          (glance extended (cs ++ ')' :: t) = some d ↔ glance extended cs = some d) := by
        intro d hd
        rw [glance_append]
        cases glance extended cs with
        | none => simp [hd.symm]
        | some c => simp
      rw [readItemFrom_hyphen] at h ⊢
      simp only [hglance ']' (by decide), hglance '-' (by decide)] at h
      split at h
      · rw [if_pos ‹_›]
        exact (isLocal_optionMap (itemOf? first)).cut h
      · rw [if_neg ‹_›]
        obtain ⟨⟨last, mid⟩, hlast, h⟩ := Option.bind_eq_some_iff.1 h
        obtain ⟨range, hrange, heq⟩ := Option.map_eq_some_iff.1 h
        cases heq
        obtain ⟨front, hfront⟩ := exists_append_of_suffix
          ((readPrimitive_suffix extended hlast).trans (List.tail_suffix _))
        rw [skip_cut extended hfront]
        rw [hfront] at hlast
        rcases readPrimitive_cut extended hlast with hlast | rfl
        · simp [hlast, hrange]
        · cases first <;> cases hrange
    · rw [readItemFrom_plain extended first hc] at h ⊢
      exact (isLocal_optionMap (itemOf? first)).cut h

/-- A reader of an item that leaves a parenthesis over does not need it, unless the item ends
right in front of it. -/
theorem readItem_cut {cs rest t : List Char} {e : ClassExpr}
    (h : readItem extended (cs ++ ')' :: t) = some (e, rest ++ ')' :: t)) :
    readItem extended cs = some (e, rest) ∨ rest = [] := by
  rw [readItem_eq] at h ⊢
  obtain ⟨⟨first, mid'⟩, hfirst, h⟩ := Option.bind_eq_some_iff.1 h
  obtain ⟨front, hfront⟩ := exists_append_of_suffix (readItemFrom_suffix extended h)
  obtain ⟨mid, rfl⟩ := exists_append_of_suffix
    (hfront ▸ skip_suffix extended mid' : front ++ ')' :: t <:+ mid')
  rcases readPrimitive_cut extended hfirst with hfirst | rfl
  · rw [hfirst, Option.bind_some, skip_cut extended hfront]
    rw [hfront] at h
    exact readItemFrom_cut extended h
  · rw [readItemFrom_anchor] at h
    cases h

/-! ## The bracket -/

/-- Items take what counts at the front of a text. -/
theorem readItems_suffix {fuel : Nat} {b : Bracket} {outer : List Bracket} {cs rest : List Char}
    {negated : Bool} {e : ClassExpr}
    (h : readItems extended fuel b outer cs = some (negated, e, rest)) :
    rest <:+ (skip extended cs).tail := by
  induction fuel generalizing b outer cs with
  | zero => cases h
  | succ fuel ih =>
    have hnext : ∀ {b outer mid}, mid <:+ (skip extended cs).tail →
        readItems extended fuel b outer mid = some (negated, e, rest) →
        rest <:+ (skip extended cs).tail := fun hmid h =>
      (ih h).trans ((List.tail_suffix _).trans ((skip_suffix extended _).trans hmid))
    rw [readItems] at h
    split at h
    · cases h
    · rename_i rest' hskip
      rw [hskip] at hnext ⊢
      split at h
      · exact hnext (isLocal_readAscii.suffix ‹_›) h
      · split at h
        · exact hnext (readOpening_suffix extended ‹_›) h
        · cases h
    · rename_i rest' hskip
      rw [hskip] at hnext ⊢
      split at h
      · cases h
        exact List.suffix_refl _
      · exact hnext (List.suffix_refl _) h
    · split at h
      · exact hnext (operator?_suffix ‹_›) h
      · split at h
        · exact hnext (readItem_suffix extended ‹_›) h
        · cases h

/-- What is begun at the end of a text is not closed there. -/
theorem readItems_ne_of_end {fuel : Nat} {b : Bracket} {outer : List Bracket} {mid t : List Char}
    (hmid : mid = []) (y : Bool × ClassExpr) (rest : List Char) :
    (readItems extended fuel b outer (mid ++ ')' :: t)).map regroup ≠
      some (y, rest ++ ')' :: t) := by
  subst hmid
  intro h
  obtain ⟨⟨negated, e, rest'⟩, hread, heq⟩ := Option.map_eq_some_iff.1 h
  cases heq
  have hskip : (skip extended (')' :: t)).tail <:+ t := by
    rcases List.suffix_cons_iff.1 (skip_suffix extended (')' :: t)) with hall | hsome
    · rw [hall]
      exact List.suffix_refl t
    · exact (List.tail_suffix _).trans hsome
  exact not_suffix_of_suffix_tail ((readItems_suffix extended hread).trans hskip)

/-- Closes a bracket and goes on with the one around it. -/
def closeItems (fuel : Nat) (b : Bracket) :
    List Bracket → List Char → Option (Bool × ClassExpr × List Char)
  | [], cs => some (b.negated, b.close, cs)
  | b' :: outer, cs => readItems extended fuel (b'.push (.bracket b.negated b.close)) outer cs

/-- The items of a class are read without what stands behind them. -/
theorem isLocal_readItems (fuel : Nat) (b : Bracket) (outer : List Bracket) :
    IsLocal fun cs => (readItems extended fuel b outer cs).map regroup := by
  induction fuel generalizing b outer with
  | zero => exact isLocal_none
  | succ fuel ih =>
    have hopening := IsLocal.bind_of (readOpening_suffix extended)
      (fun h => (readOpening_cut extended h).imp_right (readItems_ne_of_end extended))
      fun inner => ih inner (b :: outer)
    have hitem := IsLocal.bind_of (fun h => (readItem_suffix extended h).trans (List.tail_suffix _))
      (fun h => (readItem_cut extended h).imp_right (readItems_ne_of_end extended))
      fun e => ih (b.push e) outer
    have hbracket := isLocal_readAscii.orElse (fun h => readAscii_append h _)
      (fun e => ih (b.push e) outer) hopening
    have hother := isLocal_operator?.orElse (fun h => operator?_append h _)
      (fun op => ih (b.operate op) outer) hitem
    have hclose : IsLocal fun cs => (closeItems extended fuel b outer cs).map regroup := by
      cases outer with
      | nil => exact isLocal_pure (b.negated, b.close)
      | cons b' outer => exact ih (b'.push (.bracket b.negated b.close)) outer
    refine IsLocal.congr (.skip extended (isLocal_atHead (d := '[') (by decide) hbracket
      (isLocal_atHead (d := ']') (by decide) hclose hother))) fun cs => ?_
    rw [readItems]
    split
    · rename_i hskip
      rw [hskip]
      rfl
    · rename_i rest hskip
      rw [hskip, atHead_self]
      cases readAscii rest with
      | some p => rfl
      | none => cases readOpening extended rest <;> rfl
    · rename_i rest hskip
      rw [hskip, atHead_of_ne _ _ (by simp)]
      cases outer <;> rfl
    · rename_i hempty hopen hclosed
      rw [atHead_of_ne _ _ hopen, atHead_of_ne _ _ hclosed]
      cases operator? (skip extended cs) with
      | some p => rfl
      | none => cases readItem extended (skip extended cs) <;> rfl

/-- Each step takes a character, so that more steps than there are characters make no
difference. -/
theorem readItems_congr {fuel fuel' : Nat} {b : Bracket} {outer : List Bracket} {cs : List Char}
    (h : cs.length ≤ fuel) (h' : cs.length ≤ fuel') :
    readItems extended fuel b outer cs = readItems extended fuel' b outer cs := by
  induction fuel generalizing fuel' b outer cs with
  | zero =>
    obtain rfl := List.length_eq_zero_iff.1 (Nat.le_zero.1 h)
    cases fuel' <;> rfl
  | succ fuel ih =>
    match fuel' with
    | 0 =>
      obtain rfl := List.length_eq_zero_iff.1 (Nat.le_zero.1 h')
      rfl
    | fuel' + 1 =>
      have hskip := length_skip_le extended cs
      have hnext : ∀ {b outer rest}, rest <:+ (skip extended cs).tail → skip extended cs ≠ [] →
          readItems extended fuel b outer rest = readItems extended fuel' b outer rest := by
        intro b outer rest hrest hne
        have := hrest.length_le
        have := List.length_pos_iff.2 hne
        rw [List.length_tail] at *
        exact ih (by omega) (by omega)
      rw [readItems, readItems]
      match hcs : skip extended cs with
      | [] => rfl
      | c :: rest =>
        rw [hcs] at hnext
        by_cases hopen : c = '['
        · subst hopen
          simp only
          cases hascii : readAscii rest with
          | some p => exact hnext (isLocal_readAscii.suffix hascii) nofun
          | none =>
            cases hopening : readOpening extended rest with
            | some p => exact hnext (readOpening_suffix extended hopening) nofun
            | none => rfl
        · by_cases hclose : c = ']'
          · subst hclose
            cases outer with
            | nil => rfl
            | cons b' outer => exact hnext (List.suffix_refl rest) nofun
          · have hopen : ∀ rest', c :: rest = '[' :: rest' → False := fun _ h =>
              hopen (List.cons.inj h).1
            have hclose : ∀ rest', c :: rest = ']' :: rest' → False := fun _ h =>
              hclose (List.cons.inj h).1
            simp only
            cases hop : operator? (c :: rest) with
            | some p => exact hnext (operator?_suffix hop) nofun
            | none =>
              cases hitem : readItem extended (c :: rest) with
              | some p => exact hnext (readItem_suffix extended hitem) nofun
              | none => rfl

/-- A class in brackets is read without what stands behind it. -/
theorem isLocal_read : IsLocal fun cs => (read extended cs).map regroup := by
  have hitems : ∀ b : Bracket, IsLocal fun cs =>
      (readItems extended cs.length b [] cs).map regroup := fun b =>
    { suffix := fun h => (isLocal_readItems extended _ b []).suffix h
      cut := fun {cs x rest t} h => by
        have hcut := (isLocal_readItems extended _ b []).cut h
        rwa [readItems_congr extended (by simp) (Nat.le_refl cs.length)] at hcut }
  refine IsLocal.congr (IsLocal.bind_of (readOpening_suffix extended)
    (fun h => (readOpening_cut extended h).imp_right (readItems_ne_of_end extended))
    hitems) fun cs => ?_
  rw [read]
  cases readOpening extended cs <;> rfl

end Bracket

end Pattern
end Tariff
