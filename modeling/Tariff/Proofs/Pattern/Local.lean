import Tariff.Pattern.Reader

/-!
# Readers that can be cut off

Each part of a pattern is taken off the front of a text by a reader.  What a reader leaves over
has no bearing on what it takes, if that begins with a closing parenthesis: then the rest of the
text could as well be missing.

Main results:

- Theorem {lit}`Pattern.IsLocal.bind_of`: one reader behind another.
- Theorem {lit}`Pattern.IsLocal.orElse`: one reader where another one fails.
- Theorem {lit}`Pattern.isLocal_scan`: a run of characters of a class.
-/

namespace Tariff
namespace Pattern

/-! ## Local readers -/

/-- A reader takes characters off the front of a text.  Where it leaves over a closing parenthesis
and what follows, it reads the same without them. -/
structure IsLocal {α : Type} (f : List Char → Option (α × List Char)) : Prop where
  suffix : ∀ {cs x rest}, f cs = some (x, rest) → rest <:+ cs
  cut : ∀ {cs x rest t}, f (cs ++ ')' :: t) = some (x, rest ++ ')' :: t) → f cs = some (x, rest)

/-- A text that ends in two parts ends in the second one. -/
theorem exists_append_of_suffix {rest cs t : List Char} (h : rest ++ t <:+ cs) :
    ∃ front, cs = front ++ t := by
  obtain ⟨taken, rfl⟩ := h
  exact ⟨taken ++ rest, (List.append_assoc ..).symm⟩

section Combinators

variable {α β : Type} {f : List Char → Option (α × List Char)}
  {g : α → List Char → Option (β × List Char)}

theorem isLocal_none : IsLocal fun _ => (none : Option (α × List Char)) :=
  ⟨nofun, nofun⟩

theorem isLocal_pure (x : α) : IsLocal fun cs => some (x, cs) where
  suffix h := by
    cases h
    exact List.suffix_refl _
  cut h := by
    obtain ⟨rfl, hrest⟩ := Prod.mk.inj (Option.some.inj h)
    rw [List.append_cancel_right hrest]

theorem IsLocal.congr (hf : IsLocal f) {f' : List Char → Option (α × List Char)}
    (h : ∀ cs, f' cs = f cs) : IsLocal f' := by
  rwa [funext h]

/-- A reader that fails to be local may come first if it is of no use to the second one then. -/
theorem IsLocal.bind_of (hsuffix : ∀ {cs x rest}, f cs = some (x, rest) → rest <:+ cs)
    (hcut : ∀ {cs x mid t}, f (cs ++ ')' :: t) = some (x, mid ++ ')' :: t) →
      f cs = some (x, mid) ∨ ∀ y rest, g x (mid ++ ')' :: t) ≠ some (y, rest ++ ')' :: t))
    (hg : ∀ x, IsLocal (g x)) : IsLocal fun cs => (f cs).bind fun p => g p.1 p.2 where
  suffix h := by
    obtain ⟨⟨x, mid⟩, hx, hy⟩ := Option.bind_eq_some_iff.1 h
    exact ((hg x).suffix hy).trans (hsuffix hx)
  cut {_ y rest _} h := by
    obtain ⟨⟨x, mid'⟩, hx, hy⟩ := Option.bind_eq_some_iff.1 h
    obtain ⟨mid, rfl⟩ := exists_append_of_suffix ((hg x).suffix hy)
    rcases hcut hx with hx | hno
    · exact Option.bind_eq_some_iff.2 ⟨(x, mid), hx, (hg x).cut hy⟩
    · exact absurd hy (hno y rest)

/-- Two local readers, one behind the other, are a local reader. -/
theorem IsLocal.bind (hf : IsLocal f) (hg : ∀ x, IsLocal (g x)) :
    IsLocal fun cs => (f cs).bind fun p => g p.1 p.2 :=
  .bind_of hf.suffix (fun h => .inl (hf.cut h)) hg

theorem IsLocal.map (hf : IsLocal f) (h : α → β) :
    IsLocal fun cs => (f cs).map fun p => (h p.1, p.2) :=
  (hf.bind fun x => isLocal_pure (h x)).congr fun cs => by
    rw [Option.map_eq_bind]
    rfl

theorem isLocal_optionBind (o : Option α) (hg : ∀ x, IsLocal (g x)) :
    IsLocal fun cs => o.bind fun x => g x cs := by
  cases o with
  | none => exact isLocal_none
  | some x => exact hg x

theorem isLocal_optionMap (o : Option α) : IsLocal fun cs => o.map fun x => (x, cs) :=
  (isLocal_optionBind o isLocal_pure).congr fun _ => Option.map_eq_bind ..

theorem IsLocal.ite {f' : List Char → Option (α × List Char)} (p : Prop) [Decidable p]
    (hf : IsLocal f) (hf' : IsLocal f') : IsLocal fun cs => if p then f cs else f' cs := by
  by_cases hp : p
  · simpa only [hp, if_true] using hf
  · simpa only [hp, if_false] using hf'

/-- The readers of two tries, the second for where the first one fails.  What the first one reads
it must read in front of a closing parenthesis as well. -/
theorem IsLocal.orElse {h : List Char → Option (β × List Char)} (hf : IsLocal f)
    (hextend : ∀ {cs x rest t}, f cs = some (x, rest) → f (cs ++ t) = some (x, rest ++ t))
    (hg : ∀ x, IsLocal (g x)) (hh : IsLocal h) :
    IsLocal fun cs => match f cs with
      | some p => g p.1 p.2
      | none => h cs where
  suffix {cs y rest} hy := by
    split at hy
    · rename_i p hp
      exact ((hg p.1).suffix hy).trans (hf.suffix hp)
    · exact hh.suffix hy
  cut {cs y rest t} hy := by
    split at hy
    · rename_i p hp
      have hread := (hf.bind hg).cut (Option.bind_eq_some_iff.2 ⟨p, hp, hy⟩)
      obtain ⟨q, hq, hy⟩ := Option.bind_eq_some_iff.1 hread
      rw [hq]
      exact hy
    · rename_i hnone
      have hnone : f cs = none := by
        rw [Option.eq_none_iff_forall_ne_some]
        intro p hp
        rw [hextend hp] at hnone
        cases hnone
      rw [hnone]
      exact hh.cut hy

/-- Nothing that is read behind a character leaves the character over. -/
theorem not_suffix_of_suffix_tail {c : Char} {cs rest : List Char} (h : rest ++ c :: cs <:+ cs) :
    False := by
  have := h.length_le
  simp at this
  omega

theorem isLocal_cons {h : Char → List Char → Option (β × List Char)} (hh : ∀ c, IsLocal (h c)) :
    IsLocal fun cs => match cs with
      | [] => none
      | c :: cs => h c cs where
  suffix {cs x rest} hx := by
    cases cs with
    | nil => cases hx
    | cons c cs => exact ((hh c).suffix hx).trans (List.suffix_cons c cs)
  cut {cs x rest t} hx := by
    cases cs with
    | nil => exact (not_suffix_of_suffix_tail ((hh ')').suffix hx)).elim
    | cons c cs => exact (hh c).cut hx

/-- Reads on behind a character if that stands at the front. -/
def atHead (d : Char) (a b : List Char → β) : List Char → β
  | [] => b []
  | c :: cs => if c = d then a cs else b (c :: cs)

@[simp] theorem atHead_self (d : Char) (a b : List Char → β) (cs : List Char) :
    atHead d a b (d :: cs) = a cs := if_pos rfl

theorem atHead_of_ne {d : Char} (a b : List Char → β) {cs : List Char}
    (h : ∀ rest, cs = d :: rest → False) : atHead d a b cs = b cs := by
  cases cs with
  | nil => rfl
  | cons c cs => exact if_neg fun hc => h cs (by rw [hc])

theorem isLocal_atHead {d : Char} {a b : List Char → Option (α × List Char)} (hd : d ≠ ')')
    (ha : IsLocal a) (hb : IsLocal b) : IsLocal (atHead d a b) where
  suffix {cs x rest} hx := by
    cases cs with
    | nil => exact hb.suffix hx
    | cons c cs =>
      rw [atHead] at hx
      split at hx
      · exact (ha.suffix hx).trans (List.suffix_cons c cs)
      · exact hb.suffix hx
  cut {cs x rest t} hx := by
    cases cs with
    | nil =>
      rw [List.nil_append, atHead, if_neg hd.symm] at hx
      exact hb.cut hx
    | cons c cs =>
      rw [List.cons_append, atHead] at hx
      rw [atHead]
      split at hx
      · rename_i hc
        rw [if_pos hc]
        exact ha.cut hx
      · rename_i hc
        rw [if_neg hc]
        exact hb.cut hx

/-- Reads on behind two characters if they stand at the front. -/
def atPair (d e : Char) (a b : List Char → β) : List Char → β
  | c :: c' :: cs => if c = d ∧ c' = e then a cs else b (c :: c' :: cs)
  | cs => b cs

theorem atPair_self (d e : Char) (a b : List Char → β) (cs : List Char) :
    atPair d e a b (d :: e :: cs) = a cs := if_pos ⟨rfl, rfl⟩

theorem atPair_of_ne {d e : Char} (a b : List Char → β) {cs : List Char}
    (h : ∀ rest, cs = d :: e :: rest → False) : atPair d e a b cs = b cs := by
  match cs with
  | [] => rfl
  | [_] => rfl
  | c :: c' :: cs => exact if_neg fun hc => h cs (by rw [hc.1, hc.2])

theorem isLocal_atPair {d e : Char} {a b : List Char → Option (α × List Char)} (he : e ≠ ')')
    (hd : d ≠ ')') (ha : IsLocal a) (hb : IsLocal b) : IsLocal (atPair d e a b) where
  suffix {cs x rest} hx := by
    match cs with
    | [] => exact hb.suffix hx
    | [_] => exact hb.suffix hx
    | c :: c' :: cs =>
      rw [atPair] at hx
      split at hx
      · exact (ha.suffix hx).trans ((List.suffix_cons c' cs).trans (List.suffix_cons c _))
      · exact hb.suffix hx
  cut {cs x rest t} hx := by
    -- A text of one character does not get the second one from behind the parenthesis.
    have hfew : ∀ {cs : List Char}, (∀ rest, cs ++ ')' :: t = d :: e :: rest → False) →
        (∀ rest, cs = d :: e :: rest → False) →
        atPair d e a b (cs ++ ')' :: t) = some (x, rest ++ ')' :: t) →
        atPair d e a b cs = some (x, rest) := fun hlong hshort hx => by
      rw [atPair_of_ne _ _ hlong] at hx
      rw [atPair_of_ne _ _ hshort]
      exact hb.cut hx
    match cs with
    | [] => exact hfew (fun _ h => hd (List.cons.inj h).1.symm) nofun hx
    | [_] => exact hfew (fun _ h => he (List.cons.inj (List.cons.inj h).2).1.symm) nofun hx
    | c :: c' :: cs =>
      rw [List.cons_append, List.cons_append, atPair] at hx
      rw [atPair]
      split at hx
      · rw [if_pos ‹_›]
        exact ha.cut hx
      · rw [if_neg ‹_›]
        exact hb.cut hx

end Combinators

/-! ## Scanning -/

section Scanning

variable {α : Type} {f : List Char → Option (α × List Char)} (extended : Bool)

/-- A scan passes over a character whatever class it looks for, or asks whether the class has it. -/
theorem scan_cons (comment : Bool) (c : Char) :
    (∃ comment', ∀ accepts cs,
      scan extended accepts comment (c :: cs) = scan extended accepts comment' cs) ∨
    ∀ accepts cs, scan extended accepts comment (c :: cs) =
      if accepts c then
        (c :: (scan extended accepts false cs).1, (scan extended accepts false cs).2)
      else ([], c :: cs) := by
  simp only [scan]
  split
  · exact .inl ⟨_, fun _ _ => rfl⟩
  · split
    · exact .inl ⟨_, fun _ _ => rfl⟩
    · split
      · exact .inl ⟨_, fun _ _ => rfl⟩
      · exact .inr fun _ _ => rfl

/-- What a scan leaves over is the end of the text. -/
theorem scan_suffix (accepts : Char → Bool) (comment : Bool) (cs : List Char) :
    (scan extended accepts comment cs).2 <:+ cs := by
  induction cs generalizing comment with
  | nil => exact List.suffix_refl _
  | cons c cs ih =>
    rcases scan_cons extended comment c with ⟨comment', hpass⟩ | hask
    · rw [hpass]
      exact (ih comment').trans (List.suffix_cons c cs)
    · rw [hask]
      split
      · exact (ih false).trans (List.suffix_cons c cs)
      · exact List.suffix_refl _

/-- A scan is local: if a parenthesis is left over, the scan has stopped in front of it. -/
theorem isLocal_scan (accepts : Char → Bool) (comment : Bool) :
    IsLocal fun cs => some (scan extended accepts comment cs) where
  suffix {cs x rest} h := by
    have := scan_suffix extended accepts comment cs
    rwa [Option.some.inj h] at this
  cut {cs x rest t} h := by
    replace h := Option.some.inj h
    rw [Option.some.injEq]
    induction cs generalizing comment x with
    | nil =>
      have hstop : ∀ comment, (scan extended accepts comment t).2 ≠ rest ++ ')' :: t :=
        fun comment heq => not_suffix_of_suffix_tail (heq ▸ scan_suffix extended accepts comment t)
      rw [List.nil_append] at h
      rcases scan_cons extended comment ')' with ⟨comment', hpass⟩ | hask
      · rw [hpass] at h
        exact absurd (congrArg Prod.snd h) (hstop comment')
      · rw [hask] at h
        split at h
        · exact absurd (congrArg Prod.snd h) (hstop false)
        · obtain ⟨rfl, hrest⟩ := Prod.mk.inj h
          obtain rfl : [] = rest := List.append_cancel_right hrest
          rfl
    | cons c cs ih =>
      rw [List.cons_append] at h
      rcases scan_cons extended comment c with ⟨comment', hpass⟩ | hask
      · rw [hpass] at h ⊢
        exact ih comment' h
      · rw [hask] at h ⊢
        split at h
        · obtain ⟨rfl, hrest⟩ := Prod.mk.inj h
          rw [if_pos ‹_›, ih false (Prod.ext rfl hrest)]
        · obtain ⟨rfl, hrest⟩ := Prod.mk.inj h
          obtain rfl : c :: cs = rest := List.append_cancel_right hrest
          exact if_neg ‹_›

theorem isLocal_run (accepts : Char → Bool) :
    IsLocal fun cs => some (run extended accepts cs) :=
  isLocal_scan extended accepts false

theorem skip_suffix (cs : List Char) : skip extended cs <:+ cs :=
  scan_suffix extended _ false cs

theorem skip_cut {cs rest t : List Char} (h : skip extended (cs ++ ')' :: t) = rest ++ ')' :: t) :
    skip extended cs = rest :=
  congrArg Prod.snd (Option.some.inj
    ((isLocal_run extended _).cut (congrArg some (Prod.ext rfl h))))

theorem IsLocal.skip (hf : IsLocal f) : IsLocal fun cs => f (skip extended cs) :=
  (isLocal_run extended _).bind fun _ => hf

/-- A scan that comes to a character that does not count stops there, whatever follows. -/
theorem scan_append {accepts : Char → Bool} {comment : Bool} {cs : List Char}
    (h : (scan extended accepts comment cs).2 ≠ []) (t : List Char) :
    scan extended accepts comment (cs ++ t) =
      ((scan extended accepts comment cs).1, (scan extended accepts comment cs).2 ++ t) := by
  induction cs generalizing comment with
  | nil => exact absurd rfl h
  | cons c cs ih =>
    rw [List.cons_append]
    rcases scan_cons extended comment c with ⟨comment', hpass⟩ | hask
    · rw [hpass] at h ⊢
      rw [hpass]
      exact ih h
    · rw [hask] at h ⊢
      rw [hask]
      split at h
      · rw [if_pos ‹_›, if_pos ‹_›, ih h]
      · rw [if_neg ‹_›, if_neg ‹_›]
        rfl

theorem skip_append {cs : List Char} (h : skip extended cs ≠ []) (t : List Char) :
    skip extended (cs ++ t) = skip extended cs ++ t :=
  congrArg Prod.snd (scan_append extended h t)

/-- Where all is skipped no class has anything. -/
theorem scan_of_skip {comment : Bool} {cs : List Char}
    (h : (scan extended (fun _ => false) comment cs).2 = []) (accepts : Char → Bool) :
    scan extended accepts comment cs = ([], []) := by
  induction cs generalizing comment with
  | nil => rfl
  | cons c cs ih =>
    rcases scan_cons extended comment c with ⟨comment', hpass⟩ | hask
    · rw [hpass] at h ⊢
      exact ih h
    · rw [hask] at h
      cases h

theorem run_of_skip {cs : List Char} (h : skip extended cs = []) (accepts : Char → Bool) :
    run extended accepts cs = ([], []) :=
  scan_of_skip extended h accepts

end Scanning

/-- The characters at the front that satisfy a test, and the others. -/
theorem isLocal_span (p : Char → Bool) :
    IsLocal fun cs => some (cs.takeWhile p, cs.dropWhile p) where
  suffix h := by
    cases h
    exact List.dropWhile_suffix p
  cut {cs x rest t} h := by
    replace h := Option.some.inj h
    rw [Option.some.injEq]
    induction cs generalizing x with
    | nil =>
      rw [List.nil_append, List.takeWhile_cons, List.dropWhile_cons] at h
      split at h
      · obtain ⟨-, hrest⟩ := Prod.mk.inj h
        exact (not_suffix_of_suffix_tail (hrest ▸ List.dropWhile_suffix p)).elim
      · obtain ⟨rfl, hrest⟩ := Prod.mk.inj h
        obtain rfl : [] = rest := List.append_cancel_right hrest
        rfl
    | cons c cs ih =>
      rw [List.cons_append, List.takeWhile_cons, List.dropWhile_cons] at h
      rw [List.takeWhile_cons, List.dropWhile_cons]
      split at h
      · obtain ⟨rfl, hrest⟩ := Prod.mk.inj h
        obtain ⟨htake, hdrop⟩ := Prod.mk.inj (ih (Prod.ext rfl hrest))
        rw [if_pos ‹_›, if_pos ‹_›, htake, hdrop]
      · obtain ⟨rfl, hrest⟩ := Prod.mk.inj h
        obtain rfl : c :: cs = rest := List.append_cancel_right hrest
        rw [if_neg ‹_›, if_neg ‹_›]

theorem IsLocal.dropWhile {α : Type} {f : List Char → Option (α × List Char)} (hf : IsLocal f)
    (p : Char → Bool) : IsLocal fun cs => f (cs.dropWhile p) :=
  (isLocal_span p).bind fun _ => hf

end Pattern
end Tariff
