import Tariff.Proofs.Pattern.Tokens

/-!
# Reading a pattern in its frame

A pattern for whole texts is put into a group between the conditions for the two ends of a text,
and read with them as one text.  That says the same as reading the pattern alone and putting the
frame around what it says, unless a parenthesis of the pattern closes the group of the frame.

Main results:

- Theorem {lit}`Pattern.readAll_congr`: each part takes a character, so that the number of steps
  does not matter.
- Theorem {lit}`Pattern.length_pending_le`: groups that are open need their parentheses.
- Theorem {lit}`Pattern.read?_framed`: what reading a pattern in its frame means for the pattern.
-/

namespace Tariff
namespace Pattern

/-! ## Steps -/

theorem readAll_of_nil {fuel : Nat} {r : Reading} {cs : List Char}
    (h : skip r.extended cs = []) : readAll fuel r cs = r.finish? := by
  cases fuel <;> simp only [readAll, h]

theorem readAll_of_cons {fuel : Nat} {r : Reading} {c : Char} {cs rest : List Char}
    (h : skip r.extended cs = c :: rest) :
    readAll (fuel + 1) r cs = (readToken r.extended c rest).bind fun p =>
      (r.take? p.1).bind fun r' => readAll fuel r' p.2 := by
  rw [readAll, h]
  simp only [readPart_eq]
  cases readToken r.extended c rest with
  | none => rfl
  | some p => cases h : r.take? p.1 <;> simp [h]

/-- A step of a reading: a character that counts, the part that it begins, and how far the pattern
has been read then. -/
theorem readAll_eq_some {fuel : Nat} {r : Reading} {cs : List Char} {e : Expr}
    (h : readAll fuel r cs = some e) :
    (skip r.extended cs = [] ∧ r.finish? = some e) ∨
      ∃ fuel' c rest token r' mid, fuel = fuel' + 1 ∧ skip r.extended cs = c :: rest ∧
        readToken r.extended c rest = some (token, mid) ∧ r.take? token = some r' ∧
        readAll fuel' r' mid = some e := by
  cases hskip : skip r.extended cs with
  | nil => exact .inl ⟨rfl, (readAll_of_nil hskip).symm.trans h⟩
  | cons c rest =>
    cases fuel with
    | zero => simp [readAll, hskip] at h
    | succ fuel =>
      rw [readAll_of_cons hskip] at h
      obtain ⟨⟨token, mid⟩, htoken, h⟩ := Option.bind_eq_some_iff.1 h
      obtain ⟨r', htake, h⟩ := Option.bind_eq_some_iff.1 h
      exact .inr ⟨fuel, c, rest, token, r', mid, rfl, rfl, htoken, htake, h⟩

/-- Each part takes a character, so that more steps than there are characters make no
difference. -/
theorem readAll_congr {fuel fuel' : Nat} {r : Reading} {cs : List Char}
    (h : cs.length ≤ fuel) (h' : cs.length ≤ fuel') :
    readAll fuel r cs = readAll fuel' r cs := by
  induction fuel generalizing fuel' r cs with
  | zero =>
    obtain rfl := List.length_eq_zero_iff.1 (Nat.le_zero.1 h)
    rw [readAll_of_nil rfl, readAll_of_nil rfl]
  | succ fuel ih =>
    cases hskip : skip r.extended cs with
    | nil => rw [readAll_of_nil hskip, readAll_of_nil hskip]
    | cons c rest =>
      have hrest := length_skip_le r.extended cs
      rw [hskip, List.length_cons] at hrest
      match fuel' with
      | 0 => omega
      | fuel' + 1 =>
        rw [readAll_of_cons hskip, readAll_of_cons hskip]
        cases htoken : readToken r.extended c rest with
        | none => rfl
        | some p =>
          have hmid := (readToken_suffix r.extended htoken).length_le
          rw [Option.bind_some, Option.bind_some]
          cases r.take? p.1 with
          | none => rfl
          | some r' => exact ih (by omega) (by omega)

/-! ## Open groups -/

/-- Only a closing parenthesis is read as the end of a group. -/
theorem readToken_closing {extended : Bool} {c : Char} {cs rest : List Char}
    (h : readToken extended c cs = some (.closing, rest)) : c = ')' := by
  unfold readToken at h
  split at h
  · obtain ⟨_, _, h⟩ := Option.bind_eq_some_iff.1 h
    cases h
  · rfl
  · cases h
  · obtain ⟨_, _, h⟩ := Option.bind_eq_some_iff.1 h
    cases h
  · cases h
  · cases h
  · cases h
  · obtain ⟨_, _, h⟩ := Option.bind_eq_some_iff.1 h
    cases h
  · obtain ⟨_, _, h⟩ := Option.bind_eq_some_iff.1 h
    cases h
  · cases h
  · cases h
  · cases h
  · cases h

/-- Only a closing parenthesis closes a group, and it closes one. -/
theorem length_pending_of_take? {r r' : Reading} {token : Token} (h : r.take? token = some r') :
    r.pending.length ≤ r'.pending.length + (if token = .closing then 1 else 0) := by
  cases token with
  | opening o =>
    rcases o with (_ | name) | change | change
    · cases h
      simp [Reading.enter]
    · obtain ⟨-, h⟩ := Option.ite_none_left_eq_some.1 h
      cases h
      simp [Reading.enter]
    · cases h
      simp [Reading.enter]
    · cases h
      simp [Reading.push]
  | closing =>
    simp only [Reading.take?, Reading.closeGroup?] at h
    split at h
    · cases h
    · rename_i hpending
      cases h
      simp [hpending]
  | bar =>
    cases h
    simp
  | item e =>
    cases h
    simp [Reading.push]
  | repetition bounds greedy =>
    obtain ⟨l, -, rfl⟩ := Option.map_eq_some_iff.1 h
    simp

/-- Each group that is open takes a closing parenthesis. -/
theorem length_pending_le {fuel : Nat} {r : Reading} {cs : List Char} {e : Expr}
    (h : readAll fuel r cs = some e) : r.pending.length ≤ (skip r.extended cs).count ')' := by
  induction fuel generalizing r cs with
  | zero =>
    rcases readAll_eq_some h with ⟨-, hfinish⟩ | ⟨_, _, _, _, _, _, hfuel, -⟩
    · obtain ⟨hempty, -⟩ := Option.ite_none_right_eq_some.1 hfinish
      rw [List.isEmpty_iff.1 hempty]
      exact Nat.zero_le _
    · cases hfuel
  | succ fuel ih =>
    rcases readAll_eq_some h with ⟨-, hfinish⟩ |
      ⟨fuel', c, rest, token, r', mid, hfuel, hskip, htoken, htake, h⟩
    · obtain ⟨hempty, -⟩ := Option.ite_none_right_eq_some.1 hfinish
      rw [List.isEmpty_iff.1 hempty]
      exact Nat.zero_le _
    · cases hfuel
      have hopen := length_pending_of_take? htake
      have hmid : (skip r'.extended mid).count ')' ≤ rest.count ')' :=
        ((skip_suffix _ _).trans (readToken_suffix _ htoken)).sublist.count_le _
      have := ih h
      rw [hskip, List.count_cons]
      by_cases htoken' : token = .closing
      · subst htoken'
        rw [readToken_closing htoken]
        simp at hopen ⊢
        omega
      · rw [if_neg htoken'] at hopen
        omega

/-! ## The frame -/

namespace Reading

/-- The reading of what stands in one more group, outside of all others. -/
def under (r : Reading) (p : Pending) : Reading :=
  { r with pending := r.pending ++ [p] }

/-- A group around all others changes nothing until it is closed. -/
theorem take?_under (r : Reading) (p : Pending) {token : Token}
    (h : token = .closing → r.pending ≠ []) :
    (r.under p).take? token = (r.take? token).map fun r' => r'.under p := by
  cases token with
  | opening o =>
    rcases o with (_ | name) | change | change
    · rfl
    · have hnames : (r.under p).names = r.names := rfl
      simp only [take?, openGroup?, hnames]
      by_cases hused : r.names.contains name = true
      · rw [if_pos hused, if_pos hused]
        rfl
      · rw [if_neg hused, if_neg hused]
        rfl
    · rfl
    · rfl
  | closing =>
    obtain ⟨inner, outer, hpending⟩ := List.exists_cons_of_ne_nil (h rfl)
    simp [take?, closeGroup?, under, hpending]
  | bar => rfl
  | item e => rfl
  | repetition bounds greedy =>
    simp only [take?, repeatLast?, under, Option.map_map]
    rfl

end Reading

/-- The group of the frame, while it is open. -/
def frame : Pending :=
  ⟨Level.empty.push (.anchor .lineStart), false, ⟨[], []⟩, false⟩

/-- What a pattern says with its frame. -/
def framed (e : Expr) : Expr :=
  .seq (.anchor .lineStart) (.seq (.group false ⟨[], []⟩ e) (.anchor .lineEnd))

/-- Behind the group of the frame only the end of the frame is left. -/
theorem readAll_frame_end {fuel : Nat} {level : Level} {names : List (List Char)} {e : Expr}
    (h : readAll fuel ⟨frame.outer.push (.group false ⟨[], []⟩ level.close), [], false, names⟩
      ['$'] = some e) : e = framed level.close := by
  rcases readAll_eq_some h with ⟨hnil, -⟩ | ⟨fuel', c, rest, token, r', mid, -, hcons, htoken,
    htake, h⟩
  · rw [skip_plain] at hnil
    cases hnil
  · rw [skip_plain] at hcons
    cases hcons
    cases htoken
    cases htake
    rw [readAll_of_nil rfl] at h
    exact (Option.some.inj h).symm

/-- Behind a brace that nothing follows no number can be read. -/
theorem readAll_of_dangles {fuel : Nat} {r : Reading} {cs : List Char}
    (h : Dangles r.extended cs) : readAll fuel r cs = none := by
  obtain ⟨rest, rfl, hrest⟩ := h
  have hbrace : skip r.extended ('\x7b' :: rest) = '\x7b' :: rest := by
    have hblank : Text.isBlank '\x7b' = false := by decide
    simp [skip, run, scan, hblank]
  have hbounds : readBounds r.extended rest = none := by
    rw [readBounds, hrest]
    rfl
  cases hread : readAll fuel r ('\x7b' :: rest) with
  | none => rfl
  | some e =>
    rcases readAll_eq_some hread with ⟨hnil, -⟩ | ⟨_, c, rest', _, _, _, -, hcons, htoken, -⟩
    · rw [hbrace] at hnil
      cases hnil
    · rw [hbrace] at hcons
      cases hcons
      simp [readToken, hbounds] at htoken

/-- What dangles in front of a parenthesis dangles without it. -/
theorem Dangles.of_append {extended : Bool} {q rest : List Char}
    (h : Dangles extended (q ++ ')' :: rest)) : Dangles extended q := by
  obtain ⟨behind, heq, hskip⟩ := h
  match q with
  | [] => cases heq
  | c :: q =>
    obtain ⟨rfl, rfl⟩ := List.cons.inj heq
    refine ⟨q, rfl, ?_⟩
    by_cases hq : skip extended q = []
    · exact hq
    · have hlength := congrArg List.length
        (hskip.symm.trans (skip_append extended hq (')' :: rest)))
      simp at hlength

/-- What is skipped at the front of a text is skipped on its own. -/
theorem exists_skipped (extended : Bool) (cs : List Char) :
    ∃ front, cs = front ++ skip extended cs ∧ skip extended front = [] := by
  obtain ⟨front, hfront⟩ : skip extended cs <:+ cs := skip_suffix extended cs
  refine ⟨front, hfront.symm, ?_⟩
  by_cases hskip : skip extended front = []
  · exact hskip
  · have happend := skip_append extended hskip (skip extended cs)
    rw [hfront] at happend
    exact List.self_eq_append_left.1 happend

/-- The closing parenthesis of the frame is not passed over while its group is open. -/
theorem exists_append_of_readAll_under {fuel : Nat} {r : Reading} {p : Pending}
    {mid : List Char} {e : Expr} (h : readAll fuel (r.under p) mid = some e) (cs : List Char)
    (hmid : mid <:+ cs ++ [')', '$']) : ∃ front, skip r.extended mid = front ++ [')', '$'] := by
  have hopen : 0 < (skip r.extended mid).count ')' := by
    have := length_pending_le h
    simp only [Reading.under, List.length_append, List.length_singleton] at this
    omega
  have hskip : skip r.extended mid <:+ cs ++ [')', '$'] :=
    (skip_suffix r.extended mid).trans hmid
  rcases List.suffix_or_suffix_of_suffix hskip (List.suffix_append cs _) with
    hshort | ⟨front, hlong⟩
  · rcases List.suffix_cons_iff.1 hshort with hall | hbehind
    · exact ⟨[], hall⟩
    · have hnone : (skip r.extended mid).count ')' ≤ 0 := hbehind.sublist.count_le ')'
      omega
  · exact ⟨front, hlong.symm⟩

/-- A pattern cannot end in a group. -/
theorem finish?_under (r : Reading) (p : Pending) : (r.under p).finish? = none := by
  simp [Reading.finish?, Reading.under]

/-- A part that leaves over a closing parenthesis is read the same without it, if something can be
read behind the part. -/
theorem readToken_cut_of_readAll {fuel : Nat} {r r' : Reading} {c : Char}
    {rest mid q t : List Char} {token : Token} {e : Expr}
    (htoken : readToken r.extended c (rest ++ ')' :: t) = some (token, mid ++ ')' :: t))
    (htake : r.take? token = some r') (hq : Dangles r.extended mid → Dangles r.extended q)
    (hread : readAll fuel r' q = some e) : readToken r.extended c rest = some (token, mid) := by
  rcases readToken_cut r.extended htoken with htoken | ⟨item, rfl, hdangles⟩
  · exact htoken
  · cases htake
    have hnone : readAll fuel (r.push item) q = none := readAll_of_dangles (hq hdangles)
    rw [hnone] at hread
    cases hread

/-- What is read of a pattern in its frame is what the pattern says alone, with the frame around
it, or else the pattern says nothing alone: one of its parentheses closes the group of the frame,
and what stands in front of it is a pattern. -/
def ReadInFrame (fuel : Nat) (r : Reading) (cs : List Char) (e' : Expr) : Prop :=
  (∃ e, readAll fuel r cs = some e ∧ e' = framed e) ∨
    readAll fuel r cs = none ∧
      ∃ q rest e, cs = q ++ ')' :: rest ∧ readAll fuel r q = some e

namespace ReadInFrame

variable {fuel : Nat} {r r' : Reading} {cs rest : List Char} {e' : Expr}

/-- At the end of the pattern the parenthesis of the frame is next. -/
theorem of_nil (hskip : skip r.extended cs = []) (htake : (r.under frame).take? .closing = some r')
    (hread : readAll fuel r' ['$'] = some e') : ReadInFrame (fuel + 1) r cs e' := by
  by_cases hpending : r.pending = []
  · refine .inl ⟨r.level.close, ?_, ?_⟩
    · rw [readAll_of_nil hskip, Reading.finish?, hpending]
      rfl
    · simp only [Reading.take?, Reading.closeGroup?, Reading.under, hpending] at htake
      cases htake
      exact readAll_frame_end hread
  · rw [Reading.take?_under r frame fun _ => hpending] at htake
    obtain ⟨r', -, rfl⟩ := Option.map_eq_some_iff.1 htake
    obtain ⟨front, hfront⟩ := exists_append_of_readAll_under hread []
      (List.suffix_cons ')' ['$'])
    have := length_skip_le r'.extended ['$']
    rw [hfront] at this
    simp at this

/-- A parenthesis of the pattern that closes none of its own groups closes that of the frame. -/
theorem of_closing (hskip : skip r.extended cs = ')' :: rest) (hpending : r.pending = []) :
    ReadInFrame (fuel + 1) r cs e' := by
  obtain ⟨front, hcs, hfront⟩ := exists_skipped r.extended cs
  rw [hskip] at hcs
  refine .inr ⟨?_, front, rest, r.level.close, hcs, ?_⟩
  · rw [readAll_of_cons hskip]
    simp [readToken, Reading.take?, Reading.closeGroup?, hpending]
  · rw [readAll_of_nil hfront, Reading.finish?, hpending]
    rfl

/-- Any other part of the pattern is read alone as it is read in the frame, and what is behind it
decides. -/
theorem of_token {c : Char} {token : Token} {mid : List Char}
    (hskip : skip r.extended cs = c :: rest)
    (htoken : readToken r.extended c (rest ++ [')', '$']) = some (token, mid ++ [')', '$']))
    (htake : r.take? token = some r') (h : ReadInFrame fuel r' mid e') :
    ReadInFrame (fuel + 1) r cs e' := by
  rcases h with ⟨e, hmid, he⟩ | ⟨hnone, q, rest₂, e, rfl, hq⟩
  · have hwhole := readToken_cut_of_readAll htoken htake id hmid
    refine .inl ⟨e, ?_, he⟩
    rw [readAll_of_cons hskip, hwhole, Option.bind_some, htake]
    exact hmid
  · have hwhole := readToken_cut_of_readAll htoken htake Dangles.of_append hq
    obtain ⟨front, hcs, -⟩ := exists_skipped r.extended cs
    obtain ⟨used, rfl⟩ := readToken_suffix r.extended hwhole
    have hfront : skip r.extended (front ++ c :: (used ++ q)) = c :: (used ++ q) := by
      refine skip_cut (t := rest₂) r.extended ?_
      have happend : front ++ c :: (used ++ q) ++ ')' :: rest₂ = cs := by
        rw [hcs, hskip]
        simp
      rw [happend, hskip]
      simp
    refine .inr ⟨?_, front ++ c :: (used ++ q), rest₂, e, ?_, ?_⟩
    · rw [readAll_of_cons hskip, hwhole, Option.bind_some, htake]
      exact hnone
    · rw [hcs, hskip]
      simp
    · rw [← List.append_assoc] at hwhole
      have halone := readToken_cut_of_readAll hwhole htake id hq
      rw [readAll_of_cons hfront, halone, Option.bind_some, htake]
      exact hq

end ReadInFrame

/-- The reading of a pattern in its frame, from any point of the pattern on. -/
theorem readAll_framed {fuel : Nat} {r : Reading} {cs : List Char} {e' : Expr}
    (h : readAll fuel (r.under frame) (cs ++ [')', '$']) = some e') :
    ReadInFrame fuel r cs e' := by
  induction fuel generalizing r cs with
  | zero =>
    rcases readAll_eq_some h with ⟨-, hfinish⟩ | ⟨_, _, _, _, _, _, hfuel, -⟩
    · rw [finish?_under] at hfinish
      cases hfinish
    · cases hfuel
  | succ fuel ih =>
    obtain ⟨behind, hbehind⟩ := exists_append_of_readAll_under h cs (List.suffix_refl _)
    have hskip : skip r.extended cs = behind := skip_cut r.extended hbehind
    rcases readAll_eq_some h with ⟨-, hfinish⟩ |
      ⟨_, c, rest', token, r', mid', hfuel, hcons, htoken, htake, hread⟩
    · rw [finish?_under] at hfinish
      cases hfinish
    cases hfuel
    have hcons : behind ++ [')', '$'] = c :: rest' := hbehind.symm.trans hcons
    match behind with
    | [] =>
      cases hcons
      cases htoken
      exact .of_nil hskip htake hread
    | c' :: rest =>
      obtain ⟨rfl, rfl⟩ := List.cons.inj hcons
      by_cases hclosed : token = .closing ∧ r.pending = []
      · obtain ⟨rfl, hpending⟩ := hclosed
        obtain rfl := readToken_closing htoken
        exact .of_closing hskip hpending
      · rw [Reading.take?_under r frame fun htoken hpending => hclosed ⟨htoken, hpending⟩] at htake
        obtain ⟨r', hown, rfl⟩ := Option.map_eq_some_iff.1 htake
        obtain ⟨mid, rfl⟩ : ∃ mid, mid' = mid ++ [')', '$'] := by
          obtain ⟨behind, hbehind⟩ := exists_append_of_readAll_under hread rest
            (readToken_suffix r.extended htoken)
          exact exists_append_of_suffix (hbehind ▸ skip_suffix r'.extended mid')
        exact .of_token hskip htoken hown (ih hread)

/-- If a pattern can be read in its frame, what is read is the pattern with the frame around it, or
the pattern is none alone: one of its parentheses closes the group of the frame, and what stands in
front of that one is a pattern. -/
theorem read?_framed {cs : List Char} {e' : Expr}
    (h : Expr.read? ('^' :: '(' :: '?' :: ':' :: (cs ++ [')', '$'])) = some e') :
    (∃ e, Expr.read? cs = some e ∧ e' = framed e) ∨
      Expr.read? cs = none ∧
        ∃ q rest e, cs = q ++ ')' :: rest ∧ Expr.read? q = some e := by
  have hlength : ('^' :: '(' :: '?' :: ':' :: (cs ++ [')', '$'])).length = cs.length + 4 + 2 := by
    simp
  rw [Expr.read?, hlength] at h
  have hread : readAll (cs.length + 4) (Reading.start.under frame) (cs ++ [')', '$']) = some e' := h
  have hfuel : ∀ q : List Char, q.length ≤ cs.length →
      readAll (cs.length + 4) Reading.start q = Expr.read? q := fun q hq =>
    readAll_congr (by omega) (Nat.le_refl _)
  rcases readAll_framed hread with ⟨e, he, hframed⟩ | ⟨hnone, q, rest, e, rfl, hq⟩
  · exact .inl ⟨e, (hfuel cs (Nat.le_refl _)).symm.trans he, hframed⟩
  · refine .inr ⟨(hfuel _ (Nat.le_refl _)).symm.trans hnone, q, rest, e, rfl, ?_⟩
    rw [← hfuel q (by simp)]
    exact hq

end Pattern
end Tariff
