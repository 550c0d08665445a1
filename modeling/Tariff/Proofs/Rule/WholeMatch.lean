import Tariff.Proofs.Pattern.Frame
import Tariff.Proofs.Pattern.Spans
import Tariff.Proofs.Rule.Evaluation

/-!
# Keys that are patterns

A key without a comparison sign is a pattern that the whole field must match, or must not match.
Its frame is put around it as text, and what is read then need not be the pattern in the frame.

Main results:

- Theorem {lit}`Pattern.whole?_cases`: which patterns for whole texts there are, and what each of
  them matches.
- Theorem {lit}`RuleBook.keys_match_whole_iff`: the keys that ask for a match of the whole field.
-/

namespace Tariff
namespace Pattern

/-! ## Patterns alone and in their frame -/

/-- The pattern matches all of a value. -/
def MatchesWhole (p : Pattern) (value : String) : Prop :=
  p.regex.Spans value.toList 0 value.toList.length

/-- The text is no pattern, because one of its parentheses closes a group that it has not opened;
what stands in front of that one is a pattern. -/
def ClosesFrame (text : String) : Prop :=
  Expr.read? text.toList = none ∧
    ∃ q rest e, text.toList = q ++ ')' :: rest ∧ Expr.read? q = some e

/-- The text has a meaning as a pattern, and takes too much room without its frame. -/
def IsTooLarge (text : String) : Prop :=
  ∃ e r f, Expr.read? text.toList = some e ∧ e.regex? Flags.start = some (r, f) ∧ fits r = false

/-- What a valid pattern is made of. -/
theorem compile?_eq_some_iff {text : String} {p : Pattern} :
    compile? text = some p ↔
      ∃ e f, Expr.read? text.toList = some e ∧ e.depth .whole ≤ maxDepth ∧
        e.regex? Flags.start = some (p.regex, f) ∧ fits p.regex = true ∧ p.text = text := by
  simp only [compile?, Option.bind_eq_bind, Option.bind_eq_some_iff]
  constructor
  · rintro ⟨e, he, h⟩
    obtain ⟨hdepth, h⟩ := Option.ite_none_right_eq_some.1 h
    obtain ⟨⟨r, f⟩, hr, h⟩ := Option.bind_eq_some_iff.1 h
    obtain ⟨hfits, h⟩ := Option.ite_none_right_eq_some.1 h
    cases h
    exact ⟨e, f, he, hdepth, hr, hfits, rfl⟩
  · rintro ⟨e, f, he, hdepth, hr, hfits, rfl⟩
    refine ⟨e, he, ?_⟩
    rw [if_pos hdepth, hr, Option.bind_some, if_pos hfits]

/-- A text that closes the frame around it is no pattern of its own. -/
theorem compile?_of_closesFrame {text : String} (h : ClosesFrame text) : compile? text = none := by
  rw [compile?, h.1]
  rfl

/-- A text that is too large is no pattern. -/
theorem compile?_of_isTooLarge {text : String} (h : IsTooLarge text) : compile? text = none := by
  obtain ⟨e, r, f, he, hr, hfits⟩ := h
  simp [compile?, he, hr, hfits]

/-- The frame nests two levels deep. -/
theorem depth_framed (e : Expr) : (framed e).depth .whole = e.depth .whole + 2 := by
  simp [framed, Expr.depth]

/-- No flag is set outside of the pattern, so the frame asks for the ends of the text. -/
theorem regex?_framed {e : Expr} {r' : Regex Regex.Leaf} {f : Flags}
    (h : (framed e).regex? Flags.start = some (r', f)) :
    ∃ r f, e.regex? Flags.start = some (r, f) ∧
      r' = .cat (.leaf (.look .textStart)) (.cat (.group false r) (.leaf (.look .textEnd))) := by
  cases hr : e.regex? Flags.start with
  | none => simp [framed, Expr.regex?, hr] at h
  | some p =>
    simp only [framed, Expr.regex?, Flags.apply_empty, hr, Option.bind_eq_bind,
      Option.bind_some] at h
    cases h
    exact ⟨p.1, p.2, rfl, rfl⟩

/-- A pattern for whole texts is a valid pattern that is asked for a match of all of a text, unless
the text that it was read from is no valid pattern on its own. -/
theorem whole?_cases {text : String} {w : Pattern} (h : whole? text = some w) :
    (∃ p, compile? text = some p ∧ ∀ value, w.isMatch value = true ↔ p.MatchesWhole value) ∨
      ClosesFrame text ∨ IsTooLarge text := by
  obtain ⟨e', f, hread, hdepth, hregex, -, -⟩ := compile?_eq_some_iff.1 h
  have htext : ("^(?:" ++ text ++ ")$").toList =
      '^' :: '(' :: '?' :: ':' :: (text.toList ++ [')', '$']) := by
    simp [String.toList_append]
  rw [htext] at hread
  rcases read?_framed hread with ⟨e, he, rfl⟩ | hcloses
  · obtain ⟨r, f, hr, hframe⟩ := regex?_framed hregex
    by_cases hfits : fits r = true
    · refine .inl ⟨⟨text, r⟩, compile?_eq_some_iff.2 ⟨e, f, he, ?_, hr, hfits, rfl⟩, ?_⟩
      · rw [depth_framed] at hdepth
        omega
      · intro value
        rw [isMatch, hframe, Regex.isMatch_framed_iff]
        rfl
    · exact .inr (.inr ⟨e, r, f, he, hr, Bool.eq_false_of_not_eq_true hfits⟩)
  · exact .inr (.inl hcloses)

end Pattern

/-! ## Keys -/

namespace Condition

/-- Whatever value a field has, the condition has an answer: the pattern matches all of the value,
or, {lit}`excluded`, it does not. -/
def AsksFor (c : Condition) (p : Pattern) (excluded : Bool) : Prop :=
  ∀ value, ∃ answer, c.holds (some value) = some answer ∧
    (answer = true ↔ if excluded then ¬p.MatchesWhole value else p.MatchesWhole value)

/-- A text that starts with no sign of a comparison is no comparison. -/
theorem splitComparison_eq_none {cs : List Char}
    (h : ∀ sign ∈ ['=', '<', '>'], cs.head? ≠ some sign) : splitComparison cs = none := by
  unfold splitComparison
  split
  · exact absurd rfl (h '>' (by decide))
  · exact absurd rfl (h '<' (by decide))
  · exact absurd rfl (h '=' (by decide))
  · exact absurd rfl (h '>' (by decide))
  · exact absurd rfl (h '<' (by decide))
  · rfl

/-- A key that is no comparison asks for the pattern it names exactly if that pattern stays in
its frame and is not too large. -/
theorem asksFor_iff {text : String} {c : Condition} (h : read text = .ok c)
    (hplain : splitComparison text.toList = none) :
    (∃ p, Pattern.compile? (splitPattern text).2 = some p ∧ c.AsksFor p (splitPattern text).1) ↔
      ¬Pattern.ClosesFrame (splitPattern text).2 ∧ ¬Pattern.IsTooLarge (splitPattern text).2 := by
  obtain ⟨w, hw, rfl⟩ : ∃ w, Pattern.whole? (splitPattern text).2 = some w ∧
      c = if (splitPattern text).1 then .excludes w else .fits w := by
    rw [read, hplain] at h
    simp only at h
    split at h
    · rename_i w hw
      exact ⟨w, hw, (Except.ok.inj h).symm⟩
    · cases h
  constructor
  · rintro ⟨p, hp, -⟩
    constructor
    · intro hcloses
      rw [Pattern.compile?_of_closesFrame hcloses] at hp
      cases hp
    · intro hlarge
      rw [Pattern.compile?_of_isTooLarge hlarge] at hp
      cases hp
  · rintro ⟨hcloses, hlarge⟩
    rcases Pattern.whole?_cases hw with ⟨p, hp, hmatch⟩ | hno
    · refine ⟨p, hp, fun value => ?_⟩
      cases (splitPattern text).1 with
      | true => exact ⟨_, rfl, by simp [← hmatch]⟩
      | false => exact ⟨_, rfl, by simp [hmatch]⟩
    · exact absurd hno (not_or.2 ⟨hcloses, hlarge⟩)

end Condition

namespace RuleBook

/-- A rule is accepted with keys of which some have no comparison sign.  Such a key asks for a match
of all of the field by a valid pattern, the key without one exclamation mark, exactly if none of its
parentheses closes the frame and it does not need the frame to be small enough. -/
theorem keys_match_whole_iff {b b' : RuleBook} {group : String} {keys results : List String}
    (h : b.add group keys results = .ok b') :
    ∃ conditions, b'.rules group = b.rules group ++ [⟨conditions, results⟩] ∧
      List.Forall₂ (fun key c => (∀ sign ∈ ['=', '<', '>'], key.toList.head? ≠ some sign) →
        let (excluded, pattern) := Condition.splitPattern key
        (∃ p, Pattern.compile? pattern = some p ∧ Condition.AsksFor c p excluded) ↔
          ¬Pattern.ClosesFrame pattern ∧ ¬Pattern.IsTooLarge pattern) keys conditions := by
  obtain ⟨conditions, hread, hrules⟩ := rules_add h
  refine ⟨conditions, by rw [hrules, if_pos rfl], ?_⟩
  refine (readConditions_eq_ok_iff.1 hread).imp fun key c hkey hplain => ?_
  exact Condition.asksFor_iff hkey (Condition.splitComparison_eq_none hplain)

/-- A key that excludes what begins with a prefix. -/
theorem prefix_excluded_by_whole_match :
    ∃ b' p c, empty.add "G" ["!00.*"] ["national"] = .ok b' ∧
      b'.rules "G" = [⟨[c], ["national"]⟩] ∧ Pattern.compile? "00.*" = some p ∧
        c.AsksFor p true := by
  have haccepted : (empty.add "G" ["!00.*"] ["national"]).isOk = true := by decide +kernel
  have hvalid : (Pattern.compile? "00.*").isSome = true := by decide +kernel
  have hsplit : Condition.splitPattern "!00.*" = (true, "00.*") := by decide +kernel
  cases hadd : empty.add "G" ["!00.*"] ["national"] with
  | error f =>
    rw [hadd] at haccepted
    cases haccepted
  | ok b' =>
    obtain ⟨conditions, hrules, hkeys⟩ := keys_match_whole_iff hadd
    obtain ⟨c, _, hkey, hnil, rfl⟩ := List.forall₂_cons_left_iff.1 hkeys
    obtain rfl := List.forall₂_nil_left_iff.1 hnil
    have hkey := hkey (by simp)
    rw [hsplit] at hkey
    obtain ⟨p, hp, hc⟩ := hkey.2
      ⟨fun h => by simp [Pattern.compile?_of_closesFrame h] at hvalid,
        fun h => by simp [Pattern.compile?_of_isTooLarge h] at hvalid⟩
    exact ⟨b', p, c, rfl, hrules, hp, hc⟩

/-- A key that closes the frame is accepted though it is no pattern, and holds of a field of which
its first branch matches the beginning only. -/
theorem key_closes_frame :
    Pattern.compile? "a)|(?:b" = none ∧
      ∃ b', empty.add "g" ["a)|(?:b"] ["R"] = .ok b' ∧
        b'.first "g" [some "ax"] = .ok (some ["R"]) := by
  have hfirst : (empty.add "g" ["a)|(?:b"] ["R"]).map (fun b => b.first "g" [some "ax"]) =
      .ok (.ok (some ["R"])) := by decide +kernel
  refine ⟨by decide +kernel, ?_⟩
  cases hadd : empty.add "g" ["a)|(?:b"] ["R"] with
  | error f =>
    rw [hadd] at hfirst
    cases hfirst
  | ok b' =>
    rw [hadd] at hfirst
    exact ⟨b', rfl, Except.ok.inj hfirst⟩

end RuleBook
end Tariff
