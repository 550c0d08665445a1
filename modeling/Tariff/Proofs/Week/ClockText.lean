import Mathlib.Data.List.Basic
import Tariff.Week.TimeOfDay

/-!
# The texts of a time of day

The documented texts of a time of day are four digits, or one or two digits of an hour, a colon
and two digits of a minute.  The reader drops the colons before it looks at the digits, so it
takes more than these.

Main results:

- Theorem {lit}`TimeOfDay.parse?_eq_some_iff`: the reader sees a text as if its one colon stood
  before its last two digits.
- Theorem {lit}`TimeOfDay.parse?_reads_written_times`: every documented text is read as the
  minute it says, and where the reader takes the documented texts only.
-/

namespace Tariff
namespace TimeOfDay

/-! ## Digits -/

/-- The character is the ASCII digit of the number. -/
def IsDigitOf (d : Nat) (c : Char) : Prop :=
  d ≤ 9 ∧ c.toNat = '0'.toNat + d

/-- The two characters are the tens and the units of the number. -/
def IsPairOf (n : Nat) (a b : Char) : Prop :=
  IsDigitOf (n / 10) a ∧ IsDigitOf (n % 10) b

/-- A digit is not a colon. -/
theorem IsDigitOf.ne_colon {d : Nat} {c : Char} (h : IsDigitOf d c) : c ≠ ':' := by
  rintro rfl
  obtain ⟨hd, hc⟩ := h
  have : ':'.toNat = '0'.toNat + 10 := rfl
  omega

/-- A digit below ten stands for its number in the order of the ASCII digits. -/
theorem digit?_eq_some_iff {d : Nat} (hd : d ≤ 9) (c : Char) :
    Numeral.digit? c = some d ↔ IsDigitOf d c := by
  have h0 : '0'.toNat = 48 := rfl
  have hdigit : '0' ≤ c ∧ c ≤ '9' ↔ 48 ≤ c.toNat ∧ c.toNat ≤ 57 := Iff.rfl
  unfold Numeral.digit? IsDigitOf
  rw [h0]
  split
  · rename_i hc
    rw [hdigit] at hc
    rw [Option.some.injEq]
    omega
  · rename_i hc
    rw [hdigit] at hc
    -- A letter stands for ten or more.
    have hletter : ∀ a : Char, some (c.toNat - a.toNat + 10) ≠ some d := by
      intro a h
      have := Option.some.inj h
      omega
    have hother : ¬(d ≤ 9 ∧ c.toNat = 48 + d) := by omega
    split
    · exact iff_of_false (hletter _) hother
    · split
      · exact iff_of_false (hletter _) hother
      · exact iff_of_false nofun hother

/-- A character is read as a digit exactly if it is the digit of some number. -/
theorem isDigit_iff (c : Char) : Numeral.isDigit 10 c = true ↔ ∃ d, IsDigitOf d c := by
  unfold Numeral.isDigit
  constructor
  · intro h
    split at h
    · rename_i d hd
      have hlt : d < 10 := of_decide_eq_true h
      exact ⟨d, (digit?_eq_some_iff (by omega) c).1 hd⟩
    · cases h
  · rintro ⟨d, hd⟩
    rw [(digit?_eq_some_iff hd.1 c).2 hd]
    exact decide_eq_true (by have := hd.1; omega)

/-- The digit of a number is read as it. -/
theorem digit?_of_isDigitOf {d : Nat} {c : Char} (h : IsDigitOf d c) : Numeral.digit? c = some d :=
  (digit?_eq_some_iff h.1 c).2 h

/-- One character is read as the number it is the digit of. -/
theorem read?_one_eq_some_iff (n : Nat) (a : Char) :
    Numeral.read? 10 [a] = some n ↔ IsDigitOf n a := by
  constructor
  · intro h
    obtain ⟨⟨-, hdigits⟩, hvalue⟩ := Option.ite_none_right_eq_some.1 h
    obtain ⟨d, hd⟩ := (isDigit_iff a).1 (by simpa using hdigits)
    have : d = n := by simpa [Numeral.value, digit?_of_isDigitOf hd] using hvalue
    exact this ▸ hd
  · intro h
    refine Option.ite_none_right_eq_some.2 ⟨⟨by simp, ?_⟩, ?_⟩
    · simpa using (isDigit_iff a).2 ⟨n, h⟩
    · simp [Numeral.value, digit?_of_isDigitOf h]

/-- Two characters are read as the number they are the pair of. -/
theorem read?_two_eq_some_iff (n : Nat) (a b : Char) :
    Numeral.read? 10 [a, b] = some n ↔ IsPairOf n a b := by
  constructor
  · intro h
    obtain ⟨⟨-, hdigits⟩, hvalue⟩ := Option.ite_none_right_eq_some.1 h
    obtain ⟨ha, hb⟩ : Numeral.isDigit 10 a = true ∧ Numeral.isDigit 10 b = true := by
      simpa using hdigits
    obtain ⟨d, hd⟩ := (isDigit_iff a).1 ha
    obtain ⟨e, he⟩ := (isDigit_iff b).1 hb
    have hn : d * 10 + e = n := by
      simpa [Numeral.value, digit?_of_isDigitOf hd, digit?_of_isDigitOf he] using hvalue
    have := he.1
    have htens : n / 10 = d := by omega
    have hunits : n % 10 = e := by omega
    exact ⟨htens ▸ hd, hunits ▸ he⟩
  · rintro ⟨ha, hb⟩
    refine Option.ite_none_right_eq_some.2 ⟨⟨by simp, ?_⟩, ?_⟩
    · simpa using ⟨(isDigit_iff a).2 ⟨_, ha⟩, (isDigit_iff b).2 ⟨_, hb⟩⟩
    · simp only [Numeral.value, List.foldl_cons, List.foldl_nil, digit?_of_isDigitOf ha,
        digit?_of_isDigitOf hb, Option.getD_some]
      rw [Option.some.injEq]
      omega

/-! ## The documented texts -/

/-- The text is a documented one of the minute: two digits of an hour up to 23 and two of a minute
up to 59, with a colon between them or without, or an hour of one digit, a colon and two digits of
a minute.  Midnight at the end of a day is 24:00 and means the last minute. -/
inductive Written : List Char → Int → Prop
  | packed {hour minute : Nat} {a b c d : Char} (hhour : hour ≤ 23) (hminute : minute ≤ 59)
      (hh : IsPairOf hour a b) (hm : IsPairOf minute c d) :
      Written [a, b, c, d] (60 * hour + minute)
  | pointed {hour minute : Nat} {a b c d : Char} (hhour : hour ≤ 23) (hminute : minute ≤ 59)
      (hh : IsPairOf hour a b) (hm : IsPairOf minute c d) :
      Written [a, b, ':', c, d] (60 * hour + minute)
  | short {hour minute : Nat} {a c d : Char} (hminute : minute ≤ 59)
      (hh : IsDigitOf hour a) (hm : IsPairOf minute c d) :
      Written [a, ':', c, d] (60 * hour + minute)
  | packedEnd : Written ['2', '4', '0', '0'] lastMinute
  | pointedEnd : Written ['2', '4', ':', '0', '0'] lastMinute

/-- The digits of a time are taken if they are those of midnight at the end of the day, or of an
hour and a minute in bounds. -/
theorem ofDigits?_eq_some_iff (hs ms : List Char) (minute : Int) :
    ofDigits? hs ms = some minute ↔
      ∃ h m, Numeral.read? 10 hs = some h ∧ Numeral.read? 10 ms = some m ∧
        (h = 24 ∧ m = 0 ∧ minute = lastMinute ∨
          h ≤ 23 ∧ m ≤ 59 ∧ minute = 60 * h + m) := by
  have hclock : ∀ h m : Nat, ofClock? h m = some minute ↔
      h = 24 ∧ m = 0 ∧ minute = lastMinute ∨ h ≤ 23 ∧ m ≤ 59 ∧ minute = 60 * h + m := by
    intro h m
    unfold ofClock?
    split
    · rw [Option.some.injEq]
      omega
    · split
      · rw [Option.some.injEq]
        omega
      · exact iff_of_false nofun (by omega)
  simp only [ofDigits?, Option.bind_eq_bind, Option.bind_eq_some_iff, hclock, exists_and_left]

/-- The digits of one number are the same character. -/
theorem IsDigitOf.eq {d : Nat} {a b : Char} (ha : IsDigitOf d a) (hb : IsDigitOf d b) : a = b :=
  Char.toNat_inj.1 (ha.2.trans hb.2.symm)

/-- One digit for the hour makes a time of the form H:MM. -/
theorem ofDigits?_short_iff (a c d : Char) (minute : Int) :
    ofDigits? [a] [c, d] = some minute ↔ Written [a, ':', c, d] minute := by
  simp only [ofDigits?_eq_some_iff, read?_one_eq_some_iff, read?_two_eq_some_iff]
  constructor
  · rintro ⟨h, m, hh, hm, ⟨rfl, -⟩ | ⟨-, hle, rfl⟩⟩
    · exact absurd hh.1 (by decide)
    · exact .short hle hh hm
  · intro hwritten
    cases hwritten with
    | packed _ _ hh _ => exact absurd rfl hh.2.ne_colon
    | short hminute hh hm =>
      have := hh.1
      exact ⟨_, _, hh, hm, .inr ⟨by omega, hminute, rfl⟩⟩

/-- Two digits for the hour make a time of the form HH:MM. -/
theorem ofDigits?_pointed_iff (a b c d : Char) (minute : Int) :
    ofDigits? [a, b] [c, d] = some minute ↔ Written [a, b, ':', c, d] minute := by
  simp only [ofDigits?_eq_some_iff, read?_two_eq_some_iff]
  have h24 : IsPairOf 24 '2' '4' := ⟨⟨by decide, rfl⟩, by decide, rfl⟩
  have h00 : IsPairOf 0 '0' '0' := ⟨⟨by decide, rfl⟩, by decide, rfl⟩
  constructor
  · rintro ⟨h, m, hh, hm, ⟨rfl, rfl, rfl⟩ | ⟨hhour, hminute, rfl⟩⟩
    · rw [hh.1.eq h24.1, hh.2.eq h24.2, hm.1.eq h00.1, hm.2.eq h00.2]
      exact .pointedEnd
    · exact .pointed hhour hminute hh hm
  · intro hwritten
    cases hwritten with
    | pointed hhour hminute hh hm => exact ⟨_, _, hh, hm, .inr ⟨hhour, hminute, rfl⟩⟩
    | pointedEnd => exact ⟨_, _, h24, h00, .inl ⟨rfl, rfl, rfl⟩⟩

/-- With two digits of an hour the colon may be left out. -/
theorem written_packed_iff {b : Char} (hb : b ≠ ':') (a c d : Char) (minute : Int) :
    Written [a, b, c, d] minute ↔ Written [a, b, ':', c, d] minute := by
  constructor
  · intro h
    cases h with
    | packed hhour hminute hh hm => exact .pointed hhour hminute hh hm
    | short => exact absurd rfl hb
    | packedEnd => exact .pointedEnd
  · intro h
    cases h with
    | pointed hhour hminute hh hm => exact .packed hhour hminute hh hm
    | pointedEnd => exact .packedEnd

/-- A written time has four or five characters. -/
theorem Written.length_bounds {cs : List Char} {minute : Int} (h : Written cs minute) :
    4 ≤ cs.length ∧ cs.length ≤ 5 := by
  cases h <;> simp

/-- There is one colon, with two characters behind it, or there is none and there are four
characters. -/
def IsLaidOut (cs : List Char) : Prop :=
  ∃ hs a b, ':' ∉ hs ++ [a, b] ∧ (cs = hs ++ [':', a, b] ∨ hs.length = 2 ∧ cs = hs ++ [a, b])

/-- There is no colon in a pair of digits. -/
theorem IsPairOf.notMem {n : Nat} {a b : Char} (h : IsPairOf n a b) : ':' ∉ [a, b] := by
  simp [h.1.ne_colon.symm, h.2.ne_colon.symm]

/-- A written time is laid out as one. -/
theorem Written.isLaidOut {cs : List Char} {minute : Int} (h : Written cs minute) :
    IsLaidOut cs := by
  cases h with
  | packed _ _ hh hm =>
    exact ⟨[_, _], _, _, List.not_mem_append hh.notMem hm.notMem, .inr ⟨rfl, rfl⟩⟩
  | pointed _ _ hh hm =>
    exact ⟨[_, _], _, _, List.not_mem_append hh.notMem hm.notMem, .inl rfl⟩
  | short _ hh hm =>
    have hhour : ∀ c ∈ [_], c ≠ ':' := List.forall_mem_singleton.2 hh.ne_colon
    exact ⟨[_], _, _, List.not_mem_append (fun h => hhour _ h rfl) hm.notMem, .inl rfl⟩
  | packedEnd => exact ⟨['2', '4'], '0', '0', by decide, .inr ⟨rfl, rfl⟩⟩
  | pointedEnd => exact ⟨['2', '4'], '0', '0', by decide, .inl rfl⟩

/-! ## The reader -/

/-- The reader takes a text as if the only colon in it stood before its last two digits. -/
theorem parse?_eq_some_iff (s : String) (minute : Int) :
    parse? s = some minute ↔
      ∃ hs a b, (Text.trim s.toList).filter (· ≠ ':') = hs ++ [a, b] ∧
        Written (hs ++ [':', a, b]) minute := by
  generalize hdigits : (Text.trim s.toList).filter (· ≠ ':') = ds
  constructor
  · intro h
    rw [parse?, hdigits] at h
    split at h
    · exact ⟨[_], _, _, rfl, (ofDigits?_short_iff ..).1 h⟩
    · exact ⟨[_, _], _, _, rfl, (ofDigits?_pointed_iff ..).1 h⟩
    · cases h
  · rintro ⟨hs, a, b, rfl, hwritten⟩
    have hlength := hwritten.length_bounds
    rw [parse?, hdigits]
    match hs with
    | [] => exact absurd hlength.1 (by simp)
    | [h] => exact (ofDigits?_short_iff ..).2 hwritten
    | [h₁, h₂] => exact (ofDigits?_pointed_iff ..).2 hwritten
    | _ :: _ :: _ :: _ => exact absurd hlength.2 (by simp)

/-- A text that is laid out like the documented ones is read if it is one of them. -/
theorem parse?_of_isLaidOut {s : String} (h : IsLaidOut (Text.trim s.toList)) (minute : Int) :
    parse? s = some minute ↔ Written (Text.trim s.toList) minute := by
  rw [parse?_eq_some_iff]
  obtain ⟨hs, a, b, hcolon, hcs⟩ := h
  have hkept : (hs ++ [a, b]).filter (· ≠ ':') = hs ++ [a, b] :=
    List.filter_eq_self.2 fun c hc => by simpa using ne_of_mem_of_not_mem hc hcolon
  have hfilter : (Text.trim s.toList).filter (· ≠ ':') = hs ++ [a, b] := by
    rcases hcs with hcs | ⟨-, hcs⟩
    · rw [hcs, ← hkept]
      simp [List.filter_append, List.filter_cons]
    · rw [hcs, hkept]
  have hread : (∃ hs' x y, hs ++ [a, b] = hs' ++ [x, y] ∧ Written (hs' ++ [':', x, y]) minute) ↔
      Written (hs ++ [':', a, b]) minute := by
    constructor
    · rintro ⟨hs', x, y, heq, hwritten⟩
      obtain ⟨rfl, htail⟩ := List.append_inj' heq rfl
      cases htail
      exact hwritten
    · exact fun hwritten => ⟨hs, a, b, rfl, hwritten⟩
  rw [hfilter, hread]
  rcases hcs with hcs | ⟨htwo, hcs⟩
  · rw [hcs]
  · obtain ⟨x, y, rfl⟩ := List.length_eq_two.1 htwo
    rw [hcs]
    exact (written_packed_iff (by rintro rfl; simp at hcolon) x a b minute).symm

/-- Every documented text of a minute is read as that minute.  A text is read as a minute exactly if
its digits, with one colon before the last two of them, are a documented text of it.  So the reader
takes the documented texts of a time of day and nothing else, exactly where it refuses the text or
the text has the layout of a documented one. -/
theorem parse?_reads_written_times (s : String) :
    (∀ minute, Written (Text.trim s.toList) minute → parse? s = some minute) ∧
      (∀ minute, parse? s = some minute ↔
        ∃ hs a b, (Text.trim s.toList).filter (· ≠ ':') = hs ++ [a, b] ∧
          Written (hs ++ [':', a, b]) minute) ∧
      ((∀ minute, parse? s = some minute ↔ Written (Text.trim s.toList) minute) ↔
        parse? s = none ∨ IsLaidOut (Text.trim s.toList)) := by
  have hwritten : ∀ minute, Written (Text.trim s.toList) minute → parse? s = some minute :=
    fun minute h => (parse?_of_isLaidOut h.isLaidOut minute).2 h
  refine ⟨hwritten, parse?_eq_some_iff s, ?_, ?_⟩
  · intro h
    cases hparse : parse? s with
    | none => exact .inl rfl
    | some minute => exact .inr ((h minute).1 hparse).isLaidOut
  · rintro (hnone | hlaid) minute
    · exact ⟨fun h => absurd (hnone.symm.trans h) nofun, hwritten minute⟩
    · exact parse?_of_isLaidOut hlaid minute

/-- A colon among the digits moves none of them. -/
theorem parse?_colon_among_digits :
    parse? "1:230" = some 750 ∧ ∀ minute, ¬Written (Text.trim "1:230".toList) minute := by
  refine ⟨by decide +kernel, fun minute h => ?_⟩
  rw [show Text.trim "1:230".toList = ['1', ':', '2', '3', '0'] by decide +kernel] at h
  cases h

end TimeOfDay
end Tariff
