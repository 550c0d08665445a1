import Tariff.Journal.Entry

/-!
# Reading back a journal

What is written to a journal is read back from it, whatever octets follow: texts and
lists of texts first, then payloads, entries and whole journals.

Main results:

- Theorem {lit}`Payload.decode_encode`: a payload that is not too long is read back.
- Theorem {lit}`Journal.readEntry_entry`: an entry is read back and taken off the front.
- Theorem {lit}`Journal.replay_append`: the entries in front of a journal are replayed
  first.
-/

namespace Tariff
namespace Octets

/-- A number that fits its octets is read back. -/
theorem readNat_nat_of_lt {width n : Nat} (h : n < capacity width) (rest : List UInt8) :
    readNat width (nat width n ++ rest) = some (n, rest) := by
  rw [readNat_nat, Nat.mod_eq_of_lt h]

/-- The octets of a string are decoded to it. -/
theorem fromUTF8?_octets (s : String) :
    String.fromUTF8? ⟨s.toUTF8.data.toList.toArray⟩ = some s := by
  have hoctets : (⟨s.toUTF8.data.toList.toArray⟩ : ByteArray) = s.toByteArray := rfl
  rw [hoctets]
  unfold String.fromUTF8?
  rw [dif_pos s.isValidUTF8]
  rfl

/-- A string is written behind eight octets for its length. -/
@[simp] theorem length_string (s : String) : (string s).length = 8 + s.utf8ByteSize := by
  simp only [string, List.length_append, length_nat, Array.length_toList]
  rfl

/-- A text is read back, whatever follows. -/
theorem readString_string {s : String} (h : (string s).length < capacity 8)
    (rest : List UInt8) : readString (string s ++ rest) = some (s, rest) := by
  rw [length_string] at h
  have hsize : s.utf8ByteSize < capacity 8 := by omega
  have hlength : s.toUTF8.data.toList.length = s.utf8ByteSize := by
    rw [Array.length_toList]
    rfl
  have htake : take s.utf8ByteSize (s.toUTF8.data.toList ++ rest) =
      some (s.toUTF8.data.toList, rest) := by
    rw [← hlength]
    exact take_append _ _
  unfold readString string
  rw [List.append_assoc, readNat_nat_of_lt hsize]
  simp only [Option.bind_eq_bind, Option.bind_some]
  rw [htake]
  simp only [Option.bind_some]
  rw [fromUTF8?_octets]
  rfl

/-- Texts are read back one by one, whatever follows. -/
theorem readStringsOf_flatMap {ss : List String} (h : (ss.flatMap string).length < capacity 8)
    (rest : List UInt8) :
    readStringsOf ss.length (ss.flatMap string ++ rest) = some (ss, rest) := by
  induction ss with
  | nil => rfl
  | cons s ss ih =>
    rw [List.flatMap_cons, List.length_append] at h
    rw [List.length_cons, List.flatMap_cons, List.append_assoc, readStringsOf,
      readString_string (by omega)]
    simp only
    rw [ih (by omega)]
    rfl

/-- A list of strings is no longer than the octets it is written in. -/
theorem length_le_length_flatMap (ss : List String) :
    ss.length ≤ (ss.flatMap string).length := by
  induction ss with
  | nil => exact Nat.le_refl 0
  | cons s ss ih =>
    rw [List.flatMap_cons, List.length_append, List.length_cons, length_string]
    omega

/-- A list of texts is read back, whatever follows. -/
theorem readStrings_strings {ss : List String} (h : (strings ss).length < capacity 8)
    (rest : List UInt8) : readStrings (strings ss ++ rest) = some (ss, rest) := by
  have hle := length_le_length_flatMap ss
  unfold strings at h
  rw [List.length_append, length_nat] at h
  have hcount : ss.length < capacity 8 := by omega
  unfold readStrings strings
  rw [List.append_assoc, readNat_nat_of_lt hcount]
  simp only [Option.bind_eq_bind, Option.bind_some]
  exact readStringsOf_flatMap (by omega) rest

end Octets

namespace Payload

open Octets

/-- A time that is written is read back. -/
theorem readTime_nat (t : Int64) (rest : List UInt8) :
    readTime (nat 8 t.toUInt64.toNat ++ rest) = some (t, rest) := by
  have ht : t.toUInt64.toNat < capacity 8 := t.toUInt64.toNat_lt
  have hround : (UInt64.ofNat t.toUInt64.toNat).toInt64 = t := by
    rw [UInt64.ofNat_toNat]
    exact Int64.toInt64_toUInt64 t
  unfold readTime
  rw [readNat_nat_of_lt ht]
  simp only [Option.map_some, hround]

/-- A payload that is not too long is read back, whatever follows. -/
theorem decode_encode {r : Record} (h : (encode r).length < capacity 8) (rest : List UInt8) :
    decode (encode r ++ rest) = some r := by
  have hkind : readNat 4 (encode r ++ rest) = some (kind r, fields r ++ rest) := by
    have hlt : kind r < capacity 4 := by
      cases r with
      | _ => simp [kind, capacity]
    unfold encode
    rw [List.append_assoc, readNat_nat_of_lt hlt]
  unfold decode
  rw [hkind]
  simp only [Option.bind_eq_bind, Option.bind_some]
  unfold encode at h
  cases r with
  | validity v =>
    have hid : v.id.toNat < capacity 8 := v.id.toNat_lt
    simp only [fields, List.length_append, length_nat] at h
    simp only [kind, readFields, readValidity, fields, List.append_assoc]
    rw [readNat_nat_of_lt hid]
    simp only [Option.bind_eq_bind, Option.bind_some]
    rw [readString_string (by omega)]
    simp only [Option.bind_some]
    rw [readString_string (by omega)]
    simp only [Option.bind_some]
    rw [readTime_nat]
    simp only [Option.bind_some]
    rw [readTime_nat]
    simp only [Option.bind_some]
    rw [readStrings_strings (by omega)]
    simp only [Option.bind_some]
    rw [readTime_nat]
    simp
  | interval model day start stop result =>
    have hday : day.toNat < capacity 1 := day.toNat_lt
    simp only [fields, List.length_append, length_nat] at h
    simp only [kind, readFields, readInterval, fields, List.append_assoc]
    rw [readString_string (by omega)]
    simp only [Option.bind_eq_bind, Option.bind_some]
    rw [readNat_nat_of_lt hday]
    simp only [Option.bind_some]
    rw [readString_string (by omega)]
    simp only [Option.bind_some]
    rw [readString_string (by omega)]
    simp only [Option.bind_some]
    rw [readString_string (by omega)]
    simp
  | mapping plan model =>
    simp only [fields, List.length_append] at h
    simp only [kind, readFields, readMapping, fields, List.append_assoc]
    rw [readString_string (by omega)]
    simp only [Option.bind_eq_bind, Option.bind_some]
    rw [readString_string (by omega)]
    simp
  | rule group conditions results =>
    simp only [fields, List.length_append] at h
    simp only [kind, readFields, readRule, fields, List.append_assoc]
    rw [readString_string (by omega)]
    simp only [Option.bind_eq_bind, Option.bind_some]
    rw [readStrings_strings (by omega)]
    simp only [Option.bind_some]
    rw [readStrings_strings (by omega)]
    simp

end Payload

namespace Journal

open Octets

/-- The payload of a record is short enough to be read again. -/
def Fits (r : Record) : Prop :=
  (Payload.encode r).length ≤ maxPayload

instance (r : Record) : Decidable (Fits r) :=
  inferInstanceAs (Decidable (_ ≤ _))

/-- An entry is read by its payload, if this is short enough, and taken off the front. -/
theorem readEntry_frame {payload : List UInt8} {r : Record} (h : payload.length ≤ maxPayload)
    (hdecode : Payload.decode payload = some r) (rest : List UInt8) :
    readEntry (frame payload ++ rest) = some (r, rest) := by
  have hmax : maxPayload < capacity 4 := by decide
  have hnot : ¬ maxPayload < payload.length := by omega
  have hsum : (Checksum.of payload).toNat < capacity 4 := (Checksum.of payload).isLt
  unfold readEntry frame
  rw [List.append_assoc, List.append_assoc, readNat_nat_of_lt (by omega)]
  simp only [Option.bind_eq_bind, Option.bind_some, hnot, if_false]
  rw [take_append]
  simp only [Option.bind_some]
  rw [readNat_nat_of_lt hsum]
  simp only [Option.bind_some, if_true]
  rw [hdecode]
  rfl

/-- An entry is read back and taken off the front. -/
theorem readEntry_entry {r : Record} (h : Fits r) (rest : List UInt8) :
    readEntry (entry r ++ rest) = some (r, rest) := by
  have hdecode : Payload.decode (Payload.encode r) = some r := by
    have hlt : (Payload.encode r).length < capacity 8 := by
      have : maxPayload < capacity 8 := by decide
      unfold Fits at h
      omega
    simpa using Payload.decode_encode hlt []
  exact readEntry_frame h hdecode rest

/-- The entries of one more record. -/
theorem entries_concat (rs : List Record) (r : Record) :
    entries (rs ++ [r]) = entries rs ++ entry r := by
  unfold entries
  rw [List.flatMap_append, List.flatMap_singleton]

/-- More fuel than there are octets changes nothing. -/
theorem replayFor_of_le {fuel : Nat} {bs : List UInt8} (h : bs.length ≤ fuel) :
    replayFor fuel bs = replay bs := by
  have hequal : ∀ fuel fuel' : Nat, ∀ bs : List UInt8, bs.length ≤ fuel → bs.length ≤ fuel' →
      replayFor fuel bs = replayFor fuel' bs := by
    intro fuel
    induction fuel with
    | zero =>
      intro fuel' bs hbs _
      have hnil : bs = [] := List.length_eq_zero_iff.1 (Nat.le_zero.1 hbs)
      subst hnil
      cases fuel' <;> rfl
    | succ fuel ih =>
      intro fuel' bs hbs hbs'
      cases fuel' with
      | zero =>
        have hnil : bs = [] := List.length_eq_zero_iff.1 (Nat.le_zero.1 hbs')
        subst hnil
        rfl
      | succ fuel' =>
        unfold replayFor
        cases hread : readEntry bs with
        | none => rfl
        | some next =>
          have hlength := length_of_readEntry hread
          simp only
          rw [ih fuel' next.2 (by omega) (by omega)]
  exact hequal fuel bs.length bs h (Nat.le_refl _)

/-- An entry that can be read is replayed, and then what follows. -/
theorem replay_of_readEntry {bs rest : List UInt8} {r : Record}
    (h : readEntry bs = some (r, rest)) : replay bs = r :: replay rest := by
  have hlength := length_of_readEntry h
  obtain ⟨n, hn⟩ : ∃ n, bs.length = n + 1 := ⟨bs.length - 1, by omega⟩
  have hrest : replayFor n rest = replay rest := replayFor_of_le (by omega)
  unfold replay
  rw [hn, replayFor, h]
  simp only
  rw [hrest]
  rfl

/-- The entries in front of a journal are replayed first, and then what follows. -/
theorem replay_append {rs : List Record} (h : ∀ r ∈ rs, Fits r) (rest : List UInt8) :
    replay (entries rs ++ rest) = rs ++ replay rest := by
  induction rs with
  | nil => rfl
  | cons r rs ih =>
    obtain ⟨hr, hrs⟩ := List.forall_mem_cons.1 h
    have hentries : entries (r :: rs) ++ rest = entry r ++ (entries rs ++ rest) := by
      simp [entries]
    rw [hentries, replay_of_readEntry (readEntry_entry hr _), ih hrs]
    rfl

end Journal
end Tariff
