import Tariff.Proofs.Journal.RoundTrip

/-!
# One way to write a record

Numbers have a fixed width and texts and lists say how long they are, so that each of them
can be written in one way only.  Whatever is read off the front of some octets stands there
as it would be written.

Main results:

- Theorem {lit}`Octets.eq_string_append_of_readString`: a text that is read stands in front
  as it would be written.
- Theorem {lit}`Payload.exists_eq_encode_append`: a payload begins with the octets of the
  record that it is read as.
- Theorem {lit}`Payload.decode_take_encode`: a payload that is cut short cannot be read.
- Theorem {lit}`Journal.exists_eq_frame_append`: an entry that is read stands in front with its
  payload and its checksum.
-/

namespace Tariff
namespace Octets

/-- A number that is read stands in front as it would be written. -/
theorem eq_nat_append_of_readNat {width n : Nat} {bs rest : List UInt8}
    (h : readNat width bs = some (n, rest)) :
    n < capacity width ∧ bs = nat width n ++ rest := by
  induction width generalizing n bs with
  | zero =>
    cases h
    exact ⟨Nat.one_pos, rfl⟩
  | succ width ih =>
    cases bs with
    | nil => cases h
    | cons b bs =>
      simp only [readNat, Option.map_eq_some_iff] at h
      obtain ⟨⟨m, rest'⟩, hread, heq⟩ := h
      cases heq
      obtain ⟨hm, rfl⟩ := ih hread
      have hb : b.toNat < 256 := b.toNat_lt
      have hlow : UInt8.ofNat (b.toNat + 256 * m) = b := by
        apply UInt8.toNat_inj.1
        rw [UInt8.toNat_ofNat']
        omega
      have hhigh : (b.toNat + 256 * m) / 256 = m := by omega
      refine ⟨?_, ?_⟩
      · unfold capacity
        simp only
        omega
      · simp only [nat]
        rw [hlow, hhigh]
        rfl

/-- Octets that are taken from the front stand in front of what is left over. -/
theorem eq_append_of_take {n : Nat} {bs front rest : List UInt8}
    (h : take n bs = some (front, rest)) : front.length = n ∧ bs = front ++ rest := by
  unfold take at h
  by_cases hn : n ≤ bs.length
  · rw [if_pos hn] at h
    cases h
    exact ⟨List.length_take_of_le hn, (List.take_append_drop n bs).symm⟩
  · rw [if_neg hn] at h
    cases h

/-- A string that is decoded is encoded in the octets it was decoded from. -/
theorem toList_of_fromUTF8? {bs : List UInt8} {s : String}
    (h : String.fromUTF8? ⟨bs.toArray⟩ = some s) : s.toUTF8.data.toList = bs := by
  unfold String.fromUTF8? at h
  split at h
  · cases h
    rfl
  · cases h

/-- A text that is read stands in front as it would be written. -/
theorem eq_string_append_of_readString {s : String} {bs rest : List UInt8}
    (h : readString bs = some (s, rest)) : bs = string s ++ rest := by
  unfold readString at h
  simp only [Option.bind_eq_bind, Option.bind_eq_some_iff, Prod.exists] at h
  obtain ⟨size, bs₁, hsize, inside, bs₂, hinside, s', hs, heq⟩ := h
  cases heq
  obtain ⟨_, hbs⟩ := eq_nat_append_of_readNat hsize
  obtain ⟨hlength, hbs₁⟩ := eq_append_of_take hinside
  have hoctets := toList_of_fromUTF8? hs
  have hbytes : s.utf8ByteSize = size := by
    rw [← hlength, ← hoctets, Array.length_toList]
    rfl
  unfold string
  rw [hbs, hbs₁, hbytes, hoctets, List.append_assoc]

/-- Texts that are read stand in front as they would be written. -/
theorem eq_flatMap_append_of_readStringsOf {n : Nat} {ss : List String} {bs rest : List UInt8}
    (h : readStringsOf n bs = some (ss, rest)) :
    ss.length = n ∧ bs = ss.flatMap string ++ rest := by
  induction n generalizing ss bs with
  | zero =>
    cases h
    exact ⟨rfl, rfl⟩
  | succ n ih =>
    unfold readStringsOf at h
    cases hread : readString bs with
    | none =>
      rw [hread] at h
      cases h
    | some next =>
      obtain ⟨s, bs'⟩ := next
      rw [hread] at h
      obtain ⟨⟨ss', rest'⟩, hrest, heq⟩ := Option.map_eq_some_iff.1 h
      cases heq
      obtain ⟨hlength, rfl⟩ := ih hrest
      refine ⟨congrArg (· + 1) hlength, ?_⟩
      rw [eq_string_append_of_readString hread, List.flatMap_cons, List.append_assoc]

/-- A list of texts that is read stands in front as it would be written. -/
theorem eq_strings_append_of_readStrings {ss : List String} {bs rest : List UInt8}
    (h : readStrings bs = some (ss, rest)) : bs = strings ss ++ rest := by
  unfold readStrings at h
  simp only [Option.bind_eq_bind, Option.bind_eq_some_iff, Prod.exists] at h
  obtain ⟨count, bs₁, hcount, htexts⟩ := h
  obtain ⟨_, hbs⟩ := eq_nat_append_of_readNat hcount
  obtain ⟨hlength, hbs₁⟩ := eq_flatMap_append_of_readStringsOf htexts
  unfold strings
  rw [hbs, hbs₁, hlength, List.append_assoc]

end Octets

namespace Payload

open Octets

/-- A time that is read is written in the eight octets it was read from. -/
theorem eq_nat_append_of_readTime {t : Int64} {bs rest : List UInt8}
    (h : readTime bs = some (t, rest)) : bs = nat 8 t.toUInt64.toNat ++ rest := by
  unfold readTime at h
  obtain ⟨⟨n, rest'⟩, hread, heq⟩ := Option.map_eq_some_iff.1 h
  cases heq
  obtain ⟨hn, rfl⟩ := eq_nat_append_of_readNat hread
  have hround : (UInt64.ofNat n).toInt64.toUInt64.toNat = n := by
    rw [UInt64.toUInt64_toInt64, UInt64.toNat_ofNat']
    exact Nat.mod_eq_of_lt hn
  rw [hround]

/-! The fields of a record stand in front as they would be written, one law for each kind. -/

/-- A validity entry that is read is written in the octets it was read from. -/
theorem eq_fields_append_of_readValidity {bs : List UInt8} {r : Record}
    (h : readValidity bs = some r) : kind r = 0 ∧ ∃ rest, bs = fields r ++ rest := by
  unfold readValidity at h
  simp only [Option.bind_eq_bind, Option.bind_eq_some_iff, Prod.exists] at h
  obtain ⟨id, bs₁, hid, group, bs₂, hgroup, resource, bs₃, hresource, start, bs₄, hstart,
    stop, bs₅, hstop, results, bs₆, hresults, modified, rest, hmodified, heq⟩ := h
  cases heq
  obtain ⟨hlt, rfl⟩ := eq_nat_append_of_readNat hid
  have hround : (UInt64.ofNat id).toNat = id := by
    rw [UInt64.toNat_ofNat']
    exact Nat.mod_eq_of_lt hlt
  refine ⟨rfl, rest, ?_⟩
  simp only [fields, hround, List.append_assoc]
  rw [eq_string_append_of_readString hgroup, eq_string_append_of_readString hresource,
    eq_nat_append_of_readTime hstart, eq_nat_append_of_readTime hstop,
    eq_strings_append_of_readStrings hresults, eq_nat_append_of_readTime hmodified]

/-- An interval of a time model that is read is written in the octets it was read from. -/
theorem eq_fields_append_of_readInterval {bs : List UInt8} {r : Record}
    (h : readInterval bs = some r) : kind r = 1 ∧ ∃ rest, bs = fields r ++ rest := by
  unfold readInterval at h
  simp only [Option.bind_eq_bind, Option.bind_eq_some_iff, Prod.exists] at h
  obtain ⟨model, bs₁, hmodel, day, bs₂, hday, start, bs₃, hstart, stop, bs₄, hstop,
    result, rest, hresult, heq⟩ := h
  cases heq
  obtain ⟨hlt, hbs₁⟩ := eq_nat_append_of_readNat hday
  have hround : (UInt8.ofNat day).toNat = day := by
    rw [UInt8.toNat_ofNat']
    exact Nat.mod_eq_of_lt hlt
  refine ⟨rfl, rest, ?_⟩
  simp only [fields, hround, List.append_assoc]
  rw [eq_string_append_of_readString hmodel, hbs₁, eq_string_append_of_readString hstart,
    eq_string_append_of_readString hstop, eq_string_append_of_readString hresult]

/-- A plan that is read is written in the octets it was read from. -/
theorem eq_fields_append_of_readMapping {bs : List UInt8} {r : Record}
    (h : readMapping bs = some r) : kind r = 2 ∧ ∃ rest, bs = fields r ++ rest := by
  unfold readMapping at h
  simp only [Option.bind_eq_bind, Option.bind_eq_some_iff, Prod.exists] at h
  obtain ⟨plan, bs₁, hplan, model, rest, hmodel, heq⟩ := h
  cases heq
  refine ⟨rfl, rest, ?_⟩
  simp only [fields, List.append_assoc]
  rw [eq_string_append_of_readString hplan, eq_string_append_of_readString hmodel]

/-- A rule that is read is written in the octets it was read from. -/
theorem eq_fields_append_of_readRule {bs : List UInt8} {r : Record}
    (h : readRule bs = some r) : kind r = 3 ∧ ∃ rest, bs = fields r ++ rest := by
  unfold readRule at h
  simp only [Option.bind_eq_bind, Option.bind_eq_some_iff, Prod.exists] at h
  obtain ⟨group, bs₁, hgroup, conditions, bs₂, hconditions, results, rest, hresults, heq⟩ := h
  cases heq
  refine ⟨rfl, rest, ?_⟩
  simp only [fields, List.append_assoc]
  rw [eq_string_append_of_readString hgroup, eq_strings_append_of_readStrings hconditions,
    eq_strings_append_of_readStrings hresults]

/-- Fields that are read belong to a record of the number that was asked for, and are written in
the octets they were read from. -/
theorem eq_fields_append_of_readFields {number : Nat} {bs : List UInt8} {r : Record}
    (h : readFields number bs = some r) : kind r = number ∧ ∃ rest, bs = fields r ++ rest := by
  unfold readFields at h
  split at h
  · exact eq_fields_append_of_readValidity h
  · exact eq_fields_append_of_readInterval h
  · exact eq_fields_append_of_readMapping h
  · exact eq_fields_append_of_readRule h
  · cases h

/-- A payload begins with the octets of the record that it is read as. -/
theorem exists_eq_encode_append {bs : List UInt8} {r : Record} (h : decode bs = some r) :
    ∃ rest, bs = encode r ++ rest := by
  unfold decode at h
  simp only [Option.bind_eq_bind, Option.bind_eq_some_iff, Prod.exists] at h
  obtain ⟨number, bs₁, hnumber, hfields⟩ := h
  obtain ⟨_, hbs⟩ := eq_nat_append_of_readNat hnumber
  obtain ⟨hkind, rest, hbs₁⟩ := eq_fields_append_of_readFields hfields
  refine ⟨rest, ?_⟩
  unfold encode
  rw [hbs, hbs₁, hkind, List.append_assoc]

/-- No record is longer than the payload that it is read from. -/
theorem length_encode_le {bs : List UInt8} {r : Record} (h : decode bs = some r) :
    (encode r).length ≤ bs.length := by
  obtain ⟨rest, rfl⟩ := exists_eq_encode_append h
  rw [List.length_append]
  exact Nat.le_add_right _ _

/-- A payload that is cut short cannot be read.  The whole payload would be read as the same
record, which then is too long for the cut. -/
theorem decode_take_encode {r : Record} (h : (encode r).length < capacity 8) {n : Nat}
    (hn : n < (encode r).length) : decode ((encode r).take n) = none := by
  cases hdecode : decode ((encode r).take n) with
  | none => rfl
  | some r' =>
    obtain ⟨rest, hrest⟩ := exists_eq_encode_append hdecode
    have hwhole : encode r = encode r' ++ (rest ++ (encode r).drop n) := by
      rw [← List.append_assoc, ← hrest, List.take_append_drop]
    have hle := length_encode_le hdecode
    rw [List.length_take] at hle
    have hread := decode_encode (r := r') (by omega) (rest ++ (encode r).drop n)
    have hself := decode_encode h []
    rw [List.append_nil] at hself
    rw [← hwhole, hself] at hread
    cases hread
    omega

end Payload

namespace Journal

/-- An entry that is read stands in front with its payload, which is short enough and followed
by its checksum. -/
theorem exists_eq_frame_append {bs rest : List UInt8} {r : Record}
    (h : readEntry bs = some (r, rest)) :
    ∃ payload, payload.length ≤ maxPayload ∧ Payload.decode payload = some r ∧
      bs = frame payload ++ rest := by
  unfold readEntry at h
  simp only [Option.bind_eq_bind, Option.bind_eq_some_iff, Prod.exists] at h
  obtain ⟨size, bs₁, hsize, h⟩ := h
  obtain ⟨_, hbs⟩ := Octets.eq_nat_append_of_readNat hsize
  by_cases hlong : maxPayload < size
  · rw [if_pos hlong] at h
    cases h
  · rw [if_neg hlong] at h
    simp only [Option.bind_eq_some_iff, Prod.exists] at h
    obtain ⟨payload, bs₂, hpayload, sum, bs₃, hsum, h⟩ := h
    obtain ⟨hlength, hbs₁⟩ := Octets.eq_append_of_take hpayload
    obtain ⟨_, hbs₂⟩ := Octets.eq_nat_append_of_readNat hsum
    by_cases hmatch : sum = (Checksum.of payload).toNat
    · rw [if_pos hmatch, Option.bind_eq_some_iff] at h
      obtain ⟨r', hdecode, heq⟩ := h
      cases heq
      refine ⟨payload, by omega, hdecode, ?_⟩
      unfold frame
      rw [hbs, hbs₁, hbs₂, hmatch, hlength, List.append_assoc, List.append_assoc]
    · rw [if_neg hmatch] at h
      cases h

end Journal
end Tariff
