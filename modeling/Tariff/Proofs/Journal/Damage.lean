import Tariff.Proofs.Journal.Oversize
import Tariff.Proofs.Journal.Provider

/-!
# Damaged octets

The highest bit of the checksum's polynomial is set, so that no shift of the register loses
anything: which bit was shifted out can be seen from the outcome.  Registers that differ
therefore differ for good, and a single octet that is another one makes another checksum,
however many octets follow it.  A journal with one damaged octet in a payload or in a checksum
is replayed up to the entry that the octet belongs to.

Main results:

- Theorem {lit}`Checksum.shift_injective`: shifting a bit out loses nothing.
- Theorem {lit}`Checksum.of_ne_of_ne`: one octet that is another one makes another checksum.
- Theorem {lit}`Journal.readEntry_modify_entry`: an entry with a damaged octet behind its length
  cannot be read.
- Theorem {lit}`JournalFile.damage_is_noticed`: what a journal with a damaged octet replays.
-/

namespace Tariff
namespace Checksum

/-! ## Registers that differ -/

/-- The bit that is shifted out can be seen in front of what is left. -/
theorem msb_shift (register : BitVec 32) : (shift register).msb = register.getLsbD 0 := by
  have hfront : (register >>> 1).msb = false := BitVec.msb_ushiftRight
  have hpolynomial : polynomial.msb = true := by decide
  unfold shift
  by_cases hlast : register.getLsbD 0 = true
  · rw [if_pos hlast, BitVec.msb_xor, hfront, hpolynomial, hlast]
    rfl
  · rw [if_neg hlast, hfront, Bool.eq_false_iff.2 hlast]

/-- Shifting a bit out loses nothing. -/
theorem shift_injective : Function.Injective shift := by
  intro a b h
  have hlast : a.getLsbD 0 = b.getLsbD 0 := by
    rw [← msb_shift, ← msb_shift, h]
  have hrest : a >>> 1 = b >>> 1 := by
    unfold shift at h
    rw [hlast] at h
    by_cases hb : b.getLsbD 0 = true
    · rw [if_pos hb, if_pos hb] at h
      exact (BitVec.xor_left_inj polynomial).1 h
    · rwa [if_neg hb, if_neg hb] at h
  refine BitVec.eq_of_getLsbD_eq fun i _ => ?_
  cases i with
  | zero => exact hlast
  | succ i =>
    have hbit := congrArg (fun register => register.getLsbD i) hrest
    simp only [BitVec.getLsbD_ushiftRight] at hbit
    rwa [Nat.add_comm] at hbit

/-- Two registers that are shifted to the same register are the same. -/
theorem shifts_injective (n : Nat) : Function.Injective (shifts n) := by
  induction n with
  | zero => exact fun _ _ h => h
  | succ n ih => exact fun _ _ h => shift_injective (ih h)

/-- Registers that differ differ still when they have taken in the same octets. -/
theorem run_injective (octets : List UInt8) : Function.Injective fun r => run r octets := by
  induction octets with
  | nil => exact fun _ _ h => h
  | cons octet octets ih =>
    intro a b h
    exact (BitVec.xor_left_inj _).1 (shifts_injective 8 (ih h))

/-- A register that takes in different octets becomes different registers. -/
theorem absorb_injective (register : BitVec 32) : Function.Injective (absorb register) := by
  intro octet octet' h
  have hwide : octet.toBitVec.setWidth 32 = octet'.toBitVec.setWidth 32 :=
    (BitVec.xor_right_inj register).1 (shifts_injective 8 h)
  have hnumber := congrArg BitVec.toNat hwide
  rw [BitVec.toNat_setWidth_of_le (by decide), BitVec.toNat_setWidth_of_le (by decide)] at hnumber
  exact UInt8.toNat_inj.1 hnumber

/-- One octet that is another one makes another checksum. -/
theorem of_ne_of_ne {octet octet' : UInt8} (h : octet ≠ octet') (front back : List UInt8) :
    of (front ++ octet :: back) ≠ of (front ++ octet' :: back) := by
  intro hof
  unfold of at hof
  rw [run_append, run_append] at hof
  exact h (absorb_injective _ (run_injective back (BitVec.not_inj.1 hof)))

end Checksum

namespace Octets

/-- Numbers that fit are told apart by their octets. -/
theorem nat_inj {width m n : Nat} (hm : m < capacity width) (hn : n < capacity width)
    (h : nat width m = nat width n) : m = n := by
  have hread := readNat_nat_of_lt hm []
  rw [h, readNat_nat_of_lt hn] at hread
  cases hread
  rfl

end Octets

namespace Journal

open Octets

/-! ## Entries with a damaged octet -/

/-- An entry with the checksum of another payload cannot be read.  If it were, the same octets
would be an entry of some payload, of the same length and so the same all through. -/
theorem readEntry_eq_none_of_sum_ne {payload sum : List UInt8}
    (hsize : payload.length ≤ maxPayload) (hlength : sum.length = 4)
    (h : sum ≠ nat 4 (Checksum.of payload).toNat) (rest : List UInt8) :
    readEntry (nat 4 payload.length ++ payload ++ sum ++ rest) = none := by
  cases hread : readEntry (nat 4 payload.length ++ payload ++ sum ++ rest) with
  | none => rfl
  | some next =>
    obtain ⟨payload', hsize', _, heq⟩ := exists_eq_frame_append hread
    have hmax : maxPayload < capacity 4 := by decide
    unfold frame at heq
    simp only [List.append_assoc] at heq
    obtain ⟨hword, hrest⟩ := List.append_inj heq (by rw [length_nat, length_nat])
    have hlengths := nat_inj (by omega) (by omega) hword
    obtain ⟨rfl, hrest⟩ := List.append_inj hrest hlengths
    obtain ⟨rfl, _⟩ := List.append_inj hrest (by rw [hlength, length_nat])
    exact absurd rfl h

/-- An octet that is changed in front of a cut is changed in the front part. -/
theorem modify_append_of_lt {front : List UInt8} {place : Nat} (h : place < front.length)
    (f : UInt8 → UInt8) (back : List UInt8) :
    (front ++ back).modify place f = front.modify place f ++ back := by
  induction front generalizing place with
  | nil => cases h
  | cons octet front ih =>
    cases place with
    | zero => rfl
    | succ place =>
      rw [List.cons_append, List.modify_succ_cons, List.modify_succ_cons, List.cons_append,
        ih (Nat.lt_of_succ_lt_succ h)]

/-- An octet that is changed behind a cut is changed in the back part. -/
theorem modify_append_of_le {front : List UInt8} {place : Nat} (h : front.length ≤ place)
    (f : UInt8 → UInt8) (back : List UInt8) :
    (front ++ back).modify place f = front ++ back.modify (place - front.length) f := by
  induction front generalizing place with
  | nil => rfl
  | cons octet front ih =>
    obtain ⟨place, rfl⟩ : ∃ n, place = n + 1 := Nat.exists_eq_add_one.2 (Nat.zero_lt_of_lt h)
    rw [List.cons_append, List.modify_succ_cons, ih (Nat.le_of_succ_le_succ h),
      List.length_cons, Nat.add_sub_add_right, List.cons_append]

/-- Octets of which one is damaged are other octets. -/
theorem modify_xor_ne {octets : List UInt8} {place : Nat} (h : place < octets.length)
    {bits : UInt8} (hbits : bits ≠ 0) :
    ∃ front octet back, octets = front ++ octet :: back ∧
      octets.modify place (· ^^^ bits) = front ++ (octet ^^^ bits) :: back ∧
      octet ≠ octet ^^^ bits := by
  obtain ⟨front, octet, back, hsplit, _, hmodify⟩ := List.exists_of_modify (· ^^^ bits) h
  refine ⟨front, octet, back, hsplit, hmodify, ?_⟩
  intro heq
  apply hbits
  rw [← UInt8.xor_right_inj octet, ← heq, UInt8.xor_zero]

/-- An entry with a damaged octet behind its length cannot be read.  Either the payload is another
one of the same length, or the checksum is that of another payload. -/
theorem readEntry_modify_entry {r : Record} (h : Fits r) {place : Nat} (hstart : 4 ≤ place)
    (hstop : place < (entry r).length) {bits : UInt8} (hbits : bits ≠ 0) (rest : List UInt8) :
    readEntry ((entry r).modify place (· ^^^ bits) ++ rest) = none := by
  unfold entry frame at hstop ⊢
  generalize hpayload : Payload.encode r = payload at hstop ⊢
  have hsize : payload.length ≤ maxPayload := by
    rw [← hpayload]
    exact h
  simp only [List.length_append, length_nat] at hstop
  rw [List.append_assoc, modify_append_of_le (by rw [length_nat]; exact hstart), length_nat]
  by_cases hinside : place - 4 < payload.length
  · obtain ⟨front, octet, back, hold, hnew, hne⟩ := modify_xor_ne hinside hbits
    rw [modify_append_of_lt hinside, ← List.append_assoc, hnew]
    have hlength : payload.length = (front ++ (octet ^^^ bits) :: back).length := by
      rw [hold, List.length_append, List.length_append]
      rfl
    rw [hlength]
    refine readEntry_eq_none_of_sum_ne (by omega) (length_nat 4 _) ?_ rest
    intro hsum
    have hnumber := nat_inj (Checksum.of payload).isLt (Checksum.of _).isLt hsum
    rw [hold] at hnumber
    exact Checksum.of_ne_of_ne hne front back (BitVec.eq_of_toNat_eq hnumber)
  · have hbehind : place - 4 - payload.length <
        (nat 4 (Checksum.of payload).toNat).length := by
      rw [length_nat]
      omega
    obtain ⟨front, octet, back, hold, hnew, hne⟩ := modify_xor_ne hbehind hbits
    rw [modify_append_of_le (Nat.le_of_not_lt hinside), ← List.append_assoc]
    refine readEntry_eq_none_of_sum_ne hsize (by rw [List.length_modify, length_nat]) ?_ rest
    rw [hnew, hold]
    intro hsame
    exact hne (List.cons.inj (List.append_cancel_left hsame)).1.symm

/-! ## Journals with a damaged octet -/

/-- The place at which the entry of a number begins. -/
def entryStart (rs : List Record) (i : Nat) : Nat :=
  (entries (rs.take i)).length

/-- The entries of a list of records around one of them. -/
theorem entries_eq_around {rs : List Record} {i : Nat} (hi : i < rs.length) :
    entries rs = entries (rs.take i) ++ (entry rs[i] ++ entries (rs.drop (i + 1))) := by
  have hsplit : rs = rs.take i ++ rs[i] :: rs.drop (i + 1) := by
    rw [← List.drop_eq_getElem_cons hi, List.take_append_drop]
  calc
    entries rs = entries (rs.take i ++ rs[i] :: rs.drop (i + 1)) := congrArg entries hsplit
    _ = entries (rs.take i) ++ (entry rs[i] ++ entries (rs.drop (i + 1))) := by
      unfold entries
      rw [List.flatMap_append, List.flatMap_cons]

/-- An entry starts where the one before it ends. -/
theorem entryStart_succ {rs : List Record} {i : Nat} (hi : i < rs.length) :
    entryStart rs (i + 1) = entryStart rs i + (entry rs[i]).length := by
  unfold entryStart
  rw [List.take_succ_eq_append_getElem hi, entries_concat, List.length_append]

/-- A journal with a damaged octet behind the length of an entry replays the records in front of
that entry. -/
theorem replay_modify_entries {rs : List Record} (h : ∀ r ∈ rs, Fits r) {i : Nat}
    (hi : i < rs.length) {place : Nat} (hstart : entryStart rs i + 4 ≤ place)
    (hstop : place < entryStart rs (i + 1)) {bits : UInt8} (hbits : bits ≠ 0) :
    replay ((entries rs).modify place (· ^^^ bits)) = rs.take i := by
  have hfront : ∀ r ∈ rs.take i, Fits r := fun r hr => h r (List.mem_of_mem_take hr)
  rw [entryStart_succ hi] at hstop
  unfold entryStart at hstart hstop
  rw [entries_eq_around hi, modify_append_of_le (by omega), modify_append_of_lt (by omega),
    replay_append hfront]
  have hinside : 4 ≤ place - (entries (rs.take i)).length := by omega
  have hdamaged := readEntry_modify_entry (h _ (List.getElem_mem hi)) hinside (by omega) hbits
    (entries (rs.drop (i + 1)))
  rw [replay_of_readEntry_eq_none hdamaged, List.append_nil]

/-- Whatever becomes of the octets from an entry on, the records in front of it are replayed. -/
theorem take_prefix_replay_set {rs : List Record} (h : ∀ r ∈ rs, Fits r) {i place : Nat}
    (hi : i < rs.length) (hplace : entryStart rs i ≤ place) (octet : UInt8) :
    rs.take i <+: replay ((entries rs).set place octet) := by
  have hfront : ∀ r ∈ rs.take i, Fits r := fun r hr => h r (List.mem_of_mem_take hr)
  unfold entryStart at hplace
  rw [entries_eq_around hi, List.set_append_right _ _ hplace, replay_append hfront]
  exact List.prefix_append _ _

end Journal

namespace JournalFile

open Journal

/-- The file with another octet at a place. -/
def overwrite (f : JournalFile) (place : Nat) (octet : UInt8) : JournalFile :=
  { f with content := f.content.map fun bs => bs.set place octet }

/-- To flip bits of an octet of a file changes this octet alone. -/
theorem octets_flip (f : JournalFile) (place : Nat) (bits : UInt8) :
    (f.flip place bits).octets = f.octets.modify place (· ^^^ bits) := by
  obtain ⟨_ | bs, w⟩ := f
  · exact (List.modify_nil _ _).symm
  · rfl

/-- To overwrite an octet of a file changes this octet alone. -/
theorem octets_overwrite (f : JournalFile) (place : Nat) (octet : UInt8) :
    (f.overwrite place octet).octets = f.octets.set place octet := by
  obtain ⟨_ | bs, w⟩ := f
  · rfl
  · rfl

/-- A journal is written, record by record or as a snapshot, and one of its octets is damaged.
If the octet belongs to the payload or the checksum of an entry, just the records in front of
this entry are replayed.  If it belongs to the length of an entry, at least these are. -/
theorem damage_is_noticed {rs : List Record} (h : ∀ r ∈ rs, Fits r) {f : JournalFile}
    (hf : f = rs.foldl append missing.openWriter ∨ ∃ g : JournalFile, f = g.snapshot rs)
    {i : Nat} (hi : i < rs.length) :
    (∀ place bits, entryStart rs i + 4 ≤ place → place < entryStart rs (i + 1) → bits ≠ 0 →
        (f.flip place bits).atPath.replay? = some (rs.take i)) ∧
      ∀ place octet, entryStart rs i ≤ place → place < entryStart rs i + 4 →
        ∃ replayed, (f.overwrite place octet).atPath.replay? = some replayed ∧
          rs.take i <+: replayed := by
  have hoctets : f.octets = entries rs := by
    rcases hf with rfl | ⟨g, rfl⟩
    · exact octets_foldl_append ⟨[], rfl⟩ rfl rs
    · rfl
  constructor
  · intro place bits hstart hstop hbits
    rw [Source.replay?_atPath, octets_flip, hoctets,
      replay_modify_entries h hi hstart hstop hbits]
  · intro place octet hstart _
    refine ⟨_, Source.replay?_atPath _, ?_⟩
    rw [octets_overwrite, hoctets]
    exact take_prefix_replay_set h hi hstart octet

/-- Of three entries the second one is damaged: in the first octet of its payload, in the last
octet of its checksum, and in its length, which then claims more octets than there are. -/
theorem damage_in_second_entry :
    let rs : List Record := [.mapping "GOLD" "WEEK",
      .validity ⟨7, "tarif été", "0471", -5, 20, ["A", ""], 3⟩, .mapping "BASIC" "WEEK"]
    let f := rs.foldl append missing.openWriter
    let start := entryStart rs 1
    (∀ r ∈ rs, Fits r) ∧ 1 < rs.length ∧ entryStart rs 2 = start + 100 ∧
      (f.flip (start + 4) 1).atPath.replay? = some (rs.take 1) ∧
      (f.flip (start + 99) 255).atPath.replay? = some (rs.take 1) ∧
      ∃ replayed, (f.overwrite (start + 1) 255).atPath.replay? = some replayed ∧
        rs.take 1 <+: replayed := by
  intro rs f start
  have hfits : ∀ r ∈ rs, Fits r := by decide +kernel
  have hstop : entryStart rs (1 + 1) = start + 100 := by decide +kernel
  have hnumber : 1 < rs.length := by decide
  obtain ⟨hbehind, hlength⟩ := damage_is_noticed hfits (.inl rfl) hnumber
  refine ⟨hfits, hnumber, hstop, ?_, ?_, ?_⟩
  · exact hbehind (start + 4) 1 (by omega) (by omega) (by decide)
  · exact hbehind (start + 99) 255 (by omega) (by omega) (by decide)
  · exact hlength (start + 1) 255 (by omega) (by omega)

end JournalFile
end Tariff
