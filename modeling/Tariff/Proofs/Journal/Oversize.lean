import Tariff.Journal.File
import Tariff.Proofs.Journal.Canonical
import Tariff.Proofs.Journal.Tail

/-!
# Entries that are too long

A writer puts any payload into the journal, but only payloads of at most 16 MiB are read
again.  An entry that is longer ends the replay even though nothing damaged it, and hides
every record behind it.

Main results:

- Theorem {lit}`Journal.fits_of_mem_replay`: no record that is replayed is too long.
- Theorem {lit}`Journal.readEntry_entry_eq_none`: the entry of a record that is too long
  cannot be read, whatever length it claims.
- Theorem {lit}`JournalFile.replays_iff_fits`: when a file replays just the records that were
  written to it.
-/

namespace Tariff
namespace Octets

/-- Empty texts take up the octets of their lengths. -/
theorem length_strings_replicate (n : Nat) :
    (strings (List.replicate n "")).length = 8 + 8 * n := by
  have hflat : ((List.replicate n "").flatMap string).length = 8 * n := by
    induction n with
    | zero => rfl
    | succ n ih =>
      have hempty : "".utf8ByteSize = 0 := rfl
      rw [List.replicate_succ, List.flatMap_cons, List.length_append, length_string, ih, hempty]
      omega
  unfold strings
  rw [List.length_append, length_nat, hflat]

end Octets

namespace Journal

/-! ## What is read fits -/

/-- A record that is read came from a payload that was short enough. -/
theorem fits_of_readEntry {bs rest : List UInt8} {r : Record}
    (h : readEntry bs = some (r, rest)) : Fits r := by
  obtain ⟨payload, hsize, hdecode, _⟩ := exists_eq_frame_append h
  exact Nat.le_trans (Payload.length_encode_le hdecode) hsize

/-- No record that is replayed is too long. -/
theorem fits_of_mem_replay {bs : List UInt8} {r : Record} (h : r ∈ replay bs) : Fits r := by
  fun_induction unread bs with
  | case1 bs r' rest hread _ ih =>
    rw [replay_of_readEntry hread] at h
    rcases List.mem_cons.1 h with rfl | hrest
    · exact fits_of_readEntry hread
    · exact ih hrest
  | case2 bs hread =>
    rw [replay_of_readEntry_eq_none hread] at h
    cases h

/-! ## What does not fit is not read -/

/-- The octets of a payload can be counted in eight octets, as those of anything in memory
can. -/
def IsAddressable (r : Record) : Prop :=
  (Payload.encode r).length < Octets.capacity 8

instance (r : Record) : Decidable (IsAddressable r) :=
  inferInstanceAs (Decidable (_ < _))

/-- The entry of a record that is too long cannot be read, whatever follows.  The length in
front of the entry is cut to four octets: either it is too great still, or the payload that
it announces is the beginning of a payload and no payload itself. -/
theorem readEntry_entry_eq_none {r : Record} (h : IsAddressable r) (hlong : ¬ Fits r)
    (rest : List UInt8) : readEntry (entry r ++ rest) = none := by
  unfold Fits at hlong
  unfold readEntry entry frame
  rw [List.append_assoc, List.append_assoc, Octets.readNat_nat]
  simp only [Option.bind_eq_bind, Option.bind_some]
  by_cases hsize : maxPayload < (Payload.encode r).length % Octets.capacity 4
  · rw [if_pos hsize]
  · have hcut : (Payload.encode r).length % Octets.capacity 4 < (Payload.encode r).length := by
      omega
    have hpayload : (Payload.encode r ++ (Octets.nat 4
          (Checksum.of (Payload.encode r)).toNat ++ rest)).take
          ((Payload.encode r).length % Octets.capacity 4) =
        (Payload.encode r).take ((Payload.encode r).length % Octets.capacity 4) :=
      List.take_append_of_le_length (Nat.le_of_lt hcut)
    rw [if_neg hsize, Option.bind_eq_none_iff]
    rintro ⟨payload, bs⟩ htake
    obtain ⟨hlength, hbs⟩ := Octets.eq_append_of_take htake
    have hshort : payload =
        (Payload.encode r).take ((Payload.encode r).length % Octets.capacity 4) := by
      rw [← hpayload, hbs, List.take_append_of_le_length (Nat.le_of_eq hlength.symm),
        List.take_of_length_le (Nat.le_of_eq hlength)]
    have hdecode : Payload.decode payload = none := by
      rw [hshort]
      exact Payload.decode_take_encode h hcut
    simp [hdecode]

/-- A journal replays the records in front of the first one that is too long. -/
theorem replay_entries_eq_takeWhile {rs : List Record} (h : ∀ r ∈ rs, IsAddressable r) :
    replay (entries rs) = rs.takeWhile fun r => decide (Fits r) := by
  induction rs with
  | nil => rfl
  | cons r rs ih =>
    obtain ⟨hr, hrs⟩ := List.forall_mem_cons.1 h
    rw [entries_cons, List.takeWhile_cons]
    by_cases hfits : Fits r
    · rw [replay_of_readEntry (readEntry_entry hfits _), ih hrs, decide_eq_true hfits]
      rfl
    · rw [replay_of_readEntry_eq_none (readEntry_entry_eq_none hr hfits _),
        decide_eq_false hfits]
      rfl

/-- A journal replays all of its records just if none of them is too long. -/
theorem replay_entries_eq_iff (rs : List Record) :
    replay (entries rs) = rs ↔ ∀ r ∈ rs, Fits r := by
  constructor
  · intro h r hr
    rw [← h] at hr
    exact fits_of_mem_replay hr
  · intro h
    have hreplay := replay_append h []
    rwa [List.append_nil, replay_nil, List.append_nil] at hreplay

end Journal

namespace JournalFile

open Journal

/-! ## Files that are written in one go -/

/-- Nothing is held back once a record was appended. -/
theorem written_append {f : JournalFile} (h : f.IsAttached) (r : Record) :
    (f.append r).IsAttached ∧ (f.append r).written = (f.append r).octets := by
  obtain ⟨hwritten, hoctets, hattached⟩ := written_spill (isAttached_appendBuffered h r)
  exact ⟨hattached, hwritten.trans hoctets.symm⟩

/-- Records that are appended one after the other end the file. -/
theorem octets_foldl_append {f : JournalFile} (h : f.IsAttached)
    (hflushed : f.written = f.octets) (rs : List Record) :
    (rs.foldl append f).octets = f.octets ++ entries rs := by
  induction rs generalizing f with
  | nil => exact (List.append_nil _).symm
  | cons r rs ih =>
    obtain ⟨hattached, hnext⟩ := written_append h r
    rw [List.foldl_cons, ih hattached hnext, content_append h, hflushed, entries_cons,
      List.append_assoc]

/-- Records that are appended to a fresh journal stand in it as in a snapshot. -/
theorem records_foldl_append (rs : List Record) :
    (rs.foldl append missing.openWriter).records = replay (entries rs) :=
  congrArg replay (octets_foldl_append ⟨[], rfl⟩ rfl rs)

/-- Every append and every snapshot is carried out, but the records are replayed just if the
payload of each fits.  Otherwise the first record that is too long hides itself and all
behind it. -/
theorem replays_iff_fits (rs : List Record) (f : JournalFile) :
    let appended := rs.foldl append missing.openWriter
    let replaced := f.snapshot rs
    (appended.records = rs ↔ ∀ r ∈ rs, Fits r) ∧
      (replaced.records = rs ↔ ∀ r ∈ rs, Fits r) ∧
      ((∀ r ∈ rs, IsAddressable r) →
        (appended.records = rs.takeWhile fun r => decide (Fits r)) ∧
          replaced.records = rs.takeWhile fun r => decide (Fits r)) := by
  intro appended replaced
  have happended : appended.records = replay (entries rs) := records_foldl_append rs
  have hreplaced : replaced.records = replay (entries rs) := records_snapshot f rs
  rw [happended, hreplaced]
  refine ⟨replay_entries_eq_iff rs, replay_entries_eq_iff rs, ?_⟩
  intro haddressable
  exact ⟨replay_entries_eq_takeWhile haddressable, replay_entries_eq_takeWhile haddressable⟩

/-- A rule of so many empty conditions. -/
def blankRule (n : Nat) : Record :=
  .rule "g" (List.replicate n "") []

/-- The length of the payload of a blank rule. -/
theorem length_encode_blankRule (n : Nat) :
    (Payload.encode (blankRule n)).length = 29 + 8 * n := by
  have hname : "g".utf8ByteSize = 1 := rfl
  have hresults : (Octets.strings []).length = 8 := rfl
  simp only [blankRule, Payload.encode, Payload.fields, List.length_append, Octets.length_nat,
    Octets.length_string, Octets.length_strings_replicate, hname, hresults]
  omega

/-- A blank rule of two million keys is too long for a payload. -/
theorem not_fits_blankRule {n : Nat} (h : 2097152 ≤ n) : ¬ Fits (blankRule n) := by
  unfold Fits maxPayload
  rw [length_encode_blankRule]
  omega

/-- A blank rule of two million keys has a length that can be written. -/
theorem isAddressable_blankRule {n : Nat} (h : n ≤ 2097152) : IsAddressable (blankRule n) := by
  have hcapacity : 29 + 8 * 2097152 < Octets.capacity 8 := by decide
  unfold IsAddressable
  rw [length_encode_blankRule]
  omega

/-- A rule of 2²¹ empty conditions stands between two mappings.  Only the mapping in front
is replayed, from an appended file as from a snapshot. -/
theorem replays_in_front_of_blankRule :
    let rs := [.mapping "GOLD" "WEEK", blankRule 2097152, .mapping "BASIC" "WEEK"]
    (∀ r ∈ rs, IsAddressable r) ∧
      (rs.foldl append missing.openWriter).records = [.mapping "GOLD" "WEEK"] ∧
      (missing.snapshot rs).records = [.mapping "GOLD" "WEEK"] := by
  intro rs
  have hlong : IsAddressable (blankRule 2097152) :=
    isAddressable_blankRule (Nat.le_refl _)
  have haddressable : ∀ r ∈ rs, IsAddressable r := by
    simp only [rs, List.forall_mem_cons]
    refine ⟨by decide +kernel, hlong, by decide +kernel, ?_⟩
    intro r hr
    cases hr
  have hfront : (rs.takeWhile fun r => decide (Fits r)) = [.mapping "GOLD" "WEEK"] := by
    have hfits : Fits (.mapping "GOLD" "WEEK") := by decide +kernel
    have hnot : ¬ Fits (blankRule 2097152) := not_fits_blankRule (Nat.le_refl _)
    simp only [rs, List.takeWhile_cons, decide_eq_true hfits, decide_eq_false hnot]
    rfl
  obtain ⟨happended, hreplaced⟩ := (replays_iff_fits rs missing).2.2 haddressable
  exact ⟨haddressable, happended.trans hfront, hreplaced.trans hfront⟩

/-- A rule of 2²¹ empty conditions and an entry are appended to a fresh journal, or put into
it as a snapshot.  Nothing is replayed. -/
theorem nothing_replayed_behind_blankRule :
    let rs := [blankRule 2097152, .validity ⟨1, "tariff", "eu", 0, 10, ["A"], 5⟩]
    (rs.foldl append missing.openWriter).records = [] ∧
      (missing.snapshot rs).records = [] ∧ rs ≠ [] := by
  intro rs
  have hlong : ¬ Fits (blankRule 2097152) := not_fits_blankRule (Nat.le_refl _)
  have haddressable : IsAddressable (blankRule 2097152) :=
    isAddressable_blankRule (Nat.le_refl _)
  have hreplay : replay (entries rs) = [] := by
    rw [entries_cons]
    exact replay_of_readEntry_eq_none (readEntry_entry_eq_none haddressable hlong _)
  exact ⟨(records_foldl_append rs).trans hreplay, (records_snapshot missing rs).trans hreplay,
    List.cons_ne_nil _ _⟩

end JournalFile
end Tariff
