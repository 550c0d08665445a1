import Tariff.Proofs.Journal.Canonical
import Tariff.Source

/-!
# The end of a journal

Replay reads entries as long as it can and leaves the rest of the file unread.  What it
has read does not depend on what comes behind, so that a file cut anywhere keeps all
entries that are still whole.  A writer, however, goes on behind the unread octets, and
its entries are read from where the unread octets begin.

Main results:

- Theorem {lit}`Journal.readEntry_append`: an entry that can be read can be read
  whatever follows.
- Theorem {lit}`Journal.readEntry_take_entry`: an entry that is cut short cannot be
  read.
- Theorem {lit}`Journal.replay_survives_cut`: a journal followed by anything replays its
  records first, and one that is cut replays the longest beginning that is left.
- Theorem {lit}`Journal.replay_append_unread`: what is added to a journal is read behind
  the octets that were left unread.
- Theorem {lit}`JournalFile.append_survives_iff`: when a record that is appended to a
  file is replayed after those that were there.
-/

namespace Tariff
namespace Octets

/-- A number is read the same whatever follows. -/
theorem readNat_append {width n : Nat} {bs rest : List UInt8}
    (h : readNat width bs = some (n, rest)) (more : List UInt8) :
    readNat width (bs ++ more) = some (n, rest ++ more) := by
  induction width generalizing n bs rest with
  | zero =>
    cases h
    rfl
  | succ width ih =>
    cases bs with
    | nil => cases h
    | cons b bs =>
      simp only [readNat, Option.map_eq_some_iff] at h
      obtain ⟨⟨m, rest'⟩, hread, heq⟩ := h
      cases heq
      simp only [List.cons_append, readNat]
      rw [ih hread]
      rfl

/-- Octets are taken the same whatever follows. -/
theorem take_append_of_eq_some {n : Nat} {bs front rest : List UInt8}
    (h : take n bs = some (front, rest)) (more : List UInt8) :
    take n (bs ++ more) = some (front, rest ++ more) := by
  unfold take at h ⊢
  by_cases hn : n ≤ bs.length
  · rw [if_pos hn] at h
    cases h
    have hn' : n ≤ (bs ++ more).length := by
      rw [List.length_append]
      omega
    rw [if_pos hn', List.take_append_of_le_length hn, List.drop_append_of_le_length hn]
  · rw [if_neg hn] at h
    cases h

end Octets

namespace Journal

/-! ## Entries and what follows them -/

/-- An entry that can be read can be read whatever follows. -/
theorem readEntry_append {bs rest : List UInt8} {r : Record}
    (h : readEntry bs = some (r, rest)) (more : List UInt8) :
    readEntry (bs ++ more) = some (r, rest ++ more) := by
  obtain ⟨payload, hsize, hdecode, rfl⟩ := exists_eq_frame_append h
  rw [List.append_assoc]
  exact readEntry_frame hsize hdecode (rest ++ more)

/-- An entry that is cut short cannot be read, wherever the cut falls.  If it could, the whole
entry would leave what was cut off. -/
theorem readEntry_take_entry {r : Record} (h : Fits r) {n : Nat} (hn : n < (entry r).length) :
    readEntry ((entry r).take n) = none := by
  cases hread : readEntry ((entry r).take n) with
  | none => rfl
  | some next =>
    obtain ⟨r', rest⟩ := next
    have hwhole := readEntry_append hread ((entry r).drop n)
    have hentry := readEntry_entry h []
    rw [List.append_nil] at hentry
    rw [List.take_append_drop, hentry] at hwhole
    have hrest : rest ++ (entry r).drop n = [] := (Prod.mk.inj (Option.some.inj hwhole)).2.symm
    have hdrop := (List.append_eq_nil_iff.1 hrest).2
    have hle := List.drop_eq_nil_iff.1 hdrop
    omega

/-- Where no entry can be read, replay stops. -/
theorem replay_of_readEntry_eq_none {bs : List UInt8} (h : readEntry bs = none) :
    replay bs = [] := by
  unfold replay
  cases bs.length with
  | zero => rfl
  | succ n => rw [replayFor, h]

/-! ## Journals that are cut -/

/-- The longest beginning of some records whose entries take up at most so many octets. -/
structure IsLongestWithin (size : Nat) (rs kept : List Record) : Prop where
  starts : kept <+: rs
  fits : (entries kept).length ≤ size
  longest : ∀ other, other <+: rs → (entries other).length ≤ size → other <+: kept

/-- The entries of a record and of those behind it. -/
theorem entries_cons (r : Record) (rs : List Record) :
    entries (r :: rs) = entry r ++ entries rs :=
  List.flatMap_cons

namespace IsLongestWithin

/-- Where not even the first entry fits, no record is left. -/
theorem nil {size : Nat} {r : Record} (rs : List Record) (h : size < (entry r).length) :
    IsLongestWithin size (r :: rs) [] := by
  refine ⟨List.nil_prefix, Nat.zero_le size, ?_⟩
  intro other hstarts hfits
  cases other with
  | nil => exact List.nil_prefix
  | cons r' other =>
    obtain ⟨rfl, _⟩ := List.cons_prefix_cons.1 hstarts
    rw [entries_cons, List.length_append] at hfits
    omega

/-- Where the first entry fits, the others share the octets behind it. -/
theorem cons {size : Nat} {r : Record} {rs kept : List Record} (h : (entry r).length ≤ size)
    (hkept : IsLongestWithin (size - (entry r).length) rs kept) :
    IsLongestWithin size (r :: rs) (r :: kept) := by
  have hfits := hkept.fits
  refine ⟨List.cons_prefix_cons.2 ⟨rfl, hkept.starts⟩, ?_, ?_⟩
  · rw [entries_cons, List.length_append]
    omega
  · intro other hstarts hother
    cases other with
    | nil => exact List.nil_prefix
    | cons r' other =>
      obtain ⟨rfl, hrest⟩ := List.cons_prefix_cons.1 hstarts
      rw [entries_cons, List.length_append] at hother
      exact List.cons_prefix_cons.2 ⟨rfl, hkept.longest other hrest (by omega)⟩

end IsLongestWithin

/-- A journal that is cut replays the longest beginning that is left whole. -/
theorem isLongestWithin_replay_take {rs : List Record} (h : ∀ r ∈ rs, Fits r) (size : Nat) :
    IsLongestWithin size rs (replay ((entries rs).take size)) := by
  induction rs generalizing size with
  | nil =>
    have hnil : (entries []).take size = [] := List.take_nil
    rw [hnil, replay_nil]
    exact ⟨List.prefix_refl [], Nat.zero_le size, fun other hstarts _ => hstarts⟩
  | cons r rs ih =>
    obtain ⟨hr, hrs⟩ := List.forall_mem_cons.1 h
    rw [entries_cons]
    by_cases hsize : (entry r).length ≤ size
    · have htake : (entry r ++ entries rs).take size =
          entry r ++ (entries rs).take (size - (entry r).length) := by
        rw [List.take_append, List.take_of_length_le hsize]
      rw [htake, replay_of_readEntry (readEntry_entry hr _)]
      exact IsLongestWithin.cons hsize (ih hrs _)
    · have hlt : size < (entry r).length := Nat.lt_of_not_le hsize
      have hcut := readEntry_take_entry hr hlt
      rw [List.take_append_of_le_length (Nat.le_of_lt hlt), replay_of_readEntry_eq_none hcut]
      exact IsLongestWithin.nil rs hlt

/-- A file that holds the entries of some records and then anything replays these records
and then what the rest replays on its own.  A file that holds only the first octets of the
entries replays the longest beginning of the records whose entries are left whole. -/
theorem replay_survives_cut {rs : List Record} (h : ∀ r ∈ rs, Fits r) :
    (∀ rest, (PathContent.file (entries rs ++ rest)).replay? =
        (PathContent.file rest).replay?.map (rs ++ ·)) ∧
      ∀ size, ∃ kept, (PathContent.file ((entries rs).take size)).replay? = some kept ∧
        IsLongestWithin size rs kept := by
  constructor
  · intro rest
    exact congrArg some (replay_append h rest)
  · intro size
    exact ⟨_, rfl, isLongestWithin_replay_take h size⟩

/-- The last of four entries, one of each kind, lacks its last octet. -/
theorem replay_without_last_octet :
    let rs : List Record :=
      [.validity ⟨7, "tarif été", "0471", -5, 20, ["A", ""], 3⟩, .mapping "GOLD" "WEEK",
        .interval "WEEK" 6 "0800" "2400" "peak", .rule "zone" ["!4.*", ">=5"] ["Z"]]
    (∀ r ∈ rs, Fits r) ∧
      (PathContent.file ((entries rs).take ((entries rs).length - 1))).replay? =
        some (rs.take 3) := by
  intro rs
  have hfits : ∀ r ∈ rs, Fits r := by decide +kernel
  obtain ⟨kept, hreplay, hkept⟩ :=
    (replay_survives_cut hfits).2 ((entries rs).length - 1)
  have hthree : rs.take 3 <+: kept :=
    hkept.longest _ (List.take_prefix 3 rs) (by decide +kernel)
  have hnotall : kept.length ≠ 4 := by
    intro hlength
    have hall : kept = rs := hkept.starts.eq_of_length hlength
    have hcut := hkept.fits
    rw [hall] at hcut
    revert hcut
    decide +kernel
  have hle : kept.length ≤ 4 := hkept.starts.length_le
  have hge : 3 ≤ kept.length := hthree.length_le
  have hlength : kept.length = 3 := by omega
  refine ⟨hfits, ?_⟩
  rw [hreplay, hthree.eq_of_length hlength.symm]

/-! ## What is left unread -/

/-- The octets at which replay stops: those behind the last entry that it reads. -/
def unread (bs : List UInt8) : List UInt8 :=
  match h : readEntry bs with
  | some (_, rest) =>
    have := length_of_readEntry h
    unread rest
  | none => bs
termination_by bs.length
decreasing_by omega

/-- What is left unread behind an entry is left unread in front of it. -/
theorem unread_of_readEntry {bs rest : List UInt8} {r : Record}
    (h : readEntry bs = some (r, rest)) : unread bs = unread rest := by
  rw [unread]
  split
  · rename_i r' rest' h'
    rw [h] at h'
    cases h'
    rfl
  · rename_i h'
    rw [h] at h'
    cases h'

/-- Entries that can be read leave nothing unread. -/
theorem unread_entries_append {rs : List Record} (h : ∀ r ∈ rs, Fits r) (rest : List UInt8) :
    unread (entries rs ++ rest) = unread rest := by
  induction rs with
  | nil => rfl
  | cons r rs ih =>
    obtain ⟨hr, hrs⟩ := List.forall_mem_cons.1 h
    rw [entries_cons, List.append_assoc, unread_of_readEntry (readEntry_entry hr _), ih hrs]

/-- What is added to a journal is read behind the octets that were left unread. -/
theorem replay_append_unread (bs more : List UInt8) :
    replay (bs ++ more) = replay bs ++ replay (unread bs ++ more) := by
  fun_induction unread bs with
  | case1 bs r rest hread _ ih =>
    rw [replay_of_readEntry (readEntry_append hread more), replay_of_readEntry hread, ih]
    rfl
  | case2 bs hread =>
    rw [replay_of_readEntry_eq_none hread]
    rfl

/-- The octets begin with an entry that is at fault whatever follows. -/
inductive IsSpoilt (bs : List UInt8) : Prop
  | tooLong {size : Nat} {rest : List UInt8} (hsize : Octets.readNat 4 bs = some (size, rest))
      (h : maxPayload < size)
  | damaged {size sum : Nat} {payload bs₁ bs₂ rest : List UInt8}
      (hsize : Octets.readNat 4 bs = some (size, bs₁))
      (hpayload : Octets.take size bs₁ = some (payload, bs₂))
      (hsum : Octets.readNat 4 bs₂ = some (sum, rest))
      (h : sum ≠ (Checksum.of payload).toNat)
  | meaningless {size sum : Nat} {payload bs₁ bs₂ rest : List UInt8}
      (hsize : Octets.readNat 4 bs = some (size, bs₁))
      (hpayload : Octets.take size bs₁ = some (payload, bs₂))
      (hsum : Octets.readNat 4 bs₂ = some (sum, rest))
      (h : Payload.decode payload = none)

/-- Nothing that follows makes an entry at fault readable. -/
theorem IsSpoilt.readEntry_append {bs : List UInt8} (h : IsSpoilt bs) (more : List UInt8) :
    readEntry (bs ++ more) = none := by
  cases h with
  | tooLong hsize h =>
    unfold readEntry
    simp only [Option.bind_eq_bind]
    rw [Octets.readNat_append hsize, Option.bind_some]
    simp only [if_pos h]
  | @damaged size sum payload bs₁ bs₂ rest hsize hpayload hsum h =>
    unfold readEntry
    simp only [Option.bind_eq_bind]
    rw [Octets.readNat_append hsize, Option.bind_some]
    by_cases hlong : maxPayload < size
    · simp only [if_pos hlong]
    · simp only [if_neg hlong]
      rw [Octets.take_append_of_eq_some hpayload, Option.bind_some,
        Octets.readNat_append hsum, Option.bind_some]
      simp only [if_neg h]
  | @meaningless size sum payload bs₁ bs₂ rest hsize hpayload hsum h =>
    unfold readEntry
    simp only [Option.bind_eq_bind]
    rw [Octets.readNat_append hsize, Option.bind_some]
    by_cases hlong : maxPayload < size
    · simp only [if_pos hlong]
    · simp only [if_neg hlong]
      rw [Octets.take_append_of_eq_some hpayload, Option.bind_some,
        Octets.readNat_append hsum, Option.bind_some, h, Option.bind_none, ite_self]

end Journal

namespace JournalFile

open Journal

/-- A record that is appended to a file is read behind the octets that were left unread. -/
theorem records_openWriter_append (bs : List UInt8) (r : Record) :
    ((⟨some bs, none⟩ : JournalFile).openWriter.append r).records =
      replay bs ++ replay (unread bs ++ entry r) := by
  have hattached : (⟨some bs, none⟩ : JournalFile).openWriter.IsAttached := ⟨[], rfl⟩
  have hwritten : (⟨some bs, none⟩ : JournalFile).openWriter.written = bs := List.append_nil bs
  unfold records
  rw [content_append hattached, hwritten, replay_append_unread]

/-- A record that is appended to a file is replayed after those that were there just if the
octets that were left unread, with the new entry behind them, replay this record alone.  So
it is if nothing was left unread.  If the unread octets begin with an entry at fault, the
new record is lost. -/
theorem append_survives_iff (bs : List UInt8) {r : Record} (h : Fits r) :
    let before : JournalFile := ⟨some bs, none⟩
    let after := before.openWriter.append r
    (after.records = before.records ++ [r] ↔ replay (unread bs ++ entry r) = [r]) ∧
      (unread bs = [] → after.records = before.records ++ [r]) ∧
      (IsSpoilt (unread bs) → after.records = before.records) := by
  intro before after
  have hbefore : before.records = replay bs := rfl
  have hafter : after.records = replay bs ++ replay (unread bs ++ entry r) :=
    records_openWriter_append bs r
  rw [hbefore, hafter]
  refine ⟨List.append_right_inj _, ?_, ?_⟩
  · intro hnothing
    have hentry := replay_of_readEntry (readEntry_entry h [])
    rw [List.append_nil, replay_nil] at hentry
    rw [hnothing, List.nil_append, hentry]
  · intro hspoilt
    rw [replay_of_readEntry_eq_none (hspoilt.readEntry_append _), List.append_nil]

/-- A file of whole entries has the new record replayed last. -/
theorem append_behind_whole_entry :
    let old : Record := .mapping "GOLD" "WEEK"
    let new : Record := .mapping "BASIC" "WEEK"
    Fits new ∧
      ((⟨some (entry old), none⟩ : JournalFile).openWriter.append new).records =
        [old, new] := by
  intro old new
  have hold : ∀ r ∈ [old], Fits r := by decide +kernel
  have hnew : Fits new := by decide +kernel
  have hentries : entries [old] = entry old := List.append_nil _
  have hunread := unread_entries_append hold []
  rw [List.append_nil, hentries] at hunread
  have hreplay := replay_append hold []
  rw [List.append_nil, hentries] at hreplay
  have hbefore : (⟨some (entry old), none⟩ : JournalFile).records = [old] := hreplay
  have hempty : unread [] = [] := by
    rw [unread]
    rfl
  refine ⟨hnew, ?_⟩
  rw [(append_survives_iff (entry old) hnew).2.1 (hunread.trans hempty), hbefore]
  rfl

/-- The file ends in five octets of an entry that was never finished.  Replay keeps the
record before them, and does not reach the record that is appended behind them. -/
theorem append_behind_torn_entry :
    let old : Record := .mapping "GOLD" "WEEK"
    let torn : Record := .mapping "BASIC" "WEEK"
    let new : Record := .mapping "SILVER" "WEEK"
    let before : JournalFile := ⟨some (entry old ++ (entry torn).take 5), none⟩
    Fits new ∧ before.records = [old] ∧
      (before.openWriter.append new).records ≠ before.records ++ [new] := by
  decide +kernel

end JournalFile
end Tariff
