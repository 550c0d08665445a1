import Tariff.Proofs.Journal.Oversize
import Tariff.Proofs.Journal.Provider

/-!
# Compacting a journal

A journal may end in octets that are not replayed, and a payload may be longer than its record,
as octets behind the last field do not count.  A snapshot of what a journal replays leaves both
out.  It cannot be longer than the journal, since a record is written in one way only and each
reader takes no less than what would be written, and so no record grows beyond the length that
is read again.

Main results:

- Theorem {lit}`Journal.length_entries_replay_le`: the entries of what is replayed are no longer
  than the octets that it is replayed from.
- Theorem {lit}`Journal.replay_entries_replay`: what is replayed is replayed again once it is
  written anew.
- Theorem {lit}`JournalFile.compact_keeps_records`: compacting keeps the records of a file,
  whatever the file holds.
-/

namespace Tariff
namespace Journal

/-- An entry that is read takes up no less than the entry that would be written. -/
theorem length_entry_add_le {bs rest : List UInt8} {r : Record}
    (h : readEntry bs = some (r, rest)) : (entry r).length + rest.length ≤ bs.length := by
  obtain ⟨payload, _, hdecode, rfl⟩ := exists_eq_frame_append h
  have hle := Payload.length_encode_le hdecode
  unfold entry frame
  simp only [List.length_append, Octets.length_nat]
  omega

/-- The entries of what is replayed are no longer than the octets that it is replayed from.  The
induction goes from entry to entry, up to the octets that are left unread. -/
theorem length_entries_replay_le (bs : List UInt8) : (entries (replay bs)).length ≤ bs.length := by
  fun_induction unread bs with
  | case1 bs r rest hread _ ih =>
    have hentry := length_entry_add_le hread
    rw [replay_of_readEntry hread, entries_cons, List.length_append]
    omega
  | case2 bs hread =>
    rw [replay_of_readEntry_eq_none hread]
    exact Nat.zero_le _

/-- What is replayed is replayed again once it is written anew. -/
theorem replay_entries_replay (bs : List UInt8) : replay (entries (replay bs)) = replay bs :=
  (replay_entries_eq_iff (replay bs)).2 fun _ hr => fits_of_mem_replay hr

end Journal

namespace JournalFile

open Journal

/-- The file with a snapshot of its own records in its place. -/
def compact (f : JournalFile) : JournalFile :=
  f.snapshot f.records

/-- Compaction leaves the entries of the records that are replayed, and nothing else. -/
theorem octets_compact (f : JournalFile) : f.compact.octets = entries (replay f.octets) := rfl

/-- Compaction keeps the records. -/
theorem records_compact (f : JournalFile) : f.compact.records = f.records :=
  replay_entries_replay f.octets

/-- Whatever a file holds, it can be replayed.  A snapshot of its records replays the same
records, is no longer than the file, holds no record that is too long to be read again, and is
left as it is, octet by octet, when it is compacted in its turn. -/
theorem compact_keeps_records (f : JournalFile) :
    f.atPath.replay? = some f.records ∧
      f.compact.atPath.replay? = some f.records ∧
      f.compact.octets.length ≤ f.octets.length ∧
      (∀ r ∈ f.compact.records, (Payload.encode r).length ≤ maxPayload) ∧
      f.compact.compact.content = f.compact.content := by
  have hrecords := records_compact f
  refine ⟨Source.replay?_atPath f, ?_, ?_, ?_, ?_⟩
  · rw [Source.replay?_atPath]
    exact congrArg some hrecords
  · rw [octets_compact]
    exact length_entries_replay_le f.octets
  · intro r hr
    exact fits_of_mem_replay hr
  · calc
      f.compact.compact.content = some (entries f.compact.records) := rfl
      _ = some (entries f.records) := by rw [hrecords]
      _ = f.compact.content := rfl

/-- A file with two octets behind the last field of its first payload, and with a torn entry at
its end.  Both are left out when it is compacted. -/
theorem compact_padded_and_torn :
    let first : Record := .mapping "GOLD" "WEEK"
    let rs : List Record := [first, .rule "zone" ["!4.*"] []]
    let padded := frame (Payload.encode first ++ [7, 0])
    let torn := (entry (.mapping "BASIC" "WEEK")).take 5
    let f : JournalFile := ⟨some (padded ++ entry (.rule "zone" ["!4.*"] []) ++ torn), none⟩
    f.atPath.replay? = some rs ∧ f.compact.atPath.replay? = some rs ∧
      f.compact.octets.length + 7 = f.octets.length ∧ f.compact.octets.length ≤ f.octets.length ∧
      first ∈ f.compact.records ∧ (Payload.encode first).length ≤ maxPayload ∧
      f.compact.compact.content = f.compact.content := by
  intro first rs padded torn f
  have hrecords : f.records = rs := by decide +kernel
  have hfirst : first ∈ f.compact.records := by
    rw [records_compact, hrecords]
    exact List.mem_cons_self
  obtain ⟨hreplay, hagain, hshorter, hfits, hfixed⟩ := compact_keeps_records f
  rw [hrecords] at hreplay hagain
  exact ⟨hreplay, hagain, by decide +kernel, hshorter, hfirst, hfits first hfirst, hfixed⟩

end JournalFile
end Tariff
