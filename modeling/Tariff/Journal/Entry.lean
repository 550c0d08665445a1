import Tariff.Journal.Checksum
import Tariff.Record.Payload

/-!
# Journal entries

An entry of a journal is the length of a payload, the payload and its checksum.  A
journal is replayed from its start up to the first entry that is cut short, too long,
damaged or unreadable; what stands before it counts.

Main results:

- Theorem {lit}`Journal.replay_nil`: an empty journal holds no records.
- Theorem {lit}`Journal.length_of_readEntry`: reading an entry takes octets away.
-/

namespace Tariff
namespace Journal

/-- The greatest length of a payload that is read, 16 MiB. -/
def maxPayload : Nat := 16 * 1024 * 1024

/-- The octets of an entry with a payload. -/
def frame (payload : List UInt8) : List UInt8 :=
  Octets.nat 4 payload.length ++ payload ++ Octets.nat 4 (Checksum.of payload).toNat

/-- The octets of the entry of a record. -/
def entry (r : Record) : List UInt8 :=
  frame (Payload.encode r)

/-- The octets of the entries of some records. -/
def entries (rs : List Record) : List UInt8 :=
  rs.flatMap entry

/-- Reads an entry. -/
def readEntry (bs : List UInt8) : Option (Record × List UInt8) := do
  let (size, bs) ← Octets.readNat 4 bs
  if maxPayload < size then none
  else do
    let (payload, bs) ← Octets.take size bs
    let (sum, bs) ← Octets.readNat 4 bs
    if sum = (Checksum.of payload).toNat then do
      let r ← Payload.decode payload
      some (r, bs)
    else none

/-- Reads entries up to the first one that cannot be read, at most {lit}`fuel` of
them. -/
def replayFor : Nat → List UInt8 → List Record
  | 0, _ => []
  | fuel + 1, bs =>
    match readEntry bs with
    | some (r, rest) => r :: replayFor fuel rest
    | none => []

/-- The records of a journal.  There cannot be more of them than octets. -/
def replay (bs : List UInt8) : List Record :=
  replayFor bs.length bs

/-! ## Laws -/

@[simp] theorem replay_nil : replay [] = [] := rfl

theorem length_of_readNat {width n : Nat} {bs rest : List UInt8}
    (h : Octets.readNat width bs = some (n, rest)) : bs.length = width + rest.length := by
  induction width generalizing n bs rest with
  | zero =>
    simp only [Octets.readNat, Option.some.injEq, Prod.mk.injEq] at h
    simp [h.2]
  | succ width ih =>
    cases bs with
    | nil => simp [Octets.readNat] at h
    | cons b bs =>
      simp only [Octets.readNat, Option.map_eq_some_iff] at h
      obtain ⟨⟨m, r⟩, hr, h⟩ := h
      simp only [Prod.mk.injEq] at h
      have := ih hr
      rw [← h.2, List.length_cons]
      omega

/-- Reading an entry takes octets away. -/
theorem length_of_readEntry {bs rest : List UInt8} {r : Record}
    (h : readEntry bs = some (r, rest)) : rest.length + 8 ≤ bs.length := by
  simp only [readEntry, Option.bind_eq_bind, Option.bind_eq_some_iff] at h
  obtain ⟨⟨size, bs₁⟩, h₁, h⟩ := h
  split at h
  · cases h
  · obtain ⟨⟨payload, bs₂⟩, h₂, h⟩ := Option.bind_eq_some_iff.1 h
    obtain ⟨⟨sum, bs₃⟩, h₃, h⟩ := Option.bind_eq_some_iff.1 h
    split at h
    · obtain ⟨r', _, h⟩ := Option.bind_eq_some_iff.1 h
      simp only [Option.some.injEq, Prod.mk.injEq] at h
      have hl := length_of_readNat h₁
      have hr := length_of_readNat h₃
      have hm : bs₂.length ≤ bs₁.length := by
        simp only [Octets.take] at h₂
        split at h₂
        · simp only [Option.some.injEq, Prod.mk.injEq] at h₂
          simp [← h₂.2]
        · cases h₂
      rw [← h.2]
      simp only at hl hr hm ⊢
      omega
    · cases h

end Journal
end Tariff
