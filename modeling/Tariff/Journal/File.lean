import Tariff.Journal.Entry

/-!
# Journal files

A journal file is kept at a path.  A writer appends to the file that it has opened and
holds octets back until they fill a buffer or are flushed.  A snapshot puts a new file
in the place of the old one: a writer opened before goes on writing to the old file,
which no path leads to any more.

Main results:

- Theorem {lit}`JournalFile.content_append`: an appended record ends the file, if the
  writer is on it.
- Theorem {lit}`JournalFile.records_snapshot`: after a snapshot the file holds just its
  entries.
-/

namespace Tariff

/-- A writer on a journal file. -/
structure JournalWriter where
  /-- The path still leads to the file of the writer. -/
  attached : Bool
  /-- The octets held back. -/
  pending : List UInt8
deriving DecidableEq, Repr

/-- What is found at a path. -/
inductive PathContent where
  | missing
  /-- A directory, or a path that leads through a file. -/
  | unreadable
  | file (octets : List UInt8)
deriving DecidableEq, Repr

/-- The records of the journal at a path.  A journal that is missing is empty; there is
no answer where the path cannot be read. -/
def PathContent.replay? : PathContent → Option (List Record)
  | missing => some []
  | unreadable => none
  | file octets => some (Journal.replay octets)

/-- What is found below a path, as if it were a directory. -/
def PathContent.below : PathContent → PathContent
  | file _ => unreadable
  | missing | unreadable => missing

/-- A journal file and the writer on it. -/
structure JournalFile where
  /-- The octets at the path, if there is a file. -/
  content : Option (List UInt8)
  writer : Option JournalWriter
deriving DecidableEq, Repr

namespace JournalFile

/-- No file and no writer. -/
def missing : JournalFile := ⟨none, none⟩

/-- The octets at the path. -/
def octets (f : JournalFile) : List UInt8 :=
  f.content.getD []

/-- What is found at the path. -/
def atPath (f : JournalFile) : PathContent :=
  match f.content with
  | some bs => .file bs
  | none => .missing

/-- The records at the path. -/
def records (f : JournalFile) : List Record :=
  Journal.replay f.octets

/-- The octets that a writer holds back at most. -/
def bufferSize : Nat := 8192

/-- Octets at the end of the file at the path. -/
def extend (f : JournalFile) (bs : List UInt8) : JournalFile :=
  { f with content := some (f.octets ++ bs) }

/-- Octets at the end of the file of a writer, which the path may not lead to. -/
def store (f : JournalFile) (attached : Bool) (bs : List UInt8) : JournalFile :=
  if attached then f.extend bs else f

/-- Lets the writer go on with what it holds back. -/
def spill (f : JournalFile) : JournalFile :=
  match f.writer with
  | some w => { f.store w.attached w.pending with writer := some { w with pending := [] } }
  | none => f

/-- Hands octets to the writer.  What does not fit the buffer makes it spill; what would
fill it alone is not held back. -/
def write (f : JournalFile) (bs : List UInt8) : JournalFile :=
  let room := bufferSize - (f.writer.elim 0 fun w => w.pending.length)
  let f := if room < bs.length then f.spill else f
  match f.writer with
  | some w =>
    if bufferSize ≤ bs.length then f.store w.attached bs
    else { f with writer := some { w with pending := w.pending ++ bs } }
  | none => f

/-! ## Operations -/

/-- Lets the writer store what it holds back. -/
def flush (f : JournalFile) : JournalFile :=
  f.spill

/-- Flushes the writer and lets it go. -/
def close (f : JournalFile) : JournalFile :=
  { f.spill with writer := none }

/-- Opens a writer on the file at the path, which is created if it is missing.  A writer
that was there is closed. -/
def openWriter (f : JournalFile) : JournalFile :=
  let f := f.close
  { content := some f.octets, writer := some ⟨true, []⟩ }

/-- Hands a record to the writer, field by field of its entry. -/
def appendBuffered (f : JournalFile) (r : Record) : JournalFile :=
  let payload := Payload.encode r
  ((f.write (Octets.nat 4 payload.length)).write payload).write
    (Octets.nat 4 (Checksum.of payload).toNat)

/-- Hands a record to the writer and flushes it. -/
def append (f : JournalFile) (r : Record) : JournalFile :=
  (f.appendBuffered r).flush

/-- Puts a file with some records in the place of the file at the path. -/
def snapshot (f : JournalFile) (rs : List Record) : JournalFile :=
  { content := some (Journal.entries rs)
    writer := f.writer.map fun w => { w with attached := false } }

/-! ## Damage -/

/-- The file cut to a length. -/
def truncate (f : JournalFile) (size : Nat) : JournalFile :=
  { f with content := f.content.map (List.take size) }

/-- The file with some bits of one octet flipped. -/
def flip (f : JournalFile) (place : Nat) (bits : UInt8) : JournalFile :=
  { f with content := f.content.map fun bs => bs.modify place (· ^^^ bits) }

/-! ## Laws -/

theorem writer_spill (f : JournalFile) (w : JournalWriter) (h : f.writer = some w) :
    f.spill.writer = some { w with pending := [] } := by
  simp [spill, h]

theorem octets_extend (f : JournalFile) (bs : List UInt8) :
    (f.extend bs).octets = f.octets ++ bs := rfl

/-- What the file of an attached writer holds once it is flushed. -/
def written (f : JournalFile) : List UInt8 :=
  f.octets ++ (f.writer.elim [] fun w => w.pending)

/-- The writer is there, on the file at the path. -/
def IsAttached (f : JournalFile) : Prop :=
  ∃ pending, f.writer = some ⟨true, pending⟩

/-- A spill brings what was written to the file and keeps it. -/
theorem written_spill {f : JournalFile} (h : f.IsAttached) :
    f.spill.written = f.written ∧ f.spill.octets = f.written ∧ f.spill.IsAttached := by
  obtain ⟨pending, hw⟩ := h
  have hf : f.spill = { f.extend pending with writer := some ⟨true, []⟩ } := by
    simp [spill, hw, store]
  have ho : f.spill.octets = f.octets ++ pending := by
    rw [hf]
    rfl
  have hs : f.spill.writer = some ⟨true, []⟩ := by
    rw [hf]
  refine ⟨?_, ?_, ⟨[], hs⟩⟩
  · simp [written, ho, hs, hw]
  · simp [written, ho, hw]

/-- What is written stands behind what was written before. -/
theorem written_write {f : JournalFile} (h : f.IsAttached) (bs : List UInt8) :
    (f.write bs).written = f.written ++ bs ∧ (f.write bs).IsAttached := by
  have hput : ∀ g : JournalFile, g.IsAttached → g.octets ++ (g.writer.elim [] fun w => w.pending)
      = f.written → (bufferSize ≤ bs.length → g.writer = some ⟨true, []⟩) →
      let r := match g.writer with
        | some w =>
          if bufferSize ≤ bs.length then g.store w.attached bs
          else { g with writer := some { w with pending := w.pending ++ bs } }
        | none => g
      r.written = f.written ++ bs ∧ r.IsAttached := by
    intro g hg hgw hbig
    obtain ⟨pending, hw⟩ := hg
    simp only [hw, Option.elim_some] at hgw ⊢
    by_cases hb : bufferSize ≤ bs.length
    · have hp : pending = [] := by simpa [hw] using hbig hb
      subst hp
      simp only [hb, if_true, store]
      refine ⟨?_, ⟨[], hw⟩⟩
      have hwe : (g.extend bs).writer = some ⟨true, []⟩ := hw
      simp only [List.append_nil] at hgw
      simp [written, octets_extend, hwe, hgw]
    · simp only [hb, if_false]
      refine ⟨?_, ⟨pending ++ bs, rfl⟩⟩
      rw [← hgw]
      simp [written, octets, List.append_assoc]
  unfold write
  by_cases hroom : bufferSize - (f.writer.elim 0 fun w => w.pending.length) < bs.length
  · simp only [hroom, if_true]
    have hs := written_spill h
    obtain ⟨pending, hw⟩ := h
    have hsw : f.spill.writer = some ⟨true, []⟩ := by simp [spill, hw]
    exact hput f.spill hs.2.2 (by simpa [written] using hs.1) fun _ => hsw
  · simp only [hroom, if_false]
    obtain ⟨pending, hw⟩ := h
    refine hput f ⟨pending, hw⟩ rfl fun hb => ?_
    simp only [hw, Option.elim_some, bufferSize] at hroom hb ⊢
    have hp : pending.length = 0 := by omega
    rw [List.length_eq_zero_iff.1 hp]

theorem isAttached_appendBuffered {f : JournalFile} (h : f.IsAttached) (r : Record) :
    (f.appendBuffered r).IsAttached :=
  (written_write (written_write (written_write h _).2 _).2 _).2

/-- An appended record ends the file, if the writer is on it. -/
theorem content_append {f : JournalFile} (h : f.IsAttached) (r : Record) :
    (f.append r).octets = f.written ++ Journal.entry r := by
  have h₁ := written_write h (Octets.nat 4 (Payload.encode r).length)
  have h₂ := written_write h₁.2 (Payload.encode r)
  have h₃ := written_write h₂.2 (Octets.nat 4 (Checksum.of (Payload.encode r)).toNat)
  have h₄ := written_spill h₃.2
  simp only [append, flush, appendBuffered]
  rw [h₄.2.1, h₃.1, h₂.1, h₁.1]
  simp [Journal.entry, Journal.frame, List.append_assoc]

/-- After a snapshot the file holds just its entries. -/
@[simp] theorem records_snapshot (f : JournalFile) (rs : List Record) :
    (f.snapshot rs).records = Journal.replay (Journal.entries rs) := rfl

end JournalFile
end Tariff
