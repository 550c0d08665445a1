import Tariff.Proofs.Journal.RoundTrip
import Tariff.Source

/-!
# Sources that hold records

What a source hands out while it is in service, whether its records are in memory or in an
intact journal, and that a record that is pushed to it is added at the end.

Main results:

- Theorem {lit}`Source.Holds.load`: a source that holds records hands them out.
- Theorem {lit}`Source.Holds.push`: a record that is pushed comes last.
-/

namespace Tariff

/-- An appended record ends the file also once its writer is closed. -/
theorem JournalFile.octets_close_append {f : JournalFile} (h : f.IsAttached) (r : Record) :
    (f.append r).close.octets = f.written ++ Journal.entry r := by
  obtain ⟨hwritten, hoctets, hattached⟩ := written_spill (isAttached_appendBuffered h r)
  calc
    (f.append r).close.octets = (f.appendBuffered r).spill.spill.octets := rfl
    _ = (f.appendBuffered r).spill.written := (written_spill hattached).2.1
    _ = (f.append r).octets := hwritten.trans hoctets.symm
    _ = f.written ++ Journal.entry r := content_append h r

namespace Source

/-- The source is in service with just these records.  A journal holds them if it is made of
their entries and none of these is too long to be read again. -/
def Holds (source : Source) (rs : List Record) : Prop :=
  source.outage = none ∧
    match source.supply with
    | .memory records => records = rs
    | .journal _ file => file.octets = Journal.entries rs ∧ ∀ r ∈ rs, Journal.Fits r
    | .directory _ => False

/-- No writer is at work on the journal of the source. -/
def IsIdle (source : Source) : Prop :=
  ∀ path file, source.supply = .journal path file → file.writer = none

/-- The octets at a path are replayed, and a file that is missing has none. -/
theorem replay?_atPath (file : JournalFile) :
    file.atPath.replay? = some (Journal.replay file.octets) := by
  unfold JournalFile.atPath JournalFile.octets
  cases file.content with
  | none => rfl
  | some bs => rfl

namespace Holds

variable {source : Source} {rs : List Record}

/-- A source that holds records hands them out, or those of them that count. -/
theorem load (h : source.Holds rs) (since : Option Int) :
    source.load since = .ok (Record.since since rs) := by
  obtain ⟨houtage, hsupply⟩ := h
  have hrecords : source.records? = some rs := by
    unfold records?
    cases hs : source.supply with
    | memory records =>
      rw [hs] at hsupply
      exact congrArg some hsupply
    | journal path file =>
      rw [hs] at hsupply
      obtain ⟨hoctets, hfits⟩ := hsupply
      have hreplay := Journal.replay_append hfits []
      rw [List.append_nil, Journal.replay_nil, List.append_nil] at hreplay
      simp only
      rw [replay?_atPath, hoctets, hreplay]
    | directory path =>
      rw [hs] at hsupply
      exact hsupply.elim
  unfold Source.load
  rw [houtage, hrecords]

/-- A record that is pushed comes last. -/
theorem push (h : source.Holds rs) (hidle : source.IsIdle) {r : Record} (hr : Journal.Fits r) :
    (source.push r).Holds (rs ++ [r]) := by
  obtain ⟨houtage, hsupply⟩ := h
  refine ⟨houtage, ?_⟩
  unfold Source.push withSupply
  cases hs : source.supply with
  | memory records =>
    rw [hs] at hsupply
    simp only at hsupply ⊢
    rw [hsupply]
  | journal path file =>
    rw [hs] at hsupply
    obtain ⟨hoctets, hfits⟩ := hsupply
    have hspill : file.spill = file := by
      unfold JournalFile.spill
      rw [hidle path file hs]
    have hopen : file.openWriter.written = Journal.entries rs := by
      unfold JournalFile.written JournalFile.openWriter JournalFile.close
      rw [hspill, ← hoctets]
      exact List.append_nil _
    have hattached : file.openWriter.IsAttached := ⟨[], rfl⟩
    refine ⟨?_, ?_⟩
    · rw [JournalFile.octets_close_append hattached, hopen, Journal.entries_concat]
    · intro r' hr'
      rcases List.mem_append.1 hr' with hr' | hr'
      · exact hfits r' hr'
      · rw [List.mem_singleton.1 hr']
        exact hr
  | directory path =>
    rw [hs] at hsupply
    exact hsupply.elim

end Holds

/-- No writer stays behind when a record was pushed. -/
theorem isIdle_push (source : Source) (r : Record) : (source.push r).IsIdle := by
  intro path file hfile
  unfold Source.push withSupply at hfile
  cases hs : source.supply with
  | memory records =>
    rw [hs] at hfile
    cases hfile
  | journal path' file' =>
    rw [hs] at hfile
    cases hfile
    rfl
  | directory path' =>
    rw [hs] at hfile
    cases hfile

end Source
end Tariff
