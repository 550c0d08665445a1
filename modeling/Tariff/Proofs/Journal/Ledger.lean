import Mathlib.Data.List.Induction
import Tariff.Proofs.Journal.Provider
import Tariff.Proofs.Journal.Tail

/-!
# What a journal file holds at any moment

A writer may let go of the octets that it holds back whenever it likes, as long as it keeps
their order.  A ledger says, from the calls alone, which records the file at the path stands
for and which of them can no longer be lost.  However the writer spills, the file replays the
records of the ledger from the first one on, at least those that are settled, and leaves out
only what is still held back.

Main results:

- Theorem {lit}`JournalFile.hands_appendBuffered`: a writer with a buffer of a fixed size is
  one of those that spill whenever they like.
- Theorem {lit}`JournalFile.Keeps.performs`: each call keeps the file in step with the ledger.
- Theorem {lit}`JournalFile.Reached.keeps`: so does every run of calls.
- Theorem {lit}`JournalFile.replay_of_moment`: what is replayed at any moment of a run, also
  in the middle of an entry.
-/

namespace Tariff
namespace JournalFile

open Journal

/-! ## Octets on their way -/

/-- The octets held back for the file at the path. -/
def due (f : JournalFile) : List UInt8 :=
  match f.writer with
  | some ⟨true, pending⟩ => pending
  | some ⟨false, _⟩ | none => []

/-- Octets that the writer holds back behind the others. -/
def hold (f : JournalFile) (bs : List UInt8) : JournalFile :=
  { f with writer := f.writer.map fun w => { w with pending := w.pending ++ bs } }

/-- Lets the writer go on with the first of the octets that it holds back. -/
def spillFirst (f : JournalFile) (n : Nat) : JournalFile :=
  match f.writer with
  | some w =>
    { f.store w.attached (w.pending.take n) with
      writer := some { w with pending := w.pending.drop n } }
  | none => f

/-- Nothing is due to a file that has no writer on it. -/
theorem due_of_not_isAttached {f : JournalFile} (h : ¬ f.IsAttached) : f.due = [] := by
  obtain ⟨content, _ | ⟨_ | _, pending⟩⟩ := f
  · rfl
  · rfl
  · exact absurd ⟨pending, rfl⟩ h

@[simp] theorem octets_hold (f : JournalFile) (bs : List UInt8) : (f.hold bs).octets = f.octets :=
  rfl

@[simp] theorem isAttached_hold (f : JournalFile) (bs : List UInt8) :
    (f.hold bs).IsAttached ↔ f.IsAttached := by
  obtain ⟨content, _ | ⟨attached, pending⟩⟩ := f <;> simp [hold, IsAttached]

/-- Octets that are held back are due behind those that were due before. -/
theorem due_hold {f : JournalFile} (h : f.IsAttached) (bs : List UInt8) :
    (f.hold bs).due = f.due ++ bs := by
  obtain ⟨pending, hw⟩ := h
  simp [hold, due, hw]

@[simp] theorem octets_spillFirst (f : JournalFile) (n : Nat) :
    (f.spillFirst n).octets = f.octets ++ f.due.take n := by
  obtain ⟨content, _ | ⟨_ | _, pending⟩⟩ := f <;>
    simp [spillFirst, due, store, extend, octets]

@[simp] theorem due_spillFirst (f : JournalFile) (n : Nat) :
    (f.spillFirst n).due = f.due.drop n := by
  obtain ⟨content, _ | ⟨_ | _, pending⟩⟩ := f <;> simp [spillFirst, due]

@[simp] theorem isAttached_spillFirst (f : JournalFile) (n : Nat) :
    (f.spillFirst n).IsAttached ↔ f.IsAttached := by
  obtain ⟨content, _ | ⟨attached, pending⟩⟩ := f <;> simp [spillFirst, IsAttached]

/-- A writer that spills goes on with all that it holds back. -/
theorem exists_spill_eq (f : JournalFile) : ∃ n, f.spill = f.spillFirst n := by
  obtain ⟨content, _ | ⟨attached, pending⟩⟩ := f
  · exact ⟨0, rfl⟩
  · exact ⟨pending.length, by simp [spill, spillFirst]⟩

@[simp] theorem octets_spill (f : JournalFile) : f.spill.octets = f.octets ++ f.due := by
  obtain ⟨content, _ | ⟨_ | _, pending⟩⟩ := f <;>
    simp [spill, due, store, extend, octets]

@[simp] theorem due_spill (f : JournalFile) : f.spill.due = [] := by
  obtain ⟨content, _ | ⟨_ | _, pending⟩⟩ := f <;> rfl

@[simp] theorem isAttached_spill (f : JournalFile) : f.spill.IsAttached ↔ f.IsAttached := by
  obtain ⟨n, hn⟩ := f.exists_spill_eq
  rw [hn, isAttached_spillFirst]

/-! ## Writers that spill whenever they like -/

/-- The writer is handed octets in order, piece by piece, and may let go of some of what it
holds back at any moment. -/
inductive Hands : List UInt8 → JournalFile → JournalFile → Prop
  | nothing (f : JournalFile) : Hands [] f f
  | hold {bs : List UInt8} {f g : JournalFile} (more : List UInt8) :
      Hands bs f g → Hands (bs ++ more) f (g.hold more)
  | spill {bs : List UInt8} {f g : JournalFile} (n : Nat) :
      Hands bs f g → Hands bs f (g.spillFirst n)

/-- Octets that are handed over in two parts are handed over as one. -/
theorem Hands.trans {front back : List UInt8} {f g h : JournalFile} (hfront : Hands front f g)
    (hback : Hands back g h) : Hands (front ++ back) f h := by
  induction hback with
  | nothing =>
    rw [List.append_nil]
    exact hfront
  | hold more _ ih =>
    rw [← List.append_assoc]
    exact (ih hfront).hold more
  | spill n _ ih => exact (ih hfront).spill n

/-- A spill hands over no octets that were not due. -/
theorem hands_spill (f : JournalFile) : Hands [] f f.spill := by
  obtain ⟨n, hn⟩ := f.exists_spill_eq
  rw [hn]
  exact (Hands.nothing f).spill n

/-- To hold octets back hands them over. -/
theorem hands_hold (f : JournalFile) (bs : List UInt8) : Hands bs f (f.hold bs) :=
  (Hands.nothing f).hold bs

/-- Octets that are not held back at all are held back and let go of at once. -/
theorem hands_store {f : JournalFile} {attached : Bool} (h : f.writer = some ⟨attached, []⟩)
    (bs : List UInt8) : Hands bs f (f.store attached bs) := by
  have hstore : f.store attached bs = (f.hold bs).spillFirst bs.length := by
    obtain ⟨content, writer⟩ := f
    cases h
    cases attached <;> simp [store, hold, spillFirst, extend, octets]
  rw [hstore]
  exact (hands_hold f bs).spill bs.length

/-- A buffer of a fixed size is handed the octets and spills when it has to.  Once it has made
room, it is empty if the octets alone would fill it. -/
theorem hands_write (f : JournalFile) (bs : List UInt8) : Hands bs f (f.write bs) := by
  have hput : ∀ g : JournalFile, Hands [] f g →
      (∀ w, g.writer = some w → bufferSize ≤ bs.length → w.pending = []) →
      Hands bs f (match g.writer with
        | some w =>
          if bufferSize ≤ bs.length then g.store w.attached bs
          else { g with writer := some { w with pending := w.pending ++ bs } }
        | none => g) := by
    intro g hg hempty
    have hhold : Hands bs f (g.hold bs) := hg.trans (hands_hold g bs)
    cases hw : g.writer with
    | none =>
      have hsame : g.hold bs = g := by
        obtain ⟨content, writer⟩ := g
        cases hw
        rfl
      rwa [hsame] at hhold
    | some w =>
      obtain ⟨attached, pending⟩ := w
      by_cases hbig : bufferSize ≤ bs.length
      · cases hempty _ hw hbig
        simp only [if_pos hbig]
        exact hg.trans (hands_store hw bs)
      · have hsame : g.hold bs = { g with writer := some ⟨attached, pending ++ bs⟩ } := by
          simp [hold, hw]
        simp only [if_neg hbig]
        rwa [hsame] at hhold
  unfold write
  by_cases hroom : bufferSize - (f.writer.elim 0 fun w => w.pending.length) < bs.length
  · simp only [if_pos hroom]
    refine hput f.spill (hands_spill f) ?_
    intro w hw _
    cases hf : f.writer with
    | none =>
      simp only [spill, hf] at hw
      cases hw
    | some w' =>
      rw [writer_spill f w' hf] at hw
      cases hw
      rfl
  · simp only [if_neg hroom]
    refine hput f (Hands.nothing f) ?_
    intro w hw hbig
    simp only [hw, Option.elim_some, bufferSize] at hroom hbig
    exact List.length_eq_zero_iff.1 (by omega)

/-- A buffer of a fixed size is handed the entry of the record. -/
theorem hands_appendBuffered (f : JournalFile) (r : Record) :
    Hands (entry r) f (f.appendBuffered r) :=
  ((hands_write f _).trans (hands_write _ _)).trans (hands_write _ _)

/-- What is left of the handing over, however the writer spilled. -/
structure Handed (bs : List UInt8) (f g : JournalFile) : Prop where
  attached : g.IsAttached ↔ f.IsAttached
  reach : f.IsAttached → g.octets ++ g.due = f.octets ++ f.due ++ bs
  grows : f.octets <+: g.octets
  /-- A writer that is not on the file at the path leaves this file alone. -/
  frame : ¬ f.IsAttached → g.octets = f.octets

/-- Octets that are handed over by a call are handed over at every moment of it. -/
theorem Hands.handed {bs : List UInt8} {f g : JournalFile} (h : Hands bs f g) :
    Handed bs f g := by
  induction h with
  | nothing f =>
    exact ⟨Iff.rfl, fun _ => (List.append_nil _).symm, List.prefix_refl _, fun _ => rfl⟩
  | @hold bs f g more _ ih =>
    refine ⟨(isAttached_hold g more).trans ih.attached, ?_, ih.grows, ih.frame⟩
    intro hf
    rw [octets_hold, due_hold (ih.attached.2 hf), ← List.append_assoc, ih.reach hf,
      List.append_assoc]
  | @spill bs f g n _ ih =>
    refine ⟨(isAttached_spillFirst g n).trans ih.attached, ?_, ?_, ?_⟩
    · intro hf
      rw [octets_spillFirst, due_spillFirst, List.append_assoc, List.take_append_drop, ih.reach hf]
    · rw [octets_spillFirst]
      exact ih.grows.trans (List.prefix_append _ _)
    · intro hf
      have hg : ¬ g.IsAttached := fun hg => hf (ih.attached.1 hg)
      rw [octets_spillFirst, due_of_not_isAttached hg, List.take_nil, List.append_nil,
        ih.frame hf]

/-! ## Calls and runs -/

/-- A call on a journal file. -/
inductive Call where
  | openWriter
  | close
  | append (r : Record)
  | appendBuffered (r : Record)
  | flush
  | snapshot (rs : List Record)
deriving DecidableEq

/-- The records that a call is given. -/
def Call.records : Call → List Record
  | append r | appendBuffered r => [r]
  | snapshot rs => rs
  | openWriter | close | flush => []

/-- What a call does with a buffer of a fixed size. -/
def perform (f : JournalFile) : Call → JournalFile
  | .openWriter => f.openWriter
  | .close => f.close
  | .append r => f.append r
  | .appendBuffered r => f.appendBuffered r
  | .flush => f.flush
  | .snapshot rs => f.snapshot rs

/-- What a call may do with a writer that spills whenever it likes.  A snapshot is written
beside the file and takes its place all at once. -/
inductive Performs : Call → JournalFile → JournalFile → Prop
  | openWriter (f : JournalFile) : Performs .openWriter f f.openWriter
  | close (f : JournalFile) : Performs .close f f.close
  | append {f g : JournalFile} {r : Record} :
      Hands (entry r) f g → Performs (.append r) f g.flush
  | appendBuffered {f g : JournalFile} {r : Record} :
      Hands (entry r) f g → Performs (.appendBuffered r) f g
  | flush (f : JournalFile) : Performs .flush f f.flush
  | snapshot (f : JournalFile) (rs : List Record) : Performs (.snapshot rs) f (f.snapshot rs)

/-- A call that runs to its end performs what is asked. -/
theorem performs_perform (f : JournalFile) (c : Call) : Performs c f (f.perform c) := by
  cases c with
  | openWriter => exact .openWriter f
  | close => exact .close f
  | append r => exact .append (hands_appendBuffered f r)
  | appendBuffered r => exact .appendBuffered (hands_appendBuffered f r)
  | flush => exact .flush f
  | snapshot rs => exact .snapshot f rs

/-- The states that some calls may lead to, from no file on.  The writer may spill between
any two of them. -/
inductive Reached : List Call → JournalFile → Prop
  | start : Reached [] missing
  | spill {calls : List Call} {f : JournalFile} (n : Nat) :
      Reached calls f → Reached calls (f.spillFirst n)
  | call {calls : List Call} {c : Call} {f g : JournalFile} :
      Reached calls f → Performs c f g → Reached (calls ++ [c]) g

/-- A buffer of a fixed size reaches one of these states. -/
theorem reached_foldl_perform (calls : List Call) :
    Reached calls (calls.foldl perform missing) := by
  induction calls using List.reverseRecOn with
  | nil => exact .start
  | append_singleton calls c ih =>
    rw [List.foldl_append]
    exact ih.call (performs_perform _ c)

/-- The octets begin the entry of a record that is not too long, and do not end it. -/
def IsTorn (bs : List UInt8) : Prop :=
  ∃ r, Fits r ∧ bs <+: entry r ∧ bs ≠ entry r

/-- The state at some moment after the calls, before the next one is done: the writer may
have been handed a part of the next entry.  When it has the whole entry, the record counts
as handed over by {lit}`appendBuffered`. -/
def Moment (calls : List Call) (f : JournalFile) : Prop :=
  ∃ g bs, Reached calls g ∧ IsTorn bs ∧ Hands bs g f

/-- No octets at all are a torn entry. -/
theorem isTorn_nil : IsTorn [] :=
  ⟨.mapping "" "", by decide, List.nil_prefix, by decide⟩

/-- Between two calls nothing of the next entry was handed over. -/
theorem Reached.moment {calls : List Call} {f : JournalFile} (h : Reached calls f) :
    Moment calls f :=
  ⟨f, [], h, isTorn_nil, .nothing f⟩

/-! ## The ledger -/

/-- What the file at the path stands for. -/
structure Ledger where
  /-- The records of the last snapshot and those appended since, by writers opened since. -/
  records : List Record
  /-- Those that can no longer be lost. -/
  settled : List Record
  /-- There is a writer, opened after the last snapshot. -/
  current : Bool
deriving DecidableEq

namespace Ledger

/-- The writer hands over a record.  A writer from before the last snapshot does not count. -/
def add (l : Ledger) (r : Record) : Ledger :=
  if l.current then { l with records := l.records ++ [r] } else l

/-- The writer lets go of all that it holds back. -/
def settle (l : Ledger) : Ledger :=
  if l.current then { l with settled := l.records } else l

/-- Enters a call. -/
def note (l : Ledger) : Call → Ledger
  | .openWriter => { l.settle with current := true }
  | .close => { l.settle with current := false }
  | .append r => (l.add r).settle
  | .appendBuffered r => l.add r
  | .flush => l.settle
  | .snapshot rs => ⟨rs, rs, false⟩

/-- The ledger of some calls. -/
def after (calls : List Call) : Ledger :=
  calls.foldl note ⟨[], [], false⟩

/-- A ledger that is current takes in a record. -/
theorem add_of_current {l : Ledger} (h : l.current = true) (r : Record) :
    l.add r = { l with records := l.records ++ [r] } :=
  if_pos h

/-- A ledger that is not current takes in no record. -/
theorem add_of_not_current {l : Ledger} (h : ¬ l.current = true) (r : Record) : l.add r = l :=
  if_neg h

/-- To settle a ledger that is current settles all its records. -/
theorem settle_of_current {l : Ledger} (h : l.current = true) :
    l.settle = { l with settled := l.records } :=
  if_pos h

/-- To settle a ledger that is not current changes nothing. -/
theorem settle_of_not_current {l : Ledger} (h : ¬ l.current = true) : l.settle = l :=
  if_neg h

@[simp] theorem records_settle (l : Ledger) : l.settle.records = l.records := by
  unfold settle
  split <;> rfl

@[simp] theorem current_add (l : Ledger) (r : Record) : (l.add r).current = l.current := by
  unfold add
  split <;> rfl

/-- A record of a ledger that one was added to was there before or is the one that was added. -/
theorem mem_records_add {l : Ledger} {r s : Record} (h : s ∈ (l.add r).records) :
    s ∈ l.records ∨ s = r := by
  unfold add at h
  split at h
  · simpa using h
  · exact .inl h

/-- A record of a ledger after a call was there before or is one of those of the call. -/
theorem mem_records_note {l : Ledger} {c : Call} {s : Record} (h : s ∈ (l.note c).records) :
    s ∈ l.records ∨ s ∈ c.records := by
  cases c with
  | openWriter | close | flush => exact .inl (by simpa [note] using h)
  | append r =>
    rw [note, records_settle] at h
    exact (mem_records_add h).imp_right List.mem_singleton.2
  | appendBuffered r => exact (mem_records_add h).imp_right List.mem_singleton.2
  | snapshot rs => exact .inr h

/-- The ledger after one more call. -/
theorem after_concat (calls : List Call) (c : Call) :
    after (calls ++ [c]) = (after calls).note c := by
  unfold after
  rw [List.foldl_append]
  rfl

/-- Each record of the ledger was given by a call. -/
theorem exists_of_mem_records {calls : List Call} {s : Record} (h : s ∈ (after calls).records) :
    ∃ c ∈ calls, s ∈ c.records := by
  induction calls using List.reverseRecOn with
  | nil => cases h
  | append_singleton calls c ih =>
    rw [after_concat] at h
    rcases mem_records_note h with hold | hnew
    · obtain ⟨c', hc', hs⟩ := ih hold
      exact ⟨c', List.mem_append_left _ hc', hs⟩
    · exact ⟨c, List.mem_append_right _ (List.mem_singleton.2 rfl), hnew⟩

/-- The writer that was there before a snapshot enters nothing. -/
theorem foldl_note_of_not_current {l : Ledger} (hl : l.current = false) {calls : List Call}
    (hopen : .openWriter ∉ calls) (hsnapshot : ∀ rs, .snapshot rs ∉ calls) :
    calls.foldl note l = l := by
  obtain ⟨records, settled, current⟩ := l
  cases hl
  induction calls with
  | nil => rfl
  | cons c calls ih =>
    rw [List.mem_cons, not_or] at hopen
    have hcall : note ⟨records, settled, false⟩ c = ⟨records, settled, false⟩ := by
      cases c with
      | openWriter => exact absurd rfl hopen.1
      | snapshot rs => exact absurd List.mem_cons_self (hsnapshot rs)
      | close | append | appendBuffered | flush => rfl
    rw [List.foldl_cons, hcall]
    exact ih hopen.2 fun rs h => hsnapshot rs (List.mem_cons_of_mem c h)

end Ledger

/-- The file is in step with the ledger. -/
structure Keeps (f : JournalFile) (l : Ledger) : Prop where
  current : f.IsAttached ↔ l.current = true
  reach : f.octets ++ f.due = entries l.records
  settled : l.settled <+: l.records
  stored : (entries l.settled).length ≤ f.octets.length

namespace Keeps

variable {f g : JournalFile} {l : Ledger}

/-- A file that does not exist keeps the ledger of no calls. -/
theorem missing : Keeps missing (Ledger.after []) where
  current := by simp [IsAttached, JournalFile.missing, Ledger.after]
  reach := rfl
  settled := List.prefix_refl _
  stored := Nat.le_refl _

/-- Nothing is held back for the file at the path if no writer is on it. -/
theorem octets_of_not_current (h : Keeps f l) (hl : ¬ l.current = true) :
    f.octets = entries l.records := by
  rw [← h.reach, due_of_not_isAttached fun hf => hl (h.current.1 hf), List.append_nil]

/-- A spill that is cut short keeps the ledger. -/
theorem spillFirst (h : Keeps f l) (n : Nat) : Keeps (f.spillFirst n) l where
  current := (isAttached_spillFirst f n).trans h.current
  reach := by
    rw [octets_spillFirst, due_spillFirst, List.append_assoc, List.take_append_drop, h.reach]
  settled := h.settled
  stored := by
    have hstored := h.stored
    rw [octets_spillFirst, List.length_append]
    omega

/-- Once the whole entry is handed over, the record is in the ledger. -/
theorem add {r : Record} (h : Keeps f l) (hhands : Hands (entry r) f g) : Keeps g (l.add r) := by
  have hg := hhands.handed
  have hstored : (entries l.settled).length ≤ g.octets.length :=
    Nat.le_trans h.stored hg.grows.length_le
  have hcurrent : g.IsAttached ↔ (l.add r).current = true := by
    rw [Ledger.current_add, hg.attached, h.current]
  by_cases hl : l.current = true
  · rw [Ledger.add_of_current hl] at hcurrent ⊢
    refine ⟨hcurrent, ?_, h.settled.trans (List.prefix_append _ _), hstored⟩
    rw [hg.reach (h.current.2 hl), h.reach, entries_concat]
  · rw [Ledger.add_of_not_current hl] at hcurrent ⊢
    have hdue : g.due = [] := due_of_not_isAttached fun hf => hl (hcurrent.1 hf)
    refine ⟨hcurrent, ?_, h.settled, hstored⟩
    rw [hdue, List.append_nil, hg.frame fun hf => hl (h.current.1 hf),
      h.octets_of_not_current hl]

/-- All octets are stored once the writer has spilled, and the ledger is settled. -/
theorem spill (h : Keeps f l) : Keeps f.spill l.settle := by
  have hcurrent : f.spill.IsAttached ↔ l.current = true := (isAttached_spill f).trans h.current
  have hoctets : f.spill.octets = entries l.records := (octets_spill f).trans h.reach
  have hreach : f.spill.octets ++ f.spill.due = entries l.records := by
    rw [due_spill, List.append_nil, hoctets]
  by_cases hl : l.current = true
  · rw [Ledger.settle_of_current hl]
    exact ⟨hcurrent, hreach, List.prefix_refl _, Nat.le_of_eq (congrArg List.length hoctets.symm)⟩
  · rw [Ledger.settle_of_not_current hl]
    refine ⟨hcurrent, hreach, h.settled, ?_⟩
    rw [hoctets, ← h.octets_of_not_current hl]
    exact h.stored

/-- The writer is let go once it has spilled. -/
theorem close (h : Keeps f l) : Keeps f.close { l.settle with current := false } where
  current := by simp [IsAttached, JournalFile.close]
  reach := by
    have hreach := h.spill.reach
    rw [due_spill] at hreach
    exact hreach
  settled := h.spill.settled
  stored := h.spill.stored

/-- To open a writer settles the ledger and makes it current. -/
theorem openWriter (h : Keeps f l) : Keeps f.openWriter { l.settle with current := true } where
  current := by simp [IsAttached, JournalFile.openWriter]
  reach := h.close.reach
  settled := h.close.settled
  stored := h.close.stored

/-- A snapshot keeps the ledger of its own records, with no writer opened since. -/
theorem snapshot (f : JournalFile) (rs : List Record) : Keeps (f.snapshot rs) ⟨rs, rs, false⟩ := by
  have hdetached : ¬ (f.snapshot rs).IsAttached := by
    simp [IsAttached, JournalFile.snapshot]
  refine ⟨by simp [hdetached], ?_, List.prefix_refl _, Nat.le_refl _⟩
  rw [due_of_not_isAttached hdetached, List.append_nil]
  rfl

/-- Each call keeps the file in step with the ledger. -/
theorem performs {c : Call} (h : Keeps f l) (hc : Performs c f g) : Keeps g (l.note c) := by
  cases hc with
  | openWriter => exact h.openWriter
  | close => exact h.close
  | append hhands => exact (h.add hhands).spill
  | appendBuffered hhands => exact h.add hhands
  | flush => exact h.spill
  | snapshot _ rs => exact snapshot f rs

end Keeps

/-- After any calls the file is in step with their ledger. -/
theorem Reached.keeps {calls : List Call} {f : JournalFile} (h : Reached calls f) :
    Keeps f (Ledger.after calls) := by
  induction h with
  | start => exact .missing
  | spill n _ ih => exact ih.spillFirst n
  | call _ hc ih =>
    rw [Ledger.after_concat]
    exact ih.performs hc

/-! ## Replay at any moment -/

/-- The file is cut within the octets of the records and of one more, behind those that are
settled and before the end of the additional one. -/
theorem Keeps.exists_take {f g : JournalFile} {l : Ledger} (h : Keeps g l) {bs : List UInt8}
    {r : Record} (hbegins : bs <+: entry r) (hshort : bs.length < (entry r).length)
    (hhands : Hands bs g f) :
    ∃ size, f.octets = (entries (l.records ++ [r])).take size ∧
      (entries l.settled).length ≤ size ∧ size < (entries (l.records ++ [r])).length ∧
      (f.due = [] → (entries l.records).length ≤ size) := by
  have hf := hhands.handed
  have hstored : (entries l.settled).length ≤ f.octets.length :=
    Nat.le_trans h.stored hf.grows.length_le
  -- Without a writer on the file the record that is handed over does not reach it.
  have hreach : ∃ torn, torn <+: entry r ∧ torn.length < (entry r).length ∧
      f.octets ++ f.due = entries l.records ++ torn := by
    by_cases hg : g.IsAttached
    · exact ⟨bs, hbegins, hshort, by rw [hf.reach hg, h.reach]⟩
    · have hdue := due_of_not_isAttached fun hattached => hg (hf.attached.1 hattached)
      refine ⟨[], List.nil_prefix, Nat.zero_lt_of_lt hshort, ?_⟩
      rw [hdue, hf.frame hg, h.octets_of_not_current fun hl => hg (h.current.2 hl)]
  obtain ⟨torn, htorn, hlength, hreach⟩ := hreach
  have hwithin : f.octets <+: entries (l.records ++ [r]) := by
    have hstarts : f.octets <+: entries l.records ++ torn := hreach ▸ List.prefix_append _ _
    rw [entries_concat]
    exact hstarts.trans ((List.prefix_append_right_inj _).2 htorn)
  have hlengths := congrArg List.length hreach
  simp only [List.length_append] at hlengths
  refine ⟨f.octets.length, List.prefix_iff_eq_take.1 hwithin, hstored, ?_, ?_⟩
  · rw [entries_concat, List.length_append]
    omega
  · intro hdue
    rw [hdue, List.length_nil] at hlengths
    omega

/-- The records that are replayed are those of the ledger as far as their entries are
whole. -/
theorem Moment.replay {calls : List Call} {f : JournalFile} (h : Moment calls f)
    (hfits : ∀ r ∈ (Ledger.after calls).records, Fits r) :
    (Ledger.after calls).settled <+: Journal.replay f.octets ∧
      Journal.replay f.octets <+: (Ledger.after calls).records ∧
      (f.due = [] → Journal.replay f.octets = (Ledger.after calls).records) := by
  obtain ⟨g, bs, hreached, ⟨r, hr, hbegins, hne⟩, hhands⟩ := h
  have hkeeps := hreached.keeps
  have hshort : bs.length < (entry r).length :=
    Nat.lt_of_le_of_ne hbegins.length_le fun hlength => hne (hbegins.eq_of_length hlength)
  obtain ⟨size, hoctets, hsettled, hsize, hall⟩ := hkeeps.exists_take hbegins hshort hhands
  have hfits' : ∀ s ∈ (Ledger.after calls).records ++ [r], Fits s := by
    intro s hs
    rcases List.mem_append.1 hs with hs | hs
    · exact hfits s hs
    · rw [List.mem_singleton.1 hs]
      exact hr
  have hlongest := isLongestWithin_replay_take hfits' size
  rw [← hoctets] at hlongest
  have hstarts : Journal.replay f.octets <+: (Ledger.after calls).records := by
    rcases List.prefix_concat_iff.1 hlongest.starts with hwhole | hstarts
    · have hcut := hlongest.fits
      rw [hwhole] at hcut
      exact absurd hcut (Nat.not_le_of_lt hsize)
    · exact hstarts
  refine ⟨hlongest.longest _ (hkeeps.settled.trans (List.prefix_append _ _)) hsettled, hstarts, ?_⟩
  intro hdue
  have hends := hlongest.longest _ (List.prefix_append _ _) (hall hdue)
  exact hstarts.eq_of_length (Nat.le_antisymm hstarts.length_le hends.length_le)

/-- As long as the writer is the one from before the last snapshot, the file is made of the
entries of this snapshot. -/
theorem Moment.octets_behind_snapshot {before old : List Call} {rs : List Record}
    {f : JournalFile} (h : Moment (before ++ .snapshot rs :: old) f)
    (hopen : .openWriter ∉ old) (hsnapshot : ∀ rs', .snapshot rs' ∉ old) :
    f.octets = entries rs := by
  have hledger : Ledger.after (before ++ .snapshot rs :: old) = ⟨rs, rs, false⟩ := by
    unfold Ledger.after
    rw [List.foldl_append, List.foldl_cons]
    exact Ledger.foldl_note_of_not_current rfl hopen hsnapshot
  obtain ⟨g, bs, hreached, -, hhands⟩ := h
  have hkeeps := hreached.keeps
  rw [hledger] at hkeeps
  have hdetached : ¬ g.IsAttached := by simp [hkeeps.current]
  rw [hhands.handed.frame hdetached]
  exact hkeeps.octets_of_not_current (by simp)

/-- From no file on, after any calls with records that are not too long and however the
writer spills, the path replays records of the ledger from the first one on, with all that
are settled among them, and all of them when nothing is held back for the file.  A writer
that was opened before the last snapshot never changes the file.  A buffer of a fixed size
goes through such states. -/
theorem replay_of_moment (calls : List Call) (hfits : ∀ c ∈ calls, ∀ r ∈ c.records, Fits r) :
    (∀ f, Moment calls f → ∃ rs, f.atPath.replay? = some rs ∧
        (Ledger.after calls).settled <+: rs ∧ rs <+: (Ledger.after calls).records ∧
        (f.due = [] → rs = (Ledger.after calls).records)) ∧
      (∀ before rs old, calls = before ++ .snapshot rs :: old → .openWriter ∉ old →
        (∀ rs', .snapshot rs' ∉ old) → ∀ f, Moment calls f → f.octets = entries rs) ∧
      Reached calls (calls.foldl perform missing) := by
  have hledger : ∀ r ∈ (Ledger.after calls).records, Fits r := by
    intro r hr
    obtain ⟨c, hc, hmem⟩ := Ledger.exists_of_mem_records hr
    exact hfits c hc r hmem
  refine ⟨?_, ?_, reached_foldl_perform calls⟩
  · intro f hf
    exact ⟨_, Source.replay?_atPath f, hf.replay hledger⟩
  · intro before rs old hcalls hopen hsnapshot f hf
    subst hcalls
    exact hf.octets_behind_snapshot hopen hsnapshot

/-- The first writer holds back a record when the snapshot is put in place and is handed
another one.  The second writer has five octets of its last entry in the file. -/
theorem replay_behind_first_writer :
    let kept : Record := .mapping "GOLD" "WEEK"
    let stored : Record := .interval "WEEK" 6 "0800" "2400" "peak"
    let torn : Record := .rule "zone" ["!4.*", ">=5"] ["Z"]
    let first : List Call := [.openWriter, .append (.mapping "BASIC" "WEEK"),
      .appendBuffered (.mapping "SILVER" "WEEK"), .snapshot [kept],
      .appendBuffered (.mapping "BRONZE" "WEEK")]
    let calls := first ++ [.openWriter, .append stored, .appendBuffered torn]
    let f := (calls.foldl perform missing).spillFirst 5
    (∀ c ∈ calls, ∀ r ∈ c.records, Fits r) ∧
      (Moment first (first.foldl perform missing) ∧
        (first.foldl perform missing).octets = entries [kept]) ∧
      (Moment calls f ∧ ∃ rs, f.atPath.replay? = some rs ∧
        [kept, stored] <+: rs ∧ rs <+: [kept, stored, torn]) ∧
      f.spill.atPath.replay? = some [kept, stored, torn] := by
  intro kept stored torn first calls f
  have hfits : ∀ c ∈ calls, ∀ r ∈ c.records, Fits r := by decide +kernel
  have hfirst : Moment first (first.foldl perform missing) := (reached_foldl_perform first).moment
  have hcalls : Reached calls f := (reached_foldl_perform calls).spill 5
  have hsnapshot : ∀ rs, Call.snapshot rs ∉ [.appendBuffered (.mapping "BRONZE" "WEEK")] := by
    simp
  have hold := (replay_of_moment first (by decide +kernel)).2.1
    [.openWriter, .append (.mapping "BASIC" "WEEK"), .appendBuffered (.mapping "SILVER" "WEEK")]
    [kept] _ rfl (by decide) hsnapshot _ hfirst
  obtain ⟨rs, hreplay, hsettled, hstarts, -⟩ :=
    (replay_of_moment calls hfits).1 f hcalls.moment
  obtain ⟨n, hspill⟩ := f.exists_spill_eq
  have hmoment : Moment calls f.spill := by
    rw [hspill]
    exact (hcalls.spill n).moment
  obtain ⟨all, hall, -, -, hexact⟩ := (replay_of_moment calls hfits).1 f.spill hmoment
  rw [hexact (due_spill f)] at hall
  exact ⟨hfits, ⟨hfirst, hold⟩, ⟨hcalls.moment, rs, hreplay, hsettled, hstarts⟩, hall⟩

end JournalFile
end Tariff
