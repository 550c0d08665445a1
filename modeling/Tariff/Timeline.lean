import Tariff.Span

/-!
# Timelines

A timeline holds the values of one key over time.  Its entries stand in the order of
their starts, and each carries a stamp that tells when it was written.  An exclusive
timeline refuses an entry that overlaps another one; a concurrent timeline takes all.
An entry with an id replaces the entry of the same id wherever it falls, and may so
come to overlap others; the timeline remembers that this has happened.

Main results:

- Theorem {lit}`Timeline.insert_error_iff`: an entry is refused for its span, or for
  an overlap in an exclusive timeline that does not know its id.
- Theorem {lit}`Timeline.contains_of_lookupEntry`: the entry found at an instant
  contains it.
-/

namespace Tariff

/-- A value over a span.  The id 0 stands for no id. -/
structure Entry (α : Type) where
  id : Nat
  span : Span
  value : α
  /-- The number of the write that placed the entry. -/
  stamp : Nat
deriving DecidableEq, Repr

/-- The values of one key over time. -/
structure Timeline (α : Type) where
  bounds : Bounds
  /-- Entries may overlap freely. -/
  concurrent : Bool
  /-- The entries by start; equal starts stay in the order of their placement. -/
  entries : List (Entry α)
  nextStamp : Nat
  /-- A replacement once made two entries of an exclusive timeline overlap. -/
  crossed : Bool
deriving DecidableEq, Repr

namespace Timeline

variable {α : Type}

/-- What an accepted entry did. -/
inductive Change where
  | added
  /-- The entry of the same id was replaced. -/
  | updated
deriving DecidableEq, Repr

/-- Why an entry is refused. -/
inductive Refusal where
  /-- The span is empty under the bounds of the timeline. -/
  | emptySpan (span : Span)
  /-- The span overlaps that of an entry. -/
  | overlap (span existing : Span)
deriving DecidableEq, Repr

/-- The wording of a refusal.  Spans are shown in square brackets whatever their
bounds. -/
def Refusal.message : Refusal → String
  | emptySpan s =>
    "invalid range: from " ++ toString s.start ++ ", to " ++ toString s.stop ++
      " is empty or inverted"
  | overlap s e =>
    "[" ++ toString s.start ++ ", " ++ toString s.stop ++ "] overlaps existing [" ++
      toString e.start ++ ", " ++ toString e.stop ++ "]"

/-- A timeline without entries that refuses overlaps. -/
def exclusive (bounds : Bounds) : Timeline α :=
  ⟨bounds, false, [], 0, false⟩

/-- A timeline without entries that takes overlaps. -/
def overlapping (bounds : Bounds) : Timeline α :=
  ⟨bounds, true, [], 0, false⟩

/-- The number of entries. -/
def size (l : Timeline α) : Nat :=
  l.entries.length

/-! ## Finding entries -/

/-- The entries that start at the instant or before it. -/
def startedBy (l : Timeline α) (t : Int) : List (Entry α) :=
  l.entries.takeWhile fun e => decide (e.span.start ≤ t)

/-- The entries that start after the instant. -/
def startingAfter (l : Timeline α) (t : Int) : List (Entry α) :=
  l.entries.dropWhile fun e => decide (e.span.start ≤ t)

/-- The entries that contain the instant, by start. -/
def hits (l : Timeline α) (t : Int) : List (Entry α) :=
  (l.startedBy t).filter fun e => l.bounds.contains e.span t

/-- The entry with the least stamp. -/
def earliest : List (Entry α) → Option (Entry α)
  | [] => none
  | e :: es =>
    match earliest es with
    | some f => if e.stamp ≤ f.stamp then some e else some f
    | none => some e

/-- The entry with the greatest stamp. -/
def latest : List (Entry α) → Option (Entry α)
  | [] => none
  | e :: es =>
    match latest es with
    | some f => if f.stamp < e.stamp then some e else some f
    | none => some e

/-- Puts an entry in front of the first one that is stamped later. -/
def insertByStamp (e : Entry α) : List (Entry α) → List (Entry α)
  | [] => [e]
  | f :: fs => if e.stamp ≤ f.stamp then e :: f :: fs else f :: insertByStamp e fs

/-- The entries by stamp. -/
def sortByStamp (es : List (Entry α)) : List (Entry α) :=
  es.foldr insertByStamp []

/-- The entry that holds at an instant: the first one written if the timeline is
concurrent, the last one written if it is exclusive.  As long as no replacement has
crossed another entry, only the last entry to start can contain the instant. -/
def lookupEntry (l : Timeline α) (t : Int) : Option (Entry α) :=
  if l.concurrent then earliest (l.hits t)
  else if l.crossed then latest (l.hits t)
  else (l.startedBy t).getLast?.filter fun e => l.bounds.contains e.span t

/-- The value that holds at an instant. -/
def lookup (l : Timeline α) (t : Int) : Option α :=
  (l.lookupEntry t).map (·.value)

/-- All values that hold at an instant, in the order in which they were written. -/
def lookupAll (l : Timeline α) (t : Int) : List α :=
  (sortByStamp (l.hits t)).map (·.value)

/-- The span of an entry that overlaps the span given.  As long as no replacement has
crossed another entry, only the two neighbours of its start can. -/
def findOverlap (l : Timeline α) (span : Span) : Option Span :=
  let near :=
    if l.crossed then l.entries
    else (l.startedBy span.start).getLast?.toList ++ (l.startingAfter span.start).head?.toList
  (near.find? fun e => l.bounds.overlaps e.span span).map (·.span)

/-! ## Writing entries -/

/-- Writes an entry behind all that start at its start or before. -/
def place (l : Timeline α) (id : Nat) (span : Span) (value : α) : Timeline α :=
  { l with
    entries := l.startedBy span.start ++
      { id := id, span := span, value := value, stamp := l.nextStamp } ::
        l.startingAfter span.start
    nextStamp := l.nextStamp + 1 }

/-- The timeline without its first entry of an id. -/
def erase (l : Timeline α) (id : Nat) : Timeline α :=
  { l with entries := l.entries.eraseP fun e => decide (e.id = id) }

/-- Writes an entry in the place of the one with the same id. -/
def replace (l : Timeline α) (id : Nat) (span : Span) (value : α) : Timeline α :=
  let rest := l.erase id
  let crosses := !l.concurrent && (rest.findOverlap span).isSome
  { rest with crossed := l.crossed || crosses }.place id span value

/-- The timeline has an entry with this id, which is no bare 0. -/
def knows (l : Timeline α) (id : Nat) : Bool :=
  decide (id ≠ 0) && l.entries.any fun e => decide (e.id = id)

/-- The span that keeps a fresh entry out. -/
def obstacle (l : Timeline α) (span : Span) : Option Span :=
  if l.concurrent then none else l.findOverlap span

/-- Adds an entry, or replaces the one with the same id.  The timeline comes with what the
entry did, or with why it was refused. -/
def insert (l : Timeline α) (id : Nat) (span : Span) (value : α) :
    Timeline α × Except Refusal Change :=
  if l.bounds.admits span then
    if l.knows id then (l.replace id span value, .ok .updated)
    else
      match l.obstacle span with
      | some existing => (l, .error (.overlap span existing))
      | none => (l.place id span value, .ok .added)
  else (l, .error (.emptySpan span))

/-! ## Laws -/

@[simp] theorem entries_exclusive (b : Bounds) : (exclusive b : Timeline α).entries = [] := rfl

@[simp] theorem entries_overlapping (b : Bounds) :
    (overlapping b : Timeline α).entries = [] := rfl

/-- The two halves at an instant make up the timeline. -/
theorem startedBy_append_startingAfter (l : Timeline α) (t : Int) :
    l.startedBy t ++ l.startingAfter t = l.entries :=
  List.takeWhile_append_dropWhile

@[simp] theorem size_place (l : Timeline α) (id : Nat) (span : Span) (value : α) :
    (l.place id span value).size = l.size + 1 := by
  have h := congrArg List.length (l.startedBy_append_startingAfter span.start)
  simp only [List.length_append] at h
  simp only [size, place, List.length_append, List.length_cons]
  omega

/-- When an entry is refused, and why.  The timeline is then the one that it was. -/
theorem insert_error_iff (l l' : Timeline α) (id : Nat) (span : Span) (value : α) (r : Refusal) :
    l.insert id span value = (l', .error r) ↔
      l' = l ∧
        ((l.bounds.admits span = false ∧ r = .emptySpan span) ∨
          (l.bounds.admits span = true ∧ l.knows id = false ∧
            ∃ existing, l.obstacle span = some existing ∧ r = .overlap span existing)) := by
  unfold insert
  cases l.bounds.admits span with
  | false => simpa using and_congr eq_comm eq_comm
  | true =>
    cases l.knows id with
    | true => simp
    | false =>
      cases l.obstacle span with
      | none => simp
      | some existing => simpa using and_congr eq_comm eq_comm

/-- A timeline that refuses an entry is left as it was. -/
theorem insert_of_error {l : Timeline α} {id : Nat} {span : Span} {value : α} {r : Refusal}
    (h : (l.insert id span value).2 = .error r) : (l.insert id span value).1 = l :=
  ((insert_error_iff l _ id span value r).1 (Prod.ext rfl h)).1

/-- A timeline refuses an entry and is left as it was, or it takes the entry. -/
theorem insert_cases (l : Timeline α) (id : Nat) (span : Span) (value : α) :
    (∃ r, l.insert id span value = (l, .error r)) ∨
      ∃ c l', l.insert id span value = (l', .ok c) := by
  cases h : (l.insert id span value).2 with
  | error r => exact .inl ⟨r, Prod.ext (insert_of_error h) h⟩
  | ok c => exact .inr ⟨c, (l.insert id span value).1, Prod.ext rfl h⟩

/-- The earliest entry is one of the entries. -/
theorem mem_of_earliest {es : List (Entry α)} {e : Entry α} (h : earliest es = some e) :
    e ∈ es := by
  induction es with
  | nil => cases h
  | cons f fs ih =>
    unfold earliest at h
    split at h
    · rename_i g hg
      split at h
      · cases h; exact List.mem_cons_self
      · cases h; exact List.mem_cons_of_mem _ (ih hg)
    · cases h; exact List.mem_cons_self

/-- The latest entry is one of the entries. -/
theorem mem_of_latest {es : List (Entry α)} {e : Entry α} (h : latest es = some e) :
    e ∈ es := by
  induction es with
  | nil => cases h
  | cons f fs ih =>
    unfold latest at h
    split at h
    · rename_i g hg
      split at h
      · cases h; exact List.mem_cons_self
      · cases h; exact List.mem_cons_of_mem _ (ih hg)
    · cases h; exact List.mem_cons_self

/-- The hits of an instant contain it. -/
theorem contains_of_mem_hits {l : Timeline α} {t : Int} {e : Entry α} (h : e ∈ l.hits t) :
    l.bounds.contains e.span t = true :=
  (List.mem_filter.1 h).2

/-- The entry found at an instant contains it. -/
theorem contains_of_lookupEntry {l : Timeline α} {t : Int} {e : Entry α}
    (h : l.lookupEntry t = some e) : l.bounds.contains e.span t = true := by
  unfold lookupEntry at h
  split at h
  · exact contains_of_mem_hits (mem_of_earliest h)
  · split at h
    · exact contains_of_mem_hits (mem_of_latest h)
    · exact (Option.filter_eq_some_iff.1 h).2

end Timeline
end Tariff
