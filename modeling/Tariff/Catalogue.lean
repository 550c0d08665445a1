import Tariff.Directory
import Tariff.Timeline

/-!
# Catalogues

A catalogue keeps one timeline for each key, a key being a group and a resource in
it.  The timelines stand group by group, and a key gets its timeline before its first
entry is tried.  The mode of a catalogue says whether a key may hold several values at one
instant, and its policy what becomes of a key when an entry would overlap another one.

Main results:

- Theorem {lit}`Catalogue.timeline?_put`: after a timeline is put in place, its key has
  it and all other keys keep theirs.
- Theorem {lit}`Catalogue.timeline?_remove`: after a timeline is removed, its key has none
  and all other keys keep theirs.
- Theorem {lit}`Catalogue.add_error_iff`: only an entry with an empty span is an error, and it
  changes nothing.
- Theorem {lit}`Catalogue.add_skipped`: an entry for an invalidated key is passed over
  and changes nothing.
-/

namespace Tariff

/-- What a timeline is kept for. -/
structure Key where
  group : String
  resource : String
deriving DecidableEq, Repr

namespace Catalogue

/-- How many values a key may hold at one instant. -/
inductive Mode where
  /-- One value; an id replaces the entry that has it. -/
  | exclusive
  /-- Any number; ids do not count. -/
  | multi
deriving DecidableEq, Repr

/-- What becomes of a key when an entry overlaps another one. -/
inductive Policy where
  /-- The new entry is dropped. -/
  | reject
  /-- The key is dropped, with all entries that come for it later. -/
  | invalidateKey
deriving DecidableEq, Repr

/-- What adding an entry did. -/
inductive Outcome where
  | added
  | updated
  /-- The entry overlapped another one and was dropped. -/
  | rejected
  /-- The entry overlapped another one and its key was dropped. -/
  | invalidated
  /-- The key had been dropped before. -/
  | skipped
deriving DecidableEq, Repr

/-- What the addition of an entry says about the change of its timeline. -/
def Outcome.ofChange : Timeline.Change → Outcome
  | .added => .added
  | .updated => .updated

/-- The entry met another one. -/
def Outcome.isConflict : Outcome → Bool
  | rejected | invalidated => true
  | added | updated | skipped => false

end Catalogue

/-- The timelines of all keys. -/
structure Catalogue (α : Type) where
  mode : Catalogue.Mode
  policy : Catalogue.Policy
  /-- The timelines of each group, by resource. -/
  groups : Directory String (Directory String (Timeline α))
  /-- The keys that were dropped because two of their entries overlapped. -/
  dropped : List Key

namespace Catalogue

variable {α : Type}

/-- A catalogue without keys. -/
def empty (mode : Mode) (policy : Policy) : Catalogue α :=
  ⟨mode, policy, Directory.empty, []⟩

/-- The timeline that a key begins with. -/
def Mode.fresh : Mode → Timeline α
  | exclusive => Timeline.exclusive .halfOpen
  | multi => Timeline.overlapping .halfOpen

/-- The id under which a timeline keeps an entry. -/
def Mode.entryId : Mode → Nat → Nat
  | exclusive, id => id
  | multi, _ => 0

/-- The timelines of a group, by resource. -/
def resources (c : Catalogue α) (group : String) : Directory String (Timeline α) :=
  (c.groups.get? group).getD Directory.empty

/-- The timeline of a key. -/
def timeline? (c : Catalogue α) (k : Key) : Option (Timeline α) :=
  (c.resources k.group).get? k.resource

/-- The key was dropped. -/
def isInvalidated (c : Catalogue α) (k : Key) : Bool :=
  c.dropped.contains k

/-- The value of a key at an instant. -/
def first? (c : Catalogue α) (k : Key) (t : Int) : Option α :=
  (c.timeline? k).bind (·.lookup t)

/-- All values of a key at an instant. -/
def all (c : Catalogue α) (k : Key) (t : Int) : List α :=
  match c.timeline? k with
  | some l => l.lookupAll t
  | none => []

/-- The number of keys that have a timeline. -/
def keyCount (c : Catalogue α) : Nat :=
  c.groups.total Directory.size

/-- The number of entries of all keys. -/
def entryCount (c : Catalogue α) : Nat :=
  c.groups.total fun resources => resources.total Timeline.size

/-- The catalogue with all keys gone and none dropped. -/
def clear (c : Catalogue α) : Catalogue α :=
  empty c.mode c.policy

/-- Puts a timeline in the place of that of a key, in its group, which is created if it is
missing. -/
def put (c : Catalogue α) (k : Key) (l : Timeline α) : Catalogue α :=
  { c with groups := c.groups.set k.group ((c.resources k.group).set k.resource l) }

/-- Removes the timeline of a key, and its group if no other timeline is left in it. -/
def remove (c : Catalogue α) (k : Key) : Catalogue α :=
  let rest := (c.resources k.group).erase k.resource
  { c with
    groups := if rest.size = 0 then c.groups.erase k.group else c.groups.set k.group rest }

/-- The catalogue without a key, which is remembered as dropped. -/
def drop (c : Catalogue α) (k : Key) : Catalogue α :=
  { c.remove k with dropped := k :: c.dropped }

/-- What the policy makes of an entry that overlaps another one. -/
def settle (c : Catalogue α) (k : Key) : Catalogue α × Outcome :=
  match c.policy with
  | .reject => (c, .rejected)
  | .invalidateKey => (c.drop k, .invalidated)

/-- The timeline that is handed the entries for a key. -/
def target (c : Catalogue α) (k : Key) : Timeline α :=
  (c.timeline? k).getD c.mode.fresh

/-- Gives a key a timeline without entries if it has none. -/
def prepare (c : Catalogue α) (k : Key) : Catalogue α :=
  c.put k (c.target k)

/-- Hands an entry to the timeline of a key that was not dropped.  The key has its timeline
before the entry is tried, and keeps what the timeline has become, also when the entry is
rejected or refused. -/
def write (c : Catalogue α) (k : Key) (id : Nat) (span : Span) (value : α) :
    Catalogue α × Except Timeline.Refusal Outcome :=
  match (c.target k).insert (c.mode.entryId id) span value with
  | (l, .ok change) => ((c.prepare k).put k l, .ok (.ofChange change))
  | (l, .error (.overlap _ _)) =>
    let (c', outcome) := ((c.prepare k).put k l).settle k
    (c', .ok outcome)
  | (l, .error (.emptySpan s)) => ((c.prepare k).put k l, .error (.emptySpan s))

/-- Adds an entry for a key.  Only an empty span is an error. -/
def add (c : Catalogue α) (k : Key) (id : Nat) (span : Span) (value : α) :
    Catalogue α × Except Timeline.Refusal Outcome :=
  if Bounds.halfOpen.admits span then
    if c.isInvalidated k then (c, .ok .skipped) else c.write k id span value
  else (c, .error (.emptySpan span))

/-! ## Laws -/

@[simp] theorem isInvalidated_empty (mode : Mode) (policy : Policy) (k : Key) :
    (empty mode policy : Catalogue α).isInvalidated k = false := rfl

/-- Putting a timeline in place changes its own group. -/
theorem resources_put (c : Catalogue α) (k : Key) (l : Timeline α) (group : String) :
    (c.put k l).resources group =
      if group = k.group then (c.resources k.group).set k.resource l else c.resources group := by
  have hget := c.groups.get?_set k.group ((c.resources k.group).set k.resource l) group
  unfold put
  by_cases hgroup : group = k.group
  · rw [if_pos hgroup] at hget ⊢
    unfold resources at hget ⊢
    rw [hget, Option.getD_some]
  · rw [if_neg hgroup] at hget ⊢
    unfold resources at hget ⊢
    rw [hget]

/-- Of two timelines that are put in the place of that of a key the later one stays. -/
theorem put_put (c : Catalogue α) (k : Key) (l m : Timeline α) :
    (c.put k l).put k m = c.put k m := by
  have hresources := c.resources_put k l k.group
  rw [if_pos rfl] at hresources
  rw [put, hresources, Directory.set_set]
  unfold put
  rw [Directory.set_set]

/-- Removing a timeline changes its own group. -/
theorem resources_remove (c : Catalogue α) (k : Key) (group : String) :
    (c.remove k).resources group =
      if group = k.group then (c.resources k.group).erase k.resource else c.resources group := by
  unfold remove
  by_cases hsize : ((c.resources k.group).erase k.resource).size = 0
  · have hnil : (c.resources k.group).erase k.resource = Directory.empty :=
      congrArg Directory.mk (List.length_eq_zero_iff.1 hsize)
    have hget := c.groups.get?_erase k.group group
    simp only [if_pos hsize]
    rw [hnil]
    by_cases hgroup : group = k.group
    · rw [if_pos hgroup] at hget ⊢
      unfold resources
      rw [hget, Option.getD_none]
    · rw [if_neg hgroup] at hget ⊢
      unfold resources
      rw [hget]
  · have hget := c.groups.get?_set k.group ((c.resources k.group).erase k.resource) group
    simp only [if_neg hsize]
    by_cases hgroup : group = k.group
    · rw [if_pos hgroup] at hget ⊢
      unfold resources at hget ⊢
      rw [hget, Option.getD_some]
    · rw [if_neg hgroup] at hget ⊢
      unfold resources at hget ⊢
      rw [hget]

/-- A key has the timeline that was put in its place, and other keys keep theirs. -/
theorem timeline?_put (c : Catalogue α) (k : Key) (l : Timeline α) (j : Key) :
    (c.put k l).timeline? j = if j = k then some l else c.timeline? j := by
  obtain ⟨group, resource⟩ := k
  obtain ⟨group', resource'⟩ := j
  unfold timeline?
  rw [resources_put]
  simp only [Key.mk.injEq]
  by_cases hgroup : group' = group
  · simp only [hgroup, if_true, true_and]
    exact Directory.get?_set _ resource l resource'
  · simp only [hgroup, if_false, false_and]

/-- A key whose timeline was removed has none, and other keys keep theirs. -/
theorem timeline?_remove (c : Catalogue α) (k j : Key) :
    (c.remove k).timeline? j = if j = k then none else c.timeline? j := by
  obtain ⟨group, resource⟩ := k
  obtain ⟨group', resource'⟩ := j
  unfold timeline?
  rw [resources_remove]
  simp only [Key.mk.injEq]
  by_cases hgroup : group' = group
  · simp only [hgroup, if_true, true_and]
    exact Directory.get?_erase _ resource resource'
  · simp only [hgroup, if_false, false_and]

/-! ### Adding an entry -/

section Adding

variable {c : Catalogue α} {k : Key} {id : Nat} {span : Span} {value : α}

/-- What a timeline becomes with an entry that it takes is put in its place. -/
theorem write_of_ok {l : Timeline α} {change : Timeline.Change}
    (h : (c.target k).insert (c.mode.entryId id) span value = (l, .ok change)) :
    c.write k id span value = ((c.prepare k).put k l, .ok (.ofChange change)) := by
  simp [write, h]

/-- An overlap is a case for the policy. -/
theorem write_of_overlap {s existing : Span}
    (h : (c.target k).insert (c.mode.entryId id) span value =
      (c.target k, .error (.overlap s existing))) :
    c.write k id span value = (((c.prepare k).settle k).1, .ok ((c.prepare k).settle k).2) := by
  have hput : (c.prepare k).put k (c.target k) = c.prepare k :=
    c.put_put k (c.target k) (c.target k)
  simp [write, h, hput]

/-- Only an empty span is an error.  It leaves the catalogue as it was, no matter under which
bounds its timelines stand. -/
theorem add_error_iff (c c' : Catalogue α) (k : Key) (id : Nat) (span : Span) (value : α)
    (r : Timeline.Refusal) :
    c.add k id span value = (c', .error r) ↔
      c' = c ∧ Bounds.halfOpen.admits span = false ∧ r = .emptySpan span := by
  unfold add
  cases hspan : Bounds.halfOpen.admits span with
  | false => simpa using and_congr eq_comm eq_comm
  | true =>
    cases c.isInvalidated k with
    | true => simp
    | false =>
      rcases (c.target k).insert_cases (c.mode.entryId id) span value with
        ⟨refusal, hrefused⟩ | ⟨change, l, htaken⟩
      · rcases ((Timeline.insert_error_iff _ _ _ _ _ _).1 hrefused).2 with
          ⟨hempty, -⟩ | ⟨-, -, existing, -, rfl⟩
        · rw [Bounds.admits_of_halfOpen _ hspan] at hempty
          cases hempty
        · simp [write_of_overlap hrefused]
      · simp [write_of_ok htaken]

/-- An entry is an error and changes nothing, or something becomes of it. -/
theorem add_cases (c : Catalogue α) (k : Key) (id : Nat) (span : Span) (value : α) :
    (∃ r, c.add k id span value = (c, .error r)) ∨
      ∃ o c', c.add k id span value = (c', .ok o) := by
  cases h : (c.add k id span value).2 with
  | ok o => exact .inr ⟨o, (c.add k id span value).1, Prod.ext rfl h⟩
  | error r =>
    have hsame := ((add_error_iff c _ k id span value r).1 (Prod.ext rfl h)).1
    exact .inl ⟨r, Prod.ext hsame h⟩

end Adding

/-- An entry for a dropped key is passed over. -/
theorem add_skipped (c : Catalogue α) (k : Key) (id : Nat) (span : Span) (value : α)
    (hs : Bounds.halfOpen.admits span = true) (hk : c.isInvalidated k = true) :
    c.add k id span value = (c, .ok .skipped) := by
  simp [add, hs, hk]

end Catalogue
end Tariff
