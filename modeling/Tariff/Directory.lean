/-!
# Directories

A directory keeps one value for each of finitely many keys, in the order in which
the keys first arrived.

Main results:

- Theorem {lit}`Directory.get?_set`: after a value is set, its key has that value and
  all other keys keep theirs.
- Theorem {lit}`Directory.get?_erase`: after a key is erased it has no value, and all
  other keys keep theirs.
-/

namespace Tariff

/-- One value per key, in the order of arrival of the keys. -/
structure Directory (κ α : Type) where
  entries : List (κ × α)
deriving Repr

namespace Directory

variable {κ α : Type} [DecidableEq κ]

/-- The directory without keys. -/
def empty : Directory κ α := ⟨[]⟩

/-- The value of a key. -/
def get? (d : Directory κ α) (k : κ) : Option α :=
  (d.entries.find? fun e => decide (e.1 = k)).map (·.2)

/-- The key has a value. -/
def contains (d : Directory κ α) (k : κ) : Bool :=
  (d.get? k).isSome

/-- Replaces the value of a key that is there, or adds the key at the end. -/
def setEntries (k : κ) (v : α) : List (κ × α) → List (κ × α)
  | [] => [(k, v)]
  | e :: es => if e.1 = k then (k, v) :: es else e :: setEntries k v es

/-- The directory with the value of a key set. -/
def set (d : Directory κ α) (k : κ) (v : α) : Directory κ α :=
  ⟨setEntries k v d.entries⟩

/-- The directory without a key. -/
def erase (d : Directory κ α) (k : κ) : Directory κ α :=
  ⟨d.entries.filter fun e => !decide (e.1 = k)⟩

/-- The number of keys. -/
def size (d : Directory κ α) : Nat :=
  d.entries.length

/-- The values, in the order of their keys. -/
def values (d : Directory κ α) : List α :=
  d.entries.map (·.2)

/-- A figure of each value, summed up. -/
def total (f : α → Nat) (d : Directory κ α) : Nat :=
  d.values.foldr (fun v n => f v + n) 0

@[simp] theorem get?_empty (k : κ) : (empty : Directory κ α).get? k = none := rfl

/-- The value that was set is there, and other keys keep theirs. -/
theorem get?_set (d : Directory κ α) (k : κ) (v : α) (j : κ) :
    (d.set k v).get? j = if j = k then some v else d.get? j := by
  obtain ⟨es⟩ := d
  simp only [set, get?]
  induction es with
  | nil => by_cases h : j = k <;> simp [setEntries, h, eq_comm]
  | cons e es ih =>
    unfold setEntries
    by_cases he : e.1 = k
    · rw [if_pos he]
      by_cases hj : j = k
      · simp [hj]
      · have hkj : ¬ k = j := fun h => hj h.symm
        simp [he, hj, hkj]
    · rw [if_neg he]
      by_cases hej : e.1 = j
      · have hj : ¬ j = k := fun h => he (hej.trans h)
        simp [hej, hj]
      · simpa [hej] using ih

/-- Of two values that are set for a key the later one stays. -/
theorem set_set (d : Directory κ α) (k : κ) (v w : α) : (d.set k v).set k w = d.set k w := by
  obtain ⟨es⟩ := d
  simp only [set]
  congr 1
  induction es with
  | nil => simp [setEntries]
  | cons e es ih =>
    by_cases he : e.1 = k
    · simp [setEntries, he]
    · simp [setEntries, he, ih]

/-- An erased key has no value, and other keys keep theirs. -/
theorem get?_erase (d : Directory κ α) (k j : κ) :
    (d.erase k).get? j = if j = k then none else d.get? j := by
  obtain ⟨es⟩ := d
  simp only [erase, get?]
  induction es with
  | nil => simp
  | cons e es ih =>
    by_cases he : e.1 = k
    · by_cases hj : j = k
      · simp [hj]
      · have hkj : ¬ k = j := fun h => hj h.symm
        simpa [he, hj, hkj] using ih
    · by_cases hej : e.1 = j
      · have hj : ¬ j = k := fun h => he (hej.trans h)
        simp [hej, hj]
      · simpa [he, hej] using ih

/-- A key that is not there is new: setting it adds one key. -/
theorem size_set (d : Directory κ α) (k : κ) (v : α) :
    (d.set k v).size = if d.contains k = true then d.size else d.size + 1 := by
  obtain ⟨es⟩ := d
  simp only [set, size, contains, get?]
  induction es with
  | nil => rfl
  | cons e es ih =>
    unfold setEntries
    by_cases he : e.1 = k
    · simp [he]
    · rw [if_neg he, List.length_cons, ih]
      simp only [List.find?_cons, he, decide_false, List.length_cons]
      split <;> simp [*]

end Directory
end Tariff
