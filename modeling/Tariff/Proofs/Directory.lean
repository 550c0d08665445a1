import Mathlib.Algebra.GroupWithZero.Nat
import Mathlib.Data.List.Nodup
import Tariff.Directory

/-!
# Directories without repeated keys

A directory that was filled by setting and erasing has no key twice.  Its entries are then
its look-ups written out, and look-ups tell how many keys it has.

Main results:

- Theorem {lit}`Directory.KeysDiffer.get?_eq_some_iff`: a key has a value exactly if the two
  stand together among the entries.
- Theorem {lit}`Directory.KeysDiffer.size_eq`: directories with the same keys have as many of
  them.
-/

namespace Tariff
namespace Directory

variable {κ α : Type}

/-- No key stands twice among the entries. -/
def KeysDiffer (d : Directory κ α) : Prop :=
  (d.entries.map Prod.fst).Nodup

/-- A directory without keys repeats none. -/
theorem keysDiffer_empty : (empty : Directory κ α).KeysDiffer :=
  List.nodup_nil

/-- Where no key is repeated, no entry is. -/
theorem KeysDiffer.nodup {d : Directory κ α} (h : d.KeysDiffer) : d.entries.Nodup :=
  List.Nodup.of_map Prod.fst h

/-- The total of a figure is the sum over the values. -/
theorem total_eq_sum (f : α → Nat) (d : Directory κ α) : d.total f = (d.values.map f).sum := by
  unfold total
  rw [List.sum_eq_foldr, List.foldr_map]

variable [DecidableEq κ]

/-- Setting a key adds it to the keys, unless it is there. -/
theorem mem_keys_setEntries {k j : κ} {v : α} {es : List (κ × α)} :
    j ∈ (setEntries k v es).map Prod.fst ↔ j = k ∨ j ∈ es.map Prod.fst := by
  induction es with
  | nil => simp [setEntries]
  | cons e es ih =>
    unfold setEntries
    by_cases he : e.1 = k
    · rw [if_pos he, List.map_cons, List.map_cons, List.mem_cons, List.mem_cons, he]
      tauto
    · rw [if_neg he, List.map_cons, List.map_cons, List.mem_cons, List.mem_cons, ih]
      tauto

/-- Setting a key brings in one entry. -/
theorem mem_entries_set {d : Directory κ α} {k : κ} {v : α} {e : κ × α}
    (h : e ∈ (d.set k v).entries) : e = (k, v) ∨ e ∈ d.entries := by
  obtain ⟨es⟩ := d
  unfold Directory.set at h
  simp only at h ⊢
  induction es with
  | nil => exact .inl (List.mem_singleton.1 h)
  | cons f fs ih =>
    unfold setEntries at h
    by_cases hk : f.1 = k
    · rw [if_pos hk, List.mem_cons] at h
      exact h.imp_right (List.mem_cons_of_mem f)
    · rw [if_neg hk, List.mem_cons] at h
      rcases h with rfl | h
      · exact .inr List.mem_cons_self
      · exact (ih h).imp_right (List.mem_cons_of_mem f)

/-- A directory in which a value was set has a key. -/
theorem entries_set_ne_nil (d : Directory κ α) (k : κ) (v : α) : (d.set k v).entries ≠ [] := by
  intro h
  have hget := get?_set d k v k
  rw [if_pos rfl] at hget
  unfold get? at hget
  rw [h] at hget
  cases hget

/-- Setting a key does not repeat it. -/
theorem KeysDiffer.set {d : Directory κ α} (h : d.KeysDiffer) (k : κ) (v : α) :
    (d.set k v).KeysDiffer := by
  obtain ⟨es⟩ := d
  unfold KeysDiffer Directory.set at *
  simp only at h ⊢
  induction es with
  | nil => exact List.nodup_singleton k
  | cons e es ih =>
    obtain ⟨he, hes⟩ := List.nodup_cons.1 h
    unfold setEntries
    by_cases hk : e.1 = k
    · rw [if_pos hk]
      rw [hk] at he
      exact List.nodup_cons.2 ⟨he, hes⟩
    · rw [if_neg hk]
      refine List.nodup_cons.2 ⟨?_, ih hes⟩
      intro hmem
      rcases mem_keys_setEntries.1 hmem with heq | hmem
      · exact hk heq
      · exact he hmem

/-- Erasing a key repeats no other one. -/
theorem KeysDiffer.erase {d : Directory κ α} (h : d.KeysDiffer) (k : κ) :
    (d.erase k).KeysDiffer :=
  h.sublist (List.filter_sublist.map Prod.fst)

/-- A key has a value exactly if the two stand together among the entries. -/
theorem KeysDiffer.get?_eq_some_iff {d : Directory κ α} (h : d.KeysDiffer) {k : κ} {v : α} :
    d.get? k = some v ↔ (k, v) ∈ d.entries := by
  obtain ⟨es⟩ := d
  unfold KeysDiffer get? at *
  simp only at h ⊢
  induction es with
  | nil => simp
  | cons e es ih =>
    obtain ⟨he, hes⟩ := List.nodup_cons.1 h
    by_cases hk : e.1 = k
    · have hother : (k, v) ∉ es := by
        intro hmem
        rw [hk] at he
        exact he (List.mem_map_of_mem hmem)
      rw [List.find?_cons_of_pos (by simpa using hk), Option.map_some, Option.some_inj,
        List.mem_cons, or_iff_left hother, ← hk, Prod.ext_iff]
      simp only [true_and]
      exact eq_comm
    · have hne : (k, v) ≠ e := fun heq => hk (congrArg Prod.fst heq).symm
      rw [List.find?_cons_of_neg (by simpa using hk), ih hes, List.mem_cons,
        or_iff_right hne]

/-- The keys that have a value are those of the entries. -/
theorem contains_iff_mem_keys {d : Directory κ α} {k : κ} :
    d.contains k = true ↔ k ∈ d.entries.map Prod.fst := by
  unfold contains get?
  rw [Option.isSome_map, List.find?_isSome, List.mem_map]
  simp only [decide_eq_true_eq]

/-- Directories with the same keys have as many of them. -/
theorem KeysDiffer.size_eq {β : Type} {d : Directory κ α} {e : Directory κ β}
    (hd : d.KeysDiffer) (he : e.KeysDiffer) (h : ∀ k, d.contains k = e.contains k) :
    d.size = e.size := by
  have hperm : (d.entries.map Prod.fst).Perm (e.entries.map Prod.fst) := by
    refine (List.perm_ext_iff_of_nodup hd he).2 fun k => ?_
    rw [← contains_iff_mem_keys, ← contains_iff_mem_keys, h k]
  have hlength := hperm.length_eq
  rw [List.length_map, List.length_map] at hlength
  exact hlength

end Directory
end Tariff
