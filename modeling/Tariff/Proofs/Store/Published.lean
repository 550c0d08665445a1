import Tariff.Proofs.Store.Transition
import Tariff.Proofs.Tables.WellFormed

/-!
# Published tables

Whatever is asked of a store and however it fails, the tables that it publishes are well
formed.  On the way there are tables that are not: plans come before their models, and a
model comes to exist with an interval that it then refuses.

Main results:

- Theorem {lit}`Store.Becomes.isChecked`: no operation publishes tables that have not passed
  all checks.
- Theorem {lit}`Store.wellFormed_run`: the published tables are well formed after any
  operations.
-/

namespace Tariff
namespace Store

/-- The store has these options still, and publishes tables that have passed all checks. -/
structure IsChecked (o : Options) (s : Store) : Prop where
  options : s.options = o
  tables : s.tables.Publishable o

/-- A new store publishes tables that are in order. -/
theorem isChecked_new (o : Options) : (new o).IsChecked o :=
  ⟨rfl, Tables.publishable_empty o⟩

/-- A store is checked as the ones that are alike. -/
theorem Alike.isChecked {s s' : Store} {o : Options} (h : Alike s s') (hs : s.IsChecked o) :
    s'.IsChecked o := by
  refine ⟨h.options.symm.trans hs.options, ?_⟩
  rw [← h.tables]
  exact hs.tables

/-- No operation publishes tables that have not passed all checks. -/
theorem Becomes.isChecked {s s' : Store} {a : Answer} {o : Options} (h : Becomes s a s')
    (hs : s.IsChecked o) : s'.IsChecked o := by
  obtain ⟨rfl, htables⟩ := hs
  cases h with
  | counted _ halike _ => exact halike.isChecked ⟨rfl, htables⟩
  | built hbuild halike _ => exact halike.isChecked ⟨rfl, Tables.publishable_build hbuild⟩
  | updated hdelta halike _ => exact halike.isChecked ⟨rfl, htables.delta hdelta⟩
  | inserted hcheck hadd halike _ =>
    exact halike.isChecked ⟨rfl, htables.addEntry hcheck hadd⟩
  | cleared halike _ => exact halike.isChecked ⟨rfl, Tables.publishable_empty s.options⟩

/-- The tables have passed all checks after any operations. -/
theorem isChecked_run {s : Store} {o : Options} (hs : s.IsChecked o) (ops : List Operation) :
    (Session.run perform s ops).1.IsChecked o :=
  Session.invariant (fun _ op hs => (becomes_perform _ op).isChecked hs) hs ops

/-- Whatever is loaded, reloaded, added or cleared from the new store on, whatever the
providers say and whichever of the operations fail, the published tables are well formed
after each of them. -/
theorem wellFormed_run (o : Options) (ops : List Operation) :
    (Session.run perform (new o) ops).1.tables.WellFormed o :=
  (isChecked_run (isChecked_new o) ops).tables.wellFormed

end Store
end Tariff
