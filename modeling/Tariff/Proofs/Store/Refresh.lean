import Tariff.Proofs.Journal.Provider
import Tariff.Proofs.Loading.Delta
import Tariff.Proofs.Store.Failure

/-!
# Refreshing from a source that grows

A store that is refreshed again and again takes in the news of its source as deltas.  It
stays what a new store would be that loads all records of the source at once, as long as
the news are entries modified after the watermark.

Main results:

- Theorem {lit}`Store.Refreshed.refresh`: a refresh fails like a build from all records, and
  takes all of them in if it succeeds.
- Theorem {lit}`Store.Follows.refreshed`: between refreshes the store has taken in all
  records but the news.
- Theorem {lit}`Store.refresh_agrees_with_fresh_load`: a refresh succeeds just when a new
  store could load all records, and then answers like that store.
-/

namespace Tariff
namespace Store

/-! ## Records taken in -/

/-- The tables and the watermark of the store are those built from some records. -/
structure HasTaken (o : Options) (s : Store) (rs : List Record) : Prop where
  options : s.options = o
  sound : (Loading.build o rs).2 = none
  tables : s.tables = (Loading.build o rs).1.tables
  watermark : s.watermark = (Loading.build o rs).1.summary.watermark

namespace HasTaken

variable {o : Options} {s s' : Store} {rs : List Record}

/-- What is counted does not change what has been taken in. -/
theorem count (h : HasTaken o s rs) (f : Figure) (n : Nat) : HasTaken o (s.count f n) rs :=
  ⟨h.options, h.sound, h.tables, h.watermark⟩

/-- Counting a reload does not change what has been taken in. -/
theorem countReload {α : Type} (h : HasTaken o s rs) (mode : ReloadMode)
    (r : Except LoadFault α) : HasTaken o (s.countReload mode r) rs :=
  (h.count _ _).count _ _

/-- Stores that have taken in the same records answer alike. -/
theorem alike (h : HasTaken o s rs) (h' : HasTaken o s' rs) : Alike s s' :=
  ⟨h.options.trans h'.options.symm, h.tables.trans h'.tables.symm,
    h.watermark.trans h'.watermark.symm⟩

/-- No entry taken in was modified after the watermark. -/
theorem filter_modifiedAfter (h : HasTaken o s rs) {w : Int} (hw : s.watermark = some w) :
    rs.filter (Record.modifiedAfter w) = [] := by
  rw [List.filter_eq_nil_iff]
  intro r hr hafter
  obtain ⟨v, rfl, hv⟩ := (Record.modifiedAfter_iff w r).1 hafter
  have hlatest : Validity.latest none (rs.filterMap Record.validity?) = some w := by
    rw [← Loading.watermark_build h.sound, ← h.watermark, hw]
  have hmem : v ∈ rs.filterMap Record.validity? := List.mem_filterMap.2 ⟨_, hr, rfl⟩
  have hle := Validity.modified_le_latest hlatest hmem
  omega

end HasTaken

/-- A write that is to take in some records fails like a build from them, and has taken them
in otherwise. -/
structure TakesIn (o : Options) (rs : List Record) (r : Store × Except LoadFault Summary) :
    Prop where
  error : ∀ f, (Loading.build o rs).2 = some f → r.2 = .error f
  ok : (Loading.build o rs).2 = none → (∃ summary, r.2 = .ok summary) ∧ HasTaken o r.1 rs

namespace TakesIn

variable {o : Options} {rs : List Record} {r r' : Store × Except LoadFault Summary}

/-- Where tables can be built from the records, it is enough to succeed with them taken in. -/
theorem of_sound (hsound : (Loading.build o rs).2 = none) {summary : Summary}
    (hok : r.2 = .ok summary) (htaken : HasTaken o r.1 rs) : TakesIn o rs r where
  error := by
    intro f hf
    rw [hsound] at hf
    cases hf
  ok := fun _ => ⟨⟨summary, hok⟩, htaken⟩

/-- Where no tables can be built from the records, it is enough to fail alike. -/
theorem of_fault {f : LoadFault} (hfault : (Loading.build o rs).2 = some f)
    (herror : r.2 = .error f) : TakesIn o rs r where
  error := by
    intro g hg
    rw [hfault] at hg
    cases hg
    exact herror
  ok := by
    intro hsound
    rw [hfault] at hsound
    cases hsound

/-- A write takes in the same records if it is counted as a reload. -/
theorem countReload (h : TakesIn o rs r) (mode : ReloadMode) :
    TakesIn o rs (r.1.countReload mode r.2, r.2) where
  error := h.error
  ok := by
    intro hsound
    obtain ⟨hsummary, htaken⟩ := h.ok hsound
    exact ⟨hsummary, htaken.countReload mode r.2⟩

/-- The fault of a write that is to take in some records. -/
theorem eq_error_iff (h : TakesIn o rs r) (f : LoadFault) :
    r.2 = .error f ↔ (Loading.build o rs).2 = some f := by
  refine ⟨fun hf => ?_, h.error f⟩
  cases hfault : (Loading.build o rs).2 with
  | none =>
    obtain ⟨⟨summary, hsummary⟩, -⟩ := h.ok hfault
    rw [hsummary] at hf
    cases hf
  | some g =>
    rw [h.error g hfault] at hf
    cases hf
    rfl

/-- When a write takes in some records. -/
theorem exists_ok_iff (h : TakesIn o rs r) :
    (∃ summary, r.2 = .ok summary) ↔ (Loading.build o rs).2 = none := by
  refine ⟨fun hok => ?_, fun hsound => (h.ok hsound).1⟩
  obtain ⟨summary, hsummary⟩ := hok
  cases hfault : (Loading.build o rs).2 with
  | none => rfl
  | some g =>
    rw [h.error g hfault] at hsummary
    cases hsummary

end TakesIn

/-- A load takes in its records. -/
theorem takesIn_loadRecords {o : Options} {s : Store} (hs : s.options = o) (rs : List Record) :
    TakesIn o rs (s.loadRecords rs) := by
  subst hs
  unfold loadRecords
  rcases hbuild : Loading.build s.options rs with ⟨l, _ | g⟩
  · have hsound : (Loading.build s.options rs).2 = none := congrArg Prod.snd hbuild
    have hbuilt : l = (Loading.build s.options rs).1 := (congrArg Prod.fst hbuild).symm
    refine TakesIn.of_sound hsound rfl ⟨rfl, hsound, ?_, ?_⟩
    · exact congrArg Loading.tables hbuilt
    · exact congrArg (fun l' : Loading => l'.summary.watermark) hbuilt
  · exact TakesIn.of_fault (congrArg Prod.snd hbuild) rfl

/-! ## News -/

/-- The store has taken in all records but the news: entries that were modified after its
watermark.  A store without watermark takes in everything anew. -/
structure Refreshed (o : Options) (s : Store) (rs : List Record) : Prop where
  options : s.options = o
  taken : ∀ w, s.watermark = some w → ∃ (old : List Record) (vs : List Validity),
    rs = old ++ vs.map Record.validity ∧ HasTaken o s old ∧
      ∀ v ∈ vs, w < v.modified.toInt

/-- The latest modification is looked for from the watermark on. -/
theorem raise_latest (w u : Option Int) (vs : List Validity) :
    raise w (Validity.latest u vs) = Validity.latest (raise w u) vs := by
  induction vs generalizing u with
  | nil => rfl
  | cons v vs ih =>
    have hlater : raise w (some (Summary.later u v.modified.toInt)) =
        some (Summary.later (raise w u) v.modified.toInt) := by
      cases u with
      | none => rfl
      | some x =>
        cases w with
        | none => rfl
        | some y => exact congrArg some (Int.max_assoc y x v.modified.toInt).symm
    calc
      raise w (Validity.latest u (v :: vs)) =
          raise w (Validity.latest (some (Summary.later u v.modified.toInt)) vs) := rfl
      _ = Validity.latest (raise w (some (Summary.later u v.modified.toInt))) vs := ih _
      _ = Validity.latest (raise w u) (v :: vs) := by
        rw [hlater]
        rfl

/-- News are taken in as a delta. -/
theorem HasTaken.applyDelta {o : Options} {s : Store} {old : List Record}
    (h : HasTaken o s old) (vs : List Validity) :
    TakesIn o (old ++ vs.map Record.validity) (s.applyDelta (vs.map Record.validity)) := by
  obtain ⟨hfault, htables⟩ := Loading.build_append h.sound vs
  rw [← h.tables] at hfault htables
  unfold Store.applyDelta
  rcases hdelta : Loading.delta s.tables (vs.map Record.validity) with ⟨l, _ | g⟩
  · have happlied : (Loading.delta s.tables (vs.map Record.validity)).2 = none :=
      congrArg Prod.snd hdelta
    have hsound := hfault.trans happlied
    have hlatest := Loading.watermark_delta happlied
    rw [Loading.filterMap_validity?_map] at hlatest
    rw [hdelta] at htables hlatest
    refine TakesIn.of_sound hsound rfl ⟨h.options, hsound, (htables hsound).symm, ?_⟩
    calc
      raise s.watermark l.summary.watermark =
          raise s.watermark (Validity.latest none vs) := congrArg (raise s.watermark) hlatest
      _ = Validity.latest s.watermark vs := raise_latest s.watermark none vs
      _ = Validity.latest (Validity.latest none (old.filterMap Record.validity?)) vs := by
        rw [h.watermark, Loading.watermark_build h.sound]
      _ = Validity.latest none
          ((old ++ vs.map Record.validity).filterMap Record.validity?) := by
        rw [List.filterMap_append, Loading.filterMap_validity?_map]
        exact List.foldl_append.symm
      _ = (Loading.build o (old ++ vs.map Record.validity)).1.summary.watermark :=
        (Loading.watermark_build hsound).symm
  · have hrefused : (Loading.delta s.tables (vs.map Record.validity)).2 = some g :=
      congrArg Prod.snd hdelta
    exact TakesIn.of_fault (hfault.trans hrefused) rfl

/-- Only the news count after the watermark. -/
theorem HasTaken.since_watermark {o : Options} {s : Store} {old : List Record}
    (h : HasTaken o s old) {w : Int} (hw : s.watermark = some w) {vs : List Validity}
    (hvs : ∀ v ∈ vs, w < v.modified.toInt) :
    Record.since (some w) (old ++ vs.map Record.validity) = vs.map Record.validity := by
  unfold Record.since
  simp only
  rw [List.filter_append, h.filter_modifiedAfter hw, List.nil_append, List.filter_eq_self]
  intro r hr
  obtain ⟨v, hv, rfl⟩ := List.mem_map.1 hr
  exact (Record.modifiedAfter_iff w _).2 ⟨v, rfl, hvs v hv⟩

namespace Refreshed

variable {o : Options} {s s' : Store} {source : Source} {rs : List Record}

/-- A store that has taken in all records waits for none. -/
theorem of_hasTaken (h : HasTaken o s rs) : Refreshed o s rs := by
  refine ⟨h.options, fun w _ => ⟨rs, [], ?_, h, List.forall_mem_nil _⟩⟩
  exact (List.append_nil rs).symm

/-- What is counted does not change which records a store waits for. -/
theorem of_onlyCounted (h : Refreshed o s rs) (hs : OnlyCounted s s') : Refreshed o s' rs := by
  obtain ⟨hoptions, htables, hwatermark⟩ := hs.alike
  refine ⟨hoptions.symm.trans h.options, fun w hw => ?_⟩
  obtain ⟨old, vs, hrs, htaken, hvs⟩ := h.taken w (hwatermark.trans hw)
  refine ⟨old, vs, hrs, ⟨?_, htaken.sound, ?_, ?_⟩, hvs⟩
  · exact hoptions.symm.trans htaken.options
  · exact htables.symm.trans htaken.tables
  · exact hwatermark.symm.trans htaken.watermark

/-- A refresh fails like a build from all records, and takes all of them in if it
succeeds. -/
theorem refresh (h : Refreshed o s rs) (hholds : source.Holds rs) :
    TakesIn o rs (s.refresh source) := by
  unfold Store.refresh
  by_cases hmode : s.options.reload = .incremental ∧ s.watermark.isSome
  · rw [if_pos hmode]
    obtain ⟨w, hw⟩ := Option.isSome_iff_exists.1 hmode.2
    obtain ⟨old, vs, rfl, htaken, hvs⟩ := h.taken w hw
    have hload : source.load s.watermark = .ok (vs.map Record.validity) := by
      rw [hholds.load, hw, htaken.since_watermark hw hvs]
    unfold reloadIncremental
    rw [hload]
    exact (htaken.applyDelta vs).countReload _
  · rw [if_neg hmode]
    have hload : source.load none = .ok rs := by
      rw [hholds.load, Record.since_none]
    unfold reloadFull
    rw [hload]
    exact (takesIn_loadRecords h.options rs).countReload _

end Refreshed

/-! ## Following a source -/

/-- The record may be appended to the source of the store: once there is a watermark, it is
an entry that was modified after it. -/
def IsNews (s : Store) (r : Record) : Prop :=
  ∀ w, s.watermark = some w → r.modifiedAfter w = true

/-- The stores that come about from a new one, with the source and the records it holds at
that time, where records are appended to the source, the store is refreshed from it and
queries are put to the store, in any order. -/
inductive Follows (o : Options) : Store → Source → List Record → Prop where
  | start {source : Source} {rs : List Record} (hholds : source.Holds rs) :
    Follows o (Store.new o) source rs
  | append {s : Store} {source source' : Source} {rs : List Record} {r : Record}
    (h : Follows o s source rs) (hnews : s.IsNews r) (hholds : source'.Holds (rs ++ [r])) :
    Follows o s source' (rs ++ [r])
  | refresh {s : Store} {source : Source} {rs : List Record} (h : Follows o s source rs) :
    Follows o (s.refresh source).1 source rs
  | query {s : Store} {source : Source} {rs : List Record} {op : Operation}
    (h : Follows o s source rs) (hquery : op.isQuery = true) :
    Follows o (s.perform op).1 source rs

namespace Follows

variable {o : Options} {s : Store} {source : Source} {rs : List Record}

/-- The source holds the records that were written to it. -/
theorem holds (h : Follows o s source rs) : source.Holds rs := by
  induction h with
  | start hholds => exact hholds
  | append _ _ hholds _ => exact hholds
  | refresh _ ih => exact ih
  | query _ _ ih => exact ih

/-- The store has taken in all records but the news. -/
theorem refreshed (h : Follows o s source rs) : Refreshed o s rs := by
  induction h with
  | start hholds => exact ⟨rfl, fun w hw => by cases hw⟩
  | @append s source source' rs r _ hnews _ ih =>
    refine ⟨ih.options, fun w hw => ?_⟩
    obtain ⟨old, vs, rfl, htaken, hvs⟩ := ih.taken w hw
    obtain ⟨v, rfl, hv⟩ := (Record.modifiedAfter_iff w r).1 (hnews w hw)
    refine ⟨old, vs ++ [v], ?_, htaken, ?_⟩
    · rw [List.map_append, List.append_assoc]
      rfl
    · intro u hu
      rcases List.mem_append.1 hu with hu | hu
      · exact hvs u hu
      · rw [List.mem_singleton.1 hu]
        exact hv
  | @refresh s source rs h ih =>
    have htakes := ih.refresh h.holds
    cases hfault : (Loading.build o rs).2 with
    | none => exact Refreshed.of_hasTaken (htakes.ok hfault).2
    | some f => exact ih.of_onlyCounted (onlyCounted_refresh (htakes.error f hfault))
  | query _ hquery ih => exact ih.of_onlyCounted (onlyCounted_of_isQuery _ hquery)

/-- Pushing news to a source without a writer is one way to append, and leaves no writer
behind. -/
theorem push (h : Follows o s source rs) (hidle : source.IsIdle) {r : Record}
    (hnews : s.IsNews r) (hr : Journal.Fits r) :
    Follows o s (source.push r) (rs ++ [r]) ∧ (source.push r).IsIdle :=
  ⟨h.append hnews (h.holds.push hidle hr), source.isIdle_push r⟩

end Follows

/-- A refresh succeeds just when a new store could load all records of the source, and fails
with the same fault otherwise.  Where it succeeds, tables and watermark are those of the new
store, and everything is answered as by the new store. -/
theorem refresh_agrees_with_fresh_load {o : Options} {s : Store} {source : Source}
    {rs : List Record} (h : Follows o s source rs) :
    ((∃ summary, (s.refresh source).2 = .ok summary) ↔
      ∃ summary, ((Store.new o).loadRecords rs).2 = .ok summary) ∧
    (∀ f, (s.refresh source).2 = .error f ↔ ((Store.new o).loadRecords rs).2 = .error f) ∧
    ((∃ summary, (s.refresh source).2 = .ok summary) →
      (s.refresh source).1.tables = ((Store.new o).loadRecords rs).1.tables ∧
      (s.refresh source).1.watermark = ((Store.new o).loadRecords rs).1.watermark ∧
      ∀ ops, (s.refresh source).1.answers ops = ((Store.new o).loadRecords rs).1.answers ops) := by
  have hrefresh := h.refreshed.refresh h.holds
  have hoptions : (Store.new o).options = o := rfl
  have hfresh := takesIn_loadRecords hoptions rs
  refine ⟨?_, ?_, ?_⟩
  · rw [hrefresh.exists_ok_iff, hfresh.exists_ok_iff]
  · intro f
    rw [hrefresh.eq_error_iff, hfresh.eq_error_iff]
  · intro hok
    have hsound := hrefresh.exists_ok_iff.1 hok
    have halike := (hrefresh.ok hsound).2.alike (hfresh.ok hsound).2
    exact ⟨halike.tables, halike.watermark, halike.answers⟩

/-- The entry appended here overlaps the one that was loaded before, so that the refresh drops
their key, as loading both of them does. -/
theorem refresh_with_conflicting_news :
    let o : Options := ⟨.exclusive, .invalidateKey, .incremental, 0⟩
    let old : Record := .validity ⟨1, "tariff", "eu", 0, 10, ["A"], 5⟩
    let new : Record := .validity ⟨2, "tariff", "eu", 4, 6, ["B"], 7⟩
    let source : Source := ⟨.memory [old], none⟩
    let s := ((Store.new o).refresh source).1
    Follows o s (source.push new) [old, new] ∧
      (∃ summary, (s.refresh (source.push new)).2 = .ok summary) ∧
      (s.refresh (source.push new)).1.answers
          [.isInvalidated ⟨"tariff", "eu"⟩, .lookup ⟨"tariff", "eu"⟩ 5, .watermark] =
        [.invalidated true, .value none, .modified (some 7)] := by
  intro o old new source s
  have hholds : source.Holds [old] := ⟨rfl, rfl⟩
  have hnews : s.IsNews new := by
    intro w hw
    cases hw
    decide
  have hidle : source.IsIdle := by
    intro path file hfile
    cases hfile
  have hfits : Journal.Fits new := by decide +kernel
  obtain ⟨hfollows, -⟩ := ((Follows.start hholds).refresh).push hidle hnews hfits
  obtain ⟨hok, -, hanswers⟩ := refresh_agrees_with_fresh_load hfollows
  have hloaded : ∃ summary, (s.refresh (source.push new)).2 = .ok summary :=
    hok.2 ⟨_, rfl⟩
  refine ⟨hfollows, hloaded, ?_⟩
  rw [(hanswers hloaded).2.2]
  rfl

end Store
end Tariff
