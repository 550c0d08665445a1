import Mathlib.Data.Multiset.MapFold
import Tariff.Proofs.Week.DayPieces

/-!
# Slots

The slots of a weekday are its ranges with their results, in no order.  Whether another
range may be added depends on them alone, as it must be disjoint from each of them, and so
does everything that a model answers.  Ranges may therefore come in any order.

Main results:

- Theorem {lit}`WeekModel.Built.exists_add_iff`: a range is taken if it is disjoint from all
  slots of its day.
- Theorem {lit}`WeekModel.Built.add_add`: two ranges may be added in either order.
- Theorems {lit}`WeekModel.Built.cut_congr` and {lit}`WeekModel.Built.gaps_congr`: models with
  the same slots answer alike.
-/

namespace Tariff
namespace WeekModel

/-- The range of an entry with its result. -/
def slot (e : Entry String) : Span × String :=
  (e.span, e.value)

/-- The ranges of a weekday with their results, in no order. -/
def slots (m : WeekModel) (day : Nat) : Multiset (Span × String) :=
  ↑((m.intervals day).map slot)

/-- A range that is in order and disjoint from all slots. -/
def Fits (rs : Multiset (Span × String)) (span : Span) : Prop :=
  span.start ≤ span.stop ∧ ∀ r ∈ rs, Bounds.closed.overlaps r.1 span = false

/-- The slots of a day of the week are those of its intervals. -/
theorem slots_getElem (m : WeekModel) {day : Nat} (hday : day < 7) :
    m.slots day = ↑((m.days[day]).entries.map slot) := by
  unfold slots intervals day?
  rw [Vector.getElem?_eq_getElem hday]

/-! ## Adding a range -/

/-- The intervals of a roster do not stop before they start. -/
theorem IsRoster.start_le_stop {l : Timeline String} (h : IsRoster l) (e : Entry String)
    (he : e ∈ l.entries) : e.span.start ≤ e.span.stop := by
  have hadmitted := h.wellFormed.admitted e he
  rw [h.closed, Bounds.admits_iff] at hadmitted
  exact hadmitted

/-- A range fits a day if it is in order and disjoint from the ranges of the entries. -/
theorem fits_coe_iff (es : List (Entry String)) (span : Span) :
    Fits ↑(es.map slot) span ↔
      span.start ≤ span.stop ∧ ∀ e ∈ es, Bounds.closed.overlaps e.span span = false := by
  unfold Fits
  simp [slot]

/-- Nothing keeps a range out of a day if it is disjoint from all that the day has. -/
theorem IsRoster.obstacle_eq_none_iff {l : Timeline String} (h : IsRoster l) (span : Span) :
    l.obstacle span = none ↔
      ∀ e ∈ l.entries, Bounds.closed.overlaps e.span span = false := by
  unfold Timeline.obstacle
  rw [h.exclusive]
  simp only [Bool.false_eq_true, if_false]
  rw [h.wellFormed.findOverlap_eq h.exclusive, h.closed, Option.map_eq_none_iff,
    List.find?_eq_none]
  simp only [Bool.not_eq_true]

/-- A range with the start of another one overlaps it. -/
theorem IsRoster.not_fits_of_same_start {l : Timeline String} (h : IsRoster l) {span : Span}
    (hsame : (l.entries.any fun e => decide (e.span.start = span.start)) = true) :
    ¬ Fits ↑(l.entries.map slot) span := by
  rw [fits_coe_iff]
  rintro ⟨hle, hdisjoint⟩
  obtain ⟨e, he, hstart⟩ := List.any_eq_true.1 hsame
  have hstart : e.span.start = span.start := of_decide_eq_true hstart
  have hoverlap : Bounds.closed.overlaps e.span span = true :=
    (Bounds.overlaps_iff .closed e.span span).2
      ⟨hstart.trans_le hle, hstart.symm.trans_le (h.start_le_stop e he)⟩
  rw [hdisjoint e he] at hoverlap
  cases hoverlap

/-- A day takes a range that is in order and disjoint from all that it has. -/
theorem IsRoster.addToDay_eq_ok_iff {l l' : Timeline String} (h : IsRoster l) (day : Nat)
    (span : Span) (result : String) :
    WeekModel.addToDay l day span result = .ok l' ↔
      Fits ↑(l.entries.map slot) span ∧ l' = l.place 0 span result := by
  unfold WeekModel.addToDay
  by_cases hreversed : span.stop < span.start
  · rw [if_pos hreversed]
    refine iff_of_false (fun heq => nomatch heq) ?_
    rintro ⟨⟨hle, _⟩, _⟩
    omega
  · have hle : span.start ≤ span.stop := by omega
    rw [if_neg hreversed]
    by_cases hsame : (l.entries.any fun e => decide (e.span.start = span.start)) = true
    · rw [if_pos hsame]
      exact iff_of_false (fun heq => nomatch heq) fun hfits =>
        h.not_fits_of_same_start hsame hfits.1
    · have hadmits : l.bounds.admits span = true := by
        rw [h.closed, Bounds.admits_iff]
        exact hle
      have hknows : l.knows 0 = false := rfl
      rw [if_neg hsame, fits_coe_iff, and_iff_right hle, ← h.obstacle_eq_none_iff]
      unfold Timeline.insert
      rw [if_pos hadmits, hknows]
      simp only [Bool.false_eq_true, if_false]
      cases l.obstacle span with
      | none => simp [eq_comm]
      | some existing => simp

/-- A placed range is one more slot. -/
theorem slots_place (l : Timeline String) (id : Nat) (span : Span) (result : String) :
    (((l.place id span result).entries.map slot : List _) : Multiset (Span × String)) =
      (span, result) ::ₘ ↑(l.entries.map slot) := by
  have hhalves := l.startedBy_append_startingAfter span.start
  unfold Timeline.place
  rw [Multiset.cons_coe, Multiset.coe_eq_coe, ← hhalves, List.map_append, List.map_append,
    List.map_cons]
  exact List.perm_middle

namespace Built

variable {m m' : WeekModel}

/-- A range is taken if its day is one of the week and it is disjoint from all slots of that
day. -/
theorem exists_add_iff (h : m.Built) (day : Nat) (start stop : Int) (result : String) :
    (∃ n, m.add day start stop result = .ok n) ↔
      day < 7 ∧ Fits (m.slots day) ⟨start, TimeOfDay.endMinute stop⟩ := by
  simp only [add_ok_iff]
  constructor
  · rintro ⟨n, hday, l, hl, _⟩
    have hroster : IsRoster m.days[day] := h.isRoster (Vector.getElem?_eq_getElem hday)
    rw [slots_getElem m hday]
    exact ⟨hday, ((hroster.addToDay_eq_ok_iff day _ result).1 hl).1⟩
  · rintro ⟨hday, hfits⟩
    have hroster : IsRoster m.days[day] := h.isRoster (Vector.getElem?_eq_getElem hday)
    rw [slots_getElem m hday] at hfits
    exact ⟨_, hday, _, (hroster.addToDay_eq_ok_iff day _ result).2 ⟨hfits, rfl⟩, rfl⟩

/-- A range that is taken is one more slot of its day. -/
theorem slots_add (h : m.Built) {day : Nat} {start stop : Int} {result : String}
    (hadd : m.add day start stop result = .ok m') :
    m'.slots = Function.update m.slots day
      ((⟨start, TimeOfDay.endMinute stop⟩, result) ::ₘ m.slots day) := by
  obtain ⟨hday, l, hl, hm'⟩ := (add_ok_iff m m' day start stop result).1 hadd
  have hroster : IsRoster m.days[day] := h.isRoster (Vector.getElem?_eq_getElem hday)
  obtain ⟨_, rfl⟩ := (hroster.addToDay_eq_ok_iff day _ result).1 hl
  funext other
  by_cases hother : other = day
  · subst hother
    rw [Function.update_self, slots_getElem m' hday, slots_getElem m hday, hm']
    simp only [Vector.getElem_set_self]
    exact slots_place _ 0 _ result
  · rw [Function.update_of_ne hother]
    unfold slots intervals
    rw [days_of_add hadd other hother]

/-- Models with the same slots take the same ranges and have the same slots then. -/
theorem add_congr (h : m.Built) (h' : m'.Built) (hslots : m.slots = m'.slots) {day : Nat}
    {start stop : Int} {result : String} {n : WeekModel}
    (hadd : m.add day start stop result = .ok n) :
    ∃ n', m'.add day start stop result = .ok n' ∧ n.slots = n'.slots := by
  have hfits := (h.exists_add_iff day start stop result).1 ⟨n, hadd⟩
  rw [hslots] at hfits
  obtain ⟨n', hadd'⟩ := (h'.exists_add_iff day start stop result).2 hfits
  refine ⟨n', hadd', ?_⟩
  rw [h.slots_add hadd, h'.slots_add hadd', hslots]

/-- Two ranges may be added in either order: the second one fits without the first one, and the
first one fits with the second one there. -/
theorem add_add (h : m.Built) {day day' : Nat} {start stop start' stop' : Int}
    {result result' : String} {n o : WeekModel} (hn : m.add day start stop result = .ok n)
    (ho : n.add day' start' stop' result' = .ok o) :
    ∃ n' o', m.add day' start' stop' result' = .ok n' ∧
      n'.add day start stop result = .ok o' ∧ o.slots = o'.slots := by
  have hbuilt : n.Built := h.add day start stop result hn
  obtain ⟨hday, hfits⟩ := (h.exists_add_iff day start stop result).1 ⟨n, hn⟩
  obtain ⟨hday', hfits'⟩ := (hbuilt.exists_add_iff day' start' stop' result').1 ⟨o, ho⟩
  rw [h.slots_add hn] at hfits'
  have hfirst : Fits (m.slots day') ⟨start', TimeOfDay.endMinute stop'⟩ := by
    refine ⟨hfits'.1, fun r hr => hfits'.2 r ?_⟩
    by_cases heq : day' = day
    · subst heq
      rw [Function.update_self]
      exact Multiset.mem_cons_of_mem hr
    · rw [Function.update_of_ne heq]
      exact hr
  obtain ⟨n', hn'⟩ := (h.exists_add_iff day' start' stop' result').2 ⟨hday', hfirst⟩
  have hbuilt' : n'.Built := h.add day' start' stop' result' hn'
  have hsecond : Fits (n'.slots day) ⟨start, TimeOfDay.endMinute stop⟩ := by
    rw [h.slots_add hn']
    refine ⟨hfits.1, fun r hr => ?_⟩
    by_cases heq : day = day'
    · subst heq
      rw [Function.update_self] at hr hfits'
      rcases Multiset.mem_cons.1 hr with rfl | hr
      · rw [Bounds.overlaps_comm]
        exact hfits'.2 _ (Multiset.mem_cons_self _ _)
      · exact hfits.2 r hr
    · rw [Function.update_of_ne heq] at hr
      exact hfits.2 r hr
  obtain ⟨o', ho'⟩ := (hbuilt'.exists_add_iff day start stop result).2 ⟨hday, hsecond⟩
  refine ⟨n', o', hn', ho', ?_⟩
  rw [hbuilt.slots_add ho, h.slots_add hn, hbuilt'.slots_add ho', h.slots_add hn']
  by_cases heq : day = day'
  · subst heq
    rw [Function.update_idem, Function.update_idem, Function.update_self, Function.update_self,
      Multiset.cons_swap]
  · rw [Function.update_of_ne (Ne.symm heq), Function.update_of_ne heq,
      Function.update_comm heq]

/-! ## Answers -/

/-- Each range of a built model is in order. -/
theorem isRoster_of_mem (h : m.Built) {day : Nat} {e : Entry String} (he : e ∈ m.intervals day) :
    ∃ l, m.day? day = some l ∧ IsRoster l ∧ e ∈ l.entries := by
  unfold intervals at he
  cases hl : m.day? day with
  | none =>
    rw [hl] at he
    cases he
  | some l =>
    rw [hl] at he
    exact ⟨l, rfl, h.isRoster hl, he⟩

/-- The range found at a minute is the slot that contains it. -/
theorem lookupEntry_eq_some_iff (h : m.Built) (day : Nat) (minute : Int) (r : Span × String) :
    (m.lookupEntry day minute).map slot = some r ↔
      r ∈ m.slots day ∧ r.1.start ≤ minute ∧ minute ≤ r.1.stop := by
  unfold slots
  rw [Multiset.mem_coe, List.mem_map]
  constructor
  · intro hfound
    obtain ⟨e, he, rfl⟩ := Option.map_eq_some_iff.1 hfound
    obtain ⟨l, hl, he⟩ := Option.bind_eq_some_iff.1 he
    obtain ⟨hmem, hminute⟩ := ((h.isRoster hl).lookupEntry_eq_some_iff minute e).1 he
    refine ⟨⟨e, ?_, rfl⟩, hminute⟩
    unfold intervals
    rw [hl]
    exact hmem
  · rintro ⟨⟨e, he, rfl⟩, hminute⟩
    obtain ⟨l, hl, hroster, hmem⟩ := h.isRoster_of_mem he
    have hfound : m.lookupEntry day minute = some e := by
      unfold lookupEntry
      rw [hl]
      exact (hroster.lookupEntry_eq_some_iff minute e).2 ⟨hmem, hminute⟩
    rw [hfound]
    rfl

/-- Models with the same slots find the same range at each minute. -/
theorem lookupEntry_congr (h : m.Built) (h' : m'.Built) (hslots : m.slots = m'.slots)
    (day : Nat) (minute : Int) :
    (m.lookupEntry day minute).map slot = (m'.lookupEntry day minute).map slot := by
  apply Option.ext
  intro r
  rw [h.lookupEntry_eq_some_iff, h'.lookupEntry_eq_some_iff, hslots]

/-- The ranges of a weekday stand in the order of their starts, so that their slots tell
which is where. -/
theorem map_slot_intervals_congr (h : m.Built) (h' : m'.Built) (hslots : m.slots = m'.slots)
    (day : Nat) : (m.intervals day).map slot = (m'.intervals day).map slot := by
  have hsorted : ∀ {n : WeekModel}, n.Built →
      ((n.intervals day).map slot).Pairwise fun r s => r.1.start < s.1.start := by
    intro n hn
    rw [List.pairwise_map]
    unfold intervals
    cases hl : n.day? day with
    | none => exact List.Pairwise.nil
    | some l =>
      have hroster := hn.isRoster hl
      refine hroster.stop_lt_start.imp_of_mem ?_
      intro e f he _ hef
      exact (hroster.start_le_stop e he).trans_lt hef
  have hperm : ((m.intervals day).map slot).Perm ((m'.intervals day).map slot) :=
    Multiset.coe_eq_coe.1 (congrFun hslots day)
  refine List.Perm.eq_of_pairwise ?_ (hsorted h) (hsorted h') hperm
  intro r s _ _ hrs hsr
  omega

end Built

/-- The gaps of a weekday are those between its ranges. -/
theorem gaps_eq (m : WeekModel) (day : Nat) :
    m.gaps day =
      if day < 7 then gapsFrom 0 (((m.intervals day).map slot).map Prod.fst) else [] := by
  unfold gaps intervals day?
  by_cases hday : day < 7
  · rw [Vector.getElem?_eq_getElem hday, if_pos hday, List.map_map]
    rfl
  · rw [Vector.getElem?_eq_none (by omega), if_neg hday]

/-- Models with the same slots have the same gaps. -/
theorem Built.gaps_congr {m m' : WeekModel} (h : m.Built) (h' : m'.Built)
    (hslots : m.slots = m'.slots) (day : Nat) : m.gaps day = m'.gaps day := by
  rw [gaps_eq, gaps_eq, h.map_slot_intervals_congr h' hslots day]

/-- A piece of the slot that is found begins at a second, and the day is cut on behind it. -/
theorem cutDay_of_some {m : WeekModel} {day : Nat} {total first last : Int} {e : Entry String}
    (hle : first ≤ last) (h : m.lookupEntry day (first / 60) = some e) :
    m.cutDay day total first last =
      (Segment.between day first (pieceEnd e last) e.value total ::
          (m.cutDay day total (pieceEnd e last + 1) last).1,
        (m.cutDay day total (pieceEnd e last + 1) last).2) := by
  conv_lhs => unfold cutDay
  rw [dif_pos hle]
  split
  · rename_i hnone
    rw [h] at hnone
    cases hnone
  · rename_i f hf
    rw [h] at hf
    cases hf
    rfl

/-- Where nothing is found the rest of the day is left out. -/
theorem cutDay_of_none {m : WeekModel} {day : Nat} {total first last : Int}
    (hle : first ≤ last) (h : m.lookupEntry day (first / 60) = none) :
    m.cutDay day total first last = ([], true) := by
  unfold cutDay
  rw [dif_pos hle]
  split
  · rfl
  · rename_i e he
    rw [h] at he
    cases he

/-- A day is cut by what is found at its minutes. -/
theorem cutDay_congr {m m' : WeekModel} {day : Nat}
    (h : ∀ minute, (m.lookupEntry day minute).map slot = (m'.lookupEntry day minute).map slot)
    (total first last : Int) : m.cutDay day total first last = m'.cutDay day total first last := by
  fun_induction cutDay m day total first last with
  | case1 first hle hnone =>
    have hfound := h (first / 60)
    rw [hnone, Option.map_none, eq_comm, Option.map_eq_none_iff] at hfound
    rw [cutDay_of_none hle hfound]
  | case2 first hle e he stop hstop rest ih =>
    have hfound := h (first / 60)
    rw [he, Option.map_some, eq_comm, Option.map_eq_some_iff] at hfound
    obtain ⟨e', he', hslot⟩ := hfound
    have hspan : e'.span = e.span := congrArg Prod.fst hslot
    have hvalue : e'.value = e.value := congrArg Prod.snd hslot
    have hstop' : pieceEnd e' last = stop := by
      unfold pieceEnd
      rw [hspan]
      rfl
    rw [cutDay_of_some hle he', hstop', hvalue, ← ih]
  | case3 first hle =>
    unfold cutDay
    rw [dif_neg hle]

/-- Models that find the same slots cut a call in the same way. -/
theorem cutFrom_congr {m m' : WeekModel}
    (h : ∀ day minute,
      (m.lookupEntry day minute).map slot = (m'.lookupEntry day minute).map slot)
    (offset total stop cursor : Int) :
    m.cutFrom offset total stop cursor = m'.cutFrom offset total stop cursor := by
  fun_induction cutFrom m offset total stop cursor with
  | case1 cursor hlt hcalendar sliceStop hslice first day rest ih =>
    conv_rhs => unfold cutFrom
    rw [dif_pos hlt, if_pos hcalendar]
    simp only
    rw [← ih, ← cutDay_congr (h _)]
  | case2 cursor hlt hcalendar =>
    unfold cutFrom
    rw [dif_pos hlt, if_neg hcalendar]
  | case3 cursor hlt =>
    unfold cutFrom
    rw [dif_neg hlt]

/-- Models with the same slots cut each span alike. -/
theorem Built.cut_congr {m m' : WeekModel} (h : m.Built) (h' : m'.Built)
    (hslots : m.slots = m'.slots) (offset start stop : Int) :
    m.cut offset start stop = m'.cut offset start stop := by
  have hfrom := cutFrom_congr (h.lookupEntry_congr h' hslots) offset
  unfold cut
  simp only [hfrom]

end WeekModel
end Tariff
