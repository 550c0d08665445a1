import Mathlib.Data.List.Forall2
import Tariff.Proofs.Session
import Tariff.Rule.Book

/-!
# Queries by outcome

A rule has one of three outcomes for a query: it is a hit, it is a miss, or one of its
conditions asks for a number where the query has none.  Which outcome it is depends on the
first condition that the query does not pass.  The outcomes of the rules of a group, in
order, settle what both kinds of queries answer, and where the two part.

Main results:

- Theorem {lit}`Rule.holds_eq_outcome`: the left-to-right test of a rule finds its outcome.
- Theorem {lit}`Outcome.all_and_first_part_iff`: a query for all hits fails and a query for
  the first one does not, if a hit stands in front of the first fault.
- Theorem {lit}`RuleBook.queries_by_outcome`: whatever was added to a book and refused by
  it, its answers are settled by the outcomes of the rules that it took in.
-/

namespace Tariff

/-! ## Conditions -/

/-- What a condition says about a field. -/
inductive Verdict where
  | passes
  | fails
  /-- A number is asked of a field that holds none. -/
  | unreadable
deriving DecidableEq, Repr

namespace Condition

/-- What a condition says about a field, which may be missing. -/
def verdict : Condition → Option String → Verdict
  | _, none => .fails
  | fits p, some value => if p.isMatch value then .passes else .fails
  | excludes p, some value => if p.isMatch value then .fails else .passes
  | compares c bound, some value =>
    match number? value.toList with
    | none => .unreadable
    | some n => if c.holds n bound then .passes else .fails

/-- A condition holds as its verdict says, and cannot be decided if the field is unreadable. -/
theorem holds_eq_verdict (c : Condition) (field : Option String) :
    c.holds field =
      match c.verdict field with
      | .passes => some true
      | .fails => some false
      | .unreadable => none := by
  cases field with
  | none => cases c <;> rfl
  | some value =>
    cases c with
    | fits p => cases h : p.isMatch value <;> simp [holds, verdict, h]
    | excludes p => cases h : p.isMatch value <;> simp [holds, verdict, h]
    | compares c bound =>
      cases hn : number? value.toList with
      | none => simp [holds, verdict, hn]
      | some n => cases h : c.holds n bound <;> simp [holds, verdict, hn, h]

end Condition

/-! ## Rules -/

/-- What a rule says about a query. -/
inductive Outcome where
  | hit (results : List String)
  | miss
  | fault (f : NotNumeric)
deriving DecidableEq, Repr

namespace Rule

/-- A condition and its place let a query through.  Fields behind the end of the query are
missing. -/
def Passes (fields : List (Option String)) (c : Condition × Nat) : Prop :=
  c.1.verdict fields[c.2]?.join = .passes

instance (fields : List (Option String)) (c : Condition × Nat) : Decidable (Passes fields c) :=
  inferInstanceAs (Decidable (_ = _))

/-- The first condition that does not let the query through, and its place, from 0. -/
def barrier (r : Rule) (fields : List (Option String)) : Option (Condition × Nat) :=
  r.conditions.zipIdx.find? fun c => decide (¬ Passes fields c)

/-- A rule is a hit if nothing bars the query, and otherwise what bars it decides. -/
def outcome (r : Rule) (fields : List (Option String)) : Outcome :=
  match r.barrier fields with
  | none => .hit r.results
  | some (c, place) =>
    match c.verdict fields[place]?.join with
    | .passes | .fails => .miss
    | .unreadable => .fault ⟨place, fields[place]?.join.getD ""⟩

/-- A test that has come to some position is settled by the first condition from there on
that does not let the query through. -/
theorem test_drop (fields : List (Option String)) (cs : List Condition) (position : Nat) :
    test position cs (fields.drop position) =
      match (cs.zipIdx position).find? fun c => decide (¬ Passes fields c) with
      | none => .ok true
      | some (c, place) =>
        match c.verdict fields[place]?.join with
        | .passes | .fails => .ok false
        | .unreadable => .error ⟨place, fields[place]?.join.getD ""⟩ := by
  induction cs generalizing position with
  | nil => rfl
  | cons c cs ih =>
    have hhead : (fields.drop position).head? = fields[position]? := List.head?_drop
    have htail : (fields.drop position).tail = fields.drop (position + 1) := List.tail_drop
    rw [test, hhead, htail, c.holds_eq_verdict, List.zipIdx_cons, List.find?_cons]
    cases hverdict : c.verdict fields[position]?.join with
    | passes =>
      have hpasses : Passes fields (c, position) := hverdict
      simp only [hpasses, not_true_eq_false, decide_false]
      exact ih (position + 1)
    | fails =>
      have hpasses : ¬ Passes fields (c, position) := by simp [Passes, hverdict]
      simp [hpasses, hverdict]
    | unreadable =>
      have hpasses : ¬ Passes fields (c, position) := by simp [Passes, hverdict]
      simp [hpasses, hverdict]

/-- The left-to-right test of a rule finds its outcome. -/
theorem holds_eq_outcome (r : Rule) (fields : List (Option String)) :
    r.holds fields =
      match r.outcome fields with
      | .hit _ => .ok true
      | .miss => .ok false
      | .fault f => .error f := by
  have htest := test_drop fields r.conditions 0
  rw [List.drop_zero] at htest
  unfold holds outcome barrier
  rw [htest]
  cases r.conditions.zipIdx.find? fun c => decide (¬ Passes fields c) with
  | none => rfl
  | some c =>
    simp only
    cases c.1.verdict fields[c.2]?.join <;> rfl

/-- The results of a hit are those of its rule. -/
theorem results_of_outcome {r : Rule} {fields : List (Option String)} {results : List String}
    (h : r.outcome fields = .hit results) : r.results = results := by
  unfold outcome at h
  split at h
  · exact Outcome.hit.inj h
  · split at h <;> cases h

end Rule

/-! ## Outcomes in order -/

namespace Outcome

def fault? : Outcome → Option NotNumeric
  | fault f => some f
  | hit _ | miss => none

def results? : Outcome → Option (List String)
  | hit results => some results
  | miss | fault _ => none

/-- The results of all hits, unless there is a fault; then the first one. -/
def all (os : List Outcome) : Except NotNumeric (List (List String)) :=
  match os.findSome? fault? with
  | some f => .error f
  | none => .ok (os.filterMap results?)

/-- What the first outcome says that is no miss. -/
def first (os : List Outcome) : Except NotNumeric (Option (List String)) :=
  match os.find? fun o => decide (o ≠ miss) with
  | some (hit results) => .ok (some results)
  | some (fault f) => .error f
  | some miss | none => .ok none

@[simp] theorem all_miss_cons (os : List Outcome) : all (miss :: os) = all os := rfl
@[simp] theorem first_miss_cons (os : List Outcome) : first (miss :: os) = first os := rfl

@[simp] theorem all_fault_cons (f : NotNumeric) (os : List Outcome) :
    all (fault f :: os) = .error f := rfl

@[simp] theorem first_fault_cons (f : NotNumeric) (os : List Outcome) :
    first (fault f :: os) = .error f := rfl

@[simp] theorem first_hit_cons (results : List String) (os : List Outcome) :
    first (hit results :: os) = .ok (some results) := rfl

@[simp] theorem all_hit_cons (results : List String) (os : List Outcome) :
    all (hit results :: os) = (all os).map (results :: ·) := by
  have hfault : (hit results :: os).findSome? fault? = os.findSome? fault? := rfl
  unfold all
  rw [hfault]
  cases os.findSome? fault? with
  | none => rfl
  | some f => rfl

/-- Where all hits can be told, the first of them is the first hit. -/
theorem first_of_all_eq_ok {os : List Outcome} {hits : List (List String)}
    (h : all os = .ok hits) : first os = .ok hits.head? := by
  induction os with
  | nil =>
    cases h
    rfl
  | cons o os ih =>
    cases o with
    | miss => exact ih h
    | fault f => cases h
    | hit results =>
      rw [all_hit_cons] at h
      cases hrest : all os with
      | error f =>
        rw [hrest] at h
        cases h
      | ok rest =>
        rw [hrest] at h
        cases h
        rfl

/-- A fault that keeps the first hit from being told keeps all hits from it. -/
theorem all_of_first_eq_error {os : List Outcome} {f : NotNumeric}
    (h : first os = .error f) : all os = .error f := by
  induction os with
  | nil => cases h
  | cons o os ih =>
    cases o with
    | miss => exact ih h
    | fault f' =>
      cases h
      rfl
    | hit results => cases h

/-- There is no first hit just if there are no hits at all, and no faults. -/
theorem first_eq_none_iff {os : List Outcome} : first os = .ok none ↔ all os = .ok [] := by
  constructor
  · intro h
    induction os with
    | nil => rfl
    | cons o os ih =>
      cases o with
      | miss => exact ih h
      | fault f => cases h
      | hit results => cases h
  · exact first_of_all_eq_ok

/-- Only where a hit, with nothing but misses in front of it, stands in front of the first
fault do the two queries part: one gives the hit and the other one the fault. -/
theorem all_and_first_part_iff {os : List Outcome} {f : NotNumeric} {results : List String} :
    all os = .error f ∧ first os = .ok (some results) ↔
      ∃ before between after,
        os = before ++ hit results :: (between ++ fault f :: after) ∧
          (∀ o ∈ before, o = miss) ∧ ∀ o ∈ between, o.fault? = none := by
  constructor
  · rintro ⟨hall, hfirst⟩
    induction os with
    | nil => cases hall
    | cons o os ih =>
      cases o with
      | miss =>
        obtain ⟨before, between, after, rfl, hbefore, hbetween⟩ := ih hall hfirst
        exact ⟨miss :: before, between, after, rfl, List.forall_mem_cons.2 ⟨rfl, hbefore⟩,
          hbetween⟩
      | fault f' => cases hfirst
      | hit results' =>
        cases hfirst
        rw [all_hit_cons] at hall
        have hrest : os.findSome? fault? = some f := by
          unfold all at hall
          cases hf : os.findSome? fault? with
          | none =>
            rw [hf] at hall
            cases hall
          | some f' =>
            rw [hf] at hall
            cases hall
            rfl
        obtain ⟨between, o, after, rfl, ho, hbetween⟩ := List.findSome?_eq_some_iff.1 hrest
        cases o with
        | miss => cases ho
        | hit results' => cases ho
        | fault f' =>
          cases ho
          exact ⟨[], between, after, rfl, List.forall_mem_nil _, hbetween⟩
  · rintro ⟨before, between, after, rfl, hbefore, hbetween⟩
    induction before with
    | nil =>
      refine ⟨?_, rfl⟩
      have hrest : (between ++ fault f :: after).findSome? fault? = some f :=
        List.findSome?_eq_some_iff.2 ⟨between, fault f, after, rfl, rfl, hbetween⟩
      rw [List.nil_append, all_hit_cons]
      unfold all
      rw [hrest]
      rfl
    | cons o before ih =>
      obtain ⟨rfl, hmisses⟩ := List.forall_mem_cons.1 hbefore
      exact ih hmisses

end Outcome

/-! ## Books -/

namespace RuleBook

/-- The query for all hits is settled by the outcomes of the rules. -/
theorem allOf_eq_all (fields : List (Option String)) (rs : List Rule) :
    allOf fields rs = Outcome.all (rs.map (·.outcome fields)) := by
  induction rs with
  | nil => rfl
  | cons r rs ih =>
    rw [allOf, r.holds_eq_outcome, List.map_cons, ih]
    cases houtcome : r.outcome fields with
    | miss => rw [Outcome.all_miss_cons]
    | fault f => rw [Outcome.all_fault_cons]
    | hit results => rw [Rule.results_of_outcome houtcome, Outcome.all_hit_cons]

/-- The query for the first hit is settled by the outcomes of the rules. -/
theorem firstOf_eq_first (fields : List (Option String)) (rs : List Rule) :
    firstOf fields rs = Outcome.first (rs.map (·.outcome fields)) := by
  induction rs with
  | nil => rfl
  | cons r rs ih =>
    rw [firstOf, r.holds_eq_outcome, List.map_cons, ih]
    cases houtcome : r.outcome fields with
    | miss => rw [Outcome.first_miss_cons]
    | fault f => rw [Outcome.first_fault_cons]
    | hit results => rw [Rule.results_of_outcome houtcome, Outcome.first_hit_cons]

/-- Conditions are read just if each of them is. -/
theorem readConditions_eq_ok_iff {group : String} {texts : List String} {cs : List Condition} :
    readConditions group texts = .ok cs ↔
      List.Forall₂ (fun text c => Condition.read text = .ok c) texts cs := by
  induction texts generalizing cs with
  | nil =>
    rw [List.forall₂_nil_left_iff, readConditions, Except.ok.injEq]
    exact eq_comm
  | cons text texts ih =>
    rw [List.forall₂_cons_left_iff, readConditions]
    cases Condition.read text with
    | error f => simp
    | ok c =>
      simp only [Except.ok.injEq, ← ih]
      cases readConditions group texts with
      | error f => simp [Except.map]
      | ok cs' => simp [Except.map, eq_comm]

/-- A rule as it is handed to a book. -/
structure Attempt where
  group : String
  conditions : List String
  results : List String
deriving DecidableEq, Repr

/-- Tries to add a rule.  A book that refuses it stays as it is. -/
def attempt (b : RuleBook) (a : Attempt) : RuleBook × Option Fault :=
  match b.add a.group a.conditions a.results with
  | .ok b' => (b', none)
  | .error f => (b, some f)

/-- The attempts on a group that were answered with no fault, in order. -/
def accepted (group : String) (attempts : List Attempt) (answers : List (Option Fault)) :
    List Attempt :=
  ((attempts.zip answers).filter fun a =>
    decide (a.1.group = group ∧ a.2 = none)).map Prod.fst

/-- The rule is what an attempt says, with its conditions read. -/
structure Attempt.IsReadAs (a : Attempt) (r : Rule) : Prop where
  conditions : List.Forall₂ (fun text c => Condition.read text = .ok c)
    a.conditions r.conditions
  results : r.results = a.results

/-- An attempt on a group adds its rule if it is accepted; an attempt that is refused, or is
made on another group, adds nothing. -/
theorem rules_attempt (b : RuleBook) (a : Attempt) (group : String) :
    ∃ rows, List.Forall₂ Attempt.IsReadAs (accepted group [a] [(b.attempt a).2]) rows ∧
      (b.attempt a).1.rules group = b.rules group ++ rows := by
  unfold attempt
  cases hadd : b.add a.group a.conditions a.results with
  | error f =>
    refine ⟨[], ?_, (List.append_nil _).symm⟩
    simp [accepted]
  | ok b' =>
    obtain ⟨cs, hcs, hrules⟩ := rules_add hadd
    by_cases hgroup : a.group = group
    · have hrow : a.IsReadAs ⟨cs, a.results⟩ := ⟨readConditions_eq_ok_iff.1 hcs, rfl⟩
      refine ⟨[⟨cs, a.results⟩], ?_, ?_⟩
      · simpa [accepted, hgroup] using hrow
      · simp [hrules, hgroup]
    · refine ⟨[], ?_, ?_⟩
      · simp [accepted, hgroup]
      · simp [hrules, Ne.symm hgroup]

/-- The rules of a group are those that were there and then those that were accepted, in the
order of the attempts. -/
theorem rules_run (b : RuleBook) (attempts : List Attempt) (group : String) :
    ∃ rows, List.Forall₂ Attempt.IsReadAs
        (accepted group attempts (Session.run attempt b attempts).2) rows ∧
      (Session.run attempt b attempts).1.rules group = b.rules group ++ rows := by
  induction attempts generalizing b with
  | nil => exact ⟨[], .nil, (List.append_nil _).symm⟩
  | cons a attempts ih =>
    obtain ⟨row, hrow, hstep⟩ := rules_attempt b a group
    obtain ⟨rows, hrows, hrun⟩ := ih (b.attempt a).1
    have haccepted : accepted group (a :: attempts)
          ((b.attempt a).2 :: (Session.run attempt (b.attempt a).1 attempts).2) =
        accepted group [a] [(b.attempt a).2] ++
          accepted group attempts (Session.run attempt (b.attempt a).1 attempts).2 := by
      unfold accepted
      rw [← List.map_append, ← List.filter_append]
      rfl
    refine ⟨row ++ rows, ?_, ?_⟩
    · rw [Session.run_cons, haccepted]
      exact List.rel_append hrow hrows
    · rw [Session.run_cons, hrun, hstep, List.append_assoc]

/-- After any attempts on an empty book, those on a group that were accepted are its rules,
and the outcomes of these, in order, settle both queries.  If all hits can be told, the first
of them is the first hit; what keeps the first hit from being told keeps all of them from it;
and the two part only over a hit in front of the first fault. -/
theorem queries_by_outcome (attempts : List Attempt) (group : String)
    (fields : List (Option String)) :
    let session := Session.run attempt empty attempts
    let all := session.1.all group fields
    let first := session.1.first group fields
    ∃ rows : List Rule,
      List.Forall₂ Attempt.IsReadAs (accepted group attempts session.2) rows ∧
        all = Outcome.all (rows.map (·.outcome fields)) ∧
        first = Outcome.first (rows.map (·.outcome fields)) ∧
        (∀ hits, all = .ok hits → first = .ok hits.head?) ∧
        (∀ f, first = .error f → all = .error f) ∧
        (first = .ok none ↔ all = .ok []) ∧
        ∀ f results, all = .error f ∧ first = .ok (some results) ↔
          ∃ before between after,
            rows.map (·.outcome fields) =
                before ++ .hit results :: (between ++ .fault f :: after) ∧
              (∀ o ∈ before, o = .miss) ∧ ∀ o ∈ between, o.fault? = none := by
  intro session all first
  obtain ⟨rows, hrows, hrules⟩ := rules_run empty attempts group
  rw [rules_empty, List.nil_append] at hrules
  have hall : all = Outcome.all (rows.map (·.outcome fields)) := by
    rw [← allOf_eq_all, ← hrules]
    rfl
  have hfirst : first = Outcome.first (rows.map (·.outcome fields)) := by
    rw [← firstOf_eq_first, ← hrules]
    rfl
  rw [hall, hfirst]
  exact ⟨rows, hrows, rfl, rfl, fun _ => Outcome.first_of_all_eq_ok,
    fun _ => Outcome.all_of_first_eq_error, Outcome.first_eq_none_iff,
    fun _ _ => Outcome.all_and_first_part_iff⟩

/-- A rule that asks for a letter stands in front of one that asks for a number, and a rule
of another shape is refused.  The letter gives a first hit, but not all hits. -/
theorem queries_part_over_letter :
    let attempts : List Attempt :=
      [⟨"g", ["A"], ["r"]⟩, ⟨"g", ["A", "B"], ["r"]⟩, ⟨"g", [">=5"], ["s"]⟩]
    let session := Session.run attempt empty attempts
    session.1.all "g" [some "A"] = .error ⟨0, "A"⟩ ∧
      session.1.first "g" [some "A"] = .ok (some ["r"]) ∧
      ∃ rows before between after,
        List.Forall₂ Attempt.IsReadAs (accepted "g" attempts session.2) rows ∧
          rows.map (·.outcome [some "A"]) =
            before ++ .hit ["r"] :: (between ++ .fault ⟨0, "A"⟩ :: after) := by
  intro attempts session
  have hall : session.1.all "g" [some "A"] = .error ⟨0, "A"⟩ := by decide +kernel
  have hfirst : session.1.first "g" [some "A"] = .ok (some ["r"]) := by decide +kernel
  obtain ⟨rows, hrows, _, _, _, _, _, hpart⟩ := queries_by_outcome attempts "g" [some "A"]
  obtain ⟨before, between, after, houtcomes, _, _⟩ := (hpart _ _).1 ⟨hall, hfirst⟩
  exact ⟨hall, hfirst, rows, before, between, after, hrows, houtcomes⟩

end RuleBook
end Tariff
