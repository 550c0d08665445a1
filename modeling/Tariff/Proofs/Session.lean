/-!
# Sessions

A session feeds inputs to a system one after the other and collects its answers.  Two
systems that answer alike at each step, and stay related by it, answer alike for good.

Main results:

- Theorems {lit}`Session.invariant` and {lit}`Session.invariant_of_answers`: what each step
  keeps, or each step with an answer of some kind, a session keeps.
- Theorem {lit}`Session.measure_run`: what grows by one with each answer of a kind counts
  these answers.
- Theorems {lit}`Session.simulation` and {lit}`Session.simulation_on`: systems that are related
  step by step give the same answers and end related.
-/

namespace Tariff
namespace Session

variable {σ τ ι ω : Type}

/-- The state after some inputs, with the answer to each of them. -/
def run (step : σ → ι → σ × ω) (s : σ) : List ι → σ × List ω
  | [] => (s, [])
  | i :: is =>
    let next := step s i
    let rest := run step next.1 is
    (rest.1, next.2 :: rest.2)

/-- A session answers the first input and goes on from where that one led. -/
@[simp] theorem run_cons (step : σ → ι → σ × ω) (s : σ) (i : ι) (is : List ι) :
    run step s (i :: is) =
      ((run step (step s i).1 is).1, (step s i).2 :: (run step (step s i).1 is).2) := rfl

/-- What is kept by each step with an answer of some kind, a session keeps whose answers are
all of that kind. -/
theorem invariant_of_answers {step : σ → ι → σ × ω} {P : σ → Prop} {Q : ω → Prop}
    (hstep : ∀ s i, P s → Q (step s i).2 → P (step s i).1) {s : σ} (hs : P s) {is : List ι}
    (h : ∀ a ∈ (run step s is).2, Q a) : P (run step s is).1 := by
  induction is generalizing s with
  | nil => exact hs
  | cons i is ih =>
    obtain ⟨hanswer, hrest⟩ := List.forall_mem_cons.1 h
    exact ih (hstep s i hs hanswer) hrest

/-- What each step keeps, a session keeps. -/
theorem invariant {step : σ → ι → σ × ω} {P : σ → Prop}
    (hstep : ∀ s i, P s → P (step s i).1) {s : σ} (hs : P s) (is : List ι) :
    P (run step s is).1 :=
  invariant_of_answers (Q := fun _ => True) (fun s i hs _ => hstep s i hs) hs fun _ _ => trivial

/-- What grows by one with each answer of a kind, and with no other, counts these
answers. -/
theorem measure_run {step : σ → ι → σ × ω} {measure : σ → Nat} {p : ω → Bool}
    (hstep : ∀ s i, measure (step s i).1 = measure s + if p (step s i).2 then 1 else 0)
    (s : σ) (is : List ι) :
    measure (run step s is).1 = measure s + (run step s is).2.countP p := by
  induction is generalizing s with
  | nil => rfl
  | cons i is ih =>
    rw [run_cons, List.countP_cons, ih, hstep]
    omega

/-- Systems that are related step by step, as long as they are given inputs of some kind, give
the same answers to such inputs and end related. -/
theorem simulation_on {f : σ → ι → σ × ω} {g : τ → ι → τ × ω} {R : σ → τ → Prop}
    {P : ι → Prop}
    (hstep : ∀ s t i, R s t → P i → (f s i).2 = (g t i).2 ∧ R (f s i).1 (g t i).1)
    {s : σ} {t : τ} (h : R s t) {is : List ι} (his : ∀ i ∈ is, P i) :
    (run f s is).2 = (run g t is).2 ∧ R (run f s is).1 (run g t is).1 := by
  induction is generalizing s t with
  | nil => exact ⟨rfl, h⟩
  | cons i is ih =>
    obtain ⟨hi, hrest⟩ := List.forall_mem_cons.1 his
    obtain ⟨hanswer, hnext⟩ := hstep s t i h hi
    obtain ⟨hanswers, hend⟩ := ih hnext hrest
    refine ⟨?_, hend⟩
    simp only [run_cons]
    rw [hanswer, hanswers]

/-- Systems that are related step by step give the same answers and end related. -/
theorem simulation {f : σ → ι → σ × ω} {g : τ → ι → τ × ω} {R : σ → τ → Prop}
    (hstep : ∀ s t i, R s t → (f s i).2 = (g t i).2 ∧ R (f s i).1 (g t i).1)
    {s : σ} {t : τ} (h : R s t) (is : List ι) :
    (run f s is).2 = (run g t is).2 ∧ R (run f s is).1 (run g t is).1 :=
  simulation_on (P := fun _ => True) (fun s t i h _ => hstep s t i h) h fun _ _ => trivial

end Session
end Tariff
