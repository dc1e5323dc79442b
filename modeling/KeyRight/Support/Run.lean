import Mathlib.Init

/-!
Owns runs of a deterministic machine over a list of inputs, and the induction
that carries a one-step fact along a run.

Does not own any concrete machine.
-/

namespace KeyRight.Support

variable {σ ι : Type}

/-- The state after a list of inputs. -/
def runAll (step : σ → ι → σ) (start : σ) (inputs : List ι) : σ :=
  inputs.foldl step start

@[simp] theorem runAll_nil (step : σ → ι → σ) (start : σ) : runAll step start [] = start := rfl

@[simp] theorem runAll_cons (step : σ → ι → σ) (start : σ) (input : ι) (rest : List ι) :
    runAll step start (input :: rest) = runAll step (step start input) rest := rfl

theorem runAll_append (step : σ → ι → σ) (start : σ) (first second : List ι) :
    runAll step start (first ++ second) = runAll step (runAll step start first) second :=
  List.foldl_append

/-- What one step preserves holds after every run. -/
theorem runAll_invariant {step : σ → ι → σ} {invariant : σ → Prop}
    (preserved : ∀ state input, invariant state → invariant (step state input))
    {start : σ} (initially : invariant start) (inputs : List ι) :
    invariant (runAll step start inputs) := by
  induction inputs generalizing start with
  | nil => exact initially
  | cons input rest inductionHypothesis =>
      exact inductionHypothesis (preserved start input initially)

/-- Every step of a run, taken in the state that the run has reached, satisfies
the condition. -/
def Along (step : σ → ι → σ) (condition : σ → ι → Prop) : σ → List ι → Prop
  | _, [] => True
  | state, input :: rest => condition state input ∧ Along step condition (step state input) rest

instance Along.decidable (step : σ → ι → σ) (condition : σ → ι → Prop)
    [decide : ∀ state input, Decidable (condition state input)] :
    ∀ start inputs, Decidable (Along step condition start inputs)
  | _, [] => isTrue trivial
  | start, input :: rest =>
      have := Along.decidable step condition (step start input) rest
      inferInstanceAs (Decidable (_ ∧ _))

theorem Along.append {step : σ → ι → σ} {condition : σ → ι → Prop} {start : σ}
    {first second : List ι} :
    Along step condition start (first ++ second) ↔
      Along step condition start first ∧ Along step condition (runAll step start first) second := by
  induction first generalizing start with
  | nil => simp [Along]
  | cons input rest inductionHypothesis =>
      simp only [List.cons_append, Along, runAll_cons, inductionHypothesis, and_assoc]

/-- Inputs that meet the condition in every state meet it along a run. -/
theorem Along.of_inputs {step : σ → ι → σ} {condition : σ → ι → Prop} {inputs : List ι}
    (always : ∀ state, ∀ input ∈ inputs, condition state input) (start : σ) :
    Along step condition start inputs := by
  induction inputs generalizing start with
  | nil => trivial
  | cons input rest inductionHypothesis =>
      refine ⟨always start input List.mem_cons_self, inductionHypothesis ?_ _⟩
      exact fun state input member => always state input (List.mem_cons_of_mem _ member)

/-- What a step preserves under a condition holds after every run whose steps
meet the condition. -/
theorem Along.invariant {step : σ → ι → σ} {condition : σ → ι → Prop} {invariant : σ → Prop}
    (preserved : ∀ state input, condition state input → invariant state →
      invariant (step state input))
    {start : σ} {inputs : List ι} (along : Along step condition start inputs)
    (initially : invariant start) :
    invariant (runAll step start inputs) := by
  induction inputs generalizing start with
  | nil => exact initially
  | cons input rest inductionHypothesis =>
      exact inductionHypothesis along.2 (preserved start input along.1 initially)

/-! ### Machines that answer -/

section

variable {β : Type} (step : σ → ι → σ × β)

/-- The state after a list of inputs, without the answers. -/
def stateAfter (start : σ) (inputs : List ι) : σ := runAll (fun state input => (step state input).1) start inputs

/-- The inputs of a run, each with its answer. -/
def transcript : σ → List ι → List (ι × β)
  | _, [] => []
  | state, input :: rest => (input, (step state input).2) :: transcript (step state input).1 rest

@[simp] theorem stateAfter_nil (start : σ) : stateAfter step start [] = start := rfl

theorem stateAfter_concat (start : σ) (inputs : List ι) (input : ι) :
    stateAfter step start (inputs ++ [input]) = (step (stateAfter step start inputs) input).1 :=
  runAll_append _ _ _ _

theorem stateAfter_append (start : σ) (first second : List ι) :
    stateAfter step start (first ++ second) = stateAfter step (stateAfter step start first) second :=
  runAll_append _ _ _ _

theorem stateAfter_invariant (invariant : σ → Prop)
    (preserved : ∀ state input, invariant state → invariant (step state input).1)
    {start : σ} (initially : invariant start) (inputs : List ι) :
    invariant (stateAfter step start inputs) :=
  runAll_invariant preserved initially inputs

theorem transcript_concat (start : σ) (inputs : List ι) (input : ι) :
    transcript step start (inputs ++ [input]) =
      transcript step start inputs ++ [(input, (step (stateAfter step start inputs) input).2)] := by
  induction inputs generalizing start with
  | nil => rfl
  | cons first rest inductionHypothesis =>
      simp only [List.cons_append, transcript, inductionHypothesis]
      rfl

/-- All that the answers of a run yield, in order. -/
def yielded {γ : Type} (yields : β → List γ) (start : σ) (inputs : List ι) : List γ :=
  (transcript step start inputs).flatMap fun entry => yields entry.2

theorem yielded_concat {γ : Type} (yields : β → List γ) (start : σ) (inputs : List ι) (input : ι) :
    yielded step yields start (inputs ++ [input]) =
      yielded step yields start inputs ++ yields (step (stateAfter step start inputs) input).2 := by
  rw [yielded, transcript_concat, List.flatMap_append, List.flatMap_singleton, yielded]

end

end KeyRight.Support
