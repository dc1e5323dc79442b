import KeyRight.Support.Program
import KeyRight.Support.Run

/-!
Owns two fallible calls that run side by side on different states: from related states
both end with related values or with the same error, and in related states again. The
rules compose such pairs along sequencing, choice and caught errors.

Does not own any concrete pair of states.
-/

namespace KeyRight.Support

variable {σ τ ε α β γ δ : Type}

/-- Two values that are related, or the same error. -/
inductive Answers (alike : α → β → Prop) : Except ε α → Except ε β → Prop where
  | ok {left : α} {right : β} (values : alike left right) : Answers alike (.ok left) (.ok right)
  | error (code : ε) : Answers alike (.error code) (.error code)

theorem Answers.refl (result : Except ε α) : Answers Eq result result := by
  cases result with
  | ok value => exact .ok rfl
  | error code => exact .error code

/-- From related states both calls answer alike and leave related states. -/
def Lockstep (related : σ → τ → Prop) (alike : α → β → Prop) (left : Program σ ε α)
    (right : Program τ ε β) : Prop :=
  ∀ state other, related state other →
    Answers alike (left.start state).1 (right.start other).1 ∧
      related (left.start state).2 (right.start other).2

namespace Lockstep

open Program

variable {related : σ → τ → Prop} {alike : α → β → Prop} {more : γ → δ → Prop}

theorem pure {left : α} {right : β} (values : alike left right) :
    Lockstep related alike (pure left : Program σ ε α) (pure right) :=
  fun _ _ states => ⟨.ok values, states⟩

theorem fail (code : ε) : Lockstep related alike (fail code : Program σ ε α) (fail code) :=
  fun _ _ states => ⟨.error code, states⟩

theorem read {view : σ → α} {other : τ → β}
    (views : ∀ left right, related left right → alike (view left) (other right)) :
    Lockstep related alike (read view : Program σ ε α) (read other) :=
  fun left right states => ⟨.ok (views left right states), states⟩

theorem update {edit : σ → σ} {other : τ → τ}
    (edits : ∀ left right, related left right → related (edit left) (other right)) :
    Lockstep related Eq (update edit : Program σ ε Unit) (update other) :=
  fun left right states => ⟨.ok rfl, edits left right states⟩

theorem primitive {call : σ → α × σ} {other : τ → β × τ}
    (calls : ∀ left right, related left right →
      alike (call left).1 (other right).1 ∧ related (call left).2 (other right).2) :
    Lockstep related alike (primitive call : Program σ ε α) (primitive other) := by
  intro left right states
  obtain ⟨values, states⟩ := calls left right states
  exact ⟨.ok values, states⟩

theorem attempt {left : Program σ ε α} {right : Program τ ε β}
    (calls : Lockstep related alike left right) :
    Lockstep related (Answers alike) left.attempt right.attempt := by
  intro state other states
  obtain ⟨answers, states⟩ := calls state other states
  exact ⟨.ok answers, states⟩

theorem bind {left : Program σ ε α} {right : Program τ ε β} {next : α → Program σ ε γ}
    {follow : β → Program τ ε δ} (first : Lockstep related alike left right)
    (rest : ∀ value reply, alike value reply → Lockstep related more (next value) (follow reply)) :
    Lockstep related more (left >>= next) (right >>= follow) := by
  intro state other states
  obtain ⟨answers, states⟩ := first state other states
  change Answers more (ExceptT.bindCont next (left.start state).1 (left.start state).2).1
      (ExceptT.bindCont follow (right.start other).1 (right.start other).2).1 ∧
    related (ExceptT.bindCont next (left.start state).1 (left.start state).2).2
      (ExceptT.bindCont follow (right.start other).1 (right.start other).2).2
  generalize left.start state = first, right.start other = second at answers states
  obtain ⟨result, reached⟩ := first
  obtain ⟨reply, met⟩ := second
  cases answers with
  | ok values => exact rest _ _ values reached met states
  | error code => exact ⟨.error code, states⟩

/-- Both calls hand the same value on. -/
theorem seq {left : Program σ ε α} {right : Program τ ε α} {next : α → Program σ ε γ}
    {follow : α → Program τ ε δ} (first : Lockstep related Eq left right)
    (rest : ∀ value, Lockstep related more (next value) (follow value)) :
    Lockstep related more (left >>= next) (right >>= follow) := by
  refine first.bind ?_
  rintro value _ rfl
  exact rest value

theorem ite {condition other : Prop} [Decidable condition] [Decidable other]
    {yes no : Program σ ε α} {yes' no' : Program τ ε β} (same : condition ↔ other)
    (holds : condition → Lockstep related alike yes yes')
    (fails : ¬condition → Lockstep related alike no no') :
    Lockstep related alike (if condition then yes else no) (if other then yes' else no') := by
  by_cases chosen : condition
  · rw [if_pos chosen, if_pos (same.mp chosen)]
    exact holds chosen
  · rw [if_neg chosen, if_neg (fun wrong => chosen (same.mpr wrong))]
    exact fails chosen

theorem dite {condition other : Prop} [Decidable condition] [Decidable other]
    {yes : condition → Program σ ε α} {yes' : other → Program τ ε β} {no : Program σ ε α}
    {no' : Program τ ε β} (same : condition ↔ other)
    (holds : ∀ chosen chosen', Lockstep related alike (yes chosen) (yes' chosen'))
    (fails : ¬condition → Lockstep related alike no no') :
    Lockstep related alike (if chosen : condition then yes chosen else no)
      (if chosen : other then yes' chosen else no') := by
  by_cases chosen : condition
  · rw [dif_pos chosen, dif_pos (same.mp chosen)]
    exact holds chosen _
  · rw [dif_neg chosen, dif_neg (fun wrong => chosen (same.mpr wrong))]
    exact fails chosen

end Lockstep

/-- Machines whose steps keep their states related stay related along a run. -/
theorem runAll_related {ι : Type} {related : σ → τ → Prop} {step : σ → ι → σ} {other : τ → ι → τ}
    (steps : ∀ left right input, related left right → related (step left input) (other right input))
    {start : σ} {origin : τ} (initially : related start origin) (inputs : List ι) :
    related (runAll step start inputs) (runAll other origin inputs) := by
  induction inputs generalizing start origin with
  | nil => exact initially
  | cons input rest inductionHypothesis =>
      exact inductionHypothesis (steps start origin input initially)

end KeyRight.Support
