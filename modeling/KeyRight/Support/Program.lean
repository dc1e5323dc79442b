import Mathlib.Init

/-!
Owns fallible calls on a mutable state: a call ends with a value or with an
error that its caller may inspect, and the state it has reached is kept in both
cases. `Ends` is the weakest precondition of such a call over its result and its
final state; the rules below compose it along sequencing, choice and caught
errors. `Keeps` says that a call keeps an invariant of the state. `Views` is `Ends`
through a view of the state: it holds of every state that looks alike, so that what
the view hides may be anything.

Does not own any concrete state, error type or primitive call.
-/

namespace KeyRight.Support

/-- Both parts of a sequence that ends well end well. -/
theorem of_bind_ok {ε α β : Type} {first : Except ε α} {next : α → Except ε β} {result : β}
    (succeeds : first >>= next = .ok result) :
    ∃ value, first = .ok value ∧ next value = .ok result := by
  cases first with
  | error code => cases succeeds
  | ok value => exact ⟨value, rfl, succeeds⟩

theorem bind_eq_ok {ε α β : Type} {first : Except ε α} {next : α → Except ε β} {result : β} :
    first >>= next = .ok result ↔ ∃ value, first = .ok value ∧ next value = .ok result := by
  constructor
  · exact of_bind_ok
  · rintro ⟨value, rfl, rest⟩
    exact rest

theorem ite_throw_eq_ok {ε α : Type} {condition : Prop} [Decidable condition] {code : ε}
    {rest : Except ε α} {result : α} :
    (if condition then throw code else rest) = .ok result ↔ ¬condition ∧ rest = .ok result := by
  by_cases holds : condition
  · rw [if_pos holds]
    constructor
    · intro wrong
      cases wrong
    · intro both
      exact absurd holds both.1
  · rw [if_neg holds]
    exact (and_iff_right holds).symm

/-- Calls that check what they return succeed together if the unchecked calls do, with good
values only. -/
theorem mapM_checked {ε α β : Type} {call checked : α → Except ε β} {good : β → Prop}
    (each : ∀ input value, checked input = .ok value ↔ call input = .ok value ∧ good value)
    {inputs : List α} {values : List β} :
    inputs.mapM checked = .ok values ↔
      inputs.mapM call = .ok values ∧ ∀ value ∈ values, good value := by
  induction inputs generalizing values with
  | nil =>
      rw [List.mapM_nil, List.mapM_nil]
      refine ⟨fun empty => ⟨empty, ?_⟩, And.left⟩
      cases empty
      exact fun value member => absurd member List.not_mem_nil
  | cons input rest inductionHypothesis =>
      simp only [List.mapM_cons, bind_eq_ok, each, inductionHypothesis]
      constructor
      · rintro ⟨value, ⟨called, fine⟩, values, ⟨others, good⟩, joined⟩
        cases joined
        exact ⟨⟨value, called, values, others, rfl⟩, List.forall_mem_cons.mpr ⟨fine, good⟩⟩
      · rintro ⟨⟨value, called, values, others, joined⟩, good⟩
        cases joined
        obtain ⟨fine, good⟩ := List.forall_mem_cons.mp good
        exact ⟨value, ⟨called, fine⟩, values, ⟨others, good⟩, rfl⟩

/-- Calls that all succeed do so in any order. -/
theorem mapM_perm {ε α β : Type} {call : α → Except ε β} {inputs others : List α}
    (perm : inputs.Perm others) {values : List β} (succeeds : inputs.mapM call = .ok values) :
    ∃ reordered, others.mapM call = .ok reordered ∧ values.Perm reordered := by
  induction perm generalizing values with
  | nil => exact ⟨values, succeeds, .refl values⟩
  | cons input _ inductionHypothesis =>
      simp only [List.mapM_cons, bind_eq_ok] at succeeds ⊢
      obtain ⟨value, called, rest, others, joined⟩ := succeeds
      cases joined
      obtain ⟨reordered, succeeds, perm⟩ := inductionHypothesis others
      exact ⟨value :: reordered, ⟨value, called, reordered, succeeds, rfl⟩, perm.cons value⟩
  | swap input other _ =>
      simp only [List.mapM_cons, bind_eq_ok] at succeeds ⊢
      obtain ⟨value, called, _, ⟨next, after, rest, others, inner⟩, joined⟩ := succeeds
      cases inner
      cases joined
      exact ⟨next :: value :: rest, ⟨next, after, _, ⟨value, called, rest, others, rfl⟩, rfl⟩,
        .swap next value rest⟩
  | trans _ _ first second =>
      obtain ⟨middle, succeeds, perm⟩ := first succeeds
      obtain ⟨reordered, succeeds, permAgain⟩ := second succeeds
      exact ⟨reordered, succeeds, perm.trans permAgain⟩

/-- A call that reads and writes a state of type `σ`. -/
abbrev Program (σ ε : Type) : Type → Type := ExceptT ε (StateM σ)

namespace Program

variable {σ ε α β : Type}

/-- The result of a call and the state it leaves. -/
def start (call : Program σ ε α) (state : σ) : Except ε α × σ := call.run.run state

/-- A call on the outside world, which is a part of the state. -/
def primitive (call : σ → α × σ) : Program σ ε α := fun state => (.ok (call state).1, (call state).2)

/-- Read the state through a function. -/
def read (view : σ → α) : Program σ ε α := fun state => (.ok (view state), state)

/-- Update the state. -/
def update (edit : σ → σ) : Program σ ε Unit := fun state => (.ok (), edit state)

/-- Return early with an error. -/
def fail (code : ε) : Program σ ε α := fun state => (.error code, state)

/-- Turn an error of the call into a value of the caller. -/
def attempt (call : Program σ ε α) : Program σ ε (Except ε α) := fun state =>
  (.ok (call.start state).1, (call.start state).2)

/-- Return a result as it is. -/
def ofExcept : Except ε α → Program σ ε α
  | .ok value => pure value
  | .error code => fail code

/-- Run a call on a part of the state. -/
def focus {τ : Type} (part : σ → τ) (put : τ → σ → σ) (call : Program τ ε α) : Program σ ε α :=
  fun state => ((call.start (part state)).1, put (call.start (part state)).2 state)

/-! ### Weakest preconditions -/

/-- From `state`, the call ends with a result and a state that satisfy `post`. -/
def Ends (call : Program σ ε α) (state : σ) (post : Except ε α → σ → Prop) : Prop :=
  post (call.start state).1 (call.start state).2

theorem Ends.mono {call : Program σ ε α} {state : σ} {weak strong : Except ε α → σ → Prop}
    (ends : call.Ends state strong)
    (implies : ∀ result reached, strong result reached → weak result reached) :
    call.Ends state weak :=
  implies _ _ ends

@[simp] theorem ends_pure (value : α) (state : σ) (post : Except ε α → σ → Prop) :
    Ends (pure value : Program σ ε α) state post ↔ post (.ok value) state := Iff.rfl

theorem ends_bind (first : Program σ ε α) (next : α → Program σ ε β) (state : σ)
    (post : Except ε β → σ → Prop) :
    Ends (first >>= next) state post ↔
      first.Ends state fun result reached =>
        match result with
        | .ok value => (next value).Ends reached post
        | .error code => post (.error code) reached := by
  unfold Ends
  change post (ExceptT.bindCont next (first.start state).1 (first.start state).2).1
    (ExceptT.bindCont next (first.start state).1 (first.start state).2).2 ↔ _
  rcases first.start state with ⟨_ | _, reached⟩ <;> rfl

@[simp] theorem ends_primitive (call : σ → α × σ) (state : σ) (post : Except ε α → σ → Prop) :
    Ends (primitive call) state post ↔ post (.ok (call state).1) (call state).2 := Iff.rfl

@[simp] theorem ends_read (view : σ → α) (state : σ) (post : Except ε α → σ → Prop) :
    Ends (read view) state post ↔ post (.ok (view state)) state := Iff.rfl

@[simp] theorem ends_update (edit : σ → σ) (state : σ) (post : Except ε Unit → σ → Prop) :
    Ends (update edit) state post ↔ post (.ok ()) (edit state) := Iff.rfl

@[simp] theorem ends_fail (code : ε) (state : σ) (post : Except ε α → σ → Prop) :
    Ends (fail code) state post ↔ post (.error code) state := Iff.rfl

@[simp] theorem ends_attempt (call : Program σ ε α) (state : σ)
    (post : Except ε (Except ε α) → σ → Prop) :
    Ends call.attempt state post ↔ call.Ends state fun result reached => post (.ok result) reached :=
  Iff.rfl

theorem ends_ofExcept (result : Except ε α) (state : σ) (post : Except ε α → σ → Prop) :
    Ends (ofExcept result) state post ↔ post result state := by
  cases result with
  | ok value => exact Iff.rfl
  | error code => exact Iff.rfl

theorem ends_focus {τ : Type} (part : σ → τ) (put : τ → σ → σ) (call : Program τ ε α) (state : σ)
    (post : Except ε α → σ → Prop) :
    Ends (focus part put call) state post ↔
      call.Ends (part state) fun result reached => post result (put reached state) :=
  Iff.rfl

theorem ends_ite (condition : Prop) [Decidable condition] (yes no : Program σ ε α) (state : σ)
    (post : Except ε α → σ → Prop) :
    Ends (if condition then yes else no) state post ↔
      (condition → yes.Ends state post) ∧ (¬condition → no.Ends state post) := by
  by_cases holds : condition
  · simp [holds]
  · simp [holds]

/-! ### Invariants -/

section

variable {invariant : σ → Prop}

/-- The call keeps an invariant of the state, however it ends. -/
def Keeps (call : Program σ ε α) (invariant : σ → Prop) : Prop :=
  ∀ state, invariant state → call.Ends state fun _ reached => invariant reached

theorem keeps_pure (value : α) : Keeps (pure value : Program σ ε α) invariant :=
  fun _ holds => holds

theorem keeps_fail (code : ε) : Keeps (fail code : Program σ ε α) invariant :=
  fun _ holds => holds

theorem keeps_read (view : σ → α) : Keeps (read view : Program σ ε α) invariant :=
  fun _ holds => holds

theorem keeps_update {edit : σ → σ} (kept : ∀ state, invariant state → invariant (edit state)) :
    Keeps (update edit : Program σ ε Unit) invariant :=
  kept

theorem keeps_attempt {call : Program σ ε α} (keeps : Keeps call invariant) :
    Keeps call.attempt invariant := keeps

theorem keeps_ofExcept (result : Except ε α) :
    Keeps (ofExcept result : Program σ ε α) invariant := by
  intro state holds
  rw [ends_ofExcept]
  exact holds

theorem keeps_bind {first : Program σ ε α} {next : α → Program σ ε β}
    (firstKeeps : Keeps first invariant) (nextKeeps : ∀ value, Keeps (next value) invariant) :
    Keeps (first >>= next) invariant := by
  intro state holds
  rw [ends_bind]
  refine (firstKeeps state holds).mono fun result reached holds => ?_
  cases result with
  | ok value => exact nextKeeps value reached holds
  | error code => exact holds

theorem keeps_ite {condition : Prop} [Decidable condition] {yes no : Program σ ε α}
    (yesKeeps : condition → Keeps yes invariant) (noKeeps : ¬condition → Keeps no invariant) :
    Keeps (if condition then yes else no) invariant := by
  by_cases holds : condition
  · rw [if_pos holds]
    exact yesKeeps holds
  · rw [if_neg holds]
    exact noKeeps holds

end

/-! ### Weakest preconditions through a view -/

section

variable {ν : Type} {view : σ → ν} {seen : ν}

/-- From every state that looks like `seen`, the call ends with a result and a view
of its state that satisfy `post`. -/
def Views (view : σ → ν) (call : Program σ ε α) (seen : ν) (post : Except ε α → ν → Prop) : Prop :=
  ∀ state, view state = seen → call.Ends state fun result reached => post result (view reached)

theorem Views.mono {call : Program σ ε α} {weak strong : Except ε α → ν → Prop}
    (views : Views view call seen strong)
    (implies : ∀ result reached, strong result reached → weak result reached) :
    Views view call seen weak :=
  fun state looks => (views state looks).mono fun _ _ ends => implies _ _ ends

theorem views_pure {value : α} {post : Except ε α → ν → Prop} (ends : post (.ok value) seen) :
    Views view (pure value) seen post := by
  rintro state rfl
  exact ends

theorem views_fail {code : ε} {post : Except ε α → ν → Prop} (ends : post (.error code) seen) :
    Views view (fail code) seen post := by
  rintro state rfl
  exact ends

theorem views_bind {first : Program σ ε α} {next : α → Program σ ε β} {post : Except ε β → ν → Prop}
    (views : Views view first seen fun result reached =>
      match result with
      | .ok value => Views view (next value) reached post
      | .error code => post (.error code) reached) :
    Views view (first >>= next) seen post := by
  intro state looks
  rw [ends_bind]
  refine (views state looks).mono fun result reached ends => ?_
  cases result with
  | ok value => exact ends reached rfl
  | error code => exact ends

/-- Only the part that the view shows can be read. -/
theorem views_read {part : σ → α} {next : α → Program σ ε β} {post : Except ε β → ν → Prop}
    (shown : ν → α) (shows : ∀ state, part state = shown (view state))
    (views : Views view (next (shown seen)) seen post) :
    Views view (read part >>= next) seen post := by
  rintro state rfl
  rw [ends_bind, ends_read, shows]
  exact views state rfl

theorem views_update {edit : σ → σ} {post : Except ε Unit → ν → Prop} (change : ν → ν)
    (shows : ∀ state, view (edit state) = change (view state)) (ends : post (.ok ()) (change seen)) :
    Views view (update edit) seen post := by
  rintro state rfl
  rw [ends_update, shows]
  exact ends

theorem views_attempt {call : Program σ ε α} {post : Except ε (Except ε α) → ν → Prop}
    (views : Views view call seen fun result reached => post (.ok result) reached) :
    Views view call.attempt seen post := views

end

end Program

end KeyRight.Support
