import Mathlib.Data.List.DropRight
import Mathlib.Data.List.Induction
import KeyRight.Support.Run

/-!
Owns what a machine can remember of the end of its input list: whether a mark still stands,
how many inputs came since the last reset, and when the unbroken run of inputs of one kind
began.

Does not own any concrete machine or input.
-/

namespace KeyRight.Support

variable {ι : Type}

/-! ### Marks -/

/-- Some input sets the mark, and no later one clears it. -/
def Marked (sets clears : ι → Prop) (inputs : List ι) : Prop :=
  ∃ before input after, inputs = before ++ input :: after ∧ sets input ∧
    ∀ later ∈ after, ¬clears later

theorem not_marked_nil (sets clears : ι → Prop) : ¬Marked sets clears [] := by
  rintro ⟨before, input, after, split, _⟩
  simp at split

/-- Of one input, setting comes after clearing. -/
theorem marked_concat {sets clears : ι → Prop} {inputs : List ι} {input : ι} :
    Marked sets clears (inputs ++ [input]) ↔
      sets input ∨ (Marked sets clears inputs ∧ ¬clears input) := by
  constructor
  · rintro ⟨before, mark, after, split, set, kept⟩
    rcases List.eq_nil_or_concat after with rfl | ⟨init, last, rfl⟩
    · obtain ⟨_, same⟩ := List.append_inj' split rfl
      cases same
      exact .inl set
    · rw [List.concat_eq_append, ← List.cons_append, ← List.append_assoc] at split
      obtain ⟨same, ends⟩ := List.append_inj' split rfl
      cases ends
      refine .inr ⟨⟨before, mark, init, same, set, fun later member => ?_⟩, ?_⟩
      · exact kept later (by simp [member])
      · exact kept input (by simp)
  · rintro (set | ⟨⟨before, mark, after, split, set, kept⟩, stays⟩)
    · exact ⟨inputs, input, [], rfl, set, by simp⟩
    · refine ⟨before, mark, after ++ [input], by simp [split], set, fun later member => ?_⟩
      rcases List.mem_append.mp member with early | last
      · exact kept later early
      · rw [List.mem_singleton.mp last]
        exact stays

/-! ### Occurrences -/

/-- Some input, together with the inputs before it, is of one kind. -/
def Occurs (kind : List ι → ι → Prop) (inputs : List ι) : Prop :=
  ∃ before input after, inputs = before ++ input :: after ∧ kind before input

theorem occurs_concat {kind : List ι → ι → Prop} {inputs : List ι} {input : ι} :
    Occurs kind (inputs ++ [input]) ↔ Occurs kind inputs ∨ kind inputs input := by
  constructor
  · rintro ⟨before, first, after, split, here⟩
    rcases List.eq_nil_or_concat after with rfl | ⟨init, last, rfl⟩
    · obtain ⟨rfl, same⟩ := List.append_inj' split rfl
      cases same
      exact .inr here
    · rw [List.concat_eq_append, ← List.cons_append, ← List.append_assoc] at split
      exact .inl ⟨before, first, init, (List.append_inj' split rfl).1, here⟩
  · rintro (⟨before, first, after, rfl, here⟩ | here)
    · exact ⟨before, first, after ++ [input], by simp, here⟩
    · exact ⟨inputs, input, [], rfl, here⟩

/-! ### Counts -/

section

variable (resets : ι → Prop) [DecidablePred resets]

/-- The number of inputs back to and including the last one that resets, or back to the
beginning; the latest input is the first of the list. -/
def countBack : List ι → Nat
  | [] => 0
  | input :: earlier => if resets input then 1 else countBack earlier + 1

/-- The same for a list in the order of arrival. -/
def sinceReset (inputs : List ι) : Nat := countBack resets inputs.reverse

variable {resets}

@[simp] theorem sinceReset_nil : sinceReset resets [] = 0 := rfl

theorem sinceReset_concat (inputs : List ι) (input : ι) :
    sinceReset resets (inputs ++ [input]) =
      if resets input then 1 else sinceReset resets inputs + 1 := by
  simp only [sinceReset, List.reverse_append, List.reverse_singleton, List.singleton_append,
    countBack]

end

/-! ### Streaks -/

/-- The length of the unbroken run of bad inputs at the end. -/
def streak (bad : ι → Bool) (inputs : List ι) : Nat := (inputs.rtakeWhile bad).length

section

variable {bad : ι → Bool}

@[simp] theorem streak_nil : streak bad [] = 0 := rfl

theorem streak_concat (inputs : List ι) (input : ι) :
    streak bad (inputs ++ [input]) = if bad input then streak bad inputs + 1 else 0 := by
  unfold streak
  rw [List.rtakeWhile_concat]
  split
  · exact List.length_append
  · rfl

end

/-! ### Unbroken runs -/

section

variable {bad : ι → Bool}

/-- `inputs` end with `run`, the unbroken run of bad inputs; `earlier` come before it. -/
structure Unbroken (bad : ι → Bool) (inputs earlier run : List ι) : Prop where
  split : inputs = earlier ++ run
  all : ∀ input ∈ run, bad input
  broken : ∀ last ∈ earlier.getLast?, ¬bad last

theorem Unbroken.rtakeWhile {inputs earlier run : List ι} (unbroken : Unbroken bad inputs earlier run) :
    inputs.rtakeWhile bad = run := by
  obtain ⟨rfl, all, broken⟩ := unbroken
  induction run using List.reverseRecOn with
  | nil =>
      rw [List.append_nil, List.rtakeWhile_eq_nil_iff]
      exact fun nonempty => broken _ (List.getLast?_eq_some_getLast nonempty)
  | append_singleton run last inductionHypothesis =>
      rw [← List.append_assoc, List.rtakeWhile_concat_pos _ _ _ (all last (by simp)),
        inductionHypothesis fun input member => all input (by simp [member])]

theorem unbroken_rtakeWhile (bad : ι → Bool) (inputs : List ι) :
    Unbroken bad inputs (inputs.rdropWhile bad) (inputs.rtakeWhile bad) := by
  refine ⟨List.rdropWhile_append_rtakeWhile.symm, fun input member => List.mem_rtakeWhile_imp member,
    fun last ends => ?_⟩
  obtain ⟨nonempty, rfl⟩ := List.mem_getLast?_eq_getLast ends
  exact List.rdropWhile_last_not bad inputs nonempty

end

/-! ### The first bad input -/

section

variable (bad : ι → Bool)

/-- Since when the inputs have been bad. -/
def badSince (inputs : List (Nat × ι)) : Option Nat :=
  (inputs.rtakeWhile fun input => bad input.2).head?.map Prod.fst

/-- The unbroken run of bad inputs at the end began at least `limit` before `now`. -/
def Sustained (limit : Nat) (inputs : List (Nat × ι)) (now : Nat) : Prop :=
  ∃ earlier first later, Unbroken (fun input => bad input.2) inputs earlier (first :: later) ∧
    first.1 + limit ≤ now

variable {bad}

@[simp] theorem badSince_nil : badSince bad [] = none := rfl

theorem badSince_concat (inputs : List (Nat × ι)) (input : Nat × ι) :
    badSince bad (inputs ++ [input]) =
      if bad input.2 then some ((badSince bad inputs).getD input.1) else none := by
  unfold badSince
  rw [List.rtakeWhile_concat]
  split
  · cases inputs.rtakeWhile fun input => bad input.2 <;> rfl
  · rfl

theorem sustained_iff {limit : Nat} {inputs : List (Nat × ι)} {now : Nat} :
    Sustained bad limit inputs now ↔ ∃ since, badSince bad inputs = some since ∧ since + limit ≤ now := by
  constructor
  · rintro ⟨earlier, first, later, unbroken, passed⟩
    exact ⟨first.1, by rw [badSince, unbroken.rtakeWhile]; rfl, passed⟩
  · rintro ⟨since, began, passed⟩
    obtain ⟨first, starts, rfl⟩ := Option.map_eq_some_iff.mp began
    obtain ⟨later, run⟩ := List.head?_eq_some_iff.mp starts
    have unbroken := unbroken_rtakeWhile (fun input : Nat × ι => bad input.2) inputs
    rw [run] at unbroken
    exact ⟨_, first, later, unbroken, passed⟩

/-- The same, asked when the last input arrives. -/
theorem sustained_concat {limit : Nat} (positive : 0 < limit) {inputs : List (Nat × ι)}
    {input : Nat × ι} :
    Sustained bad limit (inputs ++ [input]) input.1 ↔
      bad input.2 ∧ limit ≤ input.1 - (badSince bad inputs).getD input.1 := by
  rw [sustained_iff, badSince_concat]
  by_cases again : bad input.2
  · simp only [again, if_true, Option.some.injEq, exists_eq_left', true_and]
    omega
  · simp [again]

/-- A machine that keeps the time of its first bad input, and forgets it at any other input. -/
theorem stateAfter_badSince {σ β : Type} {step : σ → Nat × ι → σ × β} {since : σ → Option Nat}
    (each : ∀ state input, since (step state input).1 =
      if bad input.2 then some ((since state).getD input.1) else none)
    {start : σ} (initially : since start = none) (inputs : List (Nat × ι)) :
    since (stateAfter step start inputs) = badSince bad inputs := by
  induction inputs using List.reverseRecOn with
  | nil => exact initially
  | append_singleton inputs input inductionHypothesis =>
      rw [stateAfter_concat, each, inductionHypothesis, badSince_concat]

/-- If it also answers whether its first bad input is old enough, it tells a sustained run. -/
theorem stateAfter_sustained {σ : Type} {step : σ → Nat × ι → σ × Bool} {since : σ → Option Nat}
    {limit : Nat} (positive : 0 < limit)
    (each : ∀ state input, since (step state input).1 =
      if bad input.2 then some ((since state).getD input.1) else none)
    (answers : ∀ state input, (step state input).2 = true ↔
      bad input.2 ∧ limit ≤ input.1 - (since state).getD input.1)
    {start : σ} (initially : since start = none) (before : List (Nat × ι)) (input : Nat × ι) :
    (step (stateAfter step start before) input).2 = true ↔
      Sustained bad limit (before ++ [input]) input.1 := by
  rw [sustained_concat positive, answers, stateAfter_badSince each initially]

end

end KeyRight.Support
