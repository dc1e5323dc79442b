import Mathlib.Data.List.Induction
import KeyRight.Support.Run

/-!
Owns timed runs, in which every input carries the time at which it arrives: the intervals
throughout which a condition on the state holds, and the stopwatch that measures the
longest of them since the last reset.

Does not own any concrete machine or condition.
-/

namespace KeyRight.Support

variable {σ ι : Type}

/-! ### Times -/

/-- The time from which the state after these inputs is in force. -/
def lastTime (origin : Nat) (inputs : List (Nat × ι)) : Nat :=
  (inputs.getLast?.map Prod.fst).getD origin

/-- The time until which the state before these inputs is in force. -/
def nextTime (now : Nat) (inputs : List (Nat × ι)) : Nat :=
  (inputs.head?.map Prod.fst).getD now

@[simp] theorem lastTime_nil (origin : Nat) : lastTime origin ([] : List (Nat × ι)) = origin := rfl

@[simp] theorem lastTime_concat (origin : Nat) (inputs : List (Nat × ι)) (input : Nat × ι) :
    lastTime origin (inputs ++ [input]) = input.1 := by
  simp [lastTime]

@[simp] theorem nextTime_nil (now : Nat) : nextTime now ([] : List (Nat × ι)) = now := rfl

@[simp] theorem nextTime_cons (now : Nat) (input : Nat × ι) (rest : List (Nat × ι)) :
    nextTime now (input :: rest) = input.1 := rfl

/-- The times never decrease up to `now`. -/
structure Ordered (inputs : List (Nat × ι)) (now : Nat) : Prop where
  pairwise : inputs.Pairwise fun earlier later => earlier.1 ≤ later.1
  past : ∀ input ∈ inputs, input.1 ≤ now

theorem ordered_concat {inputs : List (Nat × ι)} {input : Nat × ι} {now : Nat} :
    Ordered (inputs ++ [input]) now ↔ Ordered inputs input.1 ∧ input.1 ≤ now := by
  constructor
  · intro ordered
    obtain ⟨before, _, apart⟩ := List.pairwise_append.mp ordered.pairwise
    refine ⟨⟨before, fun earlier member => apart earlier member input (by simp)⟩, ?_⟩
    exact ordered.past input (by simp)
  · rintro ⟨ordered, present⟩
    refine ⟨List.pairwise_append.mpr ⟨ordered.pairwise, by simp, ?_⟩, fun earlier member => ?_⟩
    · intro earlier member later same
      rw [List.mem_singleton.mp same]
      exact ordered.past earlier member
    · rcases List.mem_append.mp member with early | last
      · exact Nat.le_trans (ordered.past earlier early) present
      · rw [List.mem_singleton.mp last]
        exact present

theorem Ordered.lastTime_le {inputs : List (Nat × ι)} {now : Nat} (ordered : Ordered inputs now) :
    lastTime 0 inputs ≤ now := by
  induction inputs using List.reverseRecOn with
  | nil => exact Nat.zero_le now
  | append_singleton inputs input _ =>
      rw [lastTime_concat]
      exact (ordered_concat.mp ordered).2

theorem Ordered.nextTime_le {first later : List (Nat × ι)} {now : Nat}
    (ordered : Ordered (first ++ later) now) : nextTime now later ≤ now := by
  cases later with
  | nil => exact Nat.le_refl now
  | cons next rest => exact ordered.past next (by simp)

theorem Ordered.le_nextTime {first later : List (Nat × ι)} {now : Nat}
    (ordered : Ordered (first ++ later) now) {input : Nat × ι} (member : input ∈ first) :
    input.1 ≤ nextTime now later := by
  cases later with
  | nil => exact ordered.past input (by simp [member])
  | cons next rest =>
      obtain ⟨_, _, apart⟩ := List.pairwise_append.mp ordered.pairwise
      exact apart input member next List.mem_cons_self

theorem Ordered.nextTime_le_lastTime {first more rest : List (Nat × ι)} {now : Nat}
    (ordered : Ordered (first ++ (more ++ rest)) now) (nonempty : more ≠ []) :
    nextTime now (more ++ rest) ≤ lastTime 0 (first ++ more) := by
  obtain ⟨init, last, rfl⟩ : ∃ init last, more = init ++ [last] :=
    ⟨_, _, (List.dropLast_concat_getLast nonempty).symm⟩
  rw [← List.append_assoc first, lastTime_concat]
  cases init with
  | nil => exact Nat.le_refl _
  | cons next init =>
      obtain ⟨_, later, _⟩ := List.pairwise_append.mp ordered.pairwise
      exact (List.pairwise_cons.mp later).1 last (by simp)

/-- Times that lie apart from each other do not fit an interval in any number. -/
theorem length_le_of_spaced {gap since till : Nat} {times : List Nat}
    (spaced : times.Pairwise fun earlier later => earlier + gap ≤ later)
    (within : ∀ time ∈ times, since ≤ time ∧ time ≤ till) :
    gap * times.length ≤ till - since + gap := by
  induction times generalizing since with
  | nil => exact Nat.zero_le _
  | cons first rest inductionHypothesis =>
      obtain ⟨apart, spaced⟩ := List.pairwise_cons.mp spaced
      obtain ⟨after, before⟩ := within first List.mem_cons_self
      rcases rest with _ | ⟨second, rest⟩
      · simp
      · have later : ∀ time ∈ second :: rest, first + gap ≤ time ∧ time ≤ till := fun time member =>
          ⟨apart time member, (within time (List.mem_cons_of_mem _ member)).2⟩
        have fits := inductionHypothesis spaced later
        have last := later second List.mem_cons_self
        rw [List.length_cons, Nat.mul_succ]
        omega

/-! ### Intervals -/

section

variable (step : σ → Nat × ι → σ) (holds : σ → Prop) (resets : ι → Prop)

/-- The condition holds from `start` on, in every state along the inputs. -/
def Throughout (start : σ) (inputs : List (Nat × ι)) : Prop :=
  ∀ sofar, sofar <+: inputs → holds (runAll step start sofar)

variable {step holds} in
theorem Throughout.nil {start : σ} (initially : holds start) : Throughout step holds start [] := by
  intro sofar before
  rw [List.prefix_nil.mp before]
  exact initially

variable {step holds} in
theorem Throughout.concat {start : σ} {inputs : List (Nat × ι)} {input : Nat × ι}
    (throughout : Throughout step holds start inputs)
    (ultimately : holds (runAll step start (inputs ++ [input]))) :
    Throughout step holds start (inputs ++ [input]) := by
  intro sofar before
  rcases List.prefix_concat_iff.mp before with rfl | early
  · exact ultimately
  · exact throughout sofar early

/-- A single interval of the run up to `now`, since the last reset, throughout which the
condition holds: it starts with the state after `before` and ends with the state after
`during`. -/
def Interval (start : σ) (inputs : List (Nat × ι)) (now since till : Nat) : Prop :=
  ∃ before during rest, inputs = before ++ (during ++ rest) ∧
    Throughout step holds (runAll step start before) during ∧
    (∀ input ∈ during ++ rest, ¬resets input.2) ∧
    lastTime 0 before = since ∧ nextTime now rest = till

/-- The length of such an interval, or none. -/
def Lasts (start : σ) (inputs : List (Nat × ι)) (now length : Nat) : Prop :=
  length = 0 ∨ ∃ since till, Interval step holds resets start inputs now since till ∧
    length = till - since

end

/-! ### The stopwatch -/

/-- Since when the condition holds, and its longest interval that has ended. -/
structure Stopwatch where
  since : Option Nat
  longest : Nat

namespace Stopwatch

def stopped : Stopwatch := ⟨none, 0⟩

/-- The interval that is running. -/
def current (w : Stopwatch) (now : Nat) : Nat := w.since.elim 0 fun since => now - since

/-- The longest interval, the running one included. -/
def reading (w : Stopwatch) (now : Nat) : Nat := max w.longest (w.current now)

/-- A step at `now`, after which the condition holds or not. -/
def observe (w : Stopwatch) (now : Nat) (resets holds : Bool) : Stopwatch :=
  if resets then ⟨if holds then some now else none, 0⟩
  else if holds then ⟨some (w.since.getD now), w.longest⟩
  else ⟨none, w.reading now⟩

variable {w : Stopwatch} {now : Nat} {holds : Bool}

theorem longest_le_observe : w.longest ≤ (w.observe now false holds).longest := by
  cases holds with
  | true => exact Nat.le_refl _
  | false => exact Nat.le_max_left _ _

/-- An interval that ends is counted. -/
theorem counts_observe {since : Nat} (running : w.since = some since) :
    now - since ≤ (w.observe now false false).longest := by
  have elapsed : w.current now = now - since := by simp [current, running]
  rw [← elapsed]
  exact Nat.le_max_right _ _

/-- A condition that holds is timed, from before if it held before. -/
theorem since_observe {resets : Bool} (past : ∀ since, w.since = some since → since ≤ now) :
    ∃ since ≤ now, (w.observe now resets true).since = some since := by
  cases resets with
  | true => exact ⟨now, Nat.le_refl now, rfl⟩
  | false =>
      refine ⟨w.since.getD now, ?_, rfl⟩
      cases running : w.since with
      | none => exact Nat.le_refl now
      | some since => exact past since running

end Stopwatch

/-! ### Measured runs -/

section

variable (step : σ → Nat × ι → σ) (holds : σ → Prop) (resets : ι → Prop)
  [DecidablePred holds] [DecidablePred resets]

/-- A step of the machine, and of the stopwatch beside it. -/
def measure (s : σ × Stopwatch) (input : Nat × ι) : σ × Stopwatch :=
  (step s.1 input, s.2.observe input.1 (decide (resets input.2)) (decide (holds (step s.1 input))))

variable {step holds resets}

theorem runAll_measure (start : σ) (w : Stopwatch) (inputs : List (Nat × ι)) :
    (runAll (measure step holds resets) (start, w) inputs).1 = runAll step start inputs := by
  induction inputs generalizing start w with
  | nil => rfl
  | cons input rest inductionHypothesis => exact inductionHypothesis _ _

/-- The time on a running stopwatch belongs to an interval that has not ended. -/
def Running (step : σ → Nat × ι → σ) (holds : σ → Prop) (resets : ι → Prop) (start : σ)
    (inputs : List (Nat × ι)) (w : Stopwatch) : Prop :=
  ∀ since, w.since = some since → ∃ before during, inputs = before ++ during ∧
    Throughout step holds (runAll step start before) during ∧
    (∀ input ∈ during, ¬resets input.2) ∧ lastTime 0 before = since

/-- The longest time on a stopwatch belongs to an interval that has ended. -/
def Ended (step : σ → Nat × ι → σ) (holds : σ → Prop) (resets : ι → Prop) (start : σ)
    (inputs : List (Nat × ι)) (w : Stopwatch) : Prop :=
  w.longest = 0 ∨ ∃ before during last rest, inputs = before ++ (during ++ last :: rest) ∧
    Throughout step holds (runAll step start before) during ∧
    (∀ input ∈ during ++ last :: rest, ¬resets input.2) ∧ w.longest = last.1 - lastTime 0 before

omit [DecidablePred holds] [DecidablePred resets] in
/-- The new state alone is an interval that is running. -/
theorem Running.restart {start : σ} {inputs : List (Nat × ι)} {input : Nat × ι} {w : Stopwatch}
    (now : w.since = some input.1) (here : holds (runAll step start (inputs ++ [input]))) :
    Running step holds resets start (inputs ++ [input]) w := by
  intro since running
  cases now.symm.trans running
  exact ⟨inputs ++ [input], [], by simp, .nil here, by simp, lastTime_concat _ _ _⟩

theorem Running.concat {start : σ} {inputs : List (Nat × ι)} {input : Nat × ι} {w : Stopwatch}
    (running : Running step holds resets start inputs w) :
    Running step holds resets start (inputs ++ [input])
      (w.observe input.1 (decide (resets input.2))
        (decide (holds (runAll step start (inputs ++ [input]))))) := by
  by_cases here : holds (runAll step start (inputs ++ [input]))
  · rw [decide_eq_true here]
    by_cases reset : resets input.2
    · rw [decide_eq_true reset]
      exact .restart rfl here
    · rw [decide_eq_false reset]
      cases timed : w.since with
      | none => exact .restart (by simp [Stopwatch.observe, timed]) here
      | some since =>
          intro other same
          have same : since = other := by simpa [Stopwatch.observe, timed] using same
          subst same
          obtain ⟨before, during, rfl, throughout, unreset, began⟩ := running since timed
          refine ⟨before, during ++ [input], by simp, throughout.concat ?_, ?_, began⟩
          · rw [← runAll_append, ← List.append_assoc]
            exact here
          · intro later member
            rcases List.mem_append.mp member with early | last
            · exact unreset later early
            · rw [List.mem_singleton.mp last]
              exact reset
  · rw [decide_eq_false here]
    intro since timed
    cases reset : decide (resets input.2) with
    | true => simp [Stopwatch.observe, reset] at timed
    | false => simp [Stopwatch.observe, reset] at timed

omit [DecidablePred holds] in
theorem Ended.concat {start : σ} {inputs : List (Nat × ι)} {input : Nat × ι} {w : Stopwatch}
    (ended : Ended step holds resets start inputs w) (running : Running step holds resets start inputs w)
    (present : Bool) :
    Ended step holds resets start (inputs ++ [input])
      (w.observe input.1 (decide (resets input.2)) present) := by
  by_cases reset : resets input.2
  · rw [decide_eq_true reset]
    exact .inl rfl
  · rw [decide_eq_false reset]
    have kept : Ended step holds resets start (inputs ++ [input]) w := by
      refine ended.imp id ?_
      rintro ⟨before, during, last, rest, rfl, throughout, unreset, length⟩
      refine ⟨before, during, last, rest ++ [input], by simp, throughout, fun later member => ?_, length⟩
      rcases List.mem_append.mp (show later ∈ (during ++ last :: rest) ++ [input] by simpa using member)
        with early | new
      · exact unreset later early
      · rw [List.mem_singleton.mp new]
        exact reset
    cases present with
    | true => exact kept
    | false =>
        rcases Nat.le_total (w.current input.1) w.longest with shorter | longer
        · have same : (w.observe input.1 false false).longest = w.longest := Nat.max_eq_left shorter
          unfold Ended
          rw [same]
          exact kept
        · have same : (w.observe input.1 false false).longest = w.current input.1 := Nat.max_eq_right longer
          unfold Ended
          rw [same]
          cases timed : w.since with
          | none => exact .inl (by simp [Stopwatch.current, timed])
          | some since =>
              obtain ⟨before, during, rfl, throughout, unreset, rfl⟩ := running since timed
              refine .inr ⟨before, during, input, [], by simp, throughout, ?_, by simp [Stopwatch.current, timed]⟩
              intro later member
              rcases List.mem_append.mp member with early | last
              · exact unreset later early
              · rw [List.mem_singleton.mp last]
                exact reset

/-- The stopwatch beside a run. -/
def watch (step : σ → Nat × ι → σ) (holds : σ → Prop) (resets : ι → Prop) [DecidablePred holds]
    [DecidablePred resets] (start : σ) (inputs : List (Nat × ι)) : Stopwatch :=
  (runAll (measure step holds resets) (start, .stopped) inputs).2

theorem watch_concat (start : σ) (inputs : List (Nat × ι)) (input : Nat × ι) :
    watch step holds resets start (inputs ++ [input]) =
      (watch step holds resets start inputs).observe input.1 (decide (resets input.2))
        (decide (holds (runAll step start (inputs ++ [input])))) := by
  have before : (runAll (measure step holds resets) (start, .stopped) inputs).1 =
      runAll step start inputs := runAll_measure _ _ _
  rw [watch, runAll_append, runAll_append]
  change Stopwatch.observe _ _ _ (decide (holds (step (runAll (measure step holds resets) _ inputs).1 input))) = _
  rw [before]
  rfl

variable (step holds resets) in
theorem watch_intervals (start : σ) (inputs : List (Nat × ι)) :
    Running step holds resets start inputs (watch step holds resets start inputs) ∧
      Ended step holds resets start inputs (watch step holds resets start inputs) := by
  induction inputs using List.reverseRecOn with
  | nil => exact ⟨fun since timed => (nomatch timed), .inl rfl⟩
  | append_singleton inputs input inductionHypothesis =>
      rw [watch_concat]
      exact ⟨inductionHypothesis.1.concat, inductionHypothesis.2.concat inductionHypothesis.1 _⟩

/-- What a stopwatch shows is the length of a single interval since the last reset. -/
theorem watch_lasts (start : σ) (inputs : List (Nat × ι)) (now : Nat) :
    Lasts step holds resets start inputs now ((watch step holds resets start inputs).reading now) := by
  obtain ⟨running, ended⟩ := watch_intervals step holds resets start inputs
  rcases Nat.le_total ((watch step holds resets start inputs).current now)
      (watch step holds resets start inputs).longest with shorter | longer
  · rw [Stopwatch.reading, Nat.max_eq_left shorter]
    rcases ended with none | ⟨before, during, last, rest, same, throughout, unreset, length⟩
    · exact .inl none
    · exact .inr ⟨_, _, ⟨before, during, last :: rest, same, throughout, unreset, rfl, rfl⟩, length⟩
  · rw [Stopwatch.reading, Nat.max_eq_right longer]
    cases timed : (watch step holds resets start inputs).since with
    | none => exact .inl (by simp [Stopwatch.current, timed])
    | some since =>
        obtain ⟨before, during, same, throughout, unreset, began⟩ := running since timed
        refine .inr ⟨since, now, ⟨before, during, [], by simpa using same, throughout, ?_, began, rfl⟩, ?_⟩
        · simpa using unreset
        · simp [Stopwatch.current, timed]

/-! ### Bounds -/

omit [DecidablePred holds] [DecidablePred resets] in
/-- Where the condition fails in a state, an interval ends before it or starts after it. -/
theorem Interval.length_le {start : σ} {first later : List (Nat × ι)} {now since till : Nat}
    (ordered : Ordered (first ++ later) now) (fails : ¬holds (runAll step start first))
    (interval : Interval step holds resets start (first ++ later) now since till) :
    till - since ≤ max (nextTime now later) (now - nextTime now later) := by
  obtain ⟨before, during, rest, same, throughout, _, rfl, rfl⟩ := interval
  rcases List.prefix_or_prefix_of_prefix (List.prefix_append first later)
      (same ▸ List.prefix_append before (during ++ rest)) with ⟨more, rfl⟩ | ⟨sofar, rfl⟩
  · -- The interval starts after the failing state.
    rw [List.append_assoc, List.append_cancel_left_eq] at same
    subst same
    have nonempty : more ≠ [] := by
      rintro rfl
      refine fails ?_
      simpa using throughout [] List.nil_prefix
    have started := ordered.nextTime_le_lastTime nonempty
    have ends : nextTime now rest ≤ now := by
      have whole : Ordered ((first ++ more ++ during) ++ rest) now := by simpa using ordered
      exact whole.nextTime_le
    omega
  · -- The interval ends before the failing state.
    rw [List.append_assoc, List.append_cancel_left_eq] at same
    have outside : ¬sofar <+: during := fun inside => fails (by
      rw [runAll_append]
      exact throughout sofar inside)
    have inside : during <+: sofar :=
      (List.prefix_or_prefix_of_prefix (List.prefix_append sofar later)
        (same ▸ List.prefix_append during rest)).resolve_left outside
    obtain ⟨more, rfl⟩ := inside
    rw [List.append_assoc, List.append_cancel_left_eq] at same
    subst same
    cases more with
    | nil => exact absurd (by simp) outside
    | cons next more =>
        have ends : next.1 ≤ nextTime now later := ordered.le_nextTime (by simp)
        rw [List.cons_append, nextTime_cons]
        omega

end

end KeyRight.Support
