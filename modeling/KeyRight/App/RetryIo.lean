import KeyRight.App.State

/-!
Owns `retry_io` of `firmware/app/src/boot.rs`: an operation of the boot is retried after an
adapter-reported I/O error, with growing waits in seconds that keep the watchdog fed.

An operation that has not ended yet has no result; a boot may be cut off after any number of
attempts. Does not own any operation.
-/

namespace KeyRight.App

/-- The error of the storage adapter, among the codes that the model only numbers. -/
def STD_IO_ERROR : ErrorCode := .other 0

/-- What the retries do, in order. -/
inductive RetryEvent where
  | feed
  /-- The error that the attempt ended with, if it did. -/
  | attempt (failure : Option ErrorCode)
  | report (code : ErrorCode) (seconds : Nat)
  | sleep (seconds : Nat)
deriving DecidableEq, Repr

variable {σ α : Type}

structure Retried (σ α : Type) where
  result : Option (Except ErrorCode α)
  state : σ
  events : List RetryEvent

/-- The waits of one second each, every one of them followed by a feed. -/
def pausing (seconds : Nat) : List RetryEvent := (List.replicate seconds [.sleep 1, .feed]).flatten

@[simp] theorem pausing_zero : pausing 0 = [] := rfl

@[simp] theorem pausing_succ (seconds : Nat) :
    pausing (seconds + 1) = .sleep 1 :: .feed :: pausing seconds := rfl

/-- The loop, for some more attempts and from the present delay on. -/
def retryIoFrom (operation : σ → Option (Except ErrorCode α) × σ) : Nat → Nat → σ → Retried σ α
  | 0, _, state => ⟨none, state, []⟩
  | attempts + 1, delaySeconds, state =>
      match operation state with
      | (none, reached) => ⟨none, reached, [.feed, .attempt none]⟩
      | (some (.ok value), reached) => ⟨some (.ok value), reached, [.feed, .attempt none]⟩
      | (some (.error code), reached) =>
          if code ≠ STD_IO_ERROR then ⟨some (.error code), reached, [.feed, .attempt (some code)]⟩
          else
            let later := retryIoFrom operation attempts (min (delaySeconds * 2) 60) reached
            { later with
              events := .feed :: .attempt (some code) :: .report code delaySeconds ::
                (pausing delaySeconds ++ later.events) }

def retryIo (operation : σ → Option (Except ErrorCode α) × σ) (attempts : Nat) (state : σ) :
    Retried σ α :=
  retryIoFrom operation attempts 5 state

/-- The error of an answer, if it is one. -/
def failure : Option (Except ErrorCode α) → Option ErrorCode
  | some (.error code) => some code
  | _ => none

theorem failure_eq_some {answer : Option (Except ErrorCode α)} {code : ErrorCode} :
    failure answer = some code ↔ answer = some (.error code) := by
  rcases answer with _ | error | value <;> simp [failure]

section

variable {operation : σ → Option (Except ErrorCode α) × σ}

/-- A round ends the retries with the result of its operation, or reports an I/O error. -/
theorem retryIoFrom_succ (operation : σ → Option (Except ErrorCode α) × σ)
    (attempts delaySeconds : Nat) (state : σ) :
    (failure (operation state).1 ≠ some STD_IO_ERROR ∧
        retryIoFrom operation (attempts + 1) delaySeconds state =
          ⟨(operation state).1, (operation state).2,
            [.feed, .attempt (failure (operation state).1)]⟩) ∨
      failure (operation state).1 = some STD_IO_ERROR ∧ ∃ later,
        later = retryIoFrom operation attempts (min (delaySeconds * 2) 60) (operation state).2 ∧
        retryIoFrom operation (attempts + 1) delaySeconds state =
          { later with
            events := .feed :: .attempt (some STD_IO_ERROR) ::
              .report STD_IO_ERROR delaySeconds :: (pausing delaySeconds ++ later.events) } := by
  rcases answer : operation state with ⟨_ | code | value, reached⟩
  · exact .inl ⟨by simp [failure], by rw [retryIoFrom, answer]; rfl⟩
  · by_cases storage : code = STD_IO_ERROR
    · subst storage
      refine .inr ⟨rfl, _, rfl, ?_⟩
      simp only [retryIoFrom, answer, ne_eq, not_true_eq_false, if_false]
    · refine .inl ⟨by simpa [failure], ?_⟩
      rw [retryIoFrom, answer]
      exact if_pos storage
  · exact .inl ⟨by simp [failure], by rw [retryIoFrom, answer]; rfl⟩

/-- What every attempt keeps, and what it promises of a result, holds of the retries. -/
theorem retryIoFrom_rule (invariant : σ → Prop) (post : Except ErrorCode α → σ → Prop)
    (each : ∀ state, invariant state → invariant (operation state).2 ∧
      ∀ result, (operation state).1 = some result → post result (operation state).2)
    (attempts delaySeconds : Nat) {state : σ} (initially : invariant state) :
    invariant (retryIoFrom operation attempts delaySeconds state).state ∧
      ∀ result, (retryIoFrom operation attempts delaySeconds state).result = some result →
        post result (retryIoFrom operation attempts delaySeconds state).state := by
  induction attempts generalizing delaySeconds state with
  | zero => exact ⟨initially, fun result wrong => by cases wrong⟩
  | succ attempts inductionHypothesis =>
      obtain ⟨kept, promised⟩ := each state initially
      rcases retryIoFrom_succ operation attempts delaySeconds state with
        ⟨_, ends⟩ | ⟨_, later, rfl, retries⟩
      · rw [ends]
        exact ⟨kept, promised⟩
      · rw [retries]
        exact inductionHypothesis _ kept

end

/-! ### Waits -/

/-- The wait after the I/O error of this number. -/
def pause (errors : Nat) : Nat := min 60 (5 * 2 ^ errors)

theorem pause_succ (errors : Nat) : min (pause errors * 2) 60 = pause (errors + 1) := by
  unfold pause
  rw [Nat.pow_succ]
  omega

theorem pause_pos (errors : Nat) : 0 < pause errors := by
  have power : 0 < 2 ^ errors := Nat.two_pow_pos errors
  unfold pause
  omega

/-- The seconds slept until the next attempt. -/
def slept : List RetryEvent → Nat
  | [] => 0
  | .attempt _ :: _ => 0
  | .sleep seconds :: rest => seconds + slept rest
  | _ :: rest => slept rest

/-- The seconds slept after each attempt that ended with an I/O error. -/
def waits : List RetryEvent → List Nat
  | [] => []
  | .attempt failure :: rest =>
      if failure = some STD_IO_ERROR then slept rest :: waits rest else waits rest
  | _ :: rest => waits rest

/-- The number of the attempts that ended with an I/O error. -/
def ioErrors (events : List RetryEvent) : Nat := events.count (.attempt (some STD_IO_ERROR))

def RetryEvent.failure : RetryEvent → Option (Option ErrorCode)
  | .attempt failure => some failure
  | _ => none

/-- How the attempts ended, in order. -/
def failures (events : List RetryEvent) : List (Option ErrorCode) :=
  events.filterMap RetryEvent.failure

/-- How an operation ends that is asked again while it ends with an I/O error. -/
def endings (operation : σ → Option (Except ErrorCode α) × σ) : Nat → σ → List (Option ErrorCode)
  | 0, _ => []
  | attempts + 1, state =>
      failure (operation state).1 ::
        if failure (operation state).1 = some STD_IO_ERROR then
          endings operation attempts (operation state).2
        else []

theorem slept_pausing (seconds : Nat) (rest : List RetryEvent) :
    slept (pausing seconds ++ rest) = seconds + slept rest := by
  induction seconds with
  | zero => simp
  | succ seconds inductionHypothesis =>
      simp only [pausing_succ, List.cons_append, slept, inductionHypothesis]
      omega

theorem waits_pausing (seconds : Nat) (rest : List RetryEvent) :
    waits (pausing seconds ++ rest) = waits rest := by
  induction seconds with
  | zero => rfl
  | succ seconds inductionHypothesis =>
      simp only [pausing_succ, List.cons_append, waits, inductionHypothesis]

theorem ioErrors_pausing (seconds : Nat) (rest : List RetryEvent) :
    ioErrors (pausing seconds ++ rest) = ioErrors rest := by
  induction seconds with
  | zero => rfl
  | succ seconds inductionHypothesis =>
      rw [pausing_succ, List.cons_append, List.cons_append, ioErrors, List.count_cons_of_ne (by simp),
        List.count_cons_of_ne (by simp)]
      exact inductionHypothesis

theorem failures_pausing (seconds : Nat) (rest : List RetryEvent) :
    failures (pausing seconds ++ rest) = failures rest := by
  induction seconds with
  | zero => rfl
  | succ seconds inductionHypothesis => exact inductionHypothesis

/-- The attempts that the retries record are the attempts that they make. -/
theorem failures_retryIoFrom (operation : σ → Option (Except ErrorCode α) × σ)
    (attempts delaySeconds : Nat) (state : σ) :
    failures (retryIoFrom operation attempts delaySeconds state).events =
      endings operation attempts state := by
  induction attempts generalizing delaySeconds state with
  | zero => rfl
  | succ attempts inductionHypothesis =>
      rcases retryIoFrom_succ operation attempts delaySeconds state with
        ⟨unretried, ends⟩ | ⟨retried, later, rfl, retries⟩
      · rw [ends, endings, if_neg unretried]
        rfl
      · have rest := inductionHypothesis (min (delaySeconds * 2) 60) (operation state).2
        rw [retries, endings, if_pos retried, retried, ← rest]
        exact congrArg _ (failures_pausing _ _)

/-- Each wait ends where the retries go on with an attempt, or are cut off. -/
theorem slept_retryIoFrom (operation : σ → Option (Except ErrorCode α) × σ)
    (attempts delaySeconds : Nat) (state : σ) :
    slept (retryIoFrom operation attempts delaySeconds state).events = 0 := by
  cases attempts with
  | zero => rfl
  | succ attempts =>
      rcases retryIoFrom_succ operation attempts delaySeconds state with
        ⟨_, ends⟩ | ⟨_, later, _, retries⟩
      · rw [ends]
        rfl
      · rw [retries]
        rfl

/-- Every I/O error of an attempt is followed by the wait of its number. -/
theorem waits_retryIoFrom (operation : σ → Option (Except ErrorCode α) × σ) (attempts first : Nat)
    (state : σ) :
    waits (retryIoFrom operation attempts (pause first) state).events =
      (List.range' first
        (ioErrors (retryIoFrom operation attempts (pause first) state).events)).map pause := by
  induction attempts generalizing first state with
  | zero => rfl
  | succ attempts inductionHypothesis =>
      rcases retryIoFrom_succ operation attempts (pause first) state with
        ⟨unretried, ends⟩ | ⟨_, later, rfl, retries⟩
      · have none : ioErrors [.feed, .attempt (failure (operation state).1)] = 0 := by
          simp [ioErrors, unretried]
        rw [ends, none]
        simp only [waits, unretried, if_false, List.range'_zero, List.map_nil]
      · rw [pause_succ] at retries
        have rest := inductionHypothesis (first + 1) (operation state).2
        have one : ∀ seconds events, ioErrors (.feed :: .attempt (some STD_IO_ERROR) ::
            .report STD_IO_ERROR seconds :: (pausing seconds ++ events)) = ioErrors events + 1 := by
          intro seconds events
          rw [← ioErrors_pausing seconds events]
          simp [ioErrors]
        rw [retries, one, List.range'_succ, List.map_cons, ← rest]
        simp only [waits, if_true, slept, waits_pausing, slept_pausing, slept_retryIoFrom,
          Nat.add_zero]

/-! ### Watchdog -/

def RetryEvent.isFeed : RetryEvent → Bool
  | .feed => true
  | _ => false

def RetryEvent.isAttempt : RetryEvent → Bool
  | .attempt _ => true
  | _ => false

/-- At most one attempt and one second of sleep. -/
structure Brisk (gap : List RetryEvent) : Prop where
  attempts : gap.countP RetryEvent.isAttempt ≤ 1
  sleeps : gap.count (.sleep 1) ≤ 1
  seconds : ∀ seconds, .sleep seconds ∈ gap → seconds = 1

/-- So it is between any two consecutive feeds. -/
def Fed (events : List RetryEvent) : Prop := ∀ gap ∈ events.splitOnP RetryEvent.isFeed, Brisk gap

theorem fed_feed {before after : List RetryEvent} :
    Fed (before ++ .feed :: after) ↔ Fed before ∧ Fed after := by
  unfold Fed
  rw [List.splitOnP_append_cons before after rfl]
  exact List.forall_mem_append

theorem Brisk.fed {gap : List RetryEvent} (brisk : Brisk gap)
    (unfed : ∀ event ∈ gap, event.isFeed = false) : Fed gap := by
  intro other member
  rw [List.splitOnP_eq_singleton unfed, List.mem_singleton] at member
  rw [member]
  exact brisk

theorem fed_nil : Fed [] := Brisk.fed ⟨by simp, by simp, by simp⟩ (by simp)

theorem fed_sleep : Fed [.sleep 1] := Brisk.fed ⟨by decide, by decide, by simp⟩ (by simp [RetryEvent.isFeed])

theorem fed_attempt (failure : Option ErrorCode) : Fed [.attempt failure] :=
  Brisk.fed ⟨Nat.le_refl 1, by simp, by simp⟩ (by simp [RetryEvent.isFeed])

theorem fed_error (failure : Option ErrorCode) (code : ErrorCode) (seconds : Nat) :
    Fed [.attempt failure, .report code seconds, .sleep 1] :=
  Brisk.fed ⟨Nat.le_refl 1, by simp, by simp⟩ (by simp [RetryEvent.isFeed])

theorem Fed.pausing {rest : List RetryEvent} (fed : Fed rest) (seconds : Nat) :
    Fed (pausing seconds ++ rest) := by
  induction seconds with
  | zero => exact fed
  | succ seconds inductionHypothesis => exact fed_feed.mpr ⟨fed_sleep, inductionHypothesis⟩

theorem fed_retryIoFrom (operation : σ → Option (Except ErrorCode α) × σ) (attempts first : Nat)
    (state : σ) : Fed (retryIoFrom operation attempts (pause first) state).events := by
  induction attempts generalizing first state with
  | zero => exact fed_nil
  | succ attempts inductionHypothesis =>
      rcases retryIoFrom_succ operation attempts (pause first) state with
        ⟨_, ends⟩ | ⟨_, later, rfl, retries⟩
      · rw [ends]
        exact fed_feed.mpr ⟨fed_nil, fed_attempt _⟩
      · obtain ⟨seconds, positive⟩ := Nat.exists_eq_succ_of_ne_zero (pause_pos first).ne'
        have later := inductionHypothesis (first + 1) (operation state).2
        rw [retries, pause_succ, positive]
        -- the error and the first second of the wait share a gap
        exact fed_feed.mpr ⟨fed_nil, fed_feed.mpr ⟨fed_error _ _ _, later.pausing seconds⟩⟩

/-- A run of the retries feeds the watchdog each second, and waits longer after each I/O error
that its operation ends with. -/
theorem retryIo_paced (operation : σ → Option (Except ErrorCode α) × σ) (attempts : Nat) (state : σ) :
    Fed (retryIo operation attempts state).events ∧
      failures (retryIo operation attempts state).events = endings operation attempts state ∧
      waits (retryIo operation attempts state).events =
        (List.range (ioErrors (retryIo operation attempts state).events)).map pause := by
  refine ⟨fed_retryIoFrom operation attempts 0 state, failures_retryIoFrom operation attempts 5 state, ?_⟩
  rw [List.range_eq_range']
  exact waits_retryIoFrom operation attempts 0 state

end KeyRight.App
