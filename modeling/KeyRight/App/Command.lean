import KeyRight.App.Continuity

/-!
Owns one command in which nothing fails: from a healthy runtime it succeeds and
acknowledges what its plan calls for at once, or is refused and changes nothing.

Does not own the plans.
-/

namespace KeyRight.App

open KeyRight.Core KeyRight.Support

variable {K H : Type}

theorem Glided.congr {s u : State H} {now : Nat} {t : Runtime K H} (glided : Glided s now t)
    (target : u.target = s.target) (level : u.levelTransition = s.levelTransition)
    (temperature : u.temperatureTransition = s.temperatureTransition) : Glided u now t := by
  refine ⟨glided.time, ?_, glided.target.trans target.symm, ?_, ?_, glided.healthy, glided.clean⟩
  · rw [State.effective_congr target level temperature]
    exact glided.shows
  · rw [glided.level, State.expire, State.expire, level]
  · rw [glided.temperature, State.expire, State.expire, temperature]

/-- The calls before `past` may be left out. -/
theorem SucceedsUnless.since {s : State H} {past : List (Event K H)} {event : Event K H} {now : Nat}
    {result : Except ErrorCode Unit} {t : Runtime K H}
    (succeeds : SucceedsUnless s (event :: past) now result t) :
    SucceedsUnless s past now result t := by
  obtain ⟨added, logged, failed | glided⟩ := succeeds
  · obtain ⟨failure, member, failed⟩ := failed
    refine ⟨added ++ [event], by simp [logged], .inl ⟨failure, ?_, failed⟩⟩
    exact List.mem_append_left _ member
  · exact ⟨added ++ [event], by simp [logged], .inr glided⟩

theorem SucceedsUnless.congr {s u : State H} {past : List (Event K H)} {now : Nat}
    {result : Except ErrorCode Unit} {t : Runtime K H} (succeeds : SucceedsUnless s past now result t)
    (target : u.target = s.target) (level : u.levelTransition = s.levelTransition)
    (temperature : u.temperatureTransition = s.temperatureTransition) :
    SucceedsUnless u past now result t := by
  obtain ⟨added, logged, failed | ⟨succeeded, glided⟩⟩ := succeeds
  · exact ⟨added, logged, .inl failed⟩
  · exact ⟨added, logged, .inr ⟨succeeded, glided.congr target level temperature⟩⟩

namespace Runtime

open Program

/-- From a healthy runtime, saving the new target either fails or leaves it settled. -/
theorem commit_succeeds [KvBlobStore K] [Hardware H] {r : Runtime K H}
    (known : r.state.controller.appliedFrame ≠ none) (healthy : Healthy r.state)
    (target : LightState) :
    Ends (commit target) r fun result t =>
      SucceedsUnless (r.state.setTarget target) r.trace r.now result t := by
  simp only [commit, edit, ends_bind, ends_read, ends_update]
  apply ends_saveIntent
  · intro clean
    exact reconcile_succeeds rfl ⟨known, healthy, clean⟩
  · intro dirty stored
    have settled : Settled (r.state.setTarget target).saved := ⟨known, healthy, rfl⟩
    refine Ends.mono (reconcile_succeeds rfl (by exact settled)) fun result t succeeds => ?_
    exact succeeds.since.congr rfl rfl rfl
  · intro dirty code refused hardware ok
    exact .of_failed rfl rfl

section

variable [KvBlobStore K] [Hardware H]

theorem planned_succeeds {r : Runtime K H} (settled : Settled r.state) {planner : Planner H}
    {plan : Plan} (answer : planner r.state r.now = .ok (some plan)) :
    Ends (planned planner) r fun result t =>
      SucceedsUnless ((r.state.setTracks plan).setTarget plan.target) r.trace r.now result t := by
  simp only [planned, writable, ends_bind, ends_read]
  rw [if_neg (by simp [settled.healthy.1]), if_neg (by simp [settled.healthy.2.1])]
  simp only [ends_pure, answer, edit, ends_bind, ends_update]
  exact commit_succeeds (r := r.onState fun s => s.setTracks plan) settled.known settled.healthy
    plan.target

/-- A command is the execution of its plan. -/
theorem perform_planned {operation : Operation} {planner : Planner H}
    (planning : operation.plan H = some planner) :
    (perform operation : Call K H Reply) = done (planned planner) := by
  have level : ∀ {level withOnOff durationMs curve},
      Operation.plan.levelPlan H level withOnOff durationMs curve = some planner →
        (levelTransition level withOnOff durationMs curve : Call K H Unit) = planned planner := by
    intro level withOnOff durationMs curve planning
    obtain ⟨valid, rfl⟩ := Operation.plan.of_levelPlan planning
    rw [levelTransition, dif_pos valid]
  have temperature : ∀ {temperature durationMs curve},
      Operation.plan.temperaturePlan H temperature durationMs curve = some planner →
        (temperatureTransition temperature durationMs curve : Call K H Unit) = planned planner := by
    intro temperature durationMs curve planning
    obtain ⟨short, rfl⟩ := Operation.plan.of_temperaturePlan planning
    rw [temperatureTransition, if_neg (Nat.not_lt.mpr short)]
  cases operation with
  | request target =>
      cases planning
      rw [perform, request, recallScene, if_neg (by decide)]
  | recallScene target durationMs =>
      obtain ⟨short, rfl⟩ := Operation.plan.of_recallScene planning
      rw [perform, recallScene, if_neg (Nat.not_lt.mpr short)]
  | setPower on =>
      cases planning
      rfl
  | setLevel value withOnOff => exact congrArg done (level planning)
  | setLevelTransition value withOnOff durationMs => exact congrArg done (level planning)
  | setLevelRate value withOnOff durationMs => exact congrArg done (level planning)
  | setTemperature value => exact congrArg done (temperature planning)
  | setTemperatureTransition value durationMs => exact congrArg done (temperature planning)
  | setTemperatureRate value durationMs => exact congrArg done (temperature planning)
  | offWithEffect effect =>
      cases planning
      rfl
  | stopLevelTransition =>
      cases planning
      rfl
  | stopTemperatureTransition =>
      cases planning
      rfl
  | _ => cases planning

/-- A quiet command of a settled runtime succeeds and acknowledges what its plan calls for. -/
theorem after_glides {r : Runtime K H} (settled : Settled r.state) {operation : Operation}
    {plan : Plan} (asks : operation.Asks r plan) (quiet : r.Quiet operation) :
    r.outcome operation = .ok .done ∧
      Glided ((r.state.setTracks plan).setTarget plan.target) r.now (r.after operation) := by
  obtain ⟨planner, planning, answer⟩ := asks
  have ends : Ends (perform operation) r fun result t => ∃ added, t.trace = added ++ r.trace ∧
      ((∃ event ∈ added, event.failed = true) ∨ result = .ok .done ∧
        Glided ((r.state.setTracks plan).setTarget plan.target) r.now t) := by
    rw [perform_planned planning]
    simp only [done, ends_bind]
    refine (planned_succeeds settled answer).mono fun result t succeeds => ?_
    obtain ⟨added, logged, failed | ⟨rfl, glided⟩⟩ := succeeds
    · cases result with
      | ok _ => exact ⟨added, logged, .inl failed⟩
      | error _ => exact ⟨added, logged, .inl failed⟩
    · exact ⟨added, logged, .inr ⟨rfl, glided⟩⟩
  obtain ⟨added, logged, failed | glided⟩ := ends
  · exact absurd failed (quiet.refutes logged)
  · exact glided

end

end Runtime

end KeyRight.App
