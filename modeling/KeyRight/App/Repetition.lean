import KeyRight.App.Bench
import KeyRight.App.Echo
import KeyRight.App.Resumption
import KeyRight.App.Synchronous

/-!
Owns commands that ask for the target the light already has: nothing notices them but the
revision, unless the acknowledged temperature is one that nothing holds. So a run may leave
them out.

Does not own the rate commands, which replace a fade towards the same endpoint.
-/

namespace KeyRight.App

open KeyRight.Core KeyRight.Support

variable {K H : Type}

/-! ### Repeated commands -/

/-- The commands that give the light a target and a duration. -/
def Operation.IsDestination : Operation → Prop
  | .setPower _ => True
  | .setLevelTransition _ _ _ => True
  | .setTemperatureTransition _ _ => True
  | .recallScene _ _ => True
  | _ => False

/-- The command is accepted, for the target that the light already has. -/
structure Operation.Repeated (operation : Operation) (r : Runtime K H) : Prop where
  destination : operation.IsDestination
  asks : ∃ plan, operation.Asks r plan ∧ plan.target = r.state.target

section

variable {s : State H} {now : Nat}

theorem State.recallScenePlan_repeated {target : LightState} {durationMs : Nat}
    (same : (recallScenePlan target durationMs s now).target = s.target) :
    recallScenePlan target durationMs s now = s.keep s.target := by
  rw [recallScenePlan_target] at same
  rw [recallScenePlan, if_pos same, same]

theorem State.setPowerPlan_repeated {on : Bool}
    (same : (setPowerPlan on s now).target = s.target) :
    setPowerPlan on s now = s.keep s.target := by
  rw [setPowerPlan_target] at same
  have unchanged : on = s.target.on := congrArg LightState.on same
  rw [setPowerPlan, if_pos unchanged, same]

theorem State.levelTransitionPlan_repeated {level : UInt8} {valid : level ≠ 255}
    {withOnOff : Bool} {durationMs : Nat}
    (same : (levelTransitionPlan level valid withOnOff durationMs .smooth s now).target = s.target) :
    levelTransitionPlan level valid withOnOff durationMs .smooth s now = s.keep s.target := by
  rw [levelTransitionPlan_target] at same
  unfold levelTransitionPlan
  rw [if_pos (.inl ⟨same, rfl⟩), same]

theorem State.temperatureTransitionPlan_repeated {temperature : ColorTemperature}
    {durationMs : Nat}
    (same : (temperatureTransitionPlan temperature durationMs .smooth s now).target = s.target) :
    temperatureTransitionPlan temperature durationMs .smooth s now = s.keep s.target := by
  have unchanged : temperature = s.target.temperature := congrArg LightState.temperature same
  have kept : ¬(s.target.on ∧ (temperature ≠ s.target.temperature ∨ Curve.smooth = .linear)) := by
    simp [unchanged]
  rw [temperatureTransitionPlan, if_neg kept, unchanged]
  rfl

end

/-- A repeated command plans to keep what there is. -/
theorem Operation.Repeated.keeps {operation : Operation} {r : Runtime K H}
    (repeated : operation.Repeated r) : operation.Asks r (r.state.keep r.state.target) := by
  obtain ⟨destination, plan, ⟨planner, planning, answer⟩, same⟩ := repeated
  refine ⟨planner, planning, ?_⟩
  cases operation with
  | setPower on =>
      cases planning
      cases answer
      rw [Runtime.always, State.setPowerPlan_repeated same]
  | setLevelTransition level withOnOff durationMs =>
      obtain ⟨valid, rfl⟩ := Operation.plan.of_levelPlan planning
      cases answer
      rw [Runtime.always, State.levelTransitionPlan_repeated same]
  | setTemperatureTransition temperature durationMs =>
      obtain ⟨_, rfl⟩ := Operation.plan.of_temperaturePlan planning
      cases answer
      rw [Runtime.always, State.temperatureTransitionPlan_repeated same]
  | recallScene target durationMs =>
      obtain ⟨_, rfl⟩ := Operation.plan.of_recallScene planning
      cases answer
      rw [Runtime.always, State.recallScenePlan_repeated same]
  | _ => cases destination

/-! ### One repetition -/

/-- The same state at the next revision. -/
def State.revised (s : State H) : State H := { s with revision := s.revision + 1 }

@[simp] theorem State.revised_controller (s : State H) : s.revised.controller = s.controller := rfl

/-- Keeping everything, and settling on the frame that is already acknowledged. -/
theorem State.settled_kept {s : State H} {now : Nat} {frame : OutputFrame}
    (healthy : Healthy s) (clean : s.dirty = false) (intended : s.controller.intended = frame.state)
    (live : Live s now) :
    (((s.follow (s.keep s.target)).intend frame).settled now s.controller.appliedFrame) =
      s.revised := by
  obtain ⟨faultless, readable, prompt⟩ := healthy
  have controller : ((s.follow (s.keep s.target)).intend frame).controller = s.controller := by
    change { s.controller with intended := frame.state } = s.controller
    rw [← intended]
  have level := live.expire_level
  have temperature := live.expire_temperature
  simp only [expire] at level temperature
  unfold settled revised
  rw [controller]
  simp only [intend, setTarget, setTracks, keep, expire, level, temperature]
  simp [faultless, prompt, clean]

namespace Runtime

open Program

variable [KvBlobStore K] [Hardware H]

/-- Keeping everything either leaves all but the revision, or applies another frame. -/
theorem planned_keeps {r : Runtime K H} {planner : Planner H} {frame : OutputFrame}
    (settled : Settled r.state) (known : r.state.controller.appliedFrame = some frame)
    (intended : r.state.controller.intended = frame.state) (live : Live r.state r.now)
    (answer : planner r.state r.now = .ok (some (r.state.keep r.state.target))) :
    Ends (planned planner) r fun result t =>
      (r.state.effective r.now = frame → result = .ok () ∧ t = r.onState State.revised) ∧
        (r.state.effective r.now ≠ frame → ∃ added, t.trace = added ++ r.trace ∧ added ≠ []) := by
  obtain ⟨_, healthy, clean⟩ := settled
  have kept := State.settled_kept healthy clean intended live
  simp only [planned, writable, ends_bind, ends_read]
  rw [if_neg (by simp [healthy.1]), if_neg (by simp [healthy.2.1])]
  simp only [ends_pure, answer, edit, ends_bind, ends_update, commit, saveIntent, ends_read]
  rw [if_neg (by simp [State.setTarget, State.setTracks, State.keep, clean])]
  have unequal : r.state.controller.appliedFrame ≠ some (r.state.effective r.now) →
      r.state.effective r.now ≠ frame := by
    intro differs shown
    exact differs (known.trans (congrArg some shown.symm))
  have acknowledged : r.state.controller.appliedFrame ≠ none := by simp [known]
  rw [ends_pure]
  apply ends_reconcile
  · intro _
    apply ends_drive
    · intro same
      have shown : some frame = some (r.state.effective r.now) := known.symm.trans same
      cases shown
      exact ⟨fun _ => ⟨rfl, congrArg (r.onState fun _ => ·) kept⟩, fun apart => absurd rfl apart⟩
    · intro differs hardware
      exact ⟨fun shown => absurd shown (unequal differs), fun _ => ⟨[_], rfl, List.cons_ne_nil _ _⟩⟩
    · intro differs hardware left ok
      exact ⟨fun shown => absurd shown (unequal differs), fun _ => ⟨[_, _], rfl, List.cons_ne_nil _ _⟩⟩
  · intro unknown
    exact absurd unknown acknowledged
  · intro unknown
    exact absurd unknown acknowledged

/-- The command succeeds without an outside call and moves the revision alone; whatever
follows goes on as without it. -/
structure Unnoticed (r : Runtime K H) (operation : Operation) : Prop where
  succeeds : r.outcome operation = .ok .done
  silent : r.events operation = []
  stored : (r.after operation).kv = r.kv
  time : (r.after operation).now = r.now
  state : (r.after operation).state = r.state.revised
  later : ∀ operations, (run (r.after operation) operations).state =
    { (run r operations).state with
      revision := (run (r.after operation) operations).state.revision }

/-- The runtimes agree but for their revisions and their traces. -/
abbrev Agree (r t : Runtime K H) : Prop := Synchronous (fun _ _ => True) Eq r t

omit [KvBlobStore K] [Hardware H] in
theorem Agree.of_revised {r t : Runtime K H} (stored : t.kv = r.kv) (time : t.now = r.now)
    (state : t.state = r.state.revised) : Agree r t := by
  refine ⟨stored, time, ?_, trivial, ?_⟩
  · rw [state]
    rfl
  · rw [state]
    rfl

theorem Agree.run {r t : Runtime K H} (agree : Agree r t) (operations : List Operation) :
    Agree (run r operations) (run t operations) := by
  have same : Corresponding (fun _ _ => True) (Eq : H → H → Prop) Eq := .refl fun _ _ _ => trivial
  exact runAll_related (fun r t operation agree => (lockstep_perform same operation r t agree).2)
    agree operations

omit [KvBlobStore K] [Hardware H] in
theorem Agree.state_eq {r t : Runtime K H} (agree : Agree r t) :
    t.state = { r.state with revision := t.state.revision } := by
  have state := agree.state
  rw [← agree.adapters] at state
  exact state

/-- In a known state, a repeated command is unnoticed exactly unless the light is adrift. -/
theorem Reachable.unnoticed_iff {r : Runtime K H} (reachable : r.Reachable) {frame : OutputFrame}
    (known : r.state.controller.appliedFrame = some frame) {operation : Operation}
    (repeated : operation.Repeated r) : Unnoticed r operation ↔ ¬Adrift r.state frame := by
  have settled : Settled r.state := reachable.settled (by simp [known])
  obtain ⟨planner, planning, answer⟩ := repeated.keeps
  have ends : Ends (perform operation) r fun result t =>
      (r.state.effective r.now = frame → result = .ok .done ∧ t = r.onState State.revised) ∧
        (r.state.effective r.now ≠ frame → ∃ added, t.trace = added ++ r.trace ∧ added ≠ []) := by
    rw [perform_planned planning]
    simp only [done, ends_bind]
    refine (planned_keeps settled known (reachable.intends frame known)
      (reachable.composed.live settled.known) answer).mono fun result t kept => ?_
    cases result with
    | ok value => exact ⟨fun shown => ⟨rfl, (kept.1 shown).2⟩, kept.2⟩
    | error code =>
        refine ⟨fun shown => ?_, kept.2⟩
        cases (kept.1 shown).1
  rw [← (reachable.echoes known).effective_eq_iff reachable.tracked.level]
  constructor
  · intro unnoticed
    by_contra apart
    obtain ⟨added, logged, calls⟩ := ends.2 apart
    exact calls ((Runtime.events_eq logged).symm.trans unnoticed.silent)
  · intro shown
    obtain ⟨succeeds, reached⟩ := ends.1 shown
    have reached : r.after operation = r.onState State.revised := reached
    have agree : Agree r (r.after operation) := by
      rw [reached]
      exact .of_revised rfl rfl rfl
    refine ⟨succeeds, ?_, ?_, ?_, ?_, fun operations => (agree.run operations).state_eq⟩
    · simp [Runtime.events, reached]
    · rw [reached]
      rfl
    · rw [reached]
      rfl
    · rw [reached]
      rfl

/-! ### Runs without their repetitions -/

/-- The second list leaves out some repeated commands of the first, each issued while the
output was known and not adrift. -/
inductive Thins : Runtime K H → List Operation → List Operation → Prop where
  | done (r : Runtime K H) : Thins r [] []
  | keep {r : Runtime K H} {operation : Operation} {operations thinned : List Operation}
      (rest : Thins (r.after operation) operations thinned) :
      Thins r (operation :: operations) (operation :: thinned)
  | drop {r : Runtime K H} {operation : Operation} {operations thinned : List Operation}
      {frame : OutputFrame} (known : r.state.controller.appliedFrame = some frame)
      (steady : ¬Adrift r.state frame) (repeated : operation.Repeated r)
      (rest : Thins (r.after operation) operations thinned) :
      Thins r (operation :: operations) thinned

omit [KvBlobStore K] [Hardware H] in
theorem Agree.trans {r t u : Runtime K H} (first : Agree r t) (second : Agree t u) : Agree r u := by
  refine ⟨second.kv.trans first.kv, second.now.trans first.now, ?_, trivial,
    first.adapters.trans second.adapters⟩
  rw [second.state, first.state]
  rfl

theorem Thins.agree {r : Runtime K H} {operations thinned : List Operation}
    (thins : Thins r operations thinned) (reachable : r.Reachable) :
    Agree (run r thinned) (run r operations) := by
  induction thins with
  | done r => exact ⟨rfl, rfl, rfl, trivial, rfl⟩
  | @keep r operation operations thinned rest inductionHypothesis =>
      exact inductionHypothesis (reachable.after operation)
  | @drop r operation operations thinned frame known steady repeated rest inductionHypothesis =>
      have unnoticed := (reachable.unnoticed_iff known repeated).mpr steady
      have agree : Agree r (r.after operation) :=
        .of_revised unnoticed.stored unnoticed.time unnoticed.state
      exact (agree.run thinned).trans (inductionHypothesis (reachable.after operation))

/-- Repeated commands in runs: a command for the target that the light already has is
unnoticed exactly unless the light is adrift, so a run may leave such commands out, and each
fade ends when it would have ended without them. -/
theorem Reachable.repetition {r : Runtime K H} (reachable : r.Reachable) :
    (∀ frame, r.state.controller.appliedFrame = some frame → ∀ operation : Operation,
      operation.Repeated r → (Unnoticed r operation ↔ ¬Adrift r.state frame)) ∧
    ∀ operations thinned, Thins r operations thinned →
      (Runtime.run r operations).kv = (Runtime.run r thinned).kv ∧
        (Runtime.run r operations).now = (Runtime.run r thinned).now ∧
        (Runtime.run r operations).state =
          { (Runtime.run r thinned).state with
            revision := (Runtime.run r operations).state.revision } := by
  constructor
  · intro frame known operation repeated
    exact reachable.unnoticed_iff known repeated
  · intro operations thinned thins
    have agree := thins.agree reachable
    exact ⟨agree.kv, agree.now, agree.state_eq⟩

/-- Halfway to full, the same level with another duration. -/
theorem unnoticed_full :
    Unnoticed (run (load (default : MemoryStore) (default : SimulatedOutput))
      [.tick 0, .setPower true, .tick 400, .setLevelTransition 254 false 2000, .tick 600])
      (.setLevelTransition 254 false 9000) := by
  have known : (run (load (default : MemoryStore) (default : SimulatedOutput))
      [.tick 0, .setPower true, .tick 400, .setLevelTransition 254 false 2000,
        .tick 600]).state.controller.appliedFrame ≠ none := by
    decide +kernel
  obtain ⟨frame, acknowledged⟩ := Option.ne_none_iff_exists'.mp known
  refine ((Reachable.repetition ((Reachable.load default default).run _)).1 frame acknowledged
    (.setLevelTransition 254 false 9000) ⟨trivial, _, ⟨_, rfl, rfl⟩, by decide +kernel⟩).mpr
    fun adrift => ?_
  have shown : (run (load (default : MemoryStore) (default : SimulatedOutput))
      [.tick 0, .setPower true, .tick 400, .setLevelTransition 254 false 2000,
        .tick 600]).state.controller.appliedFrame.map (fun frame => frame.state.temperature) =
      some ColorTemperature.DEFAULT := by
    decide +kernel
  rw [acknowledged] at shown
  exact adrift.apart ((Option.some.inj shown).trans (by decide +kernel))

/-- A temperature track that a Stop left behind at Off has ended at 200 mired, the target is
at 301, and a repeated command for On jumps there. -/
theorem unnoticed_broken :
    let r := run (load (default : MemoryStore) (default : SimulatedOutput))
      [.tick 0, .recallScene ⟨true, Level.DEFAULT, ⟨200, by decide, by decide⟩⟩ 60000, .tick 5000,
        .stopLevelTransition, .setTemperature ⟨301, by decide, by decide⟩, .setPower true,
        .tick 59000, .setLevelTransition 200 true 10000, .tick 60000]
    r.state.controller.appliedFrame ≠ none ∧ (Operation.setPower true).Repeated r ∧
      ¬Unnoticed r (.setPower true) := by
  intro r
  refine ⟨by decide +kernel, ⟨trivial, _, ⟨_, rfl, rfl⟩, by decide +kernel⟩, fun unnoticed => ?_⟩
  have moved : (r.after (.setPower true)).state.controller.appliedFrame ≠
      r.state.controller.appliedFrame := by
    decide +kernel
  rw [unnoticed.state, State.revised_controller] at moved
  exact moved rfl

end Runtime

end KeyRight.App
