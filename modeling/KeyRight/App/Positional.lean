import KeyRight.App.Bench
import KeyRight.App.Resumption

/-!
Owns the commands that give the light a destination: from every reachable frame they go
on without a jump, exactly unless they keep the temperature of a light that has drifted.

Does not own the rate commands, or Stop.
-/

namespace KeyRight.App

open KeyRight.Core KeyRight.Support

variable {K H : Type}

/-! ### Commands with a destination -/

/-- Power, position and scene commands, and the effects that fade. -/
def Operation.IsPositional : Operation → Prop
  | .setPower _ => True
  | .setLevelTransition _ _ _ => True
  | .setTemperatureTransition _ _ => True
  | .recallScene _ _ => True
  | .offWithEffect effect => effect ≠ .noFade
  | _ => False

/-- The command leaves an On target On, at its temperature, and on its way there. -/
def Operation.KeepsTemperature (target : LightState) : Operation → Prop
  | .setPower on => on = true
  | .setLevelTransition level withOnOff _ => withOnOff = true → Level.MIN.get < level.toNat
  | .setTemperatureTransition temperature _ => temperature = target.temperature
  | .recallScene scene _ => scene = target
  | _ => False

/-- Every track of the plan was there before, or begins now at the frame. -/
structure Plan.Departs (plan : Plan) (s : State H) (now : Nat) (frame : OutputFrame) : Prop where
  level : ∀ track, plan.levelTransition = some track →
    s.levelTransition = some track ∨ track.Starts now frame.brightness
  temperature : ∀ fade, plan.temperatureTransition = some fade →
    s.temperatureTransition = some fade ∨ fade.Starts now frame.state.temperature

section

variable {s : State H} {now : Nat} {frame : OutputFrame}

theorem Plan.Departs.keep (target : LightState) : (s.keep target).Departs s now frame :=
  ⟨fun _ active => .inl active, fun _ fading => .inl fading⟩

theorem Held.levelFade_departs (held : Held s now frame) {condition : Prop} [Decidable condition]
    {target : LightState} {duration : Nat} {curve : Curve} (timed : condition → duration ≠ 0)
    {track : LevelTransition}
    (active : (if condition then some (s.levelFade now target duration curve) else none) =
      some track) : s.levelTransition = some track ∨ track.Starts now frame.brightness := by
  split at active
  · next lights =>
      cases active
      exact .inr (State.levelFade_starts held.known target (timed lights) curve)
  · cases active

theorem Held.temperatureFade_departs (held : Held s now frame) {condition : Prop}
    [Decidable condition] {temperature : ColorTemperature} {duration : Nat} {curve : Curve}
    (timed : duration ≠ 0) {fade : TemperatureTransition}
    (fading : (if condition then some (s.temperatureFade now temperature duration curve)
      else s.temperatureTransition) = some fade) :
    s.temperatureTransition = some fade ∨ fade.Starts now frame.state.temperature := by
  split at fading
  · cases fading
    exact .inr (State.temperatureFade_starts held.known temperature timed curve)
  · exact .inl fading

theorem Held.scene_departs (held : Held s now frame) (target : LightState) (durationMs : Nat) :
    (State.recallScenePlan target durationMs s now).Departs s now frame := by
  have timed := State.duration_ne_zero durationMs
  unfold State.recallScenePlan
  split
  · exact .keep target
  · refine ⟨fun track active => held.levelFade_departs (fun _ => timed) active, fun fade fading => ?_⟩
    dsimp only at fading
    split at fading
    · cases fading
      exact .inr (State.temperatureFade_starts held.known _ timed .smooth)
    · cases fading

theorem Held.power_departs (held : Held s now frame) (on : Bool) :
    (State.setPowerPlan on s now).Departs s now frame := by
  unfold State.setPowerPlan
  split
  · exact .keep _
  · constructor
    · rintro _ ⟨⟩
      exact .inr (State.levelFade_starts held.known _ (by decide) .smooth)
    · intro fade fading
      dsimp only at fading
      split at fading
      · cases fading
      · exact held.temperatureFade_departs (by decide) fading

theorem Held.level_departs (held : Held s now frame) (level : UInt8) (valid : level ≠ 255)
    (withOnOff : Bool) {durationMs : Nat} (timed : durationMs ≠ 0) (curve : Curve) :
    (State.levelTransitionPlan level valid withOnOff durationMs curve s now).Departs s now frame := by
  have cases_ := State.levelTransitionPlan_cases level valid withOnOff durationMs curve s now
  rcases cases_ with ⟨_, keeps⟩ | ⟨_, _, fades, tempers⟩
  · rw [keeps]
    exact .keep _
  · constructor
    · intro track active
      rw [fades] at active
      exact held.levelFade_departs And.left active
    · intro fade fading
      rw [tempers] at fading
      split at fading
      · cases fading
      · exact held.temperatureFade_departs timed fading

theorem Held.temperature_departs (held : Held s now frame) (temperature : ColorTemperature)
    {durationMs : Nat} (timed : durationMs ≠ 0) (curve : Curve) :
    (State.temperatureTransitionPlan temperature durationMs curve s now).Departs s now frame := by
  refine ⟨fun _ active => .inl active, fun fade fading => ?_⟩
  simp only [State.temperatureTransitionPlan, if_pos timed] at fading
  exact held.temperatureFade_departs timed fading

theorem Held.effect_departs (held : Held s now frame) (effect : OffEffect) :
    (State.offWithEffectPlan effect s now).Departs s now frame := by
  refine ⟨fun track active => ?_, nofun⟩
  unfold State.offWithEffectPlan at active
  rw [held.current] at active
  dsimp only at active
  split at active
  · next lights =>
      cases active
      exact .inr (State.effectFade_starts frame _ lights.2 _)
  · cases active

end

namespace Runtime

/-- Right after the operation the same light is acknowledged, and every track that is
left was there before or begins now at the frame. -/
structure Continues [KvBlobStore K] [Hardware H] (r : Runtime K H) (operation : Operation)
    (frame : OutputFrame) : Prop where
  acknowledged : ∃ next, (r.after operation).state.controller.appliedFrame = some next ∧
    next.brightness = frame.brightness ∧
    (frame.brightness ≠ OutputBrightness.ZERO →
      next.state.temperature = frame.state.temperature) ∧
    outputFrame next = outputFrame frame
  level : ∀ track, (r.after operation).state.levelTransition = some track →
    r.state.levelTransition = some track ∨
      track.ramp.start = r.now ∧ track.ramp.fromValue = frame.brightness.get
  temperature : ∀ fade, (r.after operation).state.temperatureTransition = some fade →
    r.state.temperatureTransition = some fade ∨
      fade.ramp.start = r.now ∧ fade.ramp.fromValue = frame.state.temperature.get

section

variable [KvBlobStore K] [Hardware H] {r : Runtime K H} {operation : Operation} {frame : OutputFrame}

/-- An accepted command with a destination has a plan that departs from the frame, and
goes on unless it keeps the temperature of a drifted light. -/
theorem positional_plan (held : Held r.state r.now frame) (positional : operation.IsPositional)
    (accepted : (r.outcome operation).isOk) :
    ∃ plan, operation.Asks r plan ∧ plan.Departs r.state r.now frame ∧
      (Resumes (r.state.follow plan) r.now frame ↔
        ¬(Drifted r.state frame ∧ operation.KeepsTemperature r.state.target)) := by
  cases operation with
  | setPower on =>
      exact ⟨_, ⟨_, rfl, rfl⟩, held.power_departs on, held.power_iff on⟩
  | setLevelTransition level withOnOff durationMs =>
      by_cases valid : level ≠ 255 ∧ State.duration durationMs ≤ MAX_TRANSITION_MS
      · have timed := State.duration_ne_zero durationMs
        refine ⟨_, ⟨_, dif_pos valid, rfl⟩, held.level_departs level valid.1 withOnOff timed .smooth, ?_⟩
        rw [held.level_iff level valid.1 withOnOff timed .smooth]
        refine not_congr (and_congr_right fun drifted => ?_)
        cases withOnOff with
        | true => simp [State.levelTarget, Operation.KeepsTemperature]
        | false => simp [State.levelTarget, Operation.KeepsTemperature, drifted.on]
      · have refused : r.outcome (.setLevelTransition level withOnOff durationMs) =
            .error .constraintError := by
          rw [outcome, perform, setLevelTransition, levelTransition, dif_neg valid]
          rfl
        rw [refused] at accepted
        cases accepted
  | setTemperatureTransition temperature durationMs =>
      by_cases long : MAX_TRANSITION_MS < State.duration durationMs
      · have refused : r.outcome (.setTemperatureTransition temperature durationMs) =
            .error .constraintError := by
          rw [outcome, perform, setTemperatureTransition, temperatureTransition, if_pos long]
          rfl
        rw [refused] at accepted
        cases accepted
      · have timed := State.duration_ne_zero durationMs
        refine ⟨_, ⟨_, if_neg long, rfl⟩, held.temperature_departs temperature timed .smooth, ?_⟩
        rw [held.temperature_iff temperature timed .smooth]
        simp [Operation.KeepsTemperature]
  | recallScene target durationMs =>
      by_cases long : MAX_TRANSITION_MS < durationMs
      · have refused : r.outcome (.recallScene target durationMs) = .error .constraintError := by
          rw [outcome, perform, recallScene, if_pos long]
          rfl
        rw [refused] at accepted
        cases accepted
      · exact ⟨_, ⟨_, if_neg long, rfl⟩, held.scene_departs target durationMs,
          held.scene_iff target durationMs⟩
  | offWithEffect effect =>
      refine ⟨_, ⟨_, rfl, rfl⟩, held.effect_departs effect, ?_⟩
      simp only [Operation.KeepsTemperature, and_false, not_false_eq_true, iff_true]
      exact held.effect_resumes positional
  | _ => exact positional.elim

/-- From every reachable frame, with working storage and hardware, an accepted power,
position, scene or effect command continues, exactly unless the light has drifted and the
command keeps its temperature. -/
theorem run_positional (kv : K) (hardware : H) (operations : List Operation) :
    let r := run (load kv hardware) operations
    ∀ frame operation, r.state.fault = .none → r.state.controller.appliedFrame = some frame →
      operation.IsPositional → (r.outcome operation).isOk → r.Quiet operation →
        (r.Continues operation frame ↔
          ¬(Drifted r.state frame ∧ operation.KeepsTemperature r.state.target)) := by
  intro r frame operation _ known positional accepted quiet
  have reachable : r.Reachable := (Reachable.load kv hardware).run operations
  have held := reachable.composed.held known
  obtain ⟨plan, asks, departs, resumes⟩ := positional_plan held positional accepted
  have glided := (after_glides (reachable.settled (by simp [known])) asks quiet).2
  have power := (reachable.after operation).composed.shows glided.shows
  rw [← resumes]
  constructor
  · intro continues
    obtain ⟨next, acknowledged, brightness, temperature, _⟩ := continues.acknowledged
    rw [glided.shows] at acknowledged
    cases acknowledged
    exact ⟨brightness, temperature⟩
  · intro resumes
    refine ⟨⟨_, glided.shows, resumes.brightness, resumes.temperature, ?_⟩, ?_, ?_⟩
    · have lights := held.shows.power
      apply outputFrame_congr
      · rw [power.power, lights, resumes.brightness]
      · exact resumes.brightness
      · intro lit
        rw [lights, decide_eq_true_eq] at lit
        exact resumes.temperature lit
    · intro track active
      rw [glided.level] at active
      rcases departs.level track (Option.filter_eq_some_iff.mp active).1 with before | starts
      · exact .inl before
      · exact .inr starts.origin
    · intro fade fading
      rw [glided.temperature] at fading
      rcases departs.temperature fade (Option.filter_eq_some_iff.mp fading).1 with before | starts
      · exact .inl before
      · exact .inr starts.origin

end

end Runtime

/-- A lamp on its way up turns round where it is. -/
theorem Runtime.run_positional_reversed :
    let r := (bench none).run [.tick 0, .setPower true, .tick 200]
    r.Continues (.setPower false) (r.state.controller.appliedFrame.get (by decide +kernel)) :=
  (run_positional _ _ [.tick 0, .setPower true, .tick 200] _ (.setPower false) (by decide +kernel)
    (Option.some_get _).symm trivial (by decide +kernel) (by decide +kernel)).mpr fun jumps => by
      cases jumps.2

/-- A dim Stop leaves its temperature track on an Off target. A remembered temperature
equal to the acknowledged one lets the next On keep that track, which ends elsewhere; a
further On then jumps from 200 to 301 mired at once. -/
theorem Runtime.run_positional_broken :
    let warm : ColorTemperature := ⟨200, by decide, by decide⟩
    let current : ColorTemperature := ⟨301, by decide, by decide⟩
    let r := (bench none).run [.tick 0, .recallScene ⟨true, Level.DEFAULT, warm⟩ 60000, .tick 5000,
      .stopLevelTransition, .setTemperature current, .setPower true, .tick 60000]
    let shown (t : Runtime MemoryStore SimulatedOutput) :=
      t.state.controller.appliedFrame.map fun frame =>
        (frame.brightness.get, frame.state.temperature.get)
    r.state.fault = .none ∧ r.Quiet (.setPower true) ∧
      (r.outcome (.setPower true)).isOk ∧
      shown r = some (253, 200) ∧ shown (r.after (.setPower true)) = some (253, 301) := by
  decide +kernel

end KeyRight.App
