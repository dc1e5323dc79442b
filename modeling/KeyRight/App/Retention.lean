import KeyRight.App.LightCalls
import KeyRight.App.Target

/-!
Owns what switching off leaves of the selected level and temperature: everything, unless
a Stop of a level fade stores Off.

Does not own the output.
-/

namespace KeyRight.App

open KeyRight.Core KeyRight.Support

variable {K H : Type}

theorem toLevelClamped_of_dim {brightness : OutputBrightness}
    (dim : brightness.get ≤ OutputBrightness.DENOMINATOR / 2) : brightness.toLevelClamped = Level.MIN := by
  have floor : brightness.get ≤ 253 := Nat.le_trans dim (by decide)
  exact dif_pos floor

namespace Runtime

/-- A Stop of a level fade that stores Off. -/
structure StopsDark (r : Runtime K H) (track : LevelTransition) (frame : OutputFrame) : Prop where
  writable : r.Writable
  active : r.state.levelTransition = some track
  known : r.state.controller.appliedFrame = some frame
  dim : frame.brightness.get ≤ OutputBrightness.DENOMINATOR / 2

/-- The operation switches off without a new level, temperature or scene. -/
def SwitchesOff (r : Runtime K H) : Operation → Prop
  | .setPower on => on = false
  | .off => True
  | .offWithEffect _ => True
  | .stopLevelTransition => ∃ track frame, r.StopsDark track frame
  | _ => False

/-- A Stop with a selected level, or a temperature selected during the fade, to lose. -/
def Forgets (r : Runtime K H) : Operation → Prop
  | .stopLevelTransition =>
      r.state.target.level ≠ Level.MIN ∨
        ∃ track temperature, r.state.levelTransition = some track ∧
          track.offTemperature = some temperature ∧ temperature ≠ r.state.target.temperature
  | _ => False

section

variable [KvBlobStore K]

/-- The operation leaves the selected level and temperature. -/
structure Retains [Hardware H] (r : Runtime K H) (operation : Operation) : Prop where
  level : (r.after operation).state.target.level = r.state.target.level
  temperature : (r.after operation).state.target.temperature = r.state.target.temperature

variable {r : Runtime K H}

/-- A power command sets nothing but the power. -/
theorem nextTarget_setPower (on : Bool) :
    (r.nextTarget (.setPower on)).level = r.state.target.level ∧
      (r.nextTarget (.setPower on)).temperature = r.state.target.temperature := by
  rw [show r.nextTarget (.setPower on) = r.plannedTarget (.setPower on) from rfl]
  rcases plannedTarget_cases r (.setPower on) with same | ⟨plan, _, ⟨planner, planning, answer⟩, planned⟩
  · rw [same]
    exact ⟨rfl, rfl⟩
  · cases planning
    cases answer
    rw [planned, State.setPowerPlan_target]
    exact ⟨rfl, rfl⟩

theorem nextTarget_offWithEffect (effect : OffEffect) :
    (r.nextTarget (.offWithEffect effect)).level = r.state.target.level ∧
      (r.nextTarget (.offWithEffect effect)).temperature = r.state.target.temperature := by
  rw [show r.nextTarget (.offWithEffect effect) = r.plannedTarget (.offWithEffect effect) from rfl]
  rcases plannedTarget_cases r (.offWithEffect effect) with
    same | ⟨plan, _, ⟨planner, planning, answer⟩, planned⟩
  · rw [same]
    exact ⟨rfl, rfl⟩
  · cases planning
    cases answer
    rw [planned]
    exact ⟨rfl, rfl⟩

/-- The target that a dim Stop stores. -/
theorem nextTarget_stopsDark {track : LevelTransition} {frame : OutputFrame}
    (stops : r.StopsDark track frame) :
    r.nextTarget .stopLevelTransition =
      ⟨false, Level.MIN, track.offTemperature.getD r.state.target.temperature⟩ := by
  have asks : Operation.Asks .stopLevelTransition r
      { levelTransition := none
        temperatureTransition := r.state.temperatureTransition
        target := ⟨false, Level.MIN, track.offTemperature.getD r.state.target.temperature⟩ } := by
    refine ⟨_, rfl, ?_⟩
    have dark : ¬OutputBrightness.DENOMINATOR / 2 < frame.brightness.get :=
      Nat.not_lt.mpr stops.dim
    simp only [State.stopLevelPlan, stops.active, stops.known, decide_eq_false dark,
      toLevelClamped_of_dim stops.dim]
  exact plannedTarget_of_asks stops.writable asks

/-- A Stop that stores Off retains exactly what it would store anyway. -/
theorem retains_stop_iff [Hardware H] {track : LevelTransition} {frame : OutputFrame}
    (stops : r.StopsDark track frame) :
    r.Retains .stopLevelTransition ↔ ¬r.Forgets .stopLevelTransition := by
  have stored := (after_target r .stopLevelTransition).trans (nextTarget_stopsDark stops)
  constructor
  · rintro ⟨level, temperature⟩ forgets
    rw [stored] at level temperature
    rcases forgets with raised | ⟨other, frozen, active, freezes, apart⟩
    · exact raised level.symm
    · cases stops.active.symm.trans active
      rw [freezes] at temperature
      exact apart temperature
  · intro remembers
    refine ⟨?_, ?_⟩
    · rw [stored]
      by_contra apart
      exact remembers (.inl (Ne.symm apart))
    · rw [stored]
      cases freezes : track.offTemperature with
      | none => rfl
      | some frozen =>
          by_contra apart
          exact remembers (.inr ⟨track, frozen, stops.active, freezes, apart⟩)

/-- In every reachable state, an operation that switches off retains the selected level and
temperature exactly unless it is a Stop that has one to forget; so does the end of a
countdown. An On after it returns to them. -/
theorem run_retention [Hardware H] (kv : K) (hardware : H) (operations : List Operation) :
    let r := run (load kv hardware) operations
    (∀ operation, r.SwitchesOff operation → (r.Retains operation ↔ ¬r.Forgets operation)) ∧
    (∀ operation, r.Retains operation →
      let powered := ((r.after operation).after (.setPower true)).state.target
      powered.level = r.state.target.level ∧ powered.temperature = r.state.target.temperature) ∧
    ∀ (h : LightHandler K H) (deciseconds : UInt16), h.runtime = r →
      let expired := (h.after (.tick deciseconds)).runtime.state.target
      expired.level = r.state.target.level ∧ expired.temperature = r.state.target.temperature := by
  intro r
  have kept : ∀ on, r.Retains (.setPower on) := by
    intro on
    obtain ⟨level, temperature⟩ := nextTarget_setPower (r := r) on
    exact ⟨by rw [after_target, level], by rw [after_target, temperature]⟩
  refine ⟨fun operation switches => ?_, fun operation retains => ?_, fun h deciseconds same => ?_⟩
  · cases operation with
    | setPower on => exact ⟨fun _ => id, fun _ => kept on⟩
    | off =>
        refine ⟨fun _ => id, fun _ => ⟨?_, ?_⟩⟩
        · rw [after_target]
          rfl
        · rw [after_target]
          rfl
    | offWithEffect effect =>
        obtain ⟨level, temperature⟩ := nextTarget_offWithEffect (r := r) effect
        exact ⟨fun _ => id, fun _ => ⟨by rw [after_target, level], by rw [after_target, temperature]⟩⟩
    | stopLevelTransition =>
        obtain ⟨track, frame, stops⟩ := switches
        exact retains_stop_iff stops
    | _ => exact switches.elim
  · obtain ⟨level, temperature⟩ := nextTarget_setPower (r := r.after operation) true
    rw [after_target]
    exact ⟨level.trans retains.level, temperature.trans retains.temperature⟩
  · clear_value r
    subst same
    have ends : (h.after (.tick deciseconds)).runtime = h.runtime ∨ _ :=
      LightHandler.tick_runtime h deciseconds
    rcases ends with same | ⟨_, _, switched⟩
    · rw [same]
      exact ⟨rfl, rfl⟩
    · change (h.after (.tick deciseconds)).runtime = _ at switched
      rw [switched]
      exact ⟨(kept false).level, (kept false).temperature⟩

end

end Runtime

/-- An effect on a lit lamp retains what was selected. -/
theorem Runtime.run_retention_effect :
    let r := (bench none).run [.tick 0, .setLevelTransition 100 true 0, .tick 400]
    r.Retains (.offWithEffect .dyingLight) :=
  ((run_retention _ _ [.tick 0, .setLevelTransition 100 true 0, .tick 400]).1
    (.offWithEffect .dyingLight) trivial).mpr id

/-- A Stop in the last part of a fade to Off stores level 1 in place of level 57. -/
theorem Runtime.run_retention_broken :
    let r := (bench none).run [.tick 0, .setPower true, .tick 400, .setPower false, .tick 750]
    let stopped := r.after .stopLevelTransition
    r.reported.toOption = some ⟨false, Level.DEFAULT, ColorTemperature.DEFAULT⟩ ∧
      (∀ frame ∈ r.state.controller.appliedFrame, 0 < frame.brightness.get) ∧
      stopped.reported.toOption = some ⟨false, Level.MIN, ColorTemperature.DEFAULT⟩ ∧
      (stopped.after (.setPower true)).reported.toOption =
        some ⟨true, Level.MIN, ColorTemperature.DEFAULT⟩ := by
  decide +kernel

end KeyRight.App
