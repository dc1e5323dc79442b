import KeyRight.App.Command
import KeyRight.App.Temperature

/-!
Owns where the change that a plan makes begins: which plans go on from exactly the frame
that is acknowledged, and the one state in which a plan that keeps the temperature jumps.

Does not own the commands that reach that state.
-/

namespace KeyRight.App

open KeyRight.Core KeyRight.Support

variable {K H : Type}

/-! ### The start of a track -/

/-- The track is running at `now`, and begins there at a brightness. -/
structure LevelTransition.Starts (track : LevelTransition) (now : Nat)
    (brightness : OutputBrightness) : Prop where
  running : track.remaining now ≠ 0
  value : track.brightness now = brightness
  origin : track.ramp.start = now ∧ track.ramp.fromValue = brightness.get

/-- The track begins at `now` at a temperature. -/
structure TemperatureTransition.Starts (fade : TemperatureTransition) (now : Nat)
    (temperature : ColorTemperature) : Prop where
  value : fade.temperature now = temperature
  origin : fade.ramp.start = now ∧ fade.ramp.fromValue = temperature.get

namespace State

variable {s t : State H} {now : Nat} {frame : OutputFrame}

theorem levelFade_starts (known : s.controller.appliedFrame = some frame) (target : LightState)
    {duration : Nat} (timed : duration ≠ 0) (curve : Curve) :
    (s.levelFade now target duration curve).Starts now frame.brightness := by
  have current : s.currentFrame = frame := by rw [currentFrame, known, Option.getD_some]
  unfold levelFade
  rw [current]
  refine ⟨?_, ?_, rfl, rfl⟩
  · rw [Ne, LevelTransition.remaining_eq_zero, LevelTransition.single_deadline]
    omega
  · apply OutputBrightness.ext
    rw [LevelTransition.brightness_get, LevelTransition.single_value]
    have within : Transition.Within ⟨frame.brightness.get, (OutputFrame.fromState target).brightness.get,
        now, duration, curve⟩ 0 2530 :=
      ⟨⟨Nat.zero_le _, frame.brightness.le_max⟩, Nat.zero_le _, OutputBrightness.le_max _⟩
    exact Transition.value_at_start (by decide) within timed (Nat.le_refl now)

theorem temperatureFade_starts (known : s.controller.appliedFrame = some frame)
    (temperature : ColorTemperature) {duration : Nat} (timed : duration ≠ 0) (curve : Curve) :
    (s.temperatureFade now temperature duration curve).Starts now frame.state.temperature := by
  have current : s.currentFrame = frame := by rw [currentFrame, known, Option.getD_some]
  unfold temperatureFade
  rw [current]
  refine ⟨?_, rfl, rfl⟩
  apply ColorTemperature.ext
  rw [TemperatureTransition.temperature_get]
  have within : Transition.Within ⟨frame.state.temperature.get, temperature.get, now, duration, curve⟩
      0 344 :=
    ⟨⟨Nat.zero_le _, frame.state.temperature.le_max⟩, Nat.zero_le _, temperature.le_max⟩
  exact Transition.value_at_start (by decide) within timed (Nat.le_refl now)

/-- Both phases of an effect lie ahead. -/
theorem effectFade_starts (current : OutputFrame) (middle : OutputBrightness) {first : Nat}
    (timed : first ≠ 0) (last : Nat) :
    (effectFade current now middle first last).Starts now current.brightness := by
  have ramp : (effectFade current now middle first last).phase now =
      ⟨current.brightness.get, middle.get, now, first, .smooth⟩ := by
    unfold effectFade LevelTransition.phase
    dsimp only
    split
    · rw [Option.filter_some, if_neg (by simp; omega)]
      rfl
    · rfl
  refine ⟨?_, ?_, rfl, rfl⟩
  · rw [Ne, LevelTransition.remaining_eq_zero]
    unfold effectFade LevelTransition.deadline LevelTransition.last
    dsimp only
    split
    · simp only [Option.getD_some]
      omega
    · simp only [Option.getD_none]
      omega
  · apply OutputBrightness.ext
    rw [LevelTransition.brightness_get, LevelTransition.value, ramp]
    have within : Transition.Within ⟨current.brightness.get, middle.get, now, first, .smooth⟩ 0 2530 :=
      ⟨⟨Nat.zero_le _, current.brightness.le_max⟩, Nat.zero_le _, middle.le_max⟩
    exact Transition.value_at_start (by decide) within timed (Nat.le_refl now)

/-! ### The frame after a plan -/

/-- The level track is kept, on its way to the same brightness. -/
theorem brightness_kept (level : t.levelTransition = s.levelTransition)
    (same : (OutputFrame.fromState t.target).brightness =
      (OutputFrame.fromState s.target).brightness) :
    (t.effective now).brightness = (s.effective now).brightness := by
  cases active : s.levelTransition with
  | none =>
      rw [effective_brightness_of_none (level.trans active), effective_brightness_of_none active, same]
  | some track =>
      by_cases ended : track.remaining now = 0
      · rw [effective_brightness_of_ended (level.trans active) ended,
          effective_brightness_of_ended active ended, same]
      · rw [effective_brightness_of_running (level.trans active) ended,
          effective_brightness_of_running active ended]

theorem brightness_started {track : LevelTransition} {brightness : OutputBrightness}
    (active : t.levelTransition = some track) (starts : track.Starts now brightness) :
    (t.effective now).brightness = brightness := by
  rw [effective_brightness_of_running active starts.running, starts.value]

theorem brightness_dark (idle : t.levelTransition = none) (dark : t.target.on = false) :
    (t.effective now).brightness = OutputBrightness.ZERO := by
  rw [effective_brightness_of_none idle, OutputFrame.fromState_brightness_of_off dark]

theorem temperature_started {fade : TemperatureTransition} {temperature : ColorTemperature}
    (fading : t.temperatureTransition = some fade) (starts : fade.Starts now temperature) :
    (t.effective now).state.temperature = temperature := by
  rw [effective_temperature_of_fading fading, starts.value]

theorem temperature_frozen {track : LevelTransition} {brightness : OutputBrightness}
    {temperature : ColorTemperature} (still : t.temperatureTransition = none)
    (active : t.levelTransition = some track) (starts : track.Starts now brightness)
    (freezes : track.offTemperature = some temperature) :
    (t.effective now).state.temperature = temperature := by
  rw [effective_temperature_of_running still active starts.running, freezes, Option.getD_some]

end State

/-! ### Going on from the acknowledged frame -/

/-- A frame acknowledged by a composed state. -/
structure Held (s : State H) (now : Nat) (frame : OutputFrame) : Prop where
  known : s.controller.appliedFrame = some frame
  shows : Shows s now frame
  level : LevelAligned s.levelTransition s.target
  alone : FadesAlone s.levelTransition s.temperatureTransition s.target

theorem Composed.held {r : Runtime K H} (composed : Composed r) {frame : OutputFrame}
    (known : r.state.controller.appliedFrame = some frame) : Held r.state r.now frame :=
  ⟨known, composed.shows known, composed.tracked.level, composed.alone⟩

/-- Called for at once: the brightness of the frame and, unless that is zero, its temperature. -/
structure Resumes (t : State H) (now : Nat) (frame : OutputFrame) : Prop where
  brightness : (t.effective now).brightness = frame.brightness
  temperature : frame.brightness ≠ OutputBrightness.ZERO →
    (t.effective now).state.temperature = frame.state.temperature

/-- Lit towards an On target at a temperature other than the target's, although no
temperature transition is left. -/
structure Drifted (s : State H) (frame : OutputFrame) : Prop where
  on : s.target.on = true
  still : s.temperatureTransition = none
  lit : frame.brightness ≠ OutputBrightness.ZERO
  apart : frame.state.temperature ≠ s.target.temperature

instance (s : State H) (frame : OutputFrame) : Decidable (Drifted s frame) :=
  decidable_of_iff (s.target.on = true ∧ s.temperatureTransition = none ∧
      frame.brightness ≠ OutputBrightness.ZERO ∧ frame.state.temperature ≠ s.target.temperature)
    ⟨fun ⟨on, still, lit, apart⟩ => ⟨on, still, lit, apart⟩,
      fun ⟨on, still, lit, apart⟩ => ⟨on, still, lit, apart⟩⟩

section

variable {s t : State H} {now : Nat} {frame : OutputFrame}

theorem Held.current (held : Held s now frame) : s.currentFrame = frame := by
  rw [State.currentFrame, held.known, Option.getD_some]

/-- A lit Off target has no temperature track. -/
theorem Held.still (held : Held s now frame) (dark : s.target.on = false)
    (lit : frame.brightness ≠ OutputBrightness.ZERO) : s.temperatureTransition = none := by
  rw [held.shows.brightness] at lit
  obtain ⟨track, active, _⟩ := State.running_of_lit dark lit
  exact held.alone dark (by simp [active])

/-- Where the brightness is right, a drift shows in the temperature alone. -/
theorem Drifted.resumes_iff (shown : (t.effective now).brightness = frame.brightness)
    (kept : frame.brightness ≠ OutputBrightness.ZERO →
      ((t.effective now).state.temperature = frame.state.temperature ↔ ¬Drifted s frame)) :
    Resumes t now frame ↔ ¬Drifted s frame := by
  constructor
  · intro resumes drifted
    exact (kept drifted.lit).mp (resumes.temperature drifted.lit) drifted
  · intro steady
    exact ⟨shown, fun lit => (kept lit).mpr steady⟩

theorem Drifted.not_of_off (dark : s.target.on = false) : ¬Drifted s frame := by
  intro drifted
  have on := drifted.on
  rw [dark] at on
  cases on

/-- An On target keeps its temperature and the way to it. -/
theorem Held.temperature_kept_iff (held : Held s now frame)
    (lit : frame.brightness ≠ OutputBrightness.ZERO) (on : s.target.on = true)
    (onAfter : t.target.on = true) (level : LevelAligned t.levelTransition t.target)
    (same : t.target.temperature = s.target.temperature)
    (temperature : t.temperatureTransition = s.temperatureTransition) :
    (t.effective now).state.temperature = frame.state.temperature ↔ ¬Drifted s frame := by
  cases fading : s.temperatureTransition with
  | some fade =>
      have shown := held.shows.temperature lit fun _ => by simp [fading]
      rw [State.effective_temperature_of_fading fading] at shown
      rw [State.effective_temperature_of_fading (temperature.trans fading), shown]
      refine ⟨fun _ drifted => ?_, fun _ => rfl⟩
      have still := drifted.still
      rw [fading] at still
      cases still
  | none =>
      rw [State.effective_temperature_of_still (temperature.trans fading) level onAfter, same]
      constructor
      · intro reached drifted
        exact drifted.apart reached.symm
      · intro steady
        by_contra apart
        exact steady ⟨on, fading, lit, Ne.symm apart⟩

/-- An Off target keeps the frozen temperature of its fade, whatever is remembered. -/
theorem Held.temperature_frozen (held : Held s now frame)
    (lit : frame.brightness ≠ OutputBrightness.ZERO) (dark : s.target.on = false)
    (level : t.levelTransition = s.levelTransition)
    (temperature : t.temperatureTransition = s.temperatureTransition) :
    (t.effective now).state.temperature = frame.state.temperature := by
  have still := held.still dark lit
  rw [held.shows.temperature lit (by simp [dark])]
  rw [held.shows.brightness] at lit
  obtain ⟨track, active, running⟩ := State.running_of_lit dark lit
  have freezes := (held.level track active).freezes
  rw [dark, Bool.not_false, Option.isSome_iff_exists] at freezes
  obtain ⟨frozen, freezes⟩ := freezes
  rw [State.effective_temperature_of_running (temperature.trans still) (level.trans active) running,
    State.effective_temperature_of_running still active running, freezes]
  rfl

/-- Both tracks are kept, and an On target keeps its temperature. -/
theorem Held.kept_iff (held : Held s now frame) (level : t.levelTransition = s.levelTransition)
    (temperature : t.temperatureTransition = s.temperatureTransition)
    (on : t.target.on = s.target.on)
    (brightness : (OutputFrame.fromState t.target).brightness =
      (OutputFrame.fromState s.target).brightness)
    (same : s.target.on = true → t.target.temperature = s.target.temperature) :
    Resumes t now frame ↔ ¬Drifted s frame := by
  have shown : (t.effective now).brightness = frame.brightness :=
    (State.brightness_kept level brightness).trans held.shows.brightness.symm
  have aligned : LevelAligned t.levelTransition t.target := by
    rw [level]
    exact held.level.retarget on brightness
  refine Drifted.resumes_iff shown fun lit => ?_
  cases lamp : s.target.on with
  | true => exact held.temperature_kept_iff lit lamp (on.trans lamp) aligned (same lamp) temperature
  | false =>
      have frozen := held.temperature_frozen lit lamp level temperature
      exact ⟨fun _ => Drifted.not_of_off lamp, fun _ => frozen⟩

/-- A fresh level track begins at the frame. -/
theorem Held.brightness_fresh (held : Held s now frame) {duration : Nat} (timed : duration ≠ 0)
    {curve : Curve} {target : LightState}
    (level : t.levelTransition = some (s.levelFade now target duration curve)) :
    (t.effective now).brightness = frame.brightness :=
  State.brightness_started level (State.levelFade_starts held.known target timed curve)

/-- A fresh level track towards Off freezes the temperature of the frame. -/
theorem Held.temperature_fresh (held : Held s now frame) {duration : Nat} (timed : duration ≠ 0)
    {curve : Curve} {target : LightState} (dark : target.on = false)
    (level : t.levelTransition = some (s.levelFade now target duration curve))
    (still : t.temperatureTransition = none) :
    (t.effective now).state.temperature = frame.state.temperature := by
  refine State.temperature_frozen still level (State.levelFade_starts held.known target timed curve) ?_
  simp [State.levelFade, dark, held.current]

/-- A lit Off target that is turned On fades from the temperature of the frame. -/
theorem Held.temperature_relit (held : Held s now frame)
    (lit : frame.brightness ≠ OutputBrightness.ZERO) (dark : s.target.on = false)
    (on : t.target.on = true) (level : LevelAligned t.levelTransition t.target) {duration : Nat}
    (timed : duration ≠ 0) {curve : Curve}
    (fades : t.temperatureTransition =
      if frame.state.temperature ≠ t.target.temperature then
        some (s.temperatureFade now t.target.temperature duration curve)
      else s.temperatureTransition) :
    (t.effective now).state.temperature = frame.state.temperature := by
  by_cases apart : frame.state.temperature ≠ t.target.temperature
  · rw [if_pos apart] at fades
    exact State.temperature_started fades (State.temperatureFade_starts held.known _ timed curve)
  · rw [if_neg apart, held.still dark lit] at fades
    rw [State.effective_temperature_of_still fades level on]
    exact (not_not.mp apart).symm

theorem State.duration_ne_zero (requested : Nat) : State.duration requested ≠ 0 := by
  unfold State.duration
  split
  · decide
  · assumption

end

/-! ### Commands that go on -/

/-- The state that a plan makes. -/
abbrev State.follow (s : State H) (plan : Plan) : State H := (s.setTracks plan).setTarget plan.target

section

variable {s : State H} {now : Nat} {frame : OutputFrame}

theorem Held.scene_iff (held : Held s now frame) (target : LightState) (durationMs : Nat) :
    Resumes (s.follow (State.recallScenePlan target durationMs s now)) now frame ↔
      ¬(Drifted s frame ∧ target = s.target) := by
  by_cases unchanged : target = s.target
  · rw [State.recallScenePlan, if_pos unchanged, unchanged]
    have kept : Resumes (s.follow (s.keep s.target)) now frame ↔ ¬Drifted s frame :=
      held.kept_iff rfl rfl rfl rfl fun _ => rfl
    rw [kept, and_iff_left rfl]
  · refine ⟨fun _ jumps => unchanged jumps.2, fun _ => ?_⟩
    rw [State.recallScenePlan, if_neg unchanged, held.current]
    by_cases animate : frame.brightness ≠ OutputBrightness.ZERO ∨ target.on = true
    · have timed := State.duration_ne_zero durationMs
      refine ⟨held.brightness_fresh timed (if_pos animate), fun lit => ?_⟩
      by_cases on : target.on = true
      · refine State.temperature_started (if_pos ⟨animate, on⟩) ?_
        exact State.temperatureFade_starts held.known target.temperature timed .smooth
      · have dark : target.on = false := by simpa using on
        exact held.temperature_fresh timed dark (if_pos animate) (if_neg fun lights => on lights.2)
    · push Not at animate
      have dark : target.on = false := by simpa using animate.2
      refine ⟨?_, fun lit => absurd animate.1 lit⟩
      rw [animate.1]
      exact State.brightness_dark (if_neg (by simp [animate])) dark

theorem Held.power_iff (held : Held s now frame) (on : Bool) :
    Resumes (s.follow (State.setPowerPlan on s now)) now frame ↔
      ¬(Drifted s frame ∧ on = true) := by
  by_cases unchanged : on = s.target.on
  · rw [State.setPowerPlan, if_pos unchanged]
    have kept : Resumes (s.follow (s.keep { s.target with on := on })) now frame ↔
        ¬Drifted s frame :=
      held.kept_iff rfl rfl unchanged (congrArg (fun on => (OutputFrame.fromState
        { s.target with on := on }).brightness) unchanged) fun _ => rfl
    rw [kept]
    constructor
    · exact fun steady jumps => steady jumps.1
    · exact fun steady drifted => steady ⟨drifted, unchanged.trans drifted.on⟩
  · have fresh : Resumes (s.follow (State.setPowerPlan on s now)) now frame := by
      rw [State.setPowerPlan, if_neg unchanged, held.current]
      refine ⟨held.brightness_fresh (by decide) rfl, fun lit => ?_⟩
      cases on with
      | false => exact held.temperature_fresh (by decide) rfl rfl rfl
      | true =>
          have dark : s.target.on = false := by simpa using Ne.symm unchanged
          refine held.temperature_relit lit dark rfl ?_ (by decide) rfl
          exact .active (State.levelFade_endsAt _ _ _)
    exact ⟨fun _ jumps => unchanged (jumps.2.trans jumps.1.on.symm), fun _ => fresh⟩

theorem Held.level_iff (held : Held s now frame) (level : UInt8) (valid : level ≠ 255)
    (withOnOff : Bool) {durationMs : Nat} (timed : durationMs ≠ 0) (curve : Curve) :
    Resumes (s.follow (State.levelTransitionPlan level valid withOnOff durationMs curve s now)) now
      frame ↔ ¬(Drifted s frame ∧ (s.levelTarget level valid withOnOff).on = true) := by
  have cases_ := State.levelTransitionPlan_cases level valid withOnOff durationMs curve s now
  rcases cases_ with ⟨unchanged, keeps⟩ | ⟨_, target, fades, tempers⟩
  · rw [keeps]
    have on : (s.levelTarget level valid withOnOff).on = s.target.on := by
      rcases unchanged with ⟨same, _⟩ | ⟨dark, darkBefore, _⟩
      · rw [same]
      · rw [dark, darkBefore]
    have kept : Resumes (s.follow (s.keep (s.levelTarget level valid withOnOff))) now frame ↔
        ¬Drifted s frame := by
      refine held.kept_iff rfl rfl on ?_ fun _ => rfl
      rcases unchanged with ⟨same, _⟩ | ⟨dark, darkBefore, _⟩
      · exact congrArg (fun target => (OutputFrame.fromState target).brightness) same
      · exact fromState_brightness_off dark darkBefore
    rw [kept]
    constructor
    · exact fun steady jumps => steady jumps.1
    · exact fun steady drifted => steady ⟨drifted, on.trans drifted.on⟩
  · have same : (s.levelTarget level valid withOnOff).temperature = s.target.temperature := rfl
    generalize State.levelTransitionPlan level valid withOnOff durationMs curve s now = plan at *
    generalize s.levelTarget level valid withOnOff = aim at *
    subst target
    rw [held.current] at fades tempers
    by_cases on : plan.target.on = true
    · rw [if_pos ⟨timed, .inr on⟩] at fades
      rw [if_neg (by simp [on])] at tempers
      have aligned : LevelAligned plan.levelTransition plan.target := by
        rw [fades]
        exact .active (State.levelFade_endsAt _ _ _)
      rw [and_iff_left on]
      refine Drifted.resumes_iff (held.brightness_fresh timed fades) fun lit => ?_
      cases lamp : s.target.on with
      | true =>
          rw [if_neg (by simp [lamp])] at tempers
          exact held.temperature_kept_iff lit lamp on aligned same tempers
      | false =>
          simp only [lamp, Bool.not_false, true_and] at tempers
          have relit := held.temperature_relit (t := s.follow plan) lit lamp on aligned timed tempers
          exact ⟨fun _ => Drifted.not_of_off lamp, fun _ => relit⟩
    · rw [if_pos (by simpa using on)] at tempers
      refine ⟨fun _ jumps => on jumps.2, fun _ => ?_⟩
      have dark : plan.target.on = false := by simpa using on
      by_cases lit : frame.brightness ≠ OutputBrightness.ZERO
      · rw [if_pos ⟨timed, .inl lit⟩] at fades
        exact ⟨held.brightness_fresh timed fades, fun _ => held.temperature_fresh timed dark fades tempers⟩
      · rw [if_neg fun lights => lights.2.elim lit on] at fades
        refine ⟨?_, fun wrong => absurd wrong lit⟩
        rw [not_not.mp lit]
        exact State.brightness_dark fades dark

theorem Held.effect_resumes (held : Held s now frame) {effect : OffEffect} (fades : effect ≠ .noFade) :
    Resumes (s.follow (State.offWithEffectPlan effect s now)) now frame := by
  have timed : (State.effectPhases frame.brightness effect).2.1 ≠ 0 := by
    cases effect with
    | noFade => exact absurd rfl fades
    | _ => exact nofun
  unfold State.offWithEffectPlan
  rw [held.current]
  by_cases lit : frame.brightness ≠ OutputBrightness.ZERO
  · have starts : (State.effectFade frame now (State.effectPhases frame.brightness effect).1
        (State.effectPhases frame.brightness effect).2.1
        (State.effectPhases frame.brightness effect).2.2).Starts now frame.brightness :=
      State.effectFade_starts frame _ timed _
    refine ⟨State.brightness_started (if_pos ⟨lit, timed⟩) starts, fun _ => ?_⟩
    exact State.temperature_frozen rfl (if_pos ⟨lit, timed⟩) starts rfl
  · refine ⟨?_, fun wrong => absurd wrong lit⟩
    rw [not_not.mp lit]
    exact State.brightness_dark (if_neg fun lights => lit lights.1) rfl

theorem Held.temperature_iff (held : Held s now frame) (temperature : ColorTemperature)
    {durationMs : Nat} (timed : durationMs ≠ 0) (curve : Curve) :
    Resumes (s.follow (State.temperatureTransitionPlan temperature durationMs curve s now)) now frame
      ↔ ¬(Drifted s frame ∧ temperature = s.target.temperature ∧ curve = .smooth) := by
  have brightness : (OutputFrame.fromState { s.target with temperature := temperature }).brightness =
      (OutputFrame.fromState s.target).brightness := rfl
  by_cases moves : s.target.on = true ∧ (temperature ≠ s.target.temperature ∨ curve = .linear)
  · have shown : Resumes (s.follow (State.temperatureTransitionPlan temperature durationMs curve s now))
        now frame := by
      refine ⟨?_, fun _ => ?_⟩
      · rw [held.shows.brightness]
        exact State.brightness_kept rfl brightness
      refine State.temperature_started ?_ (State.temperatureFade_starts held.known temperature timed curve)
      exact (if_pos moves).trans (if_pos timed)
    refine ⟨fun _ jumps => ?_, fun _ => shown⟩
    obtain ⟨_, same, smooth⟩ := jumps
    rcases moves.2 with apart | linear
    · exact apart same
    · rw [smooth] at linear
      cases linear
  · have kept : Resumes (s.follow (State.temperatureTransitionPlan temperature durationMs curve s now))
        now frame ↔ ¬Drifted s frame := by
      refine held.kept_iff rfl (if_neg moves) rfl brightness fun on => ?_
      by_contra apart
      exact moves ⟨on, .inl apart⟩
    rw [kept]
    constructor
    · exact fun steady jumps => steady jumps.1
    · intro steady drifted
      refine steady ⟨drifted, ?_, ?_⟩
      · by_contra apart
        exact moves ⟨drifted.on, .inl apart⟩
      · cases curve with
        | smooth => rfl
        | linear => exact absurd ⟨drifted.on, .inr rfl⟩ moves

end

end KeyRight.App
