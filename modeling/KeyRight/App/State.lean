import KeyRight.App.Fade
import KeyRight.App.Record

/-!
Owns the state of the light runtime in `firmware/app/src/runtime.rs` and its pure
parts: the output that a state calls for at a time, the plan that each command
makes for the tracks and the durable target, and the edits that the runtime's
calls make to the state.

Times are milliseconds since boot and failure counters saturate. The revision
wraps at 32 bits. The source holds times in 64 bits, with saturating and with plain
sums: they are readings of the clock, to which it adds at most `MAX_TRANSITION_MS`, and
a lamp would have to run for more than five hundred million years before a sum came to
that edge. So they are natural numbers here.

Does not own storage or hardware calls.
-/

namespace KeyRight.App

open KeyRight.Core

/-- The SDK's error codes that this code raises, and any other the store returns. -/
inductive ErrorCode where
  | invalidState
  | busy
  | constraintError
  | failure
  | invalidCommand
  | other (code : Nat)
deriving DecidableEq, Repr

inductive OutputError where
  | bus
  | readback
deriving DecidableEq, Repr

/-- Scenes Management supports longer transitions than Level/Color commands. -/
def MAX_TRANSITION_MS : Nat := 60000000

/-- Local presentation policy, including zero-duration commands from Home. -/
def DEFAULT_TRANSITION_MS : Nat := 400

/-- `u32::saturating_add(1)`. -/
def saturatingSucc (counter : Nat) : Nat := min (counter + 1) (2 ^ 32 - 1)

inductive OffEffect where
  | fastFade
  | noFade
  | slowFade
  | dyingLight
deriving DecidableEq, Repr

structure State (H : Type) where
  target : LightState
  controller : Controller
  hardware : H
  levelTransition : Option LevelTransition
  temperatureTransition : Option TemperatureTransition
  fault : Fault
  dirty : Bool
  startup : Startup
  loadFault : Option Fault
  offAfterLoad : Bool
  nextVerify : Nat
  retryAt : Nat
  failures : Nat
  storageFailures : Nat
  recoveries : Nat
  revision : UInt32

/-- Tracks and durable target that a command asks for. -/
structure Plan where
  levelTransition : Option LevelTransition
  temperatureTransition : Option TemperatureTransition
  target : LightState

namespace State

variable {H : Type}

/-! ### Output called for -/

def effective (s : State H) (now : Nat) : OutputFrame :=
  let leveled : OutputFrame :=
    match s.levelTransition with
    | none => OutputFrame.fromState s.target
    | some track =>
        if track.remaining now = 0 then OutputFrame.fromState s.target
        else
          let brightness := track.brightness now
          { state :=
              { on := brightness ≠ OutputBrightness.ZERO
                level := brightness.toLevelClamped
                temperature := track.offTemperature.getD s.target.temperature }
            brightness := brightness }
  match s.temperatureTransition with
  | none => leveled
  | some track => { leveled with state := { leveled.state with temperature := track.temperature now } }

theorem effective_brightness_of_none {s : State H} (none : s.levelTransition = none) (now : Nat) :
    (s.effective now).brightness = (OutputFrame.fromState s.target).brightness := by
  unfold effective
  rw [none]
  cases s.temperatureTransition <;> rfl

theorem effective_brightness_of_ended {s : State H} {track : LevelTransition} {now : Nat}
    (active : s.levelTransition = some track) (ended : track.remaining now = 0) :
    (s.effective now).brightness = (OutputFrame.fromState s.target).brightness := by
  unfold effective
  rw [active]
  simp only [if_pos ended]
  cases s.temperatureTransition <;> rfl

theorem effective_brightness_of_running {s : State H} {track : LevelTransition} {now : Nat}
    (active : s.levelTransition = some track) (running : track.remaining now ≠ 0) :
    (s.effective now).brightness = track.brightness now := by
  unfold effective
  rw [active]
  simp only [if_neg running]
  cases s.temperatureTransition <;> rfl

/-- A frame is On exactly when it has brightness. -/
theorem effective_on (s : State H) (now : Nat) :
    (s.effective now).state.on = decide ((s.effective now).brightness ≠ OutputBrightness.ZERO) := by
  have settled : s.target.on =
      decide ((OutputFrame.fromState s.target).brightness ≠ OutputBrightness.ZERO) := by
    cases on : s.target.on with
    | true =>
        rw [OutputFrame.fromState_brightness_of_on on]
        exact (decide_eq_true (OutputBrightness.fromLevel_ne_zero s.target.level)).symm
    | false => simp [OutputFrame.fromState_brightness_of_off on]
  unfold effective
  cases s.temperatureTransition with
  | none =>
      cases s.levelTransition with
      | none => exact settled
      | some track =>
          simp only
          split
          · exact settled
          · rfl
  | some ramp =>
      cases s.levelTransition with
      | none => exact settled
      | some track =>
          simp only
          split
          · exact settled
          · rfl

/-- The acknowledged frame, or the dark frame at the remembered settings. -/
def currentFrame (s : State H) : OutputFrame :=
  s.controller.appliedFrame.getD (OutputFrame.fromState { s.target with on := false })

def levelRemaining (s : State H) (now : Nat) : Nat :=
  s.levelTransition.elim 0 fun track => track.remaining now

def temperatureRemaining (s : State H) (now : Nat) : Nat :=
  s.temperatureTransition.elim 0 fun track => track.remaining now

/-! ### Plans of the commands -/

def duration (requested : Nat) : Nat :=
  if requested = 0 then DEFAULT_TRANSITION_MS else requested

/-- Keep both tracks. -/
def keep (s : State H) (target : LightState) : Plan :=
  ⟨s.levelTransition, s.temperatureTransition, target⟩

/-- A new level track from the acknowledged frame. An Off fade freezes its colour. -/
def levelFade (s : State H) (now : Nat) (target : LightState) (duration : Nat) (curve : Curve) :
    LevelTransition :=
  LevelTransition.single s.currentFrame.brightness (OutputFrame.fromState target).brightness now
    duration curve (if target.on then none else some s.currentFrame.state.temperature)

/-- A new temperature track from the acknowledged frame. -/
def temperatureFade (s : State H) (now : Nat) (temperature : ColorTemperature) (duration : Nat)
    (curve : Curve) : TemperatureTransition :=
  TemperatureTransition.single s.currentFrame.state.temperature temperature now duration curve

def recallScenePlan (target : LightState) (durationMs : Nat) (s : State H) (now : Nat) : Plan :=
  if target = s.target then s.keep target
  else
    let animate := s.currentFrame.brightness ≠ OutputBrightness.ZERO ∨ target.on
    { levelTransition :=
        if animate then some (s.levelFade now target (duration durationMs) .smooth) else none
      temperatureTransition :=
        if animate ∧ target.on then
          some (s.temperatureFade now target.temperature (duration durationMs) .smooth)
        else none
      target := target }

theorem recallScenePlan_target (target : LightState) (durationMs : Nat) (s : State H) (now : Nat) :
    (recallScenePlan target durationMs s now).target = target := by
  unfold recallScenePlan
  split
  · rfl
  · rfl

def setPowerPlan (on : Bool) (s : State H) (now : Nat) : Plan :=
  let target := { s.target with on := on }
  if on = s.target.on then s.keep target
  else
    { levelTransition := some (s.levelFade now target DEFAULT_TRANSITION_MS .smooth)
      temperatureTransition :=
        if !on then none
        else if s.currentFrame.state.temperature ≠ target.temperature then
          some (s.temperatureFade now target.temperature DEFAULT_TRANSITION_MS .smooth)
        else s.temperatureTransition
      target := target }

theorem setPowerPlan_target (on : Bool) (s : State H) (now : Nat) :
    (setPowerPlan on s now).target = { s.target with on := on } := by
  unfold setPowerPlan
  split
  · rfl
  · rfl

/-- Brightness between the two phases of an effect, and their durations. Percentage
effects use physical output, including the sub-minimum tail. -/
def effectPhases (brightness : OutputBrightness) : OffEffect → OutputBrightness × Nat × Nat
  | .fastFade => (OutputBrightness.ZERO, 800, 0)
  | .noFade => (OutputBrightness.ZERO, 0, 0)
  | .slowFade => (⟨brightness.get / 2, by have := brightness.le_max; omega⟩, 800, 12000)
  | .dyingLight => (⟨min (brightness.get * 6 / 5) OutputBrightness.MAX.get, Nat.min_le_right _ _⟩, 500, 1000)

/-- The track of an effect, in one phase or two. -/
def effectFade (current : OutputFrame) (now : Nat) (middle : OutputBrightness) (first last : Nat) :
    LevelTransition where
  ramp := ⟨current.brightness.get, middle.get, now, first, .smooth⟩
  thenRamp := if last ≠ 0 then some ⟨middle.get, 0, now + first, last, .smooth⟩ else none
  offTemperature := some current.state.temperature
  ramp_within := ⟨⟨Nat.zero_le _, current.brightness.le_max⟩, Nat.zero_le _, middle.le_max⟩
  then_within := by
    intro next member
    split at member
    · cases member
      exact ⟨⟨Nat.zero_le _, middle.le_max⟩, Nat.le_refl 0, Nat.zero_le _⟩
    · cases member

/-- Effect frames are transient; the durable Off target retains its level. -/
def offWithEffectPlan (effect : OffEffect) (s : State H) (now : Nat) : Plan :=
  let current := s.currentFrame
  let (middle, first, last) := effectPhases current.brightness effect
  { levelTransition :=
      if current.brightness ≠ OutputBrightness.ZERO ∧ first ≠ 0 then
        some (effectFade current now middle first last)
      else none
    temperatureTransition := none
    target := { s.target with on := false } }

/-- The target of a level command. -/
def levelTarget (s : State H) (level : UInt8) (valid : level ≠ 255) (withOnOff : Bool) :
    LightState :=
  { s.target with
    level := raisedLevel level valid
    on := if withOnOff then Level.MIN.get < level.toNat else s.target.on }

def levelTransitionPlan (level : UInt8) (valid : level ≠ 255) (withOnOff : Bool)
    (durationMs : Nat) (curve : Curve) (s : State H) (now : Nat) : Plan :=
  let current := s.currentFrame
  let target := s.levelTarget level valid withOnOff
  -- ExecuteIfOff only changes remembered settings. A rate command may replace
  -- an existing rate toward the same endpoint.
  if (target = s.target ∧ curve = .smooth) ∨ (!target.on ∧ !s.target.on ∧ !withOnOff) then
    s.keep target
  else
    { levelTransition :=
        if durationMs ≠ 0 ∧ (current.brightness ≠ OutputBrightness.ZERO ∨ target.on) then
          some (s.levelFade now target durationMs curve)
        else none
      temperatureTransition :=
        if !target.on then none
        else if !s.target.on ∧ current.state.temperature ≠ target.temperature then
          some (s.temperatureFade now target.temperature durationMs curve)
        else s.temperatureTransition
      target := target }

/-- A level command either keeps both tracks or starts its own. -/
theorem levelTransitionPlan_cases (level : UInt8) (valid : level ≠ 255) (withOnOff : Bool)
    (durationMs : Nat) (curve : Curve) (s : State H) (now : Nat) :
    let target := s.levelTarget level valid withOnOff
    let plan := levelTransitionPlan level valid withOnOff durationMs curve s now
    (((target = s.target ∧ curve = .smooth) ∨
        (target.on = false ∧ s.target.on = false ∧ withOnOff = false)) ∧ plan = s.keep target) ∨
      ((target.on = true ∨ s.target.on = true ∨ withOnOff = true) ∧ plan.target = target ∧
        plan.levelTransition =
          (if durationMs ≠ 0 ∧
              (s.currentFrame.brightness ≠ OutputBrightness.ZERO ∨ target.on) then
            some (s.levelFade now target durationMs curve)
          else none) ∧
        plan.temperatureTransition =
          (if !target.on then none
          else if !s.target.on ∧ s.currentFrame.state.temperature ≠ target.temperature then
            some (s.temperatureFade now target.temperature durationMs curve)
          else s.temperatureTransition)) := by
  intro target plan
  by_cases unchanged : (target = s.target ∧ curve = .smooth) ∨
      (!target.on ∧ !s.target.on ∧ !withOnOff)
  · refine .inl ⟨by simpa using unchanged, ?_⟩
    simp only [plan, levelTransitionPlan]
    rw [if_pos unchanged]
  · have fades : plan = _ := if_neg unchanged
    refine .inr ⟨?_, by rw [fades], by rw [fades], by rw [fades]⟩
    by_contra dark
    refine unchanged (.inr ?_)
    simpa using dark

theorem levelTransitionPlan_target (level : UInt8) (valid : level ≠ 255) (withOnOff : Bool)
    (durationMs : Nat) (curve : Curve) (s : State H) (now : Nat) :
    (levelTransitionPlan level valid withOnOff durationMs curve s now).target =
      s.levelTarget level valid withOnOff := by
  rcases levelTransitionPlan_cases level valid withOnOff durationMs curve s now with
    ⟨_, kept⟩ | ⟨_, target, _⟩
  · rw [kept]
    rfl
  · exact target

def temperatureTransitionPlan (temperature : ColorTemperature) (durationMs : Nat) (curve : Curve)
    (s : State H) (now : Nat) : Plan where
  levelTransition := s.levelTransition
  temperatureTransition :=
    if s.target.on ∧ (temperature ≠ s.target.temperature ∨ curve = .linear) then
      if durationMs ≠ 0 then some (s.temperatureFade now temperature durationMs curve) else none
    else s.temperatureTransition
  target := { s.target with temperature := temperature }

/-- Stop must store a representable state: the nearest legal level, or Off in the
sub-minimum tail of a power fade. -/
def stopLevelPlan (s : State H) (_now : Nat) : Except ErrorCode (Option Plan) :=
  match s.levelTransition with
  | none => .ok none
  | some stopped =>
      match s.controller.appliedFrame with
      | none => .error .invalidState
      | some applied =>
          .ok <| some
            { levelTransition := none
              temperatureTransition := s.temperatureTransition
              target :=
                { level := applied.brightness.toLevelClamped
                  on := OutputBrightness.DENOMINATOR / 2 < applied.brightness.get
                  temperature := stopped.offTemperature.getD s.target.temperature } }

def stopTemperaturePlan (s : State H) (_now : Nat) : Except ErrorCode (Option Plan) :=
  match s.temperatureTransition with
  | none => .ok none
  | some _ =>
      match s.controller.applied with
      | none => .error .invalidState
      | some applied =>
          .ok <| some
            { levelTransition := s.levelTransition
              temperatureTransition := none
              target := { s.target with temperature := applied.temperature } }

/-- What a Stop of the level plans, where it plans anything. -/
theorem stopLevelPlan_cases {s : State H} {now : Nat} {plan : Plan}
    (stops : s.stopLevelPlan now = .ok (some plan)) :
    ∃ stopped applied, s.levelTransition = some stopped ∧
      s.controller.appliedFrame = some applied ∧ plan =
        { levelTransition := none
          temperatureTransition := s.temperatureTransition
          target :=
            { level := applied.brightness.toLevelClamped
              on := OutputBrightness.DENOMINATOR / 2 < applied.brightness.get
              temperature := stopped.offTemperature.getD s.target.temperature } } := by
  unfold stopLevelPlan at stops
  cases active : s.levelTransition with
  | none =>
      rw [active] at stops
      cases stops
  | some stopped =>
      rw [active] at stops
      cases known : s.controller.appliedFrame with
      | none =>
          rw [known] at stops
          cases stops
      | some applied =>
          rw [known] at stops
          cases stops
          exact ⟨stopped, applied, rfl, rfl, rfl⟩

theorem stopTemperaturePlan_cases {s : State H} {now : Nat} {plan : Plan}
    (stops : s.stopTemperaturePlan now = .ok (some plan)) :
    ∃ stopped applied, s.temperatureTransition = some stopped ∧
      s.controller.applied = some applied ∧ plan =
        { levelTransition := s.levelTransition
          temperatureTransition := none
          target := { s.target with temperature := applied.temperature } } := by
  unfold stopTemperaturePlan at stops
  cases active : s.temperatureTransition with
  | none =>
      rw [active] at stops
      cases stops
  | some stopped =>
      rw [active] at stops
      cases known : s.controller.applied with
      | none =>
          rw [known] at stops
          cases stops
      | some applied =>
          rw [known] at stops
          cases stops
          exact ⟨stopped, applied, rfl, rfl, rfl⟩

/-! ### Edits -/

def setTracks (s : State H) (plan : Plan) : State H :=
  { s with
    levelTransition := plan.levelTransition
    temperatureTransition := plan.temperatureTransition }

/-- The edit that starts a commit. -/
def setTarget (s : State H) (target : LightState) : State H :=
  { s with
    dirty := s.dirty || s.target ≠ target
    target := target
    revision := s.revision + 1 }

theorem setTarget_clean {s : State H} {target : LightState} :
    (s.setTarget target).dirty = false ↔ s.dirty = false ∧ s.target = target := by
  simp [setTarget]

def saved (s : State H) : State H := { s with dirty := false }

/-- The failed store call of `saveIntent`, before its shutdown. -/
def storeFailed (s : State H) : State H :=
  { s with storageFailures := saturatingSucc s.storageFailures, fault := .storage }

/-- The end of a failed `saveIntent`. -/
def saveFailed (s : State H) (stopped : Bool) (now : Nat) : State H :=
  { s with
    failures := if stopped then s.failures else saturatingSucc s.failures
    controller := s.controller.invalidateApplied
    revision := s.revision + 1
    retryAt := now + 5000 }

def outputFailed (s : State H) (now : Nat) : State H :=
  { s with
    controller := s.controller.invalidateApplied
    fault := .output
    failures := saturatingSucc s.failures
    retryAt := now + 5000
    revision := s.revision + 1 }

/-- Ease valid On intent back in from a proven zero. -/
def easeFromZero (s : State H) (now : Nat) : State H :=
  { s with
    levelTransition :=
      if s.target.on then
        some (LevelTransition.single OutputBrightness.ZERO
          (OutputBrightness.fromLevel s.target.level) now DEFAULT_TRANSITION_MS .smooth none)
      else none
    temperatureTransition := none }

/-- The three controller commands that make a frame the controller's intent. -/
def intend (s : State H) (frame : OutputFrame) : State H :=
  let (_, controller) := s.controller.command (.setLevel frame.state.level)
  let (_, controller) := controller.command (.setTemperature frame.state.temperature)
  let (_, controller) := controller.command (.setPower frame.state.on)
  { s with controller := controller }

/-- Drop the tracks that have ended. -/
def expire (s : State H) (now : Nat) : State H :=
  { s with
    levelTransition := s.levelTransition.filter fun track => track.remaining now ≠ 0
    temperatureTransition := s.temperatureTransition.filter fun track => track.remaining now ≠ 0 }

theorem expire_level {s : State H} {now : Nat}
    (active : (s.expire now).levelTransition ≠ none) : s.levelTransition ≠ none := by
  intro inactive
  apply active
  simp [expire, inactive]

/-- The end of a successful reconciliation. Controllers report the destination,
but becoming available again changes their readable attributes. -/
def settled (s : State H) (now : Nat) (previous : Option OutputFrame) : State H :=
  let settled : State H :=
    { s with
      recoveries := if s.fault = .output then saturatingSucc s.recoveries else s.recoveries
      fault := .none
      retryAt := 0
      nextVerify := if previous ≠ s.controller.appliedFrame then now + 5000 else s.nextVerify
      revision :=
        if previous ≠ s.controller.appliedFrame ∧ previous = none then s.revision + 1
        else s.revision }
  settled.expire now

/-- Local Off after its shutdown attempt. -/
def localOff (s : State H) : State H :=
  { s with
    controller := s.controller.invalidateApplied
    levelTransition := none
    temperatureTransition := none
    dirty := s.dirty || s.target.on
    target := { s.target with on := false } }

/-- Local Off while the saved intent could not be read. -/
def deferOff (s : State H) (stopped : Bool) : State H :=
  { s with
    offAfterLoad := true
    dirty := false
    failures := if stopped then s.failures else saturatingSucc s.failures }

/-- Explicit local Off repairs malformed intent. -/
def repairRecord (s : State H) : State H :=
  { s with dirty := s.dirty || s.loadFault == some .invalidRecord }

def clearLoadFault (s : State H) : State H :=
  { s with loadFault := none, revision := s.revision + 1 }

/-- A retried load that succeeded. -/
def loaded (s : State H) (saved : SavedState) : State H :=
  let restored := startupIntent saved.intended saved.startup
  let target := if s.offAfterLoad then { restored with on := false } else restored
  { s with
    target := target
    controller := Controller.new (some target)
    startup := saved.startup
    dirty := saved.migrated || target ≠ saved.intended
    loadFault := none
    fault := .none
    revision := s.revision + 1 }

theorem loaded_clean {s : State H} {saved : SavedState} :
    (s.loaded saved).dirty = false ↔
      saved.migrated = false ∧ (s.loaded saved).target = saved.intended := by
  simp [loaded]

/-- A retried load that failed. -/
def loadFailed (s : State H) (fault : Fault) (now : Nat) : State H :=
  { s with
    loadFault := some fault
    fault := fault
    storageFailures :=
      if fault = .storage then saturatingSucc s.storageFailures else s.storageFailures
    retryAt := now + 5000 }

/-- The latch of a reboot, after its shutdown attempt. -/
def latch (s : State H) : State H :=
  { s with
    controller := s.controller.invalidateApplied
    fault := .rebooting
    revision := s.revision + 1 }

def setStartup (s : State H) (startup : Startup) : State H :=
  { s with startup := startup, dirty := false, revision := s.revision + 1 }

end State

end KeyRight.App
