import KeyRight.App.Frames
import KeyRight.App.Quietly
import KeyRight.App.Resumption
import Mathlib.Tactic.Ring

/-!
Owns the Move commands of Level Control: when they go on from the acknowledged frame, and
when their ramp keeps the rate that they ask for. The time that a Move takes is computed
from levels and its ramp from brightness; below the floor and while Off the two part.

Does not own the other level commands.
-/

namespace KeyRight.App

open KeyRight.Core KeyRight.Support

variable {K H : Type}

/-! ### Rates -/

/-- On average the ramp moves at most `rate` levels of nine units a second, but for half a
level of its distance. -/
def Transition.KeepsRate (ramp : Transition) (rate : Nat) : Prop :=
  1000 * LightHandler.absDiff ramp.fromValue ramp.toValue ≤ 9 * rate * ramp.duration + 1000 * 4

instance (ramp : Transition) (rate : Nat) : Decidable (ramp.KeepsRate rate) :=
  inferInstanceAs (Decidable (_ ≤ _))

namespace LightHandler

/-- The brightness leaves the ramp of a Move at its rate. Upwards it must not lie deeper below
the floor than the rounded time makes up for; a Move down to Off crosses the whole floor in
the time of one level. -/
def Paced (mode : LevelMode) (withOnOff : Bool) (rate brightness : Nat) : Prop :=
  match mode, withOnOff with
  | .up, _ => 25260 ≤ 10 * brightness + 9 * (rate * divCeil 2530 rate)
  | .down, true => 10 * brightness ≤ 9 * (rate * divCeil 10 rate) + 40
  | .down, false => True

instance (rate brightness : Nat) : ∀ mode withOnOff, Decidable (Paced mode withOnOff rate brightness)
  | .up, _ => inferInstanceAs (Decidable (_ ≤ _))
  | .down, true => inferInstanceAs (Decidable (_ ≤ _))
  | .down, false => inferInstanceAs (Decidable True)

theorem divCeil_bounds (value : Nat) {divisor : Nat} (positive : 0 < divisor) :
    value ≤ divisor * divCeil value divisor ∧ divisor * divCeil value divisor < value + divisor := by
  have split := Nat.div_add_mod (value + divisor - 1) divisor
  have small := Nat.mod_lt (value + divisor - 1) positive
  unfold divCeil
  omega

theorem divCeil_eq_zero {value divisor : Nat} (positive : 0 < divisor) :
    divCeil value divisor = 0 ↔ value = 0 := by
  have bounds := divCeil_bounds value positive
  constructor
  · intro none
    rw [none] at bounds
    omega
  · rintro rfl
    exact Nat.div_eq_of_lt (by omega)

theorem toLevelClamped_get (brightness : OutputBrightness) :
    brightness.toLevelClamped.get =
      if brightness.get ≤ 253 then 1 else 1 + (brightness.get - 253 + 4) / 9 := by
  unfold OutputBrightness.toLevelClamped
  split
  · rfl
  · rfl

theorem keepsRate_deciseconds {fromValue toValue now ds rate : Nat} {curve : Curve} :
    Transition.KeepsRate ⟨fromValue, toValue, now, ds * 100, curve⟩ rate ↔
      10 * absDiff fromValue toValue ≤ 9 * (rate * ds) + 40 := by
  have time : 9 * rate * (ds * 100) = 900 * (rate * ds) := by ring
  change 1000 * absDiff fromValue toValue ≤ 9 * rate * (ds * 100) + 1000 * 4 ↔ _
  rw [time]
  omega

section

variable {rate level brightness : Nat} (positive : 0 < rate) (small : rate ≤ 255)

/-- The level of a lit brightness, as acknowledged. -/
def LevelOf (level brightness : Nat) : Prop :=
  brightness ≠ 0 → level = if brightness ≤ 253 then 1 else 1 + (brightness - 253 + 4) / 9

include positive small

/-- Up to the maximum, from any level below it. -/
theorem keepsRate_up (now : Nat) (low : 1 ≤ level) (high : level < 254) (bound : brightness ≤ 2530)
    (lit : LevelOf level brightness) :
    Transition.KeepsRate ⟨brightness, 2530, now, divCeil (absDiff level 254 * 10) rate * 100, .linear⟩
      rate ↔ Paced .up withOnOff rate brightness := by
  have way : absDiff level 254 = 254 - level := by
    unfold absDiff
    omega
  have distance : absDiff brightness 2530 = 2530 - brightness := by
    unfold absDiff
    omega
  have time := divCeil_bounds ((254 - level) * 10) positive
  have longest := divCeil_bounds 2530 positive
  rw [keepsRate_deciseconds, way, distance, Paced]
  by_cases floor : level = 1
  · rw [floor, show (254 - 1) * 10 = 2530 from rfl]
    omega
  · by_cases dark : brightness = 0
    · omega
    · have known := lit dark
      split at known
      · omega
      · omega

/-- Down to Off, from any lit level. -/
theorem keepsRate_off (now : Nat) (low : 1 ≤ level) (high : level ≤ 254) (bound : brightness ≤ 2530)
    (lit : LevelOf level brightness) :
    (brightness ≠ 0 → Transition.KeepsRate
        ⟨brightness, 0, now, divCeil (absDiff level 0 * 10) rate * 100, .linear⟩ rate) ↔
      Paced .down true rate brightness := by
  have way : absDiff level 0 = level := by
    unfold absDiff
    omega
  have distance : absDiff brightness 0 = brightness := by
    unfold absDiff
    omega
  have time := divCeil_bounds (level * 10) positive
  have shortest := divCeil_bounds 10 positive
  rw [keepsRate_deciseconds, way, distance, Paced]
  by_cases dark : brightness = 0
  · omega
  · have known := lit dark
    by_cases floor : level = 1
    · rw [floor, show 1 * 10 = 10 from rfl]
      omega
    · split at known
      · omega
      · omega

/-- Down to the minimum, from any level above it. -/
theorem keepsRate_down (now : Nat) (apart : 1 < level) (bound : brightness ≤ 2530)
    (dark : brightness ≠ 0) (lit : LevelOf level brightness) :
    Transition.KeepsRate ⟨brightness, 253, now, divCeil (absDiff level 1 * 10) rate * 100, .linear⟩
      rate := by
  have way : absDiff level 1 = level - 1 := by
    unfold absDiff
    omega
  have time := divCeil_bounds ((level - 1) * 10) positive
  have known := lit dark
  rw [keepsRate_deciseconds, way]
  split at known
  · omega
  · have distance : absDiff brightness 253 = brightness - 253 := by
      unfold absDiff
      omega
    omega

end

end LightHandler

/-! ### Frames of a Move -/

section

variable {s t u : State H} {now : Nat} {frame : OutputFrame}

/-- What goes on from the next frame goes on from this one as far as the next one does. -/
theorem Resumes.through (resumes : Resumes u now (t.effective now)) :
    Resumes u now frame ↔ Resumes t now frame := by
  constructor
  · intro shown
    have brightness := resumes.brightness.symm.trans shown.brightness
    refine ⟨brightness, fun lit => ?_⟩
    rw [← shown.temperature lit]
    exact (resumes.temperature (brightness ▸ lit)).symm
  · intro shown
    refine ⟨resumes.brightness.trans shown.brightness, fun lit => ?_⟩
    rw [← shown.temperature lit]
    exact resumes.temperature (shown.brightness ▸ lit)

/-- An Off target only remembers a level that is not coupled to On/Off. -/
theorem Held.level_remembered (held : Held s now frame) (dark : s.target.on = false) (level : UInt8)
    (valid : level ≠ 255) (durationMs : Nat) (curve : Curve) :
    Resumes (s.follow (State.levelTransitionPlan level valid false durationMs curve s now)) now
      frame := by
  have on : (s.levelTarget level valid false).on = s.target.on := rfl
  have unchanged : (s.levelTarget level valid false = s.target ∧ curve = .smooth) ∨
      (!(s.levelTarget level valid false).on ∧ !s.target.on ∧ !false) := .inr (by simp [on, dark])
  rw [State.levelTransitionPlan, if_pos unchanged]
  have kept : Resumes (s.follow (s.keep (s.levelTarget level valid false))) now frame ↔
      ¬Drifted s frame :=
    held.kept_iff rfl rfl on (fromState_brightness_off (on.trans dark) dark) fun _ => rfl
  exact kept.mpr (Drifted.not_of_off dark)

/-- An Off target only remembers a temperature. -/
theorem Held.temperature_remembered (held : Held s now frame) (dark : s.target.on = false)
    (temperature : ColorTemperature) (durationMs : Nat) (curve : Curve) :
    Resumes (s.follow (State.temperatureTransitionPlan temperature durationMs curve s now)) now
      frame := by
  have still : (State.temperatureTransitionPlan temperature durationMs curve s now).temperatureTransition
      = s.temperatureTransition := if_neg (by simp [dark])
  have kept : Resumes (s.follow (State.temperatureTransitionPlan temperature durationMs curve s now))
      now frame ↔ ¬Drifted s frame := by
    refine held.kept_iff rfl still rfl rfl fun on => ?_
    rw [dark] at on
    cases on
  exact kept.mpr (Drifted.not_of_off dark)

/-- A rate starts its own track, unless it is only remembered. -/
theorem Held.rate_track (held : Held s now frame) (level : UInt8) (valid : level ≠ 255)
    {withOnOff : Bool} (busy : s.target.on = true ∨ withOnOff = true) (durationMs : Nat) :
    (State.levelTransitionPlan level valid withOnOff durationMs .linear s now).levelTransition =
      if durationMs ≠ 0 ∧ (frame.brightness ≠ OutputBrightness.ZERO ∨
          (s.levelTarget level valid withOnOff).on = true) then
        some (s.levelFade now (s.levelTarget level valid withOnOff) durationMs .linear)
      else none := by
  have cases_ := State.levelTransitionPlan_cases level valid withOnOff durationMs .linear s now
  rcases cases_ with ⟨⟨_, smooth⟩ | ⟨_, dark, uncoupled⟩, _⟩ | ⟨_, _, fades, _⟩
  · cases smooth
  · rw [dark, uncoupled] at busy
    simp at busy
  · rw [fades, held.current]

theorem TemperatureTransition.single_instant (current target : ColorTemperature) (start now : Nat)
    (curve : Curve) : (single current target start 0 curve).temperature now = target := by
  apply ColorTemperature.ext
  rw [temperature_get]
  simp [single, Transition.value]

/-- A state that calls for a level, which is never dark, goes on from what shows that level. -/
theorem resumes_fromLevel_iff {t : State H} {level : Level} {shown : Prop}
    (bright : (t.effective now).brightness = OutputBrightness.fromLevel level)
    (tinted : frame.brightness ≠ OutputBrightness.ZERO →
      ((t.effective now).state.temperature = frame.state.temperature ↔ shown)) :
    Resumes t now frame ↔ frame.brightness = OutputBrightness.fromLevel level ∧ shown := by
  constructor
  · intro resumes
    have same := resumes.brightness.symm.trans bright
    have lit : frame.brightness ≠ OutputBrightness.ZERO :=
      same ▸ OutputBrightness.fromLevel_ne_zero _
    exact ⟨same, (tinted lit).mp (resumes.temperature lit)⟩
  · rintro ⟨same, kept⟩
    exact ⟨bright.trans same.symm, fun lit => (tinted lit).mpr kept⟩

/-- A rate that takes no time is at once at its level, and at the temperature of a target
that was Off. -/
theorem Held.arrived_iff (held : Held s now frame) (level : UInt8) (valid : level ≠ 255)
    (withOnOff : Bool) (lights : (s.levelTarget level valid withOnOff).on = true) :
    Resumes (s.follow (State.levelTransitionPlan level valid withOnOff 0 .linear s now)) now frame ↔
      frame.brightness = OutputBrightness.fromLevel (raisedLevel level valid) ∧
        (frame.state.temperature = s.target.temperature ∨ s.temperatureTransition ≠ none) := by
  have cases_ := State.levelTransitionPlan_cases level valid withOnOff 0 .linear s now
  rcases cases_ with ⟨⟨_, smooth⟩ | ⟨dark, _⟩, _⟩ | ⟨_, target, fades, tempers⟩
  · cases smooth
  · rw [lights] at dark
    cases dark
  have aim : (s.levelTarget level valid withOnOff).temperature = s.target.temperature := rfl
  have raised : (s.levelTarget level valid withOnOff).level = raisedLevel level valid := rfl
  generalize State.levelTransitionPlan level valid withOnOff 0 .linear s now = plan at *
  generalize s.levelTarget level valid withOnOff = goal at *
  subst target
  rw [if_neg fun timed => timed.1 rfl] at fades
  rw [held.current, if_neg (by simp [lights])] at tempers
  have bright : ((s.follow plan).effective now).brightness =
      OutputBrightness.fromLevel (raisedLevel level valid) := by
    rw [State.effective_brightness_of_none fades, ← raised]
    exact OutputFrame.fromState_brightness_of_on lights
  have settled : plan.temperatureTransition = none →
      ((s.follow plan).effective now).state.temperature = s.target.temperature := fun still =>
    (State.effective_temperature_of_idle still fades).trans aim
  refine resumes_fromLevel_iff bright fun lit => ?_
  cases lamp : s.target.on with
  | true =>
      rw [if_neg (by simp [lamp])] at tempers
      cases fading : s.temperatureTransition with
      | none =>
          rw [settled (tempers.trans fading)]
          simp [eq_comm]
      | some fade =>
          have shown := held.shows.temperature lit fun _ => by simp [fading]
          rw [State.effective_temperature_of_fading fading] at shown
          rw [State.effective_temperature_of_fading (tempers.trans fading), shown]
          simp
  | false =>
      have still := held.still lamp lit
      by_cases apart : frame.state.temperature ≠ plan.target.temperature
      · rw [if_pos ⟨by simp [lamp], apart⟩] at tempers
        rw [State.effective_temperature_of_fading tempers, State.temperatureFade,
          TemperatureTransition.single_instant, aim]
        rw [aim] at apart
        simp [still, apart, Ne.symm apart]
      · rw [if_neg fun fresh => apart fresh.2] at tempers
        rw [settled (tempers.trans still)]
        rw [aim, not_not] at apart
        simp [apart]

/-- A temperature rate that takes no time, on a level that has arrived. -/
theorem tinted_iff (on : s.target.on = true) (idle : s.levelTransition = none)
    (temperature : ColorTemperature) :
    Resumes (s.follow (State.temperatureTransitionPlan temperature 0 .linear s now)) now frame ↔
      frame.brightness = OutputBrightness.fromLevel s.target.level ∧
        frame.state.temperature = temperature := by
  have still : (State.temperatureTransitionPlan temperature 0 .linear s now).temperatureTransition =
      none := (if_pos ⟨on, .inr rfl⟩).trans (if_neg fun timed => timed rfl)
  have gone : (State.temperatureTransitionPlan temperature 0 .linear s now).levelTransition = none :=
    idle
  have target : (State.temperatureTransitionPlan temperature 0 .linear s now).target =
      { s.target with temperature := temperature } := rfl
  generalize State.temperatureTransitionPlan temperature 0 .linear s now = plan at *
  have bright : ((s.follow plan).effective now).brightness =
      OutputBrightness.fromLevel s.target.level := by
    rw [State.effective_brightness_of_none gone]
    change (OutputFrame.fromState plan.target).brightness = _
    rw [target]
    exact OutputFrame.fromState_brightness_of_on on
  have tint : ((s.follow plan).effective now).state.temperature = temperature :=
    (State.effective_temperature_of_idle still gone).trans (congrArg LightState.temperature target)
  refine resumes_fromLevel_iff bright fun _ => ?_
  rw [tint, eq_comm]

end

/-! ### One Move -/

namespace LightHandler

open Program

/-- The deciseconds that a Move takes from the acknowledged level. -/
def moveTime (level : Level) (mode : LevelMode) (rate : Option UInt8) (withOnOff : Bool) : Nat :=
  divCeil (absDiff level.get (levelMoveTarget mode withOnOff).toNat * 10) (rate.getD 254).toNat

theorem levelMoveTarget_ne (mode : LevelMode) (withOnOff : Bool) :
    levelMoveTarget mode withOnOff ≠ 255 := by
  cases mode with
  | up => exact nofun
  | down =>
      cases withOnOff with
      | false => exact nofun
      | true => exact nofun

theorem raisedLevel_eq {level : Level} {raw : UInt8} {valid : raw ≠ 255}
    (same : level.get = raw.toNat) : raisedLevel raw valid = level := by
  have low := level.min_le
  have raised : (raisedLevel raw valid).get = max raw.toNat 1 :=
    Level.new_eq_some.mp (new_raisedLevel valid)
  apply Level.ext
  omega

theorem rate_pos {rate : Option UInt8} (moves : rate ≠ some 0) : 0 < (rate.getD 254).toNat := by
  cases rate with
  | none => decide
  | some rate =>
      have nonzero : rate ≠ 0 := fun same => moves (congrArg some same)
      have apart : rate.toNat ≠ 0 := fun same => nonzero (UInt8.toNat_inj.mp same)
      exact Nat.pos_of_ne_zero apart

theorem moveTime_lt (level : Level) (mode : LevelMode) {rate : Option UInt8} (moves : rate ≠ some 0)
    (withOnOff : Bool) : moveTime level mode rate withOnOff < 65536 := by
  have positive := rate_pos moves
  have bounds := divCeil_bounds (absDiff level.get (levelMoveTarget mode withOnOff).toNat * 10) positive
  have way : absDiff level.get (levelMoveTarget mode withOnOff).toNat ≤ 255 := by
    have high := level.le_max
    have aim := (levelMoveTarget mode withOnOff).toNat_lt
    unfold absDiff
    omega
  have factor : moveTime level mode rate withOnOff ≤
      (rate.getD 254).toNat * moveTime level mode rate withOnOff := Nat.le_mul_of_pos_left _ positive
  have rated := (rate.getD 254).toNat_lt
  unfold moveTime at *
  omega

theorem moveTime_short (level : Level) (mode : LevelMode) {rate : Option UInt8}
    (moves : rate ≠ some 0) (withOnOff : Bool) :
    moveTime level mode rate withOnOff * 100 ≤ MAX_TRANSITION_MS := by
  have bound := moveTime_lt level mode moves withOnOff
  have limit : 65536 * 100 ≤ MAX_TRANSITION_MS := by decide
  omega

variable [KvBlobStore K] [Hardware H] {h t : LightHandler K H} {frame : OutputFrame}
variable {mode : LevelMode} {rate : Option UInt8} {withOnOff : Bool} {mask override : UInt8}

/-- An executed Move makes its ramps. -/
theorem ends_move (settled : Settled h.runtime.state)
    (known : h.runtime.state.controller.appliedFrame = some frame) (moves : rate ≠ some 0)
    (executed : ((executeLevel withOnOff mask override).start h).1 = .ok true) :
    Ends (perform (.moveLevel mode rate withOnOff mask override)) h (Unless h.runtime.trace fun result t =>
      result = .ok () ∧ Ramped h t (levelMoveTarget mode withOnOff) (levelMoveTarget_ne mode withOnOff)
        withOnOff (moveTime frame.state.level mode rate withOnOff * 100) mask override true) := by
  have acknowledges : h.runtime.acknowledged = .ok frame.state := by
    rw [Runtime.acknowledged, Controller.applied, known]
    rfl
  have rated : rate.getD 254 ≠ 0 := fun none => by
    have positive := rate_pos moves
    rw [none] at positive
    cases positive
  rw [perform, levelMove, ends_bind]
  refine ends_of_keeps (executes_keeps levelOptions withOnOff mask override) ?_
  rw [executed]
  simp only [if_true, if_neg rated]
  rw [ends_bind]
  refine ends_acknowledged ?_
  rw [acknowledges]
  have time : (UInt16.ofNat (moveTime frame.state.level mode rate withOnOff)).toNat =
      moveTime frame.state.level mode rate withOnOff :=
    UInt16.toNat_ofNat_of_lt (moveTime_lt _ _ moves _)
  refine (ends_ramps settled _ withOnOff _ mask override true).mono fun result t ends silent => ?_
  rcases ends silent with ⟨_, refused | unexecuted⟩ | ⟨_, succeeded, _, ramped⟩
  · exact absurd refused (levelMoveTarget_ne mode withOnOff)
  · exact absurd executed unexecuted
  · refine ⟨succeeded, ?_⟩
    rw [← time]
    exact ramped

/-! ### What a Move meets -/

/-- Off and not coupled to On/Off: the Move only changes what is remembered. -/
def Remembers (h : LightHandler K H) (withOnOff : Bool) : Prop :=
  h.runtime.state.target.on = false ∧ withOnOff = false

/-- The Move leads to Off. -/
def MovesOff (mode : LevelMode) (withOnOff : Bool) : Prop := mode = .down ∧ withOnOff = true

/-- A Move that takes no time leaves the temperature, coupled or not. -/
def Tinted (h : LightHandler K H) (frame : OutputFrame) (mode : LevelMode) (withOnOff : Bool)
    (mask override : UInt8) : Prop :=
  if h.Couples mask override then
    frame.state.temperature =
      coupledColor (levelMoveTarget mode withOnOff) (levelMoveTarget_ne mode withOnOff)
  else
    frame.state.temperature = h.runtime.state.target.temperature ∨
      h.runtime.state.temperatureTransition ≠ none

/-- Level and brightness agree as far as the Move relies on it, and it leaves the temperature. -/
def Fits (h : LightHandler K H) (frame : OutputFrame) (mode : LevelMode) (rate : Nat)
    (withOnOff : Bool) (mask override : UInt8) : Prop :=
  h.Remembers withOnOff ∨
    if frame.state.level.get = (levelMoveTarget mode withOnOff).toNat then
      frame.brightness = OutputBrightness.fromLevel frame.state.level ∧
        h.Tinted frame mode withOnOff mask override
    else
      Paced mode withOnOff rate frame.brightness.get ∧
        (MovesOff mode withOnOff ∨ ¬Drifted h.runtime.state frame)

section

omit [KvBlobStore K] [Hardware H]

instance (h : LightHandler K H) (withOnOff : Bool) : Decidable (h.Remembers withOnOff) :=
  inferInstanceAs (Decidable (_ ∧ _))

instance (mode : LevelMode) (withOnOff : Bool) : Decidable (MovesOff mode withOnOff) :=
  inferInstanceAs (Decidable (_ ∧ _))

instance (h : LightHandler K H) (frame : OutputFrame) (mode : LevelMode) (withOnOff : Bool)
    (mask override : UInt8) : Decidable (h.Tinted frame mode withOnOff mask override) :=
  inferInstanceAs (Decidable (if h.Couples mask override then _ = _ else _ = _ ∨ _ ≠ _))

instance (h : LightHandler K H) (frame : OutputFrame) (mode : LevelMode) (rate : Nat)
    (withOnOff : Bool) (mask override : UInt8) : Decidable (h.Fits frame mode rate withOnOff mask override) :=
  inferInstanceAs (Decidable (_ ∨ if frame.state.level.get = _ then _ = _ ∧ _ else _ ∧ (_ ∨ ¬_)))

end

/-- Right after a Move the same light is acknowledged, and the ramp that it has installed is
linear and keeps the rate. -/
structure Honors (h t : LightHandler K H) (frame : OutputFrame) (rate : Nat) (withOnOff : Bool) :
    Prop where
  acknowledged : ∃ next, t.runtime.state.controller.appliedFrame = some next ∧
    next.brightness = frame.brightness ∧
    (frame.brightness ≠ OutputBrightness.ZERO →
      next.state.temperature = frame.state.temperature)
  installed : ¬h.Remembers withOnOff →
    ∀ track, t.runtime.state.levelTransition = some track →
      track.thenRamp = none ∧ track.ramp.curve = .linear ∧ track.ramp.KeepsRate rate

omit [KvBlobStore K] [Hardware H] in
theorem lit_of_busy (busy : ¬h.Remembers withOnOff) :
    h.runtime.state.target.on = true ∨ withOnOff = true := by
  by_contra dark
  push Not at dark
  exact busy (by simpa [Remembers] using dark)

omit [KvBlobStore K] [Hardware H] in
theorem levelTarget_on (mode : LevelMode) (busy : ¬h.Remembers withOnOff) :
    (h.runtime.state.levelTarget (levelMoveTarget mode withOnOff) (levelMoveTarget_ne mode withOnOff)
      withOnOff).on = true ↔ ¬MovesOff mode withOnOff := by
  cases withOnOff with
  | true =>
      cases mode with
      | up => simp [State.levelTarget, levelMoveTarget, MovesOff, Level.MIN]
      | down => simp [State.levelTarget, levelMoveTarget, MovesOff, Level.MIN]
  | false =>
      have lit : h.runtime.state.target.on = true := (lit_of_busy busy).resolve_right Bool.false_ne_true
      simp [State.levelTarget, MovesOff, lit]

omit [KvBlobStore K] [Hardware H] in
theorem glided_continues {v : State H} {now : Nat} {r : Runtime K H} (glided : Glided v now r) :
    (∃ next, r.state.controller.appliedFrame = some next ∧ next.brightness = frame.brightness ∧
      (frame.brightness ≠ OutputBrightness.ZERO →
        next.state.temperature = frame.state.temperature)) ↔ Resumes v now frame := by
  constructor
  · rintro ⟨next, shown, brightness, temperature⟩
    rw [glided.shows] at shown
    cases shown
    exact ⟨brightness, temperature⟩
  · intro resumes
    exact ⟨_, glided.shows, resumes.brightness, resumes.temperature⟩

omit [KvBlobStore K] [Hardware H] in
theorem moveTime_eq_zero (level : Level) (mode : LevelMode) (withOnOff : Bool)
    (moves : rate ≠ some 0) :
    moveTime level mode rate withOnOff = 0 ↔ level.get = (levelMoveTarget mode withOnOff).toNat := by
  rw [moveTime, divCeil_eq_zero (rate_pos moves)]
  unfold absDiff
  omega

/-! ### Both ramps of a Move -/

section

variable {raw : UInt8} {valid : raw ≠ 255} {durationMs : Nat}

/-- The runtime between the two ramps. -/
def leveled (h : LightHandler K H) (raw : UInt8) (withOnOff : Bool) (durationMs : Nat) : Runtime K H :=
  h.runtime.after (rampLevel true raw withOnOff durationMs)

theorem Ramped.first (settled : Settled h.runtime.state) (short : durationMs ≤ MAX_TRANSITION_MS)
    (ramped : Ramped h t raw valid withOnOff durationMs mask override true) :
    Glided (h.runtime.state.follow (State.levelTransitionPlan raw valid withOnOff durationMs .linear
      h.runtime.state h.runtime.now)) h.runtime.now (h.leveled raw withOnOff durationMs) :=
  (Runtime.after_glides settled (rampLevel_asks _ true raw valid withOnOff short) ramped.level).2

/-- What the first ramp calls for is held before the second. -/
theorem Ramped.held (reachable : h.runtime.Reachable)
    (known : h.runtime.state.controller.appliedFrame ≠ none) (short : durationMs ≤ MAX_TRANSITION_MS)
    (ramped : Ramped h t raw valid withOnOff durationMs mask override true) :
    Held (h.leveled raw withOnOff durationMs).state h.runtime.now
      ((h.runtime.state.follow (State.levelTransitionPlan raw valid withOnOff durationMs .linear
        h.runtime.state h.runtime.now)).effective h.runtime.now) := by
  have first := ramped.first (reachable.settled known) short
  have composed := (reachable.after (rampLevel true raw withOnOff durationMs)).composed
  have held := composed.held first.shows
  rw [show (h.runtime.after (rampLevel true raw withOnOff durationMs)).now = _ from first.time] at held
  exact held

theorem Ramped.second (settled : Settled h.runtime.state) (short : durationMs ≤ MAX_TRANSITION_MS)
    (ramped : Ramped h t raw valid withOnOff durationMs mask override true)
    (couples : h.Couples mask override) :
    Glided ((h.leveled raw withOnOff durationMs).state.follow
      (State.temperatureTransitionPlan (coupledColor raw valid) durationMs .linear
        (h.leveled raw withOnOff durationMs).state h.runtime.now)) h.runtime.now t.runtime := by
  have first := ramped.first settled short
  have glided := (Runtime.after_glides first.settled
    (rampTemperature_asks _ true (coupledColor raw valid) short) (ramped.color couples)).2
  rw [first.time] at glided
  rw [ramped.runtime, if_pos couples]
  exact glided

theorem Ramped.alone (ramped : Ramped h t raw valid withOnOff durationMs mask override true)
    (uncoupled : ¬h.Couples mask override) : t.runtime = h.leveled raw withOnOff durationMs := by
  rw [ramped.runtime, if_neg uncoupled]
  rfl

/-- The second ramp leaves the level track alone. -/
theorem Ramped.track (settled : Settled h.runtime.state) (short : durationMs ≤ MAX_TRANSITION_MS)
    (ramped : Ramped h t raw valid withOnOff durationMs mask override true)
    (running : ∀ track, (State.levelTransitionPlan raw valid withOnOff durationMs .linear
      h.runtime.state h.runtime.now).levelTransition = some track →
        track.remaining h.runtime.now ≠ 0) :
    t.runtime.state.levelTransition = (State.levelTransitionPlan raw valid withOnOff durationMs .linear
      h.runtime.state h.runtime.now).levelTransition := by
  have first : (h.leveled raw withOnOff durationMs).state.levelTransition =
      (State.levelTransitionPlan raw valid withOnOff durationMs .linear h.runtime.state
        h.runtime.now).levelTransition := by
    rw [(ramped.first settled short).level]
    exact State.expire_running running
  by_cases couples : h.Couples mask override
  · rw [(ramped.second settled short couples).level]
    refine (State.expire_running fun track active => running track ?_).trans first
    exact first.symm.trans active
  · rw [ramped.alone couples, first]

/-- Both ramps of a Move that is only remembered go on from the frame. -/
theorem Ramped.resumes_remembered (reachable : h.runtime.Reachable)
    (known : h.runtime.state.controller.appliedFrame = some frame)
    (short : durationMs ≤ MAX_TRANSITION_MS)
    (ramped : Ramped h t raw valid withOnOff durationMs mask override true)
    (remembers : h.Remembers withOnOff) :
    ∃ next, t.runtime.state.controller.appliedFrame = some next ∧
      next.brightness = frame.brightness ∧ (frame.brightness ≠ OutputBrightness.ZERO →
        next.state.temperature = frame.state.temperature) := by
  have settled := reachable.settled (by simp [known])
  have first := ramped.first settled short
  have middle := ramped.held reachable settled.known short
  have target := first.target.trans (State.levelTransitionPlan_target _ _ _ _ _ _ _)
  obtain ⟨dark, rfl⟩ := remembers
  have kept := (reachable.composed.held known).level_remembered dark raw valid durationMs .linear
  by_cases couples : h.Couples mask override
  · rw [glided_continues (ramped.second settled short couples)]
    refine (Resumes.through ?_).mpr kept
    exact middle.temperature_remembered ((congrArg LightState.on target).trans dark) _ _ _
  · rw [ramped.alone couples, glided_continues first]
    exact kept

/-- A Move that takes no time goes on from a frame that is already there. -/
theorem Ramped.resumes_instant (reachable : h.runtime.Reachable)
    (known : h.runtime.state.controller.appliedFrame = some frame)
    (ramped : Ramped h t (levelMoveTarget mode withOnOff) (levelMoveTarget_ne mode withOnOff) withOnOff
      0 mask override true)
    (busy : ¬h.Remembers withOnOff) (lights : ¬MovesOff mode withOnOff) :
    (∃ next, t.runtime.state.controller.appliedFrame = some next ∧
      next.brightness = frame.brightness ∧ (frame.brightness ≠ OutputBrightness.ZERO →
        next.state.temperature = frame.state.temperature)) ↔
    frame.brightness = OutputBrightness.fromLevel
        (raisedLevel (levelMoveTarget mode withOnOff) (levelMoveTarget_ne mode withOnOff)) ∧
      h.Tinted frame mode withOnOff mask override := by
  have settled := reachable.settled (by simp [known])
  have held := reachable.composed.held known
  have first := ramped.first settled (Nat.zero_le _)
  have target := first.target.trans (State.levelTransitionPlan_target _ _ _ _ _ _ _)
  have on := (levelTarget_on mode busy).mpr lights
  rw [Tinted]
  by_cases couples : h.Couples mask override
  · have idle : (h.leveled (levelMoveTarget mode withOnOff) withOnOff 0).state.levelTransition =
        none := by
      have dropped := held.rate_track (levelMoveTarget mode withOnOff)
        (levelMoveTarget_ne mode withOnOff) (lit_of_busy busy) 0
      rw [if_neg fun timed => timed.1 rfl] at dropped
      exact first.level.trans (congrArg (Option.filter _) dropped)
    rw [glided_continues (ramped.second settled (Nat.zero_le _) couples), if_pos couples,
      tinted_iff ((congrArg LightState.on target).trans on) idle, target]
    rfl
  · rw [ramped.alone couples, glided_continues first, if_neg couples]
    exact held.arrived_iff _ _ withOnOff on

/-- A Move that takes time goes on from the frame, unless the light has drifted. -/
theorem Ramped.resumes_timed (reachable : h.runtime.Reachable)
    (known : h.runtime.state.controller.appliedFrame = some frame)
    (short : durationMs ≤ MAX_TRANSITION_MS)
    (ramped : Ramped h t (levelMoveTarget mode withOnOff) (levelMoveTarget_ne mode withOnOff) withOnOff
      durationMs mask override true)
    (busy : ¬h.Remembers withOnOff) (timed : durationMs ≠ 0) :
    (∃ next, t.runtime.state.controller.appliedFrame = some next ∧
      next.brightness = frame.brightness ∧ (frame.brightness ≠ OutputBrightness.ZERO →
        next.state.temperature = frame.state.temperature)) ↔
    MovesOff mode withOnOff ∨ ¬Drifted h.runtime.state frame := by
  have settled := reachable.settled (by simp [known])
  have held := reachable.composed.held known
  have first := ramped.first settled short
  have middle := ramped.held reachable settled.known short
  have lights := levelTarget_on mode busy
  have resumes := held.level_iff (levelMoveTarget mode withOnOff)
    (levelMoveTarget_ne mode withOnOff) withOnOff timed .linear
  have turns : ¬(Drifted h.runtime.state frame ∧ ¬MovesOff mode withOnOff) ↔
      MovesOff mode withOnOff ∨ ¬Drifted h.runtime.state frame := by
    rw [not_and_not_right, imp_iff_not_or, or_comm]
  rw [← turns, ← lights, ← resumes]
  by_cases couples : h.Couples mask override
  · rw [glided_continues (ramped.second settled short couples)]
    refine Resumes.through ?_
    exact (middle.temperature_iff _ timed .linear).mpr fun jumps => by cases jumps.2.2
  · rw [ramped.alone couples, glided_continues first]

/-- The first ramp goes on from the frame, as far as the whole Move does. -/
theorem Ramped.resumes_iff (reachable : h.runtime.Reachable)
    (known : h.runtime.state.controller.appliedFrame = some frame)
    (short : durationMs ≤ MAX_TRANSITION_MS)
    (ramped : Ramped h t (levelMoveTarget mode withOnOff) (levelMoveTarget_ne mode withOnOff) withOnOff
      durationMs mask override true)
    (arrives : durationMs = 0 → ¬MovesOff mode withOnOff) :
    (∃ next, t.runtime.state.controller.appliedFrame = some next ∧
      next.brightness = frame.brightness ∧ (frame.brightness ≠ OutputBrightness.ZERO →
        next.state.temperature = frame.state.temperature)) ↔
    h.Remembers withOnOff ∨
      if durationMs = 0 then
        frame.brightness = OutputBrightness.fromLevel
          (raisedLevel (levelMoveTarget mode withOnOff) (levelMoveTarget_ne mode withOnOff)) ∧
        h.Tinted frame mode withOnOff mask override
      else MovesOff mode withOnOff ∨ ¬Drifted h.runtime.state frame := by
  by_cases remembers : h.Remembers withOnOff
  · exact iff_of_true (ramped.resumes_remembered reachable known short remembers) (.inl remembers)
  rw [or_iff_right remembers]
  by_cases instant : durationMs = 0
  · subst instant
    rw [if_pos rfl]
    exact ramped.resumes_instant reachable known remembers (arrives rfl)
  · rw [if_neg instant]
    exact ramped.resumes_timed reachable known short remembers instant

omit [KvBlobStore K] [Hardware H] in
/-- A fresh level ramp, where there is one, is a single linear one from the frame. -/
theorem fresh_iff {s : State H} {now rated : Nat} (held : Held s now frame) (timed : durationMs ≠ 0)
    {goal : LightState} :
    (∀ track, (if durationMs ≠ 0 ∧ (frame.brightness ≠ OutputBrightness.ZERO ∨ goal.on = true) then
        some (s.levelFade now goal durationMs .linear) else none) = some track →
      track.thenRamp = none ∧ track.ramp.curve = .linear ∧ track.ramp.KeepsRate rated) ↔
    (frame.brightness ≠ OutputBrightness.ZERO ∨ goal.on = true → Transition.KeepsRate
      ⟨frame.brightness.get, (OutputFrame.fromState goal).brightness.get, now, durationMs, .linear⟩
        rated) := by
  rw [State.levelFade, held.current]
  by_cases animate : frame.brightness ≠ OutputBrightness.ZERO ∨ goal.on = true
  · rw [if_pos ⟨timed, animate⟩]
    constructor
    · exact fun all _ => (all _ rfl).2.2
    · rintro keeps _ ⟨⟩
      exact ⟨rfl, rfl, keeps animate⟩
  · rw [if_neg fun lights => animate lights.2]
    refine iff_of_true ?_ fun lights => absurd lights animate
    intro track absent
    cases absent

omit [KvBlobStore K] [Hardware H] in
/-- The ramp of a Move that takes time keeps its rate exactly where it is paced. -/
theorem keepsRate_iff_paced (held : Held h.runtime.state h.runtime.now frame)
    (shapely : frame.WellFormed) (moves : rate ≠ some 0) (busy : ¬h.Remembers withOnOff)
    (timed : moveTime frame.state.level mode rate withOnOff ≠ 0) :
    (frame.brightness ≠ OutputBrightness.ZERO ∨
        (h.runtime.state.levelTarget (levelMoveTarget mode withOnOff) (levelMoveTarget_ne mode withOnOff)
          withOnOff).on = true →
      Transition.KeepsRate
        ⟨frame.brightness.get, (OutputFrame.fromState (h.runtime.state.levelTarget
          (levelMoveTarget mode withOnOff) (levelMoveTarget_ne mode withOnOff) withOnOff)).brightness.get,
          h.runtime.now, moveTime frame.state.level mode rate withOnOff * 100, .linear⟩
        (rate.getD 254).toNat) ↔
    Paced mode withOnOff (rate.getD 254).toNat frame.brightness.get := by
  have lit : LevelOf frame.state.level.get frame.brightness.get := by
    intro bright
    have on := shapely.lit.mpr fun dark => bright (OutputBrightness.eq_zero_iff.mp dark)
    rw [shapely.level on, toLevelClamped_get]
  have lights := levelTarget_on mode busy
  have apart := fun same => timed ((moveTime_eq_zero _ _ _ moves).mpr same)
  have positive := rate_pos moves
  have small : (rate.getD 254).toNat ≤ 255 := Nat.le_of_lt_succ (UInt8.toNat_lt _)
  have high := frame.state.level.le_max
  have low := frame.state.level.min_le
  have bound := frame.brightness.le_max
  cases mode with
  | up =>
      have on := lights.mpr fun off => by cases off.1
      rw [OutputFrame.fromState_brightness_of_on on, forall_prop_of_true (.inr on)]
      have below : frame.state.level.get < 254 := Nat.lt_of_le_of_ne high apart
      exact keepsRate_up positive small _ low below bound lit
  | down =>
      cases withOnOff with
      | true =>
          have off : (h.runtime.state.levelTarget (levelMoveTarget .down true)
              (levelMoveTarget_ne .down true) true).on = false := rfl
          rw [OutputFrame.fromState_brightness_of_off off]
          refine Iff.trans (imp_congr_left ?_) (keepsRate_off positive small _ low high bound lit)
          simp [off, OutputBrightness.eq_zero_iff]
      | false =>
          have on := lights.mpr fun off => by cases off.2
          rw [OutputFrame.fromState_brightness_of_on on, forall_prop_of_true (.inr on)]
          have above : 1 < frame.state.level.get := Nat.lt_of_le_of_ne low (Ne.symm apart)
          have shone : frame.brightness.get ≠ 0 := fun dark => by
            have start := held.shows.start on (OutputBrightness.eq_zero_iff.mpr dark)
            rw [start] at above
            exact absurd above (by decide)
          exact iff_of_true (keepsRate_down positive small _ above bound shone lit) trivial

/-- The ramp that a Move installs keeps its rate where the brightness lets it. -/
theorem Ramped.installed_iff (reachable : h.runtime.Reachable)
    (known : h.runtime.state.controller.appliedFrame = some frame) (moves : rate ≠ some 0)
    (busy : ¬h.Remembers withOnOff)
    (ramped : Ramped h t (levelMoveTarget mode withOnOff) (levelMoveTarget_ne mode withOnOff) withOnOff
      (moveTime frame.state.level mode rate withOnOff * 100) mask override true) :
    (∀ track, t.runtime.state.levelTransition = some track →
      track.thenRamp = none ∧ track.ramp.curve = .linear ∧
        track.ramp.KeepsRate (rate.getD 254).toNat) ↔
    moveTime frame.state.level mode rate withOnOff = 0 ∨
      Paced mode withOnOff (rate.getD 254).toNat frame.brightness.get := by
  have settled := reachable.settled (by simp [known])
  have held := reachable.composed.held known
  have shapely := reachable.shapely.acknowledged frame known
  have short := moveTime_short frame.state.level mode moves withOnOff
  have fades := held.rate_track (levelMoveTarget mode withOnOff) (levelMoveTarget_ne mode withOnOff)
    (lit_of_busy busy) (moveTime frame.state.level mode rate withOnOff * 100)
  rw [ramped.track settled short ?_, fades]
  · by_cases instant : moveTime frame.state.level mode rate withOnOff = 0
    · rw [if_neg fun timed => timed.1 (by rw [instant])]
      exact iff_of_true nofun (.inl instant)
    rw [or_iff_right instant, fresh_iff held (by omega)]
    exact keepsRate_iff_paced held shapely moves busy instant
  · intro track active
    rw [fades] at active
    split at active
    · next timed =>
        cases active
        exact (State.levelFade_starts held.known _ timed.1 .linear).running
    · cases active

/-! ### Runs -/

/-- From every state that the light reaches, an executed Move is accepted. Its acknowledged
frame and its rate are honoured exactly where level and brightness fit. -/
theorem run_levelMove (kv : K) (hardware : H) (datavers : Vector UInt32 3)
    (commands : List Command) :
    let h := run (new (Runtime.load kv hardware) datavers) commands
    ∀ frame mode rate withOnOff mask override,
      h.runtime.state.fault = .none → h.runtime.state.controller.appliedFrame = some frame →
      rate ≠ some 0 → ((executeLevel withOnOff mask override).start h).1 = .ok true →
      h.Quiet (.moveLevel mode rate withOnOff mask override) →
        h.outcome (.moveLevel mode rate withOnOff mask override) = .ok () ∧
        (h.Honors (h.after (.moveLevel mode rate withOnOff mask override)) frame
            (rate.getD 254).toNat withOnOff ↔
          h.Fits frame mode (rate.getD 254).toNat withOnOff mask override) := by
  intro h frame mode rate withOnOff mask override _ known moves executed quiet
  have reachable : h.runtime.Reachable := run_reachable (Runtime.Reachable.load kv hardware) commands
  have settled := reachable.settled (by simp [known])
  obtain ⟨accepted, ramped⟩ := after_quiet (ends_move settled known moves executed) quiet
  refine ⟨accepted, ?_⟩
  have short := moveTime_short frame.state.level mode moves withOnOff
  have arrived := moveTime_eq_zero frame.state.level mode withOnOff moves
  have acknowledged := ramped.resumes_iff reachable known short fun instant off => by
    obtain ⟨rfl, rfl⟩ := off
    have gone : frame.state.level.get = 0 := arrived.mp (by omega)
    have low := frame.state.level.min_le
    omega
  by_cases remembers : h.Remembers withOnOff
  · refine iff_of_true ⟨acknowledged.mpr (.inl remembers), fun busy => ?_⟩ (.inl remembers)
    exact absurd remembers busy
  have installed := ramped.installed_iff reachable known moves remembers
  rw [or_iff_right remembers] at acknowledged
  rw [Fits, or_iff_right remembers]
  by_cases there : frame.state.level.get = (levelMoveTarget mode withOnOff).toNat
  · have instant := arrived.mpr there
    rw [if_pos (by omega), raisedLevel_eq there] at acknowledged
    rw [if_pos there, ← acknowledged]
    refine ⟨fun honors => honors.acknowledged, fun shown => ⟨shown, fun _ => ?_⟩⟩
    exact installed.mpr (.inl instant)
  · have timed := mt arrived.mp there
    rw [if_neg (by omega)] at acknowledged
    rw [or_iff_right timed] at installed
    rw [if_neg there, ← acknowledged, ← installed]
    exact ⟨fun honors => ⟨honors.installed remembers, honors.acknowledged⟩,
      fun holds => ⟨holds.2, fun _ => holds.1⟩⟩

end

/-- A settled light rises, and its colour with it. -/
theorem run_levelMove_rises :
    let h := run bench [.direct (.tick 0), .on, .direct (.tick 400)]
    h.Honors (h.after (.moveLevel .up (some 100) false 2 2))
      (h.runtime.state.controller.appliedFrame.get (by decide +kernel)) 100 false :=
  (run_levelMove _ _ _ [.direct (.tick 0), .on, .direct (.tick 400)] _ .up (some 100) false 2 2
    (by decide +kernel) (Option.some_get _).symm (by decide) (by decide +kernel)
    (by decide +kernel)).2.mpr (by decide +kernel)

/-- While Off the acknowledged level is the remembered one. At the maximum, a Move up takes no
time and lights the lamp at once; below it, the ramp is as much too fast as it is longer. -/
theorem run_levelMove_broken :
    let dark := run bench [.direct (.tick 0)]
    let bright := run bench [.direct (.tick 0), .moveToLevel 254 false none 1 1]
    let shown (t : LightHandler MemoryStore SimulatedOutput) :=
      t.runtime.state.controller.appliedFrame.map fun frame => frame.brightness.get
    bright.runtime.state.fault = .none ∧ bright.Quiet (.moveLevel .up (some 10) true 0 0) ∧
      bright.outcome (.moveLevel .up (some 10) true 0 0) = .ok () ∧ shown bright = some 0 ∧
      shown (bright.after (.moveLevel .up (some 10) true 0 0)) = some 2530 ∧
    dark.runtime.state.fault = .none ∧ dark.Quiet (.moveLevel .up (some 10) true 0 0) ∧
      dark.outcome (.moveLevel .up (some 10) true 0 0) = .ok () ∧
      (dark.after (.moveLevel .up (some 10) true 0 0)).runtime.state.levelTransition.map
        (fun track => decide (track.ramp.KeepsRate 10)) = some false := by
  decide +kernel

end LightHandler

end KeyRight.App
