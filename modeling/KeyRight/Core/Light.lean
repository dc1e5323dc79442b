import Mathlib.Init

/-!
Owns the hardware-independent light values of `firmware/core/src/lib.rs`: levels,
output brightness, colour temperature, logical states and physical frames, the
output boundary, and the controller that holds the acknowledged frame.

A value outside its range cannot be built: `new` is the only checked entry, and
the two conversions between levels and brightness carry their range proofs.

Does not own register bytes, fades or durable intent.
-/

namespace KeyRight.Core

/-- Nonzero Matter level mapped linearly to nominal stock brightness 1..10%. -/
structure Level where
  get : Nat
  min_le : 1 ≤ get
  le_max : get ≤ 254
deriving DecidableEq, Repr

namespace Level

def MIN : Level := ⟨1, by decide, by decide⟩
def MAX : Level := ⟨254, by decide, by decide⟩
def DEFAULT : Level := ⟨57, by decide, by decide⟩

def new (value : Nat) : Option Level :=
  if range : 1 ≤ value ∧ value ≤ 254 then some ⟨value, range.1, range.2⟩ else none

@[ext] theorem ext {left right : Level} (same : left.get = right.get) : left = right := by
  cases left
  cases right
  simp_all

@[simp] theorem new_get (level : Level) : new level.get = some level := by
  simp [new, level.min_le, level.le_max]

theorem new_eq_some {value : Nat} {level : Level} :
    new value = some level ↔ level.get = value := by
  constructor
  · intro built
    unfold new at built
    split at built
    · cases built
      rfl
    · cases built
  · rintro rfl
    exact new_get level

theorem new_of_range {value : Nat} (low : 1 ≤ value) (high : value ≤ 254) :
    new value = some ⟨value, low, high⟩ := by
  simp [new, low, high]

end Level

instance : Inhabited Level := ⟨Level.DEFAULT⟩

/-- Physical transition brightness in 1/253 of a nominal stock percentage. -/
structure OutputBrightness where
  get : Nat
  le_max : get ≤ 2530
deriving DecidableEq, Repr

namespace OutputBrightness

def ZERO : OutputBrightness := ⟨0, by decide⟩
def MAX : OutputBrightness := ⟨2530, by decide⟩
def DENOMINATOR : Nat := 253

def new (value : Nat) : Option OutputBrightness :=
  if range : value ≤ 2530 then some ⟨value, range⟩ else none

def fromLevel (level : Level) : OutputBrightness :=
  ⟨253 + 9 * (level.get - 1), by have := level.le_max; omega⟩

/-- Nearest representable logical level, clamped at the nonzero floor. -/
def toLevelClamped (brightness : OutputBrightness) : Level :=
  if floor : brightness.get ≤ 253 then Level.MIN
  else ⟨1 + (brightness.get - 253 + 4) / 9, by omega, by have := brightness.le_max; omega⟩

@[ext] theorem ext {left right : OutputBrightness} (same : left.get = right.get) :
    left = right := by
  cases left
  cases right
  simp_all

@[simp] theorem new_get (brightness : OutputBrightness) :
    new brightness.get = some brightness := by
  simp [new, brightness.le_max]

theorem new_of_le {value : Nat} (range : value ≤ 2530) : new value = some ⟨value, range⟩ := by
  simp [new, range]

@[simp] theorem get_zero : ZERO.get = 0 := rfl

theorem eq_zero_iff {brightness : OutputBrightness} : brightness = ZERO ↔ brightness.get = 0 := by
  constructor
  · rintro rfl
    rfl
  · intro dark
    exact ext dark

@[simp] theorem fromLevel_get (level : Level) :
    (fromLevel level).get = 253 + 9 * (level.get - 1) := rfl

theorem fromLevel_ne_zero (level : Level) : fromLevel level ≠ ZERO := by
  intro equal
  have := congrArg get equal
  simp at this

/-- A level survives the way through its brightness. -/
@[simp] theorem toLevelClamped_fromLevel (level : Level) :
    (fromLevel level).toLevelClamped = level := by
  have low := level.min_le
  apply Level.ext
  unfold toLevelClamped
  split
  · rename_i floor
    simp only [fromLevel_get] at floor
    simp only [Level.MIN]
    omega
  · simp only [fromLevel_get]
    omega

/-- How far two brightness values are apart. -/
def distance (left right : OutputBrightness) : Nat :=
  (left.get - right.get) + (right.get - left.get)

/-- No level is nearer than the clamped one. -/
theorem toLevelClamped_nearest (brightness : OutputBrightness) (level : Level) :
    brightness.distance (fromLevel brightness.toLevelClamped) ≤
      brightness.distance (fromLevel level) := by
  unfold distance toLevelClamped
  split
  · simp only [fromLevel_get, Level.MIN]
    omega
  · simp only [fromLevel_get]
    omega

theorem distance_toLevelClamped_dim {brightness : OutputBrightness}
    (lit : DENOMINATOR / 2 < brightness.get) :
    brightness.distance (fromLevel brightness.toLevelClamped) ≤ 126 := by
  unfold DENOMINATOR at lit
  unfold distance toLevelClamped
  split
  · simp only [fromLevel_get, Level.MIN]
    omega
  · simp only [fromLevel_get]
    omega

theorem distance_toLevelClamped_lit {brightness : OutputBrightness} (lit : 253 ≤ brightness.get) :
    brightness.distance (fromLevel brightness.toLevelClamped) ≤ 4 := by
  unfold distance toLevelClamped
  split
  · simp only [fromLevel_get, Level.MIN]
    omega
  · simp only [fromLevel_get]
    omega

end OutputBrightness

/-- Stock colour-temperature command in mired. -/
structure ColorTemperature where
  get : Nat
  min_le : 143 ≤ get
  le_max : get ≤ 344
deriving DecidableEq, Repr

namespace ColorTemperature

def MAX : ColorTemperature := ⟨344, by decide, by decide⟩
def DEFAULT : ColorTemperature := ⟨303, by decide, by decide⟩

def new (value : Nat) : Option ColorTemperature :=
  if range : 143 ≤ value ∧ value ≤ 344 then some ⟨value, range.1, range.2⟩ else none

@[ext] theorem ext {left right : ColorTemperature} (same : left.get = right.get) :
    left = right := by
  cases left
  cases right
  simp_all

@[simp] theorem new_get (temperature : ColorTemperature) :
    new temperature.get = some temperature := by
  simp [new, temperature.min_le, temperature.le_max]

theorem new_of_range {value : Nat} (low : 143 ≤ value) (high : value ≤ 344) :
    new value = some ⟨value, low, high⟩ := by
  simp [new, low, high]

theorem new_eq_some {value : Nat} {temperature : ColorTemperature} :
    new value = some temperature ↔ temperature.get = value := by
  constructor
  · intro built
    unfold new at built
    split at built
    · cases built
      rfl
    · cases built
  · rintro rfl
    exact new_get temperature

end ColorTemperature

instance : Inhabited ColorTemperature := ⟨ColorTemperature.DEFAULT⟩

/-- Convenience names for the former 3300 K and 5000 K preset commands. -/
inductive Preset where
  | one
  | two
deriving DecidableEq, Repr

def Preset.temperature : Preset → ColorTemperature
  | .one => ⟨303, by decide, by decide⟩
  | .two => ⟨200, by decide, by decide⟩

/-- Logical intent. Switching off retains the selected level and temperature. -/
structure LightState where
  on : Bool
  level : Level
  temperature : ColorTemperature
deriving DecidableEq, Repr

instance : Inhabited LightState := ⟨⟨false, default, default⟩⟩

@[simp] theorem default_on : (default : LightState).on = false := rfl

/-- Acknowledged output coordinates, distinct from the durable command target. -/
structure OutputFrame where
  state : LightState
  brightness : OutputBrightness
deriving DecidableEq, Repr

instance : Inhabited OutputFrame := ⟨⟨default, OutputBrightness.ZERO⟩⟩

def OutputFrame.fromState (state : LightState) : OutputFrame where
  state := state
  brightness := if state.on then OutputBrightness.fromLevel state.level else OutputBrightness.ZERO

@[simp] theorem OutputFrame.fromState_state (state : LightState) :
    (fromState state).state = state := rfl

theorem OutputFrame.fromState_brightness_of_on {state : LightState} (on : state.on = true) :
    (fromState state).brightness = OutputBrightness.fromLevel state.level := by
  simp [fromState, on]

theorem OutputFrame.fromState_brightness_of_off {state : LightState} (off : state.on = false) :
    (fromState state).brightness = OutputBrightness.ZERO := by
  simp [fromState, off]

inductive Command where
  | setPower (on : Bool)
  | setLevel (level : Level)
  | setTemperature (temperature : ColorTemperature)
  | selectPreset (preset : Preset)
deriving DecidableEq, Repr

/-- Boundary for output adapters. A call returns its result and the adapter it
leaves behind; an error may mean a partial write. -/
class LightOutput (O : Type) (ε : outParam Type) where
  applyFrame : O → OutputFrame → Except ε Unit × O

/-- Intended state and the frame the adapter has acknowledged, if any. -/
structure Controller where
  intended : LightState
  appliedFrame : Option OutputFrame
deriving DecidableEq, Repr

namespace Controller

/-- Physical output is unknown until the adapter acknowledges an application. -/
def new (restored : Option LightState) : Controller where
  intended := restored.getD default
  appliedFrame := none

/-- Last acknowledged state, or unknown after boot or a failed output write. -/
def applied (controller : Controller) : Option LightState :=
  controller.appliedFrame.map OutputFrame.state

/-- Discard acknowledgement after a hardware reset or failed health check. -/
def invalidateApplied (controller : Controller) : Controller :=
  { controller with appliedFrame := none }

/-- Update intent and report whether it changed. -/
def command (controller : Controller) (command : Command) : Bool × Controller :=
  let intended :=
    match command with
    | .setPower on => { controller.intended with on := on }
    | .setLevel level => { controller.intended with level := level }
    | .setTemperature temperature => { controller.intended with temperature := temperature }
    | .selectPreset preset => { controller.intended with temperature := preset.temperature }
  (intended != controller.intended, { controller with intended := intended })

/-- Apply an exact transition frame while retaining the caller's intent. The
first component reports whether anything was written. -/
def reconcileFrame {O ε : Type} [LightOutput O ε] (controller : Controller) (output : O)
    (frame : OutputFrame) : Except ε Bool × Controller × O :=
  if controller.appliedFrame = some frame then (.ok false, controller, output)
  else
    -- The old acknowledgement goes before the I/O: a failed write may be partial.
    match LightOutput.applyFrame output frame with
    | (.error error, output) => (.error error, { controller with appliedFrame := none }, output)
    | (.ok (), output) => (.ok true, { controller with appliedFrame := some frame }, output)

@[simp] theorem new_appliedFrame (restored : Option LightState) :
    (new restored).appliedFrame = none := rfl

@[simp] theorem invalidateApplied_appliedFrame (controller : Controller) :
    controller.invalidateApplied.appliedFrame = none := rfl

@[simp] theorem command_appliedFrame (controller : Controller) (request : Command) :
    (controller.command request).2.appliedFrame = controller.appliedFrame := rfl

@[simp] theorem applied_isSome (controller : Controller) :
    controller.applied.isSome = controller.appliedFrame.isSome := by
  simp [applied]

end Controller

end KeyRight.Core
