import KeyRight.App.LightHandler

/-!
Owns the level, color and attribute commands of the Matter light in
`firmware/app/src/presets.rs`, all commands on it as data, and their runs, with the
console and the maintenance loop as direct calls of the runtime.

Does not own any property of runs.
-/

namespace KeyRight.App.LightHandler

open KeyRight.Core KeyRight.Support

variable {K H : Type} [KvBlobStore K] [Hardware H]

/-! ### Execution while Off -/

/-- A command with On/Off always executes, another one while Off only by its options. -/
def executes (options : LightHandler K H → UInt8) (withOnOff : Bool) (mask override : UInt8) :
    Action K H Bool := do
  if withOnOff then pure true
  else do
    let state ← reported
    if state.on then pure true
    else do
      let h ← Program.read id
      if bitmapContains mask EXECUTE_IF_OFF then pure (bitmapContains override EXECUTE_IF_OFF)
      else pure (bitmapContains (options h) EXECUTE_IF_OFF)

def executeLevel (withOnOff : Bool) (mask override : UInt8) : Action K H Bool :=
  executes levelOptions withOnOff mask override

def executeColor (mask override : UInt8) : Action K H Bool := executes colorOptions false mask override

/-! ### Level Control -/

/-- The color temperature that a level is coupled to: warmer as it gets darker. -/
def coupledColor (raw : UInt8) (valid : raw ≠ 255) : ColorTemperature :=
  have bound : raw.toNat < 255 := by
    have range := raw.toNat_lt
    have other : raw.toNat ≠ 255 := fun same => valid (UInt8.toNat_inj.mp same)
    omega
  ⟨344 - (max raw.toNat 1 - 1) * (344 - 143) / 253, by omega, by omega⟩

def rampLevel (linear : Bool) (raw : UInt8) (withOnOff : Bool) (durationMs : Nat) : Operation :=
  if linear then .setLevelRate raw withOnOff durationMs
  else .setLevelTransition raw withOnOff durationMs

def rampTemperature (linear : Bool) (temperature : ColorTemperature) (durationMs : Nat) : Operation :=
  if linear then .setTemperatureRate temperature durationMs
  else .setTemperatureTransition temperature durationMs

/-- A level ramp, and the coupled color ramp after it. -/
def levelToCurve (raw : UInt8) (withOnOff : Bool) (timeDs : Option UInt16) (mask override : UInt8)
    (linear : Bool) : Action K H Unit :=
  if valid : raw ≠ 255 then do
    if ← executeLevel withOnOff mask override then do
      edit changed
      let durationMs := (timeDs.getD 0).toNat * 100
      operate (rampLevel linear raw withOnOff durationMs)
      let h ← Program.read id
      let options := h.levelOptions &&& ~~~mask ||| override &&& mask
      edit fun h => { h with coupledTemperature := false }
      if options &&& COUPLE_COLOR_TEMP_TO_LEVEL ≠ 0 then do
        operate (rampTemperature linear (coupledColor raw valid) durationMs)
        edit fun h => { h with coupledTemperature := true }
      if withOnOff && Level.MIN.get < raw.toNat then edit fun h => { h with globalScene := true }
    else pure ()
  else Program.fail .constraintError

def levelTo (raw : UInt8) (withOnOff : Bool) (timeDs : Option UInt16) (mask override : UInt8) :
    Action K H Unit :=
  levelToCurve raw withOnOff timeDs mask override false

def levelMoveTarget (mode : LevelMode) (withOnOff : Bool) : UInt8 :=
  match mode with
  | .up => 254
  | .down => if withOnOff then 0 else 1

/-- `abs_diff` of two values. -/
def absDiff (left right : Nat) : Nat := max left right - min left right

/-- `div_ceil`. -/
def divCeil (value divisor : Nat) : Nat := (value + divisor - 1) / divisor

def levelMove (mode : LevelMode) (rate : Option UInt8) (withOnOff : Bool) (mask override : UInt8) :
    Action K H Unit := do
  if ← executeLevel withOnOff mask override then do
    let rate := rate.getD 254
    if rate = 0 then Program.fail .invalidCommand
    else do
      let state ← acknowledged
      let target := levelMoveTarget mode withOnOff
      let ds := divCeil (absDiff state.level.get target.toNat * 10) rate.toNat
      levelToCurve target withOnOff (some (UInt16.ofNat ds)) mask override true
  else pure ()

def levelStepTarget (mode : LevelMode) (current : Level) (step : UInt8) (withOnOff : Bool) : UInt8 :=
  match mode with
  | .up => UInt8.ofNat (min (current.get + step.toNat) 254)
  | .down => UInt8.ofNat (max (current.get - step.toNat) (if withOnOff then 0 else 1))

def levelStep (mode : LevelMode) (step : UInt8) (timeDs : Option UInt16) (withOnOff : Bool)
    (mask override : UInt8) : Action K H Unit := do
  if ← executeLevel withOnOff mask override then do
    let state ← acknowledged
    levelTo (levelStepTarget mode state.level step withOnOff) withOnOff timeDs mask override
  else pure ()

/-- Target reporting already says Off during a fade to Off, so a running fade can
always be stopped. -/
def stopLevel (withOnOff : Bool) (mask override : UInt8) : Action K H Unit := do
  let h ← Program.read id
  if ← (if h.runtime.levelRemainingMs ≠ 0 then pure true else executeLevel withOnOff mask override)
  then do
    edit changed
    operate .stopLevelTransition
    let h ← Program.read id
    edit fun h => { h with coupledTemperature := false }
    if h.coupledTemperature then operate .stopTemperatureTransition
  else pure ()

/-! ### Color Control -/

def clampTemperature (value : Nat) : ColorTemperature :=
  ⟨max 143 (min value 344), by omega, by omega⟩

/-- Zero leaves a bound open. -/
def colorBounds (bounds : UInt16 × UInt16) : Except ErrorCode (Nat × Nat) :=
  let lo := if bounds.1 = 0 then 143 else max bounds.1.toNat 143
  let hi := if bounds.2 = 0 then 344 else min bounds.2.toNat 344
  if hi < lo then throw .constraintError else pure (lo, hi)

def colorTo (mireds timeDs : UInt16) (mask override : UInt8) : Action K H Unit := do
  if mireds = 0 ∨ mireds > 0xfeff then Program.fail .constraintError
  else
    if ← executeColor mask override then do
      edit changed
      edit fun h => { h with coupledTemperature := false }
      operate (.setTemperatureTransition (clampTemperature mireds.toNat) (timeDs.toNat * 100))
    else pure ()

def stopColor (mask override : UInt8) : Action K H Unit := do
  if ← executeColor mask override then do
    edit changed
    edit fun h => { h with coupledTemperature := false }
    operate .stopTemperatureTransition
  else pure ()

/-- A Move to one of its bounds. -/
def colorMoveTo (up : Bool) (rate : UInt16) (bounds : UInt16 × UInt16) (mask override : UInt8) :
    Action K H Unit := do
  if rate = 0 then Program.fail .invalidCommand
  else
    if ← executeColor mask override then do
      let (lo, hi) ← Program.ofExcept (colorBounds bounds)
      let state ← acknowledged
      let target := if up then hi else lo
      edit changed
      edit fun h => { h with coupledTemperature := false }
      operate (.setTemperatureRate (clampTemperature target)
        (divCeil (absDiff state.temperature.get target * 1000) rate.toNat))
    else pure ()

def colorMove (mode : ColorMode) (rate : UInt16) (bounds : UInt16 × UInt16) (mask override : UInt8) :
    Action K H Unit :=
  match mode with
  | .stop => stopColor mask override
  | .up => colorMoveTo true rate bounds mask override
  | .down => colorMoveTo false rate bounds mask override

def colorStep (mode : LevelMode) (step timeDs : UInt16) (bounds : UInt16 × UInt16)
    (mask override : UInt8) : Action K H Unit := do
  if ← executeColor mask override then do
    let (lo, hi) ← Program.ofExcept (colorBounds bounds)
    let state ← acknowledged
    let current := state.temperature.get
    let target :=
      match mode with
      | .up => min (current + step.toNat) 65535
      | .down => current - step.toNat
    colorTo (UInt16.ofNat (max lo (min target hi))) timeDs mask override
  else pure ()

/-! ### Attributes -/

def setOnTime (value : UInt16) : Action K H Unit := edit fun h => { h with onTime := value }

def setOffWaitTime (value : UInt16) : Action K H Unit := edit fun h => { h with offWait := value }

def setLevelOptions (value : UInt8) : Action K H Unit :=
  if value &&& ~~~3 ≠ 0 then Program.fail .constraintError
  else edit fun h => { h with levelOptions := value }

def setOnLevel (value : Option UInt8) : Action K H Unit :=
  if value = some 0 ∨ value = some 255 then Program.fail .constraintError
  else edit fun h => { h with onLevel := value }

def setColorOptions (value : UInt8) : Action K H Unit :=
  if value &&& ~~~1 ≠ 0 then Program.fail .constraintError
  else edit fun h => { h with colorOptions := value }

def setStartUpColorTemperatureMireds (value : Option UInt16) : Action K H Unit :=
  if value.any fun mireds => mireds = 0 || mireds > 0xfeff then Program.fail .constraintError
  else operate (.setStartupTemperature (value.map fun mireds => clampTemperature mireds.toNat))

/-! ### Commands and runs -/

/-- Everything that can happen to the light: commands and attribute writes of its
clusters, scene recalls step by step, its own tick, and direct calls of the runtime. -/
inductive Command where
  | on
  | off
  | toggle
  | offWithEffect (identifier : EffectIdentifier) (variant : UInt8)
  | onWithRecallGlobalScene
  | onWithTimedOff (acceptOnlyOn : Bool) (onTime offWait : UInt16)
  | moveToLevel (raw : UInt8) (withOnOff : Bool) (timeDs : Option UInt16) (mask override : UInt8)
  | moveLevel (mode : LevelMode) (rate : Option UInt8) (withOnOff : Bool) (mask override : UInt8)
  | stepLevel (mode : LevelMode) (step : UInt8) (timeDs : Option UInt16) (withOnOff : Bool)
      (mask override : UInt8)
  | stopLevel (withOnOff : Bool) (mask override : UInt8)
  | moveToColorTemperature (mireds timeDs : UInt16) (mask override : UInt8)
  | moveColorTemperature (mode : ColorMode) (rate : UInt16) (bounds : UInt16 × UInt16)
      (mask override : UInt8)
  | stepColorTemperature (mode : LevelMode) (step timeDs : UInt16) (bounds : UInt16 × UInt16)
      (mask override : UInt8)
  | stopMoveStep (mask override : UInt8)
  | beginScene
  | stageScene (cluster : UInt32) (avps : List (Except ErrorCode AttributeValuePair))
      (durationMs : Nat)
  | finishScene
  | abortScene
  | setStartUpOnOff (value : Option Runtime.StartUpOnOff)
  | setOnTime (value : UInt16)
  | setOffWaitTime (value : UInt16)
  | setLevelOptions (value : UInt8)
  | setOnLevel (value : Option UInt8)
  | setStartUpCurrentLevel (value : Option UInt8)
  | setColorOptions (value : UInt8)
  | setStartUpColorTemperatureMireds (value : Option UInt16)
  | tick (deciseconds : UInt16)
  | direct (operation : Operation)

def perform : Command → Action K H Unit
  | .on => power true
  | .off => power false
  | .toggle => LightHandler.toggle
  | .offWithEffect identifier variant => handleOffWithEffect identifier variant
  | .onWithRecallGlobalScene => recallGlobalScene
  | .onWithTimedOff acceptOnlyOn onTime offWait => timedOn acceptOnlyOn onTime offWait
  | .moveToLevel raw withOnOff timeDs mask override => levelTo raw withOnOff timeDs mask override
  | .moveLevel mode rate withOnOff mask override => levelMove mode rate withOnOff mask override
  | .stepLevel mode step timeDs withOnOff mask override => levelStep mode step timeDs withOnOff mask override
  | .stopLevel withOnOff mask override => LightHandler.stopLevel withOnOff mask override
  | .moveToColorTemperature mireds timeDs mask override => colorTo mireds timeDs mask override
  | .moveColorTemperature mode rate bounds mask override => colorMove mode rate bounds mask override
  | .stepColorTemperature mode step timeDs bounds mask override =>
      colorStep mode step timeDs bounds mask override
  | .stopMoveStep mask override => stopColor mask override
  | .beginScene => LightHandler.beginScene
  | .stageScene cluster avps durationMs => LightHandler.stageScene cluster avps durationMs
  | .finishScene => LightHandler.finishScene
  | .abortScene => LightHandler.abortScene
  | .setStartUpOnOff value => operate (.setStartup value)
  | .setOnTime value => LightHandler.setOnTime value
  | .setOffWaitTime value => LightHandler.setOffWaitTime value
  | .setLevelOptions value => LightHandler.setLevelOptions value
  | .setOnLevel value => LightHandler.setOnLevel value
  | .setStartUpCurrentLevel value => operate (.setStartupLevel value)
  | .setColorOptions value => LightHandler.setColorOptions value
  | .setStartUpColorTemperatureMireds value => LightHandler.setStartUpColorTemperatureMireds value
  | .tick deciseconds => LightHandler.tick deciseconds
  | .direct operation => operate operation

/-- The light that a command leaves. -/
def after (h : LightHandler K H) (command : Command) : LightHandler K H :=
  ((perform command).start h).2

/-- What a command returns. -/
def outcome (h : LightHandler K H) (command : Command) : Except ErrorCode Unit :=
  ((perform command).start h).1

def run (h : LightHandler K H) (commands : List Command) : LightHandler K H :=
  runAll after h commands

end KeyRight.App.LightHandler
