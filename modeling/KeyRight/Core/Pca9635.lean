import KeyRight.Core.Light
import KeyRight.Support.Program

/-!
Owns the PCA9635 register image and its readback-checked driver, as in
`firmware/core/src/pca9635.rs`: the stock PWM arithmetic, the 22-byte block of
registers 0x02..=0x17, and the driver over a register bus, the active-low
output-enable pin and a delay.

Every transaction is appended to the driver's `trace`, newest first. The trace is
ghost state: no operation reads it.

Does not own a device behind the bus; a bus may fail or return any bytes.
-/

namespace KeyRight.Core

open KeyRight.Support

def ADDRESS : UInt8 := 0x15
def MODE2 : UInt8 := 0x14

/-! ### Register image -/

/-- `floor(floor(mix * 0.4095 * brightness) / 16) * 0.9`, with a final truncation.
The first two floors are combined, as in the source. -/
def stockPwm (mix numerator denominator : Nat) : UInt8 :=
  let steps := mix * 4095 * numerator / (160000 * denominator)
  UInt8.ofNat (steps * 9 / 10)

/-- Warm and cool mix in percent. -/
def mixPair (mired : Nat) : Nat × Nat :=
  if mired = 143 then (0, 100)
  else if 144 ≤ mired ∧ mired ≤ 243 then ((mired - 143) * 100 / 101, 100)
  else if mired = 244 then (100, 100)
  else (100, 344 - mired)

/-- Stock arithmetic extended down to true zero for physical transition frames. -/
def outputPwmPair (brightness : OutputBrightness) (temperature : ColorTemperature) :
    UInt8 × UInt8 :=
  let (warm, cool) := mixPair temperature.get
  let numerator := brightness.get
  let denominator := OutputBrightness.DENOMINATOR
  (stockPwm warm numerator denominator, stockPwm cool numerator denominator)

/-- PWM[16], GRPPWM, GRPFREQ, LEDOUT[4] with every channel dark. -/
def darkFrame : Vector UInt8 22 :=
  #v[0, 0, 0, 0, 0, 0, 0, 0, 0, 0, 0, 0, 0, 0, 0, 0, 255, 0, 0xaa, 0xaa, 0xaa, 0xaa]

/-- Register bytes for the exact physical frame, not its logical approximation. -/
def outputFrame (output : OutputFrame) : Vector UInt8 22 :=
  if output.state.on then
    let (warm, cool) := outputPwmPair output.brightness output.state.temperature
    (darkFrame.set 0 warm).set 4 cool
  else darkFrame

theorem get_eq_getElem {n : Nat} (bytes : Vector UInt8 n) (i : Fin n) :
    bytes.get i = bytes[i.val] := rfl

theorem outputFrame_of_off {output : OutputFrame} (off : output.state.on = false) :
    outputFrame output = darkFrame := by
  simp [outputFrame, off]

/-- The temperature of a dark frame does not reach the registers. -/
theorem outputFrame_congr {left right : OutputFrame} (on : left.state.on = right.state.on)
    (brightness : left.brightness = right.brightness)
    (temperature : right.state.on = true → left.state.temperature = right.state.temperature) :
    outputFrame left = outputFrame right := by
  cases lit : right.state.on with
  | false => rw [outputFrame_of_off (on.trans lit), outputFrame_of_off lit]
  | true =>
      unfold outputFrame
      rw [on, brightness, temperature lit]

/-! ### Bus, pin and delay -/

/-- Each transaction must have a finite I/O timeout. -/
class RegisterBus (B : Type) (ε : outParam Type) where
  write : B → UInt8 → List UInt8 → Except ε Unit × B
  writeRead : B → UInt8 → List UInt8 → (length : Nat) → Except ε (Vector UInt8 length) × B

/-- Drives the existing active-low output-enable input. -/
class OutputEnable (O : Type) (ε : outParam Type) where
  setDisabled : O → Bool → Except ε Unit × O

class Delay (D : Type) where
  delayUs : D → Nat → D

inductive DriverError (β ω : Type) where
  | bus (error : β)
  | enable (error : ω)
  | readbackMismatch
deriving DecidableEq, Repr

/-- One step of the driver on the outside world, with its result. -/
inductive Transaction (β ω : Type) where
  | write (address : UInt8) (bytes : List UInt8) (result : Except β Unit)
  | read (address : UInt8) (bytes : List UInt8) (result : Except β (Vector UInt8 24))
  | setDisabled (disabled : Bool) (result : Except ω Unit)
  | delay (micros : Nat)

/-! ### Driver -/

structure Pca9635 (B O D β ω : Type) where
  bus : B
  oe : O
  delay : D
  verifiedOn : Option OutputFrame
  /-- Ghost: every transaction so far, newest first. -/
  trace : List (Transaction β ω)

namespace Pca9635

variable {B O D β ω : Type}

def new (bus : B) (oe : O) (delay : D) : Pca9635 B O D β ω where
  bus := bus
  oe := oe
  delay := delay
  verifiedOn := none
  trace := []

/-- A driver operation. -/
abbrev Action (B O D β ω α : Type) : Type := Program (Pca9635 B O D β ω) (DriverError β ω) α

variable [RegisterBus B β] [OutputEnable O ω] [Delay D]

/-- Continue with the value of a transaction, or return its error. -/
def orReturn {ε α : Type} (wrap : ε → DriverError β ω) : Except ε α → Action B O D β ω α
  | .ok value => pure value
  | .error error => Program.fail (wrap error)

def busWrite (bytes : List UInt8) : Action B O D β ω Unit := do
  let result ← Program.primitive fun driver =>
    let (result, bus) := RegisterBus.write driver.bus ADDRESS bytes
    (result, { driver with bus := bus, trace := .write ADDRESS bytes result :: driver.trace })
  orReturn .bus result

def setDisabled (disabled : Bool) : Action B O D β ω Unit := do
  let result ← Program.primitive fun driver =>
    let (result, oe) := OutputEnable.setDisabled driver.oe disabled
    (result, { driver with oe := oe, trace := .setDisabled disabled result :: driver.trace })
  orReturn .enable result

def delayUs (micros : Nat) : Action B O D β ω Unit :=
  Program.update fun driver =>
    { driver with
      delay := Delay.delayUs driver.delay micros
      trace := .delay micros :: driver.trace }

def setVerifiedOn (frame : Option OutputFrame) : Action B O D β ω Unit :=
  Program.update fun driver => { driver with verifiedOn := frame }

/-- Auto-increment from PWM0; `MODE2.OCH = 0` updates on STOP. -/
def writeFrame (frame : OutputFrame) : Action B O D β ω Unit :=
  busWrite (0x82 :: (outputFrame frame).toList)

def readRegisters : Action B O D β ω (Vector UInt8 24) := do
  let result ← Program.primitive fun driver =>
    let (result, bus) := RegisterBus.writeRead driver.bus ADDRESS [0x80] 24
    (result, { driver with bus := bus, trace := .read ADDRESS [0x80] result :: driver.trace })
  match result with
  | .ok data => pure data
  | .error error => do
      setVerifiedOn none
      Program.fail (.bus error)

/-- Readback that establishes the frame. `MODE1[7:5]` reflects the latest
auto-increment control byte and is ignored. -/
def Matching (data : Vector UInt8 24) (frame : OutputFrame) : Prop :=
  data.get 0 &&& 0x1f = 0 ∧ data.get 1 = MODE2 ∧ data.toList.drop 2 = (outputFrame frame).toList

instance (data : Vector UInt8 24) (frame : OutputFrame) : Decidable (Matching data frame) :=
  inferInstanceAs (Decidable (_ ∧ _ ∧ _))

/-- Verifies the exact sub-floor frame without rounding to a Matter level. -/
def verifyFrame (frame : OutputFrame) : Action B O D β ω Unit := do
  let data ← readRegisters
  if Matching data frame then pure ()
  else do
    setVerifiedOn none
    Program.fail .readbackMismatch

/-- Verifies register state, not voltage, emitted light, or OE wiring. -/
def verify (state : LightState) : Action B O D β ω Unit :=
  verifyFrame (OutputFrame.fromState state)

def finish : Except (DriverError β ω) Unit → Action B O D β ω Unit
  | .ok () => pure ()
  | .error error => do
      setVerifiedOn none
      -- Best effort only: the OE path may be ineffective.
      setDisabled true
      Program.fail error

def initializeOff : Action B O D β ω Unit := do
  setVerifiedOn none
  setDisabled true
  let result ← Program.attempt do
    -- Output polarity and zero PWM before waking the oscillator.
    busWrite [0x01, MODE2]
    writeFrame default
    busWrite [0x00, 0x00]
    delayUs 500
    verify default
  finish result

/-- Attempt stock Off through I2C as well as OE. -/
def shutdown : Action B O D β ω Unit := initializeOff

/-- The complete parked initialization, then the frame if it is On. -/
def applyParked (frame : OutputFrame) : Action B O D β ω Unit := do
  initializeOff
  if frame.state.on then do
    writeFrame frame
    verifyFrame frame
    setDisabled false
    setVerifiedOn (some frame)
  else pure ()

/-- Rewrite a frame over the verified one, without an output-enable interruption. -/
def applyFast (previous frame : OutputFrame) : Action B O D β ω Unit := do
  -- Frames that encode alike are acknowledged by the readback already made.
  if outputFrame previous ≠ outputFrame frame then do
    writeFrame frame
    verifyFrame frame
  else pure ()
  setVerifiedOn (some frame)

/-- The body of `applyFrame`, before `finish`. -/
def applyBody (frame : OutputFrame) : Action B O D β ω Unit := do
  match frame.state.on, ← Program.read Pca9635.verifiedOn with
  | true, some previous =>
      match ← Program.attempt (verifyFrame previous) with
      | .ok () => applyFast previous frame
      | .error .readbackMismatch => applyParked frame
      | .error error => Program.fail error
  | _, _ => applyParked frame

def applyFrame (frame : OutputFrame) : Action B O D β ω Unit := do
  let result ← Program.attempt (applyBody frame)
  finish result

end Pca9635

end KeyRight.Core
