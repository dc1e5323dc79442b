import KeyRight.App.State
import KeyRight.Support.Program

/-!
Owns the calls of the light runtime in `firmware/app/src/runtime.rs` on a keyed
blob store and an output adapter, and the boundaries to both. Store and adapter
are arbitrary types: any call may fail, in any pattern.

Every outside call is appended to the runtime's `trace`, newest first. The trace
is ghost state: no call reads it. An applied frame is logged with the runtime's
state at the entry of the controller, before it forgets the old acknowledgement.

Does not own the meaning of a run.
-/

namespace KeyRight.App

open KeyRight.Core KeyRight.Support

/-! ### Boundaries -/

class Hardware (H : Type) extends LightOutput H OutputError where
  shutdown : H → Except OutputError Unit × H
  verifyFrame : H → OutputFrame → Except OutputError Unit × H
  registers : H → Except OutputError (Vector UInt8 24) × H

/-- The SDK's keyed blob store and its first key for vendors. -/
class KvBlobStore (K : Type) where
  vendorKeysStart : UInt16
  load : K → UInt16 → Except ErrorCode (Option (List UInt8)) × K
  store : K → UInt16 → List UInt8 → Except ErrorCode Unit × K

/-- A store that keeps what it acknowledged: a load returns the stored bytes, and
a store call that returns an error leaves the old bytes. -/
class LawfulKvBlobStore (K : Type) extends KvBlobStore K where
  contents : K → UInt16 → Option (List UInt8)
  load_ok : ∀ kv key found, (load kv key).1 = .ok found → found = contents kv key
  load_contents : ∀ kv key, contents (load kv key).2 = contents kv
  store_ok : ∀ kv key data, (store kv key data).1 = .ok () →
    contents (store kv key data).2 key = some data
  store_error : ∀ kv key data code, (store kv key data).1 = .error code →
    contents (store kv key data).2 = contents kv

def INTENT_KEY (K : Type) [KvBlobStore K] : UInt16 := KvBlobStore.vendorKeysStart K + 3

/-! ### Runtime -/

/-- A call of the runtime on the outside world, with its result. -/
inductive Event (K H : Type) where
  | load (found : Except ErrorCode (Option (List UInt8)))
  | store (data : List UInt8) (ok : Bool)
  | shutdown (ok : Bool)
  | applyFrame (kv : K) (held : State H) (frame : OutputFrame) (ok : Bool)
  | verifyFrame (frame : OutputFrame) (ok : Bool)
  | registers (ok : Bool)

structure Runtime (K H : Type) where
  kv : K
  state : State H
  now : Nat
  /-- Ghost: every outside call so far, newest first. -/
  trace : List (Event K H)

/-- A call of the runtime. -/
abbrev Call (K H α : Type) : Type := Program (Runtime K H) ErrorCode α

namespace Runtime

variable {K H : Type}

def onState (r : Runtime K H) (edit : State H → State H) : Runtime K H :=
  { r with state := edit r.state }

def edit (change : State H → State H) : Call K H Unit := Program.update fun r => r.onState change

/-- One call on the adapter that is logged as `event`. -/
def touched (r : Runtime K H) (hardware : H) (event : Event K H) : Runtime K H :=
  { r with state := { r.state with hardware := hardware }, trace := event :: r.trace }

/-- One call on the store that is logged as `event`. -/
def accessed (r : Runtime K H) (kv : K) (event : Event K H) : Runtime K H :=
  { r with kv := kv, trace := event :: r.trace }

@[simp] theorem onState_state (r : Runtime K H) (change : State H → State H) :
    (r.onState change).state = change r.state := rfl

@[simp] theorem onState_kv (r : Runtime K H) (change : State H → State H) :
    (r.onState change).kv = r.kv := rfl

@[simp] theorem onState_now (r : Runtime K H) (change : State H → State H) :
    (r.onState change).now = r.now := rfl

@[simp] theorem onState_trace (r : Runtime K H) (change : State H → State H) :
    (r.onState change).trace = r.trace := rfl

@[simp] theorem touched_state (r : Runtime K H) (hardware : H) (event : Event K H) :
    (r.touched hardware event).state = { r.state with hardware := hardware } := rfl

@[simp] theorem touched_kv (r : Runtime K H) (hardware : H) (event : Event K H) :
    (r.touched hardware event).kv = r.kv := rfl

@[simp] theorem touched_now (r : Runtime K H) (hardware : H) (event : Event K H) :
    (r.touched hardware event).now = r.now := rfl

@[simp] theorem touched_trace (r : Runtime K H) (hardware : H) (event : Event K H) :
    (r.touched hardware event).trace = event :: r.trace := rfl

@[simp] theorem accessed_state (r : Runtime K H) (kv : K) (event : Event K H) :
    (r.accessed kv event).state = r.state := rfl

@[simp] theorem accessed_kv (r : Runtime K H) (kv : K) (event : Event K H) :
    (r.accessed kv event).kv = kv := rfl

@[simp] theorem accessed_now (r : Runtime K H) (kv : K) (event : Event K H) :
    (r.accessed kv event).now = r.now := rfl

@[simp] theorem accessed_trace (r : Runtime K H) (kv : K) (event : Event K H) :
    (r.accessed kv event).trace = event :: r.trace := rfl

/-! ### Outside calls -/

section Outside

variable [KvBlobStore K] [Hardware H]

/-- Attempt shutdown; tells whether it succeeded. -/
def shutdown : Call K H Bool := Program.primitive fun r =>
  let (result, hardware) := Hardware.shutdown r.state.hardware
  (result.isOk, r.touched hardware (.shutdown result.isOk))

/-- Verify a frame; tells whether it was established. -/
def verifyFrame (frame : OutputFrame) : Call K H Bool := Program.primitive fun r =>
  let (result, hardware) := Hardware.verifyFrame r.state.hardware frame
  (result.isOk, r.touched hardware (.verifyFrame frame result.isOk))

def readRegisters : Call K H (Except OutputError (Vector UInt8 24)) := Program.primitive fun r =>
  let (result, hardware) := Hardware.registers r.state.hardware
  (result, r.touched hardware (.registers result.isOk))

/-- `Controller::reconcile_frame` on the runtime's controller and adapter. An
equal frame makes no outside call. -/
def reconcileFrame (frame : OutputFrame) : Call K H Bool := Program.primitive fun r =>
  let (result, controller, hardware) :=
    r.state.controller.reconcileFrame r.state.hardware frame
  let trace :=
    if r.state.controller.appliedFrame = some frame then r.trace
    else .applyFrame r.kv r.state frame result.isOk :: r.trace
  (result.isOk,
    { r with state := { r.state with controller := controller, hardware := hardware }, trace := trace })

/-- What a load from the store found. -/
def savedState : Except ErrorCode (Option (List UInt8)) → Except Fault SavedState
  | .error _ => .error .storage
  | .ok none => .ok default
  | .ok (some bytes) => decodeRecord bytes

def loadRecord : Call K H (Except Fault SavedState) := Program.primitive fun r =>
  let (found, kv) := KvBlobStore.load r.kv (INTENT_KEY K)
  (savedState found, r.accessed kv (.load found))

def storeRecord (data : List UInt8) : Call K H (Except ErrorCode Unit) := Program.primitive fun r =>
  let (result, kv) := KvBlobStore.store r.kv (INTENT_KEY K) data
  (result, r.accessed kv (.store data result.isOk))

/-! ### Shared paths -/

def writable : Call K H Unit := do
  let s ← Program.read Runtime.state
  if s.fault = .rebooting then Program.fail .busy
  else if s.loadFault.isSome then Program.fail .invalidState
  else pure ()

def outputFailed (now : Nat) : Call K H Unit := do
  let _ ← shutdown
  edit fun s => s.outputFailed now

def saveIntent : Call K H Unit := do
  let s ← Program.read Runtime.state
  let now ← Program.read Runtime.now
  if s.dirty then
    match ← storeRecord (encodeRecord s.target s.startup) with
    | .ok () => edit State.saved
    | .error code => do
        edit State.storeFailed
        let stopped ← shutdown
        edit fun s => s.saveFailed stopped now
        Program.fail code
  else pure ()

/-- The part of `reconcile` that follows a known output or a proven zero. -/
def drive (now : Nat) : Call K H Unit := do
  let s ← Program.read Runtime.state
  edit fun s => s.intend (s.effective now)
  let acknowledged ← reconcileFrame (s.effective now)
  if acknowledged then edit fun t => t.settled now s.controller.appliedFrame
  else do
    outputFailed now
    Program.fail .failure

/-- Never start from an assumed physical frame: an unknown output first proves zero. -/
def reconcile (now : Nat) : Call K H Unit := do
  let s ← Program.read Runtime.state
  if s.controller.appliedFrame.isNone then do
    let stopped ← shutdown
    if stopped then do
      edit fun s => s.easeFromZero now
      drive now
    else do
      outputFailed now
      Program.fail .failure
  else drive now

def commit (target : LightState) : Call K H Unit := do
  let now ← Program.read Runtime.now
  edit fun s => s.setTarget target
  saveIntent
  reconcile now

/-- A Matter command: refused unless writable, then planned and committed. -/
def planned (plan : State H → Nat → Except ErrorCode (Option Plan)) : Call K H Unit := do
  writable
  let s ← Program.read Runtime.state
  let now ← Program.read Runtime.now
  match plan s now with
  | .error code => Program.fail code
  | .ok none => pure ()
  | .ok (some plan) => do
      edit fun s => s.setTracks plan
      commit plan.target

/-- A command that always has a plan. -/
def always (plan : State H → Nat → Plan) (s : State H) (now : Nat) :
    Except ErrorCode (Option Plan) :=
  .ok (some (plan s now))

/-! ### Commands -/

/-- Commit a validated scene as one durable destination before any output. -/
def recallScene (target : LightState) (durationMs : Nat) : Call K H Unit :=
  if MAX_TRANSITION_MS < durationMs then Program.fail .constraintError
  else planned (always (State.recallScenePlan target durationMs))

def request (target : LightState) : Call K H Unit := recallScene target 0

def setPower (on : Bool) : Call K H Unit := planned (always (State.setPowerPlan on))

def offWithEffect (effect : OffEffect) : Call K H Unit :=
  planned (always (State.offWithEffectPlan effect))

def levelTransition (level : UInt8) (withOnOff : Bool) (durationMs : Nat) (curve : Curve) :
    Call K H Unit :=
  if valid : level ≠ 255 ∧ durationMs ≤ MAX_TRANSITION_MS then
    planned (always (State.levelTransitionPlan level valid.1 withOnOff durationMs curve))
  else Program.fail .constraintError

def setLevelTransition (level : UInt8) (withOnOff : Bool) (durationMs : Nat) : Call K H Unit :=
  levelTransition level withOnOff (State.duration durationMs) .smooth

def setLevel (level : Level) (withOnOff : Bool) : Call K H Unit :=
  setLevelTransition (UInt8.ofNat level.get) withOnOff 0

/-- Matter Move specifies a rate, so keep its ramp linear. -/
def setLevelRate (level : UInt8) (withOnOff : Bool) (durationMs : Nat) : Call K H Unit :=
  levelTransition level withOnOff durationMs .linear

def temperatureTransition (temperature : ColorTemperature) (durationMs : Nat) (curve : Curve) :
    Call K H Unit :=
  if MAX_TRANSITION_MS < durationMs then Program.fail .constraintError
  else planned (always (State.temperatureTransitionPlan temperature durationMs curve))

def setTemperatureTransition (temperature : ColorTemperature) (durationMs : Nat) : Call K H Unit :=
  temperatureTransition temperature (State.duration durationMs) .smooth

def setTemperature (temperature : ColorTemperature) : Call K H Unit :=
  setTemperatureTransition temperature 0

def setTemperatureRate (temperature : ColorTemperature) (durationMs : Nat) : Call K H Unit :=
  temperatureTransition temperature durationMs .linear

def stopLevelTransition : Call K H Unit := planned State.stopLevelPlan

def stopTemperatureTransition : Call K H Unit := planned State.stopTemperaturePlan

/-! ### Start-up settings -/

def saveStartup (startup : Startup) : Call K H Unit := do
  writable
  let s ← Program.read Runtime.state
  if startup = s.startup ∧ !s.dirty then pure ()
  else
    match ← storeRecord (encodeRecord s.target startup) with
    | .ok () => edit fun s => s.setStartup startup
    | .error code => do
        edit fun s => { s with storageFailures := saturatingSucc s.storageFailures }
        Program.fail code

end Outside

inductive StartUpOnOff where
  | off
  | on
  | toggle
deriving DecidableEq, Repr

section Outside

variable [KvBlobStore K] [Hardware H]

/-- Null means Restore. Policies that could turn a valid saved Off into On after a
reset are rejected. -/
def setStartup (value : Option StartUpOnOff) : Call K H Unit := do
  let s ← Program.read Runtime.state
  match value with
  | none => saveStartup { s.startup with power := 0, power_le := Startup.restore_le }
  | some .off => saveStartup { s.startup with power := 1, power_le := Startup.off_le }
  | some .on => Program.fail .constraintError
  | some .toggle => Program.fail .constraintError

def setStartupLevel (value : Option UInt8) : Call K H Unit := do
  let s ← Program.read Runtime.state
  if valid : value ≠ some 255 then saveStartup { s.startup with level := value, level_ne := valid }
  else Program.fail .constraintError

def setStartupTemperature (value : Option ColorTemperature) : Call K H Unit := do
  let s ← Program.read Runtime.state
  saveStartup { s.startup with temperature := value }

/-! ### Local calls -/

/-- Local Off attempts shutdown even if intent storage cannot be read. -/
def off : Call K H Unit := do
  let now ← Program.read Runtime.now
  let stopped ← shutdown
  edit State.localOff
  let s ← Program.read Runtime.state
  if s.loadFault = some .storage then do
    edit fun s => s.deferOff stopped
    if stopped then pure () else Program.fail .failure
  else do
    edit State.repairRecord
    saveIntent
    edit State.clearLoadFault
    if stopped then reconcile now
    else do
      outputFailed now
      Program.fail .failure

def verify : Call K H Unit := do
  let s ← Program.read Runtime.state
  let now ← Program.read Runtime.now
  match s.controller.appliedFrame with
  | none => Program.fail .invalidState
  | some applied => do
      let established ← verifyFrame applied
      if established then pure ()
      else do
        outputFailed now
        Program.fail .failure

def registers : Call K H (Vector UInt8 24) := do
  let now ← Program.read Runtime.now
  match ← readRegisters with
  | .ok data => pure data
  | .error _ => do
      outputFailed now
      Program.fail .failure

/-- Tells whether the shutdown was verified. -/
def prepareReboot : Call K H Bool := do
  let verified ← shutdown
  edit State.latch
  pure verified

def watchdogTestReady : Call K H Unit := do
  let s ← Program.read Runtime.state
  if s.dirty ∨ s.fault ≠ .none ∨ s.levelTransition.isSome ∨ s.temperatureTransition.isSome then
    Program.fail .invalidState
  else verify

/-! ### Tick -/

/-- A tick of an output that already shows what is called for. -/
def rest (now : Nat) (applied : OutputFrame) : Call K H Unit := do
  edit fun s => s.expire now
  let s ← Program.read Runtime.state
  if s.nextVerify ≤ now then do
    edit fun s => { s with nextVerify := now + 5000 }
    let established ← verifyFrame applied
    if established then pure () else outputFailed now
  else pure ()

/-- The output part of a tick. -/
def tickOutput (now : Nat) : Call K H Unit := do
  let s ← Program.read Runtime.state
  if acknowledged : s.controller.appliedFrame = some (s.effective now) then
    rest now (s.controller.appliedFrame.get (by simp [acknowledged]))
  else do
    let _ ← Program.attempt (reconcile now)

/-- A tick after the load retry. -/
def tickLoaded (now : Nat) : Call K H Unit := do
  let s ← Program.read Runtime.state
  if s.loadFault.isSome then pure ()
  else
    match ← Program.attempt saveIntent with
    | .error _ => pure ()
    | .ok () => tickOutput now

def tick (now : Nat) : Call K H Unit := do
  Program.update fun r => { r with now := now }
  let s ← Program.read Runtime.state
  if s.fault = .rebooting ∨ now < s.retryAt then pure ()
  else if s.loadFault = some .storage then
    match ← loadRecord with
    | .ok saved => do
        edit fun s => s.loaded saved
        tickLoaded now
    | .error fault => edit fun s => s.loadFailed fault now
  else tickLoaded now

/-! ### Boot -/

def load (kv : K) (hardware : H) : Runtime K H :=
  let (stopped, hardware) := Hardware.shutdown hardware
  let (found, kv) := KvBlobStore.load kv (INTENT_KEY K)
  let loadFault : Option Fault :=
    match savedState found with
    | .ok _ => none
    | .error fault => some fault
  let saved := (savedState found).toOption.getD default
  let target := startupIntent saved.intended saved.startup
  { kv := kv
    now := 0
    trace := [.load found, .shutdown stopped.isOk]
    state :=
      { target := target
        controller := Controller.new (some target)
        hardware := hardware
        levelTransition := none
        temperatureTransition := none
        fault := loadFault.getD (if stopped.isOk then .none else .output)
        dirty := saved.migrated || target ≠ saved.intended
        startup := saved.startup
        loadFault := loadFault
        offAfterLoad := false
        nextVerify := 0
        retryAt := if !stopped.isOk || loadFault = some .storage then 5000 else 0
        failures := if stopped.isOk then 0 else 1
        storageFailures := if loadFault = some .storage then 1 else 0
        recoveries := 0
        revision := 0 } }

end Outside

/-! ### Observations -/

structure Snapshot where
  intended : LightState
  applied : Option LightState
  appliedFrame : Option OutputFrame
  fault : Fault
  outputFailures : Nat
  storageFailures : Nat
  recoveries : Nat
  revision : UInt32
deriving DecidableEq

def snapshot (r : Runtime K H) : Snapshot where
  intended := r.state.target
  applied := r.state.controller.applied
  appliedFrame := r.state.controller.appliedFrame
  fault := r.state.fault
  outputFailures := r.state.failures
  storageFailures := r.state.storageFailures
  recoveries := r.state.recoveries
  revision := r.state.revision

def acknowledged (r : Runtime K H) : Except ErrorCode LightState :=
  match r.state.controller.applied with
  | some applied => .ok applied
  | none => .error .invalidState

/-- Accepted destination for controllers, while the output adapter is healthy. -/
def reported (r : Runtime K H) : Except ErrorCode LightState :=
  if r.state.fault ≠ .none ∨ r.state.controller.applied = none then .error .invalidState
  else .ok r.state.target

theorem reported_eq_ok {r : Runtime K H} {target : LightState} :
    r.reported = .ok target ↔
      r.state.fault = .none ∧ r.state.controller.appliedFrame ≠ none ∧ r.state.target = target := by
  unfold reported Controller.applied
  by_cases healthy : r.state.fault = .none
  · cases known : r.state.controller.appliedFrame with
    | none => simp [healthy]
    | some frame => simp [healthy]
  · simp [healthy]

def levelRemainingMs (r : Runtime K H) : Nat := r.state.levelRemaining r.now

def temperatureRemainingMs (r : Runtime K H) : Nat := r.state.temperatureRemaining r.now

end Runtime

end KeyRight.App
