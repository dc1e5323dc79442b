import KeyRight.App.Operation

/-!
Owns the Matter light of `firmware/app/src/presets.rs`: its attributes and timers
beside the runtime, and the commands of the On/Off, Level Control, Color Control and
Scenes Management clusters on it.

Tags and values of a scene are taken as the SDK decodes them, with any decoding error.
The SDK's own scene table and its change notifications are not part of the state.

Does not own runs of commands, or the report loop.
-/

namespace KeyRight.App

open KeyRight.Core KeyRight.Support

/-! ### Cluster data -/

/-- `u16::MAX` marks a time that does not run out. -/
def U16_MAX : UInt16 := 65535

def EXECUTE_IF_OFF : UInt8 := 1
def COUPLE_COLOR_TEMP_TO_LEVEL : UInt8 := 2

/-- `contains` of an options bitmap. -/
def bitmapContains (bitmap flag : UInt8) : Bool := bitmap &&& flag == flag

inductive EffectIdentifier where
  | delayedAllOff
  | dyingLight
deriving DecidableEq, Repr

inductive LevelMode where
  | up
  | down
deriving DecidableEq, Repr

inductive ColorMode where
  | stop
  | up
  | down
deriving DecidableEq, Repr

/-- An attribute of a scene, as the SDK decodes it. -/
structure AttributeValuePair where
  attributeId : Except ErrorCode UInt32
  valueUnsigned8 : Except ErrorCode (Option UInt8)
  valueUnsigned16 : Except ErrorCode (Option UInt16)

structure SceneDraft where
  target : LightState
  durationMs : Nat
  fields : UInt8
deriving DecidableEq, Repr

structure LightHandler (K H : Type) where
  runtime : Runtime K H
  datavers : Vector UInt32 3
  levelOptions : UInt8
  colorOptions : UInt8
  onLevel : Option UInt8
  onTime : UInt16
  offWait : UInt16
  timed : Bool
  globalScene : Bool
  globalSceneState : Option LightState
  sceneIntent : Option LightState
  sceneDraft : Option SceneDraft
  sceneRevision : UInt32
  coupledTemperature : Bool

namespace LightHandler

variable {K H : Type}

def new (runtime : Runtime K H) (datavers : Vector UInt32 3) : LightHandler K H where
  runtime := runtime
  datavers := datavers
  levelOptions := 0
  colorOptions := 0
  onLevel := none
  onTime := 0
  offWait := 0
  timed := false
  globalScene := true
  globalSceneState := none
  sceneIntent := none
  sceneDraft := none
  sceneRevision := 0
  coupledTemperature := false

/-! ### Edits -/

/-- A scenable attribute changed: a recalled scene is no longer current. -/
def changed (h : LightHandler K H) : LightHandler K H :=
  { h with sceneIntent := none, sceneRevision := h.sceneRevision + 1 }

def dataverChanged (h : LightHandler K H) : LightHandler K H :=
  { h with datavers := h.datavers.set 0 (h.datavers[0] + 1) }

/-- The off-wait guard runs. -/
def guards (offWait : UInt16) : Bool := offWait > 0 && offWait != U16_MAX

/-- Flags and timers of an On. -/
def powered (h : LightHandler K H) : LightHandler K H :=
  let offWait := if h.onTime = 0 then 0 else h.offWait
  { h with
    globalScene := true
    offWait := offWait
    timed := h.onTime > 0 && h.onTime != U16_MAX && offWait != U16_MAX }

/-- Flags and timers of an Off. An early explicit Off keeps the guard. -/
def darkened (h : LightHandler K H) : LightHandler K H :=
  { h with coupledTemperature := false, onTime := 0, timed := guards h.offWait }

def setOffWait (h : LightHandler K H) (offWait : UInt16) : LightHandler K H :=
  { h with offWait := offWait }

def setTimed (h : LightHandler K H) (timed : Bool) : LightHandler K H := { h with timed := timed }

/-- `u16::saturating_sub`. -/
def saturatingSub (value amount : UInt16) : UInt16 :=
  if amount ≤ value then value - amount else 0

/-- Count down the guard while Off. -/
def waited (h : LightHandler K H) (deciseconds : UInt16) : LightHandler K H :=
  let offWait := saturatingSub h.offWait deciseconds
  { h with onTime := 0, offWait := offWait, timed := if offWait = 0 then false else h.timed }

/-! ### Calls -/

/-- A call of the light. -/
abbrev Action (K H α : Type) : Type := Program (LightHandler K H) ErrorCode α

def edit (change : LightHandler K H → LightHandler K H) : Action K H Unit := Program.update change

section

variable [KvBlobStore K] [Hardware H]

/-- Call the runtime. -/
def operate (operation : Operation) : Action K H Unit := do
  let _ ← Program.focus runtime (fun runtime h => { h with runtime := runtime })
    (Runtime.perform operation)

def reported : Action K H LightState := do
  let h ← Program.read id
  Program.ofExcept h.runtime.reported

def acknowledged : Action K H LightState := do
  let h ← Program.read id
  Program.ofExcept h.runtime.acknowledged

/-- `OnLevel`, where the light is not reported On. -/
def startLevel (h : LightHandler K H) : Option UInt8 :=
  h.onLevel.filter fun _ => !h.runtime.reported.toOption.any LightState.on

/-! ### On/Off -/

def power (on : Bool) : Action K H Unit := do
  edit changed
  if on then do
    edit powered
    let h ← Program.read id
    match h.startLevel with
    | some level => operate (.setLevelTransition level true 0)
    | none => pure ()
  else edit darkened
  edit dataverChanged
  operate (.setPower on)

/-- Timed-off deadlines are independent of Matter transport restarts. -/
def tick (deciseconds : UInt16) : Action K H Unit := do
  let h ← Program.read id
  if !h.timed then pure ()
  else do
    if h.runtime.snapshot.intended.on then do
      edit fun h => { h with onTime := saturatingSub h.onTime deciseconds }
      let h ← Program.read id
      if h.onTime = 0 then do
        let _ ← Program.attempt (power false)
        -- Automatic expiry clears the guard. Early explicit Off keeps it.
        edit fun h => (h.setOffWait 0).setTimed false
      else pure ()
    else edit fun h => h.waited deciseconds
    edit dataverChanged

def timedOn (acceptOnlyOn : Bool) (onTime offWait : UInt16) : Action K H Unit := do
  if onTime = U16_MAX ∨ offWait = U16_MAX then Program.fail .constraintError
  else do
    let state ← reported
    let h ← Program.read id
    if acceptOnlyOn && !state.on then pure ()
    else if h.offWait > 0 && !state.on then do
      edit fun h => h.setOffWait (min h.offWait offWait)
      edit fun h => h.setTimed (guards h.offWait)
      edit dataverChanged
    else do
      edit fun h => { h with onTime := max h.onTime onTime, offWait := offWait }
      let result ← Program.attempt (power true)
      edit fun h => h.setTimed (h.onTime != U16_MAX && h.offWait != U16_MAX)
      Program.ofExcept result

def saveGlobalScene : Action K H Unit := do
  let h ← Program.read id
  if h.globalScene then do
    let state ← reported
    edit fun h => { h with globalSceneState := some state, globalScene := false }
  else pure ()

def offWithEffect (effect : OffEffect) : Action K H Unit := do
  saveGlobalScene
  edit changed
  edit darkened
  edit dataverChanged
  operate (.offWithEffect effect)

def recallGlobalScene : Action K H Unit := do
  let h ← Program.read id
  if h.globalScene then pure ()
  else
    match h.globalSceneState with
    | none => Program.fail .invalidState
    | some state => do
        edit changed
        operate (.request state)
        edit fun h =>
          { h with globalScene := true, offWait := if h.onTime = 0 then 0 else h.offWait }
        edit dataverChanged

def toggle : Action K H Unit := do
  let state ← reported
  power (!state.on)

def handleOffWithEffect (identifier : EffectIdentifier) (variant : UInt8) : Action K H Unit :=
  match identifier, variant.toNat with
  | .delayedAllOff, 0 => offWithEffect .fastFade
  | .delayedAllOff, 1 => offWithEffect .noFade
  | .delayedAllOff, 2 => offWithEffect .slowFade
  | .dyingLight, 0 => offWithEffect .dyingLight
  | _, _ => Program.fail .invalidCommand

/-! ### Scenes -/

def beginScene : Action K H Unit := do
  let h ← Program.read id
  if h.sceneDraft.isSome then Program.fail .busy
  else do
    let target ← reported
    edit fun h => { h with sceneDraft := some ⟨target, 0, 0⟩ }

/-- The enhanced color mode of a color temperature. -/
def COLOR_TEMPERATURE_MIREDS : UInt8 := 2

/-- The draft with one more attribute, and the bit that stands for it. -/
def stageValue (cluster : UInt32) (draft : SceneDraft) (avp : AttributeValuePair) (id : UInt32) :
    Except ErrorCode (SceneDraft × UInt8) :=
  if cluster = 6 ∧ id = 0 then do
    match ← avp.valueUnsigned8 with
    | some 0 => pure ({ draft with target := { draft.target with on := false } }, 1)
    | some 1 => pure ({ draft with target := { draft.target with on := true } }, 1)
    | _ => throw .constraintError
  else if cluster = 8 ∧ id = 0 then do
    match (← avp.valueUnsigned8).bind fun value => Level.new value.toNat with
    | some level => pure ({ draft with target := { draft.target with level := level } }, 2)
    | none => throw .constraintError
  else if cluster = 0x300 ∧ id = 7 then do
    match (← avp.valueUnsigned16).bind fun value => ColorTemperature.new value.toNat with
    | some temperature =>
        pure ({ draft with target := { draft.target with temperature := temperature } }, 4)
    | none => throw .constraintError
  else if cluster = 0x300 ∧ id = 0x4001 then do
    if (← avp.valueUnsigned8) = some COLOR_TEMPERATURE_MIREDS then pure (draft, 8)
    else throw .constraintError
  else throw .invalidCommand

/-- One attribute; it may appear only once in a scene. -/
def stageAttribute (cluster : UInt32) (draft : SceneDraft)
    (item : Except ErrorCode AttributeValuePair) : Except ErrorCode SceneDraft := do
  let avp ← item
  let id ← avp.attributeId
  let (staged, field) ← stageValue cluster draft avp id
  if draft.fields &&& field ≠ 0 then throw .constraintError
  else pure { staged with fields := draft.fields ||| field }

/-- Validate every extension field set before changing durable intent or hardware. -/
def stageScene (cluster : UInt32) (avps : List (Except ErrorCode AttributeValuePair))
    (durationMs : Nat) : Action K H Unit := do
  let h ← Program.read id
  match h.sceneDraft with
  | none => Program.fail .invalidState
  | some draft =>
      if 60000000 < durationMs then Program.fail .constraintError
      else do
        let staged ← Program.ofExcept
          (avps.foldlM (stageAttribute cluster) { draft with durationMs := durationMs })
        edit fun h => { h with sceneDraft := some staged }

def finishScene : Action K H Unit := do
  let h ← Program.read id
  edit fun h => { h with sceneDraft := none }
  match h.sceneDraft with
  | none => Program.fail .invalidState
  | some draft => do
      edit fun h => { h with coupledTemperature := false, onTime := 0, offWait := 0, timed := false }
      match ← Program.attempt (operate (.recallScene draft.target draft.durationMs)) with
      | .error code => do
          edit changed
          Program.fail code
      | .ok () => do
          edit fun h => { h with globalScene := if draft.target.on then true else h.globalScene }
          edit fun h => { h with sceneIntent := some draft.target }
          edit dataverChanged

def abortScene : Action K H Unit := do
  edit fun h => { h with sceneDraft := none }
  edit changed

end

end LightHandler

end KeyRight.App
