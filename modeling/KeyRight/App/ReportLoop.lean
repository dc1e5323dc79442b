import KeyRight.App.LightCommands

/-!
Owns the report loops of the Matter light in `firmware/app/src/presets.rs`: what a loop
captures, one poll of it, and runs in which the polls of the three clusters interleave
with commands, stored scenes and restarts of the loops.

The interaction model that a poll notifies is a parameter; it reaches the light only
through its data versions.

Does not own any property of runs.
-/

namespace KeyRight.App

open KeyRight.Core KeyRight.Support

/-! ### Reports -/

structure ReportState where
  revision : UInt32
  output : Option LightState
  sceneRevision : UInt32
  dataver : UInt32
  remaining : UInt16
deriving DecidableEq, Repr

inductive Notification where
  | clusterChanged (cluster : UInt32)
  | attrChanged (cluster attributeId : UInt32)
deriving DecidableEq, Repr

/-- The interaction model bumps the data versions of what it is notified of. -/
structure AttrChangeNotifier where
  bump : Notification → Vector UInt32 3 → Vector UInt32 3

def ON_OFF : Fin 3 := 0
def LEVEL : Fin 3 := 1
def COLOR : Fin 3 := 2

/-- The clusters of the three loops. -/
def CLUSTERS : Vector UInt32 3 := #v[6, 8, 0x300]

def SCENES_CLUSTER : UInt32 := 0x62

/-- The interaction model of `rs-matter`: a notification bumps the version of its cluster. -/
def AttrChangeNotifier.interactionModel : AttrChangeNotifier where
  bump notification datavers :=
    let cluster :=
      match notification with
      | .clusterChanged cluster => cluster
      | .attrChanged cluster _ => cluster
    match CLUSTERS.finIdxOf? cluster with
    | some index => datavers.set index (datavers[index] + 1)
    | none => datavers

/-- The attribute `RemainingTime` of Level Control and of Color Control. -/
def remainingTimeId (index : Fin 3) : UInt32 := if index = LEVEL then 1 else 2

/-- Deciseconds of a remaining time. -/
def remaining (ms : Nat) : UInt16 := UInt16.ofNat (min (LightHandler.divCeil ms 100) 65534)

namespace LightHandler

variable {K H : Type}

def reportRemaining (h : LightHandler K H) (index : Fin 3) : UInt16 :=
  if index = LEVEL then remaining h.runtime.levelRemainingMs
  else if index = COLOR then remaining h.runtime.temperatureRemainingMs
  else remaining 0

def reportState (h : LightHandler K H) (index : Fin 3) : ReportState where
  revision := h.runtime.snapshot.revision
  output := h.runtime.reported.toOption
  sceneRevision := h.sceneRevision
  dataver := h.datavers[index]
  remaining := h.reportRemaining index

def notified (h : LightHandler K H) (ctx : AttrChangeNotifier) (notification : Notification) :
    LightHandler K H :=
  { h with datavers := ctx.bump notification h.datavers }

/-- The held scene is what a report shows. -/
def expects (h : LightHandler K H) (report : ReportState) : Bool :=
  h.sceneIntent.any fun expected => report.output = some expected

/-- Invalidate the scene for changes that bypassed the handler. -/
def observed (h : LightHandler K H) (ctx : AttrChangeNotifier) (previous next : ReportState) :
    LightHandler K H :=
  let h := if next.output ≠ previous.output ∧ !h.expects next then h.changed else h
  if previous.sceneRevision ≠ h.sceneRevision then h.notified ctx (.clusterChanged SCENES_CLUSTER)
  else h

/-- Observe logical changes separately from the physical transition countdown. -/
def announced (h : LightHandler K H) (ctx : AttrChangeNotifier) (index : Fin 3)
    (previous next : ReportState) : LightHandler K H :=
  if next.revision ≠ previous.revision ∨ next.dataver ≠ previous.dataver then
    h.notified ctx (.clusterChanged CLUSTERS[index])
  else if next.remaining ≠ previous.remaining then
    h.notified ctx (.attrChanged CLUSTERS[index] (remainingTimeId index))
  else h

/-- `poll_report` of one cluster: the light and the report to compare with next. -/
def pollReport (h : LightHandler K H) (ctx : AttrChangeNotifier) (index : Fin 3)
    (previous : ReportState) : LightHandler K H × ReportState :=
  let next := h.reportState index
  let observed := if index = ON_OFF then h.observed ctx previous next else h
  let announced := observed.announced ctx index previous next
  (announced, announced.reportState index)

/-- `invoke` of `AtomicScenes` for a StoreScene that the SDK answers. -/
def storeScene (answer : Except ErrorCode Unit) : Action K H Unit := do
  Program.ofExcept answer
  edit fun h => { h with sceneIntent := none }

/-! ### Polls -/

variable (h : LightHandler K H) (ctx : AttrChangeNotifier) (previous next : ReportState)

@[simp] theorem announced_runtime (index : Fin 3) :
    (h.announced ctx index previous next).runtime = h.runtime := by
  unfold announced
  split_ifs <;> rfl

@[simp] theorem announced_sceneIntent (index : Fin 3) :
    (h.announced ctx index previous next).sceneIntent = h.sceneIntent := by
  unfold announced
  split_ifs <;> rfl

@[simp] theorem observed_runtime : (h.observed ctx previous next).runtime = h.runtime := by
  by_cases missed : next.output ≠ previous.output ∧ !h.expects next
  · simp only [observed, if_pos missed]
    split_ifs <;> rfl
  · simp only [observed, if_neg missed]
    split_ifs <;> rfl

theorem observed_sceneIntent :
    (h.observed ctx previous next).sceneIntent =
      if next.output ≠ previous.output ∧ !h.expects next then none else h.sceneIntent := by
  by_cases missed : next.output ≠ previous.output ∧ !h.expects next
  · simp only [observed, if_pos missed]
    split_ifs <;> rfl
  · simp only [observed, if_neg missed]
    split_ifs <;> rfl

/-- A poll calls nothing of the runtime. -/
theorem pollReport_runtime (index : Fin 3) :
    (h.pollReport ctx index previous).1.runtime = h.runtime := by
  by_cases power : index = ON_OFF
  · simp [pollReport, power]
  · simp [pollReport, power]

/-- The loops of the other clusters do not touch a held scene. -/
theorem pollReport_sceneIntent_of_ne {index : Fin 3} (other : index ≠ ON_OFF) :
    (h.pollReport ctx index previous).1.sceneIntent = h.sceneIntent := by
  simp [pollReport, other]

/-- The On/Off loop drops a held scene where it sees another report than before and than
the scene. -/
theorem pollReport_sceneIntent :
    (h.pollReport ctx ON_OFF previous).1.sceneIntent =
      if h.runtime.reported.toOption ≠ previous.output ∧
        !h.sceneIntent.any (fun expected => h.runtime.reported.toOption = some expected) then none
      else h.sceneIntent := by
  simp only [pollReport, if_true, announced_sceneIntent, observed_sceneIntent]
  rfl

end LightHandler

/-! ### Runs -/

/-- The light and what its running loops compare with. -/
structure Reporting (K H : Type) where
  light : LightHandler K H
  previous : Fin 3 → Option ReportState

namespace Reporting

variable {K H : Type}

/-- A light of which no loop runs yet. -/
def new (light : LightHandler K H) : Reporting K H := ⟨light, fun _ => none⟩

/-- A command, an answered StoreScene, a loop that starts with a fresh report or is
dropped with the transport, or a poll. -/
inductive Step where
  | command (command : LightHandler.Command)
  | storeScene (answer : Except ErrorCode Unit)
  | start (index : Fin 3)
  | stop (index : Fin 3)
  | poll (index : Fin 3)

variable [KvBlobStore K] [Hardware H]

/-- Only a running loop polls. -/
def after (ctx : AttrChangeNotifier) (s : Reporting K H) : Step → Reporting K H
  | .command command => { s with light := s.light.after command }
  | .storeScene answer => { s with light := ((LightHandler.storeScene answer).start s.light).2 }
  | .start index =>
      { s with previous := Function.update s.previous index (some (s.light.reportState index)) }
  | .stop index => { s with previous := Function.update s.previous index none }
  | .poll index =>
      match s.previous index with
      | none => s
      | some report =>
          { light := (s.light.pollReport ctx index report).1
            previous := Function.update s.previous index (some (s.light.pollReport ctx index report).2) }

def run (ctx : AttrChangeNotifier) (s : Reporting K H) (steps : List Step) : Reporting K H :=
  runAll (after ctx) s steps

end Reporting

end KeyRight.App
