import KeyRight.App.Convergence
import KeyRight.App.Scenes

/-!
Owns the scene adapters of `firmware/app/src/presets.rs`: what a scene stores of the light,
and that a recall brings it back, whatever the light was asked in between and wherever the
scene was stored.

Does not own the SDK's scene table: it keeps the captured field sets and gives them back.
-/

namespace KeyRight.App

open KeyRight.Core KeyRight.Support

/-! ### Captures -/

/-- An attribute as the SDK's builder writes it, with no other value in it. -/
def AttributeValuePair.pushU8 (id : UInt32) (value : UInt8) : AttributeValuePair :=
  ⟨.ok id, .ok (some value), .ok none⟩

def AttributeValuePair.pushU16 (id : UInt32) (value : UInt16) : AttributeValuePair :=
  ⟨.ok id, .ok none, .ok (some value)⟩

/-- The adapters that are registered with the scene table. -/
inductive SceneAdapter where
  | scenePower
  | sceneLevel
  | sceneTemperature
deriving DecidableEq, Repr

namespace SceneAdapter

open AttributeValuePair

variable {K H : Type}

def clusterId : SceneAdapter → UInt32
  | scenePower => 6
  | sceneLevel => 8
  | sceneTemperature => 0x300

def isScenableAttribute : SceneAdapter → UInt32 → Bool
  | scenePower, id => id == 0
  | sceneLevel, id => id == 0
  | sceneTemperature, id => id == 7 || id == 0x4001

def capture (h : LightHandler K H) : SceneAdapter → Except ErrorCode (List AttributeValuePair)
  | scenePower => do
      let state ← h.runtime.reported
      pure [pushU8 0 (if state.on then 1 else 0)]
  | sceneLevel => do
      let state ← h.runtime.reported
      pure [pushU8 0 (UInt8.ofNat state.level.get)]
  | sceneTemperature => do
      let state ← h.runtime.reported
      pure [pushU16 7 (UInt16.ofNat state.temperature.get),
        pushU8 0x4001 LightHandler.COLOR_TEMPERATURE_MIREDS]

end SceneAdapter

/-- The field sets of a StoreScene: the SDK asks one adapter after the other. -/
def LightHandler.captureScenes {K H : Type} (h : LightHandler K H) (adapters : List SceneAdapter)
    (durationMs : Nat) : Except ErrorCode (List LightHandler.ExtensionFieldSet) :=
  adapters.mapM fun adapter => do
    let avps ← adapter.capture h
    pure ⟨adapter.clusterId, avps.map .ok, durationMs⟩

/-! ### Field sets -/

namespace SceneAdapter

open AttributeValuePair

/-- What an adapter captures of a reported target. -/
def values (scene : LightState) : SceneAdapter → List AttributeValuePair
  | scenePower => [pushU8 0 (if scene.on then 1 else 0)]
  | sceneLevel => [pushU8 0 (UInt8.ofNat scene.level.get)]
  | sceneTemperature => [pushU16 7 (UInt16.ofNat scene.temperature.get),
      pushU8 0x4001 LightHandler.COLOR_TEMPERATURE_MIREDS]

def fieldSet (scene : LightState) (durationMs : Nat) (adapter : SceneAdapter) :
    LightHandler.ExtensionFieldSet :=
  ⟨adapter.clusterId, (adapter.values scene).map .ok, durationMs⟩

/-- The part of a scene that an adapter stands for. -/
def write (scene target : LightState) : SceneAdapter → LightState
  | scenePower => { target with on := scene.on }
  | sceneLevel => { target with level := scene.level }
  | sceneTemperature => { target with temperature := scene.temperature }

/-- A target with the parts of a scene that these adapters stand for. -/
def overlay (adapters : List SceneAdapter) (scene start : LightState) : LightState where
  on := if adapters.contains scenePower then scene.on else start.on
  level := if adapters.contains sceneLevel then scene.level else start.level
  temperature := if adapters.contains sceneTemperature then scene.temperature else start.temperature

/-- What a draft remembers of an adapter. -/
def bits : SceneAdapter → UInt8
  | scenePower => 1
  | sceneLevel => 2
  | sceneTemperature => 12

theorem capture_eq {K H : Type} (h : LightHandler K H) (adapter : SceneAdapter) :
    adapter.capture h = h.runtime.reported.map fun scene => adapter.values scene := by
  cases adapter with
  | _ =>
      unfold capture
      cases h.runtime.reported <;> rfl

/-- What an adapter captures of an overlay is what it captured of the scene. -/
theorem values_overlay {adapters : List SceneAdapter} {adapter : SceneAdapter}
    (member : adapter ∈ adapters) (scene start : LightState) :
    adapter.values (overlay adapters scene start) = adapter.values scene := by
  cases adapter with
  | _ => simp [SceneAdapter.values, overlay, member]

/-- An adapter captures exactly the attributes that it declares scenable. -/
theorem scenable_iff {K H : Type} {h : LightHandler K H} {adapter : SceneAdapter}
    {avps : List AttributeValuePair} (captured : adapter.capture h = .ok avps) (id : UInt32) :
    adapter.isScenableAttribute id = true ↔ ∃ avp ∈ avps, avp.attributeId = .ok id := by
  rw [capture_eq] at captured
  cases reported : h.runtime.reported with
  | error code =>
      rw [reported] at captured
      cases captured
  | ok scene =>
      rw [reported] at captured
      cases captured
      cases adapter with
      | scenePower =>
          simp only [isScenableAttribute, SceneAdapter.values, pushU8, List.mem_singleton,
            exists_eq_left, Except.ok.injEq, beq_iff_eq]
          exact eq_comm
      | sceneLevel =>
          simp only [isScenableAttribute, SceneAdapter.values, pushU8, List.mem_singleton,
            exists_eq_left, Except.ok.injEq, beq_iff_eq]
          exact eq_comm
      | sceneTemperature =>
          simp only [isScenableAttribute, SceneAdapter.values, pushU8, pushU16, List.mem_cons,
            List.not_mem_nil, or_false, exists_eq_or_imp, exists_eq_left, Except.ok.injEq,
            Bool.or_eq_true, beq_iff_eq]
          exact or_congr eq_comm eq_comm

end SceneAdapter

/-! ### Staging what was captured -/

namespace LightHandler

open SceneAdapter

theorem captureScenes_eq {K H : Type} {h : LightHandler K H} {scene : LightState}
    (reports : h.runtime.reported = .ok scene) (adapters : List SceneAdapter) (durationMs : Nat) :
    h.captureScenes adapters durationMs = .ok (adapters.map (fieldSet scene durationMs)) := by
  unfold captureScenes
  induction adapters with
  | nil => rfl
  | cons adapter rest inductionHypothesis =>
      rw [List.mapM_cons, inductionHypothesis, capture_eq, reports]
      rfl

open Program

variable {K H : Type}

section

variable [KvBlobStore K] [Hardware H]

end

variable [LawfulKvBlobStore K] [Hardware H]

/-- The recall of captured sets reached its target: it is reported, stored and held, would be
captured the same again, and is shown once the fades have ended. -/
structure Restores (t : LightHandler K H) (result : Except ErrorCode Unit) (target : LightState)
    (adapters : List SceneAdapter) (durationMs : Nat) (sets : List ExtensionFieldSet) : Prop where
  answered : result = .ok ()
  reported : t.runtime.reported = .ok target
  stored : Stored t.runtime.kv target t.runtime.state.startup
  held : t.sceneIntent = some target
  captured : t.captureScenes adapters durationMs = .ok sets
  arrives : ∀ (before after : List Nat) (rest : Nat), after ≠ [] →
    t.runtime.state.levelRemaining rest = 0 → t.runtime.state.temperatureRemaining rest = 0 →
    Along Runtime.after Runtime.Quiet t.runtime ((before ++ rest :: after).map .tick) →
      Runtime.Arrived target (t.runtime.run ((before ++ rest :: after).map .tick)).state

/-- A recall without a failure reaches the draft. -/
theorem Recalled.restores {h t : LightHandler K H} {result : Except ErrorCode Unit} {draft : SceneDraft}
    (recalled : Recalled h t result draft) (reachable : h.runtime.Reachable)
    (shows : h.runtime.state.controller.appliedFrame ≠ none)
    (short : draft.durationMs ≤ MAX_TRANSITION_MS)
    (quiet : h.runtime.Quiet (.recallScene draft.target draft.durationMs))
    (held : h.runtime.outcome (.recallScene draft.target draft.durationMs) = .ok .done →
      t.sceneIntent = some draft.target)
    {adapters : List SceneAdapter} {durationMs : Nat} {scene start : LightState}
    (target : draft.target = overlay adapters scene start) :
    Restores t result draft.target adapters durationMs (adapters.map (fieldSet scene durationMs)) := by
  have asks : Operation.Asks (.recallScene draft.target draft.durationMs) h.runtime
      (State.recallScenePlan draft.target draft.durationMs h.runtime.state h.runtime.now) :=
    ⟨_, if_neg (Nat.not_lt.mpr short), rfl⟩
  obtain ⟨succeeds, glided⟩ := Runtime.after_glides (reachable.settled shows) asks quiet
  rw [← recalled.runtime] at glided
  have reaches : t.runtime.Reachable := recalled.runtime ▸ reachable.after _
  have arrived : t.runtime.state.target = draft.target :=
    glided.target.trans (State.recallScenePlan_target _ _ _ _)
  have reported : t.runtime.reported = .ok draft.target :=
    Runtime.reported_eq_ok.mpr ⟨glided.settled.healthy.1, glided.settled.known, arrived⟩
  refine ⟨?_, reported, ?_, held succeeds, ?_, ?_⟩
  · rw [recalled.answered, succeeds]
    rfl
  · have written := reaches.durable.written reaches.truthful glided.settled.known
    rw [← arrived]
    exact written.stored
  · rw [captureScenes_eq reported, target]
    refine congrArg Except.ok (List.map_congr_left fun adapter member => ?_)
    rw [fieldSet, fieldSet, values_overlay member]
  · intro before after rest more level temperature quietly
    rw [← arrived]
    exact Runtime.run_ticks_settle glided.settled more level temperature quietly

end LightHandler

end KeyRight.App
