import KeyRight.App.LightCalls

/-!
Owns invariants of the Matter light that only its runtime can break: what every call of
the runtime keeps and no edit beside it touches, every command keeps.

Does not own any such invariant.
-/

namespace KeyRight.App.LightHandler

open KeyRight.Core KeyRight.Support Program

variable {K H : Type} [KvBlobStore K] [Hardware H]

/-- The commands of which a scene recall consists. -/
def Command.IsSceneStep : Command → Prop
  | .beginScene => True
  | .stageScene _ _ _ => True
  | .finishScene => True
  | .abortScene => True
  | _ => False

/-- The command that captures a global scene. -/
def Command.IsEffect : Command → Prop
  | .offWithEffect _ _ => True
  | _ => False

omit [KvBlobStore K] [Hardware H] in
/-- A capture takes what is reported. -/
theorem saveGlobalScene_keeps {invariant : LightHandler K H → Prop}
    (captured : ∀ (h : LightHandler K H) (state : LightState), invariant h →
      invariant { h with globalSceneState := some state, globalScene := false }) :
    Keeps saveGlobalScene invariant := by
  refine keeps_bind (keeps_read id) fun h => keeps_ite (fun _ => ?_) fun _ => keeps_pure ()
  exact keeps_bind (reported_keeps _) fun state => keeps_update fun t holds => captured t state holds

/-- An edit beside the runtime and the draft of a scene. It does not clear the flag of the
global scene, and leaves no `OnLevel` that is no level. -/
structure Edited (h t : LightHandler K H) : Prop where
  runtime : t.runtime = h.runtime
  sceneDraft : t.sceneDraft = h.sceneDraft
  flag : h.globalScene = true → t.globalScene = true
  onLevel : h.onLevel ≠ some 255 → t.onLevel ≠ some 255

/-- Calls of the runtime and edits beside it keep the invariant. -/
structure Follows (invariant : LightHandler K H → Prop) : Prop where
  edited : ∀ h t : LightHandler K H, Edited h t → invariant h → invariant t
  operated : ∀ (h : LightHandler K H) (operation : Operation),
    invariant h → invariant (h.operated operation)

namespace Follows

variable {invariant : LightHandler K H → Prop} (follows : Follows invariant)

include follows

theorem edit {change : LightHandler K H → LightHandler K H} (edits : ∀ h, Edited h (change h)) :
    Keeps (LightHandler.edit change) invariant :=
  keeps_update fun h holds => follows.edited h (change h) (edits h) holds

theorem operate (operation : Operation) : Keeps (LightHandler.operate operation) invariant :=
  fun h holds => ends_operate fun _ => follows.operated h operation holds

/-! ### On/Off -/

theorem power (on : Bool) : Keeps (LightHandler.power on) invariant := by
  refine keeps_bind (follows.edit fun _ => ⟨rfl, rfl, id, id⟩) fun _ => ?_
  have switches : Keeps (do
      LightHandler.edit dataverChanged
      LightHandler.operate (.setPower on)) invariant :=
    keeps_bind (follows.edit fun _ => ⟨rfl, rfl, id, id⟩) fun _ => follows.operate _
  cases on with
  | false => exact keeps_bind (follows.edit fun _ => ⟨rfl, rfl, id, id⟩) fun _ => switches
  | true =>
      refine keeps_bind (follows.edit fun _ => ⟨rfl, rfl, fun _ => rfl, id⟩) fun _ => ?_
      refine keeps_bind (keeps_read id) fun h => ?_
      cases h.startLevel with
      | none => exact switches
      | some level => exact keeps_bind (follows.operate _) fun _ => switches

theorem tick (deciseconds : UInt16) : Keeps (LightHandler.tick deciseconds) invariant := by
  refine keeps_bind (keeps_read id) fun h => keeps_ite (fun _ => keeps_pure ()) fun _ => ?_
  have announces : Keeps (LightHandler.edit dataverChanged) invariant :=
    follows.edit fun _ => ⟨rfl, rfl, id, id⟩
  refine keeps_ite (fun _ => ?_) fun _ => ?_
  · refine keeps_bind (follows.edit fun _ => ⟨rfl, rfl, id, id⟩) fun _ => ?_
    refine keeps_bind (keeps_read id) fun h => keeps_ite (fun _ => ?_) fun _ => announces
    refine keeps_bind (keeps_attempt (follows.power false)) fun _ => ?_
    exact keeps_bind (follows.edit fun _ => ⟨rfl, rfl, id, id⟩) fun _ => announces
  · exact keeps_bind (follows.edit fun _ => ⟨rfl, rfl, id, id⟩) fun _ => announces

theorem timedOn (acceptOnlyOn : Bool) (onTime offWait : UInt16) :
    Keeps (LightHandler.timedOn acceptOnlyOn onTime offWait) invariant := by
  refine keeps_ite (fun _ => keeps_fail _) fun _ => ?_
  refine keeps_bind (reported_keeps _) fun state => ?_
  refine keeps_bind (keeps_read id) fun h => keeps_ite (fun _ => keeps_pure ()) fun _ => ?_
  refine keeps_ite (fun _ => ?_) fun _ => ?_
  · refine keeps_bind (follows.edit fun _ => ⟨rfl, rfl, id, id⟩) fun _ => ?_
    refine keeps_bind (follows.edit fun _ => ⟨rfl, rfl, id, id⟩) fun _ => ?_
    exact follows.edit fun _ => ⟨rfl, rfl, id, id⟩
  · refine keeps_bind (follows.edit fun _ => ⟨rfl, rfl, id, id⟩) fun _ => ?_
    refine keeps_bind (keeps_attempt (follows.power true)) fun result => ?_
    refine keeps_bind (follows.edit fun _ => ⟨rfl, rfl, id, id⟩) fun _ => ?_
    exact keeps_ofExcept result

theorem offWithEffect (saves : Keeps saveGlobalScene invariant) (effect : OffEffect) :
    Keeps (LightHandler.offWithEffect effect) invariant := by
  refine keeps_bind saves fun _ => ?_
  refine keeps_bind (follows.edit fun _ => ⟨rfl, rfl, id, id⟩) fun _ => ?_
  refine keeps_bind (follows.edit fun _ => ⟨rfl, rfl, id, id⟩) fun _ => ?_
  refine keeps_bind (follows.edit fun _ => ⟨rfl, rfl, id, id⟩) fun _ => ?_
  exact follows.operate _

theorem handleOffWithEffect (saves : Keeps saveGlobalScene invariant)
    (identifier : EffectIdentifier) (variant : UInt8) :
    Keeps (LightHandler.handleOffWithEffect identifier variant) invariant := by
  unfold LightHandler.handleOffWithEffect
  split
  · exact follows.offWithEffect saves _
  · exact follows.offWithEffect saves _
  · exact follows.offWithEffect saves _
  · exact follows.offWithEffect saves _
  · exact keeps_fail _

theorem recallGlobalScene : Keeps LightHandler.recallGlobalScene invariant := by
  refine keeps_bind (keeps_read id) fun h => keeps_ite (fun _ => keeps_pure ()) fun _ => ?_
  cases h.globalSceneState with
  | none => exact keeps_fail _
  | some state =>
      refine keeps_bind (follows.edit fun _ => ⟨rfl, rfl, id, id⟩) fun _ => ?_
      refine keeps_bind (follows.operate _) fun _ => ?_
      exact keeps_bind (follows.edit fun _ => ⟨rfl, rfl, fun _ => rfl, id⟩) fun _ =>
        follows.edit fun _ => ⟨rfl, rfl, id, id⟩

theorem toggle : Keeps LightHandler.toggle invariant :=
  keeps_bind (reported_keeps _) fun state => follows.power (!state.on)

/-! ### Level -/

theorem levelToCurve (raw : UInt8) (withOnOff : Bool) (timeDs : Option UInt16) (mask override : UInt8)
    (linear : Bool) :
    Keeps (LightHandler.levelToCurve raw withOnOff timeDs mask override linear) invariant := by
  unfold LightHandler.levelToCurve
  split
  · refine keeps_bind (executes_keeps levelOptions withOnOff mask override _) fun executed => ?_
    refine keeps_ite (fun _ => ?_) fun _ => keeps_pure ()
    refine keeps_bind (follows.edit fun _ => ⟨rfl, rfl, id, id⟩) fun _ => ?_
    refine keeps_bind (follows.operate _) fun _ => ?_
    refine keeps_bind (keeps_read id) fun h => ?_
    refine keeps_bind (follows.edit fun _ => ⟨rfl, rfl, id, id⟩) fun _ => ?_
    have lights : Keeps (if withOnOff && Level.MIN.get < raw.toNat then
        LightHandler.edit fun h => { h with globalScene := true } else pure ()) invariant :=
      keeps_ite (fun _ => follows.edit fun _ => ⟨rfl, rfl, fun _ => rfl, id⟩) fun _ => keeps_pure ()
    refine keeps_ite (fun _ => ?_) fun _ => lights
    refine keeps_bind (follows.operate _) fun _ => ?_
    exact keeps_bind (follows.edit fun _ => ⟨rfl, rfl, id, id⟩) fun _ => lights
  · exact keeps_fail _

theorem levelMove (mode : LevelMode) (rate : Option UInt8) (withOnOff : Bool) (mask override : UInt8) :
    Keeps (LightHandler.levelMove mode rate withOnOff mask override) invariant := by
  refine keeps_bind (executes_keeps levelOptions withOnOff mask override _) fun executed => ?_
  refine keeps_ite (fun _ => ?_) fun _ => keeps_pure ()
  refine keeps_ite (fun _ => keeps_fail _) fun _ => ?_
  exact keeps_bind (acknowledged_keeps _) fun state => follows.levelToCurve _ _ _ _ _ _

theorem levelStep (mode : LevelMode) (step : UInt8) (timeDs : Option UInt16) (withOnOff : Bool)
    (mask override : UInt8) :
    Keeps (LightHandler.levelStep mode step timeDs withOnOff mask override) invariant := by
  refine keeps_bind (executes_keeps levelOptions withOnOff mask override _) fun executed => ?_
  refine keeps_ite (fun _ => ?_) fun _ => keeps_pure ()
  exact keeps_bind (acknowledged_keeps _) fun state => follows.levelToCurve _ _ _ _ _ _

theorem stopLevel (withOnOff : Bool) (mask override : UInt8) :
    Keeps (LightHandler.stopLevel withOnOff mask override) invariant := by
  refine keeps_bind (keeps_read id) fun h => ?_
  refine keeps_bind ?_ fun executed => ?_
  · exact keeps_ite (fun _ => keeps_pure true) fun _ =>
      executes_keeps levelOptions withOnOff mask override _
  · refine keeps_ite (fun _ => ?_) fun _ => keeps_pure ()
    refine keeps_bind (follows.edit fun _ => ⟨rfl, rfl, id, id⟩) fun _ => ?_
    refine keeps_bind (follows.operate _) fun _ => ?_
    refine keeps_bind (keeps_read id) fun h => ?_
    refine keeps_bind (follows.edit fun _ => ⟨rfl, rfl, id, id⟩) fun _ => ?_
    exact keeps_ite (fun _ => follows.operate _) fun _ => keeps_pure ()

/-! ### Color -/

/-- The color commands that execute end the coupling and make one call. -/
theorem recolor (operation : Operation) :
    Keeps (do
      LightHandler.edit changed
      LightHandler.edit fun h => { h with coupledTemperature := false }
      LightHandler.operate operation) invariant := by
  refine keeps_bind (follows.edit fun _ => ⟨rfl, rfl, id, id⟩) fun _ => ?_
  exact keeps_bind (follows.edit fun _ => ⟨rfl, rfl, id, id⟩) fun _ => follows.operate operation

omit [KvBlobStore K] [Hardware H] follows in
theorem executeColor {mask override : UInt8} {call : Action K H Unit} (keeps : Keeps call invariant) :
    Keeps (do if ← LightHandler.executeColor mask override then call else pure ()) invariant :=
  keeps_bind (executes_keeps colorOptions false mask override _) fun _ =>
    keeps_ite (fun _ => keeps) fun _ => keeps_pure ()

theorem colorTo (mireds timeDs : UInt16) (mask override : UInt8) :
    Keeps (LightHandler.colorTo mireds timeDs mask override) invariant :=
  keeps_ite (fun _ => keeps_fail _) fun _ => executeColor (follows.recolor _)

theorem stopColor (mask override : UInt8) : Keeps (LightHandler.stopColor mask override) invariant :=
  executeColor (follows.recolor _)

theorem colorMoveTo (up : Bool) (rate : UInt16) (bounds : UInt16 × UInt16) (mask override : UInt8) :
    Keeps (LightHandler.colorMoveTo up rate bounds mask override) invariant := by
  refine keeps_ite (fun _ => keeps_fail _) fun _ => executeColor ?_
  refine keeps_bind (keeps_ofExcept _) fun range => ?_
  exact keeps_bind (acknowledged_keeps _) fun state => follows.recolor _

theorem colorMove (mode : ColorMode) (rate : UInt16) (bounds : UInt16 × UInt16)
    (mask override : UInt8) : Keeps (LightHandler.colorMove mode rate bounds mask override) invariant := by
  cases mode with
  | stop => exact follows.stopColor mask override
  | up => exact follows.colorMoveTo true rate bounds mask override
  | down => exact follows.colorMoveTo false rate bounds mask override

theorem colorStep (mode : LevelMode) (step timeDs : UInt16) (bounds : UInt16 × UInt16)
    (mask override : UInt8) :
    Keeps (LightHandler.colorStep mode step timeDs bounds mask override) invariant := by
  refine executeColor ?_
  refine keeps_bind (keeps_ofExcept _) fun range => ?_
  exact keeps_bind (acknowledged_keeps _) fun state => follows.colorTo _ timeDs mask override

/-! ### Scenes -/

section

variable (drafted : ∀ (h : LightHandler K H) (draft : Option SceneDraft),
  invariant h → invariant { h with sceneDraft := draft })

include drafted

omit [KvBlobStore K] [Hardware H] follows in
theorem beginScene : Keeps LightHandler.beginScene invariant := by
  refine keeps_bind (keeps_read id) fun h => keeps_ite (fun _ => keeps_fail _) fun _ => ?_
  exact keeps_bind (reported_keeps _) fun state => keeps_update fun t holds => drafted t _ holds

omit [KvBlobStore K] [Hardware H] follows in
theorem stageScene (cluster : UInt32) (avps : List (Except ErrorCode AttributeValuePair))
    (durationMs : Nat) : Keeps (LightHandler.stageScene cluster avps durationMs) invariant := by
  refine keeps_bind (keeps_read id) fun h => ?_
  cases h.sceneDraft with
  | none => exact keeps_fail _
  | some draft =>
      refine keeps_ite (fun _ => keeps_fail _) fun _ => ?_
      exact keeps_bind (keeps_ofExcept _) fun staged => keeps_update fun t holds => drafted t _ holds

theorem finishScene : Keeps LightHandler.finishScene invariant := by
  refine keeps_bind (keeps_read id) fun h => ?_
  refine keeps_bind (keeps_update fun t holds => drafted t none holds) fun _ => ?_
  have announces : Keeps (LightHandler.edit changed) invariant :=
    follows.edit fun _ => ⟨rfl, rfl, id, id⟩
  cases h.sceneDraft with
  | none => exact keeps_fail _
  | some draft =>
      refine keeps_bind (follows.edit fun _ => ⟨rfl, rfl, id, id⟩) fun _ => ?_
      refine keeps_bind (keeps_attempt (follows.operate _)) fun result => ?_
      cases result with
      | error code => exact keeps_bind announces fun _ => keeps_fail code
      | ok _ =>
          have flag : ∀ t : LightHandler K H, t.globalScene = true →
              (if draft.target.on then true else t.globalScene) = true := by
            intro t flagged
            rw [flagged, ite_self]
          refine keeps_bind (follows.edit fun t => ⟨rfl, rfl, flag t, id⟩) fun _ => ?_
          refine keeps_bind (follows.edit fun _ => ⟨rfl, rfl, id, id⟩) fun _ => ?_
          exact follows.edit fun _ => ⟨rfl, rfl, id, id⟩

theorem abortScene : Keeps LightHandler.abortScene invariant :=
  keeps_bind (keeps_update fun t holds => drafted t none holds) fun _ =>
    follows.edit fun _ => ⟨rfl, rfl, id, id⟩

end

/-! ### Commands -/

/-- A command that captures must keep the invariant by its capture, a step of a scene by its
change of the draft. -/
theorem perform {command : Command}
    (saves : command.IsEffect → Keeps saveGlobalScene invariant)
    (drafted : command.IsSceneStep → ∀ (h : LightHandler K H) (draft : Option SceneDraft),
      invariant h → invariant { h with sceneDraft := draft }) :
    Keeps (LightHandler.perform command) invariant := by
  cases command with
  | on => exact follows.power true
  | off => exact follows.power false
  | toggle => exact follows.toggle
  | offWithEffect identifier variant =>
      exact follows.handleOffWithEffect (saves trivial) identifier variant
  | onWithRecallGlobalScene => exact follows.recallGlobalScene
  | onWithTimedOff acceptOnlyOn onTime offWait => exact follows.timedOn acceptOnlyOn onTime offWait
  | moveToLevel raw withOnOff timeDs mask override =>
      exact follows.levelToCurve raw withOnOff timeDs mask override false
  | moveLevel mode rate withOnOff mask override => exact follows.levelMove mode rate withOnOff mask override
  | stepLevel mode step timeDs withOnOff mask override =>
      exact follows.levelStep mode step timeDs withOnOff mask override
  | stopLevel withOnOff mask override => exact follows.stopLevel withOnOff mask override
  | moveToColorTemperature mireds timeDs mask override => exact follows.colorTo mireds timeDs mask override
  | moveColorTemperature mode rate bounds mask override =>
      exact follows.colorMove mode rate bounds mask override
  | stepColorTemperature mode step timeDs bounds mask override =>
      exact follows.colorStep mode step timeDs bounds mask override
  | stopMoveStep mask override => exact follows.stopColor mask override
  | beginScene => exact beginScene (drafted trivial)
  | stageScene cluster avps durationMs => exact stageScene (drafted trivial) cluster avps durationMs
  | finishScene => exact follows.finishScene (drafted trivial)
  | abortScene => exact follows.abortScene (drafted trivial)
  | setStartUpOnOff value => exact follows.operate _
  | setOnTime value => exact follows.edit fun _ => ⟨rfl, rfl, id, id⟩
  | setOffWaitTime value => exact follows.edit fun _ => ⟨rfl, rfl, id, id⟩
  | setLevelOptions value =>
      exact keeps_ite (fun _ => keeps_fail _) fun _ => follows.edit fun _ => ⟨rfl, rfl, id, id⟩
  | setOnLevel value =>
      refine keeps_ite (fun _ => keeps_fail _) fun legal => follows.edit fun _ => ?_
      exact ⟨rfl, rfl, id, fun _ illegal => legal (.inr illegal)⟩
  | setStartUpCurrentLevel value => exact follows.operate _
  | setColorOptions value =>
      exact keeps_ite (fun _ => keeps_fail _) fun _ => follows.edit fun _ => ⟨rfl, rfl, id, id⟩
  | setStartUpColorTemperatureMireds value =>
      exact keeps_ite (fun _ => keeps_fail _) fun _ => follows.operate _
  | tick deciseconds => exact follows.tick deciseconds
  | direct operation => exact follows.operate operation

end Follows

/-! ### Reached from a boot -/

theorem follows_reachable : Follows fun h : LightHandler K H => h.runtime.Reachable where
  edited := fun _ _ edits reachable => edits.runtime ▸ reachable
  operated := fun _ operation reachable => reachable.after operation

/-- Commands only reach what operations of the runtime reach. -/
theorem run_reachable {h : LightHandler K H} (reachable : h.runtime.Reachable)
    (commands : List Command) : (run h commands).runtime.Reachable := by
  have step : ∀ (h : LightHandler K H) command, h.runtime.Reachable →
      (h.after command).runtime.Reachable := fun h command reachable =>
    follows_reachable.perform (fun _ => saveGlobalScene_keeps fun _ _ kept => kept)
      (fun _ _ _ kept => kept) h reachable
  exact runAll_invariant step reachable commands

end KeyRight.App.LightHandler
