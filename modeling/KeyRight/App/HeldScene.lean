import KeyRight.App.Follows
import KeyRight.App.Moves
import KeyRight.App.ReportLoop

/-!
Owns the scene that the light holds as current: which commands let go of it, and when the
On/Off report loop overlooks that it is no longer what the light reports.

Does not own the SDK's record of the current scene, which follows the held one.
-/

namespace KeyRight.App

open KeyRight.Core KeyRight.Support

/-! ### Reports -/

namespace Runtime

open Program

variable {K H : Type} [KvBlobStore K] [Hardware H]

omit [KvBlobStore K] in
/-- A frame that was driven is reported with its target. -/
theorem drive_reports (r : Runtime K H) (now : Nat) :
    Ends (drive now) r fun result t => result = .ok () → t.reported = .ok r.state.target := by
  apply ends_drive
  · intro same _
    have known : r.state.controller.appliedFrame ≠ none := by simp [same]
    exact reported_eq_ok.mpr ⟨rfl, known, rfl⟩
  · intro differs hardware _
    exact reported_eq_ok.mpr ⟨rfl, Option.some_ne_none _, rfl⟩
  · intro differs hardware left ok
    nofun

omit [KvBlobStore K] in
theorem reconcile_reports (r : Runtime K H) (now : Nat) :
    Ends (reconcile now) r fun result t => result = .ok () → t.reported = .ok r.state.target := by
  apply ends_reconcile
  · intro known
    exact drive_reports r now
  · intro unknown hardware
    exact drive_reports ((r.touched hardware _).onState fun s => s.easeFromZero now) now
  · intro unknown hardware left ok
    nofun

theorem commit_reports (r : Runtime K H) (target : LightState) :
    Ends (commit target) r fun result t => result = .ok () → t.reported = .ok target := by
  simp only [commit, edit, ends_bind, ends_read, ends_update]
  apply ends_saveIntent
  · intro clean
    exact reconcile_reports _ _
  · intro dirty stored
    exact reconcile_reports _ _
  · intro dirty code refused hardware ok accepted
    cases accepted

/-- An accepted scene is reported. -/
theorem recallScene_reports (r : Runtime K H) (target : LightState) (durationMs : Nat) :
    Ends (recallScene target durationMs) r fun result t =>
      result = .ok () → t.reported = .ok target := by
  rw [recallScene, ends_ite]
  constructor
  · intro long refused
    cases refused
  · intro short
    simp only [planned, always, ends_bind, edit, ends_read, ends_update]
    apply ends_writable
    · intro writable
      let plan := State.recallScenePlan target durationMs r.state r.now
      have planned : plan.target = target := State.recallScenePlan_target _ _ _ _
      refine Ends.mono (commit_reports (r.onState fun s => s.setTracks plan) plan.target) ?_
      intro result t reports accepted
      rw [reports accepted, planned]
    · intro refused code accepted
      cases accepted

theorem outcome_recallScene {r : Runtime K H} {target : LightState} {durationMs : Nat}
    (accepted : (r.outcome (.recallScene target durationMs)).map (fun _ => ()) = .ok ()) :
    (r.after (.recallScene target durationMs)).reported = .ok target := by
  have ends : Ends (done (recallScene target durationMs)) r fun result t =>
      result.map (fun _ => ()) = .ok () → t.reported = .ok target := by
    rw [done, ends_bind]
    refine (recallScene_reports r target durationMs).mono fun result t reports => ?_
    cases result with
    | ok _ => exact fun _ => reports rfl
    | error code =>
        intro accepted
        cases accepted
  exact ends accepted

omit [Hardware H] in
theorem saveStartup_reported (r : Runtime K H) (startup : Startup) :
    Ends (saveStartup startup) r fun _ t => t.reported = r.reported := by
  simp only [saveStartup, ends_bind, ends_read]
  refine ends_writable (fun _ => ?_) fun _ _ => rfl
  rw [ends_ite]
  refine ⟨fun _ => rfl, fun _ => ?_⟩
  rw [ends_bind]
  exact ends_storeRecord (fun _ => rfl) fun _ _ => rfl

/-- A write of start-up settings leaves the report alone. -/
theorem after_startup_reported (r : Runtime K H) {operation : Operation}
    (asked : operation.IsStartup) : (r.after operation).reported = r.reported := by
  cases operation with
  | setStartup value =>
      change Ends (done (setStartup value)) r fun _ t => t.reported = r.reported
      refine ends_done ?_
      simp only [setStartup, ends_bind, ends_read]
      rcases value with _ | policy
      · exact saveStartup_reported r _
      · cases policy with
        | off => exact saveStartup_reported r _
        | on => rfl
        | toggle => rfl
  | setStartupLevel value =>
      change Ends (done (setStartupLevel value)) r fun _ t => t.reported = r.reported
      refine ends_done ?_
      simp only [setStartupLevel, ends_bind, ends_read]
      by_cases valid : value ≠ some 255
      · rw [dif_pos valid]
        exact saveStartup_reported r _
      · rw [dif_neg valid]
        rfl
  | setStartupTemperature value =>
      change Ends (done (setStartupTemperature value)) r fun _ t => t.reported = r.reported
      refine ends_done ?_
      simp only [setStartupTemperature, ends_bind, ends_read]
      exact saveStartup_reported r _
  | _ => exact asked.elim

end Runtime

namespace LightHandler

open Program

variable {K H : Type}

/-! ### Letting go -/

/-- The call lets go of a held scene, or touches neither it nor the runtime. -/
def Releases {α : Type} (call : Action K H α) : Prop :=
  ∀ h, Ends call h fun _ t => t.sceneIntent = none ∨ t.sceneIntent = h.sceneIntent ∧ t.runtime = h.runtime

section

variable {α β : Type}

theorem releases_of_keeps {call : Action K H α} (keeps : ∀ invariant, Keeps call invariant) :
    Releases call :=
  fun h => keeps (fun t => t.sceneIntent = none ∨ t.sceneIntent = h.sceneIntent ∧ t.runtime = h.runtime)
    h (.inr ⟨rfl, rfl⟩)

theorem releases_pure (value : α) : Releases (pure value : Action K H α) :=
  releases_of_keeps fun _ => keeps_pure value

theorem releases_fail (code : ErrorCode) : Releases (fail code : Action K H α) :=
  releases_of_keeps fun _ => keeps_fail code

theorem releases_read (view : LightHandler K H → α) : Releases (read view) :=
  releases_of_keeps fun _ => keeps_read view

theorem releases_ofExcept (result : Except ErrorCode α) :
    Releases (Program.ofExcept result : Action K H α) :=
  releases_of_keeps fun _ => keeps_ofExcept result

theorem releases_reported : Releases (reported : Action K H LightState) :=
  releases_of_keeps reported_keeps

theorem releases_acknowledged : Releases (acknowledged : Action K H LightState) :=
  releases_of_keeps acknowledged_keeps

theorem releases_bind {first : Action K H α} {next : α → Action K H β} (releases : Releases first)
    (later : ∀ value, Releases (next value)) : Releases (first >>= next) := by
  intro h
  rw [ends_bind]
  refine (releases h).mono fun result t sofar => ?_
  cases result with
  | error code => exact sofar
  | ok value =>
      refine (later value t).mono fun _ u since => ?_
      rcases since with dropped | ⟨intent, runtime⟩
      · exact .inl dropped
      · rcases sofar with dropped | ⟨before, same⟩
        · exact .inl (intent.trans dropped)
        · exact .inr ⟨intent.trans before, runtime.trans same⟩

theorem releases_ite {condition : Prop} [Decidable condition] {yes no : Action K H α}
    (releases : condition → Releases yes) (otherwise : ¬condition → Releases no) :
    Releases (if condition then yes else no) := by
  by_cases holds : condition
  · rw [if_pos holds]
    exact releases holds
  · rw [if_neg holds]
    exact otherwise holds

theorem releases_attempt {call : Action K H α} (releases : Releases call) :
    Releases (attempt call) := releases

/-- An edit beside the runtime and the held scene. -/
theorem releases_edit {change : LightHandler K H → LightHandler K H}
    (intent : ∀ h, (change h).sceneIntent = h.sceneIntent)
    (runtime : ∀ h, (change h).runtime = h.runtime) : Releases (edit change) :=
  fun h => .inr ⟨intent h, runtime h⟩

/-- A change drops the scene, whatever is called after it. -/
theorem releases_changed {rest : Action K H α}
    (keeps : Keeps rest fun t => t.sceneIntent = none) : Releases (do edit changed; rest) := by
  intro h
  rw [edit, ends_bind, ends_update]
  exact (keeps h.changed rfl).mono fun _ _ dropped => Or.inl dropped

end

theorem edit_keeps_intent {intent : Option LightState}
    {change : LightHandler K H → LightHandler K H} (same : ∀ h, (change h).sceneIntent = h.sceneIntent) :
    Keeps (edit change) fun t => t.sceneIntent = intent :=
  keeps_update fun h holds => (same h).trans holds

variable [KvBlobStore K] [Hardware H]

theorem operate_keeps_intent (operation : Operation) (intent : Option LightState) :
    Keeps (operate operation) fun t : LightHandler K H => t.sceneIntent = intent :=
  fun _ holds => ends_operate fun _ => holds

/-! ### On/Off -/

theorem releases_power (on : Bool) : Releases (power on : Action K H Unit) := by
  refine releases_changed ?_
  have switches : Keeps (do edit dataverChanged; operate (.setPower on))
      fun t : LightHandler K H => t.sceneIntent = none :=
    keeps_bind (edit_keeps_intent fun _ => rfl) fun _ => operate_keeps_intent _ _
  cases on with
  | false => exact keeps_bind (edit_keeps_intent fun _ => rfl) fun _ => switches
  | true =>
      refine keeps_bind (edit_keeps_intent fun _ => rfl) fun _ => ?_
      refine keeps_bind (keeps_read id) fun h => ?_
      cases h.startLevel with
      | none => exact switches
      | some level => exact keeps_bind (operate_keeps_intent _ _) fun _ => switches

theorem releases_toggle : Releases (toggle : Action K H Unit) :=
  releases_bind releases_reported fun state => releases_power (!state.on)

theorem releases_tick (deciseconds : UInt16) : Releases (tick deciseconds : Action K H Unit) := by
  refine releases_bind (releases_read id) fun h => releases_ite (fun _ => releases_pure ()) fun _ => ?_
  have announces : Releases (edit dataverChanged : Action K H Unit) :=
    releases_edit (fun _ => rfl) fun _ => rfl
  refine releases_ite (fun _ => ?_) fun _ => ?_
  · refine releases_bind (releases_edit (fun _ => rfl) fun _ => rfl) fun _ => ?_
    refine releases_bind (releases_read id) fun h => releases_ite (fun _ => ?_) fun _ => announces
    refine releases_bind (releases_attempt (releases_power false)) fun _ => ?_
    exact releases_bind (releases_edit (fun _ => rfl) fun _ => rfl) fun _ => announces
  · exact releases_bind (releases_edit (fun _ => rfl) fun _ => rfl) fun _ => announces

theorem releases_timedOn (acceptOnlyOn : Bool) (onTime offWait : UInt16) :
    Releases (timedOn acceptOnlyOn onTime offWait : Action K H Unit) := by
  refine releases_ite (fun _ => releases_fail _) fun _ => ?_
  refine releases_bind releases_reported fun state => releases_bind (releases_read id) fun h => ?_
  refine releases_ite (fun _ => releases_pure ()) fun _ => releases_ite (fun _ => ?_) fun _ => ?_
  · refine releases_bind (releases_edit (fun _ => rfl) fun _ => rfl) fun _ => ?_
    refine releases_bind (releases_edit (fun _ => rfl) fun _ => rfl) fun _ => ?_
    exact releases_edit (fun _ => rfl) fun _ => rfl
  · refine releases_bind (releases_edit (fun _ => rfl) fun _ => rfl) fun _ => ?_
    refine releases_bind (releases_attempt (releases_power true)) fun result => ?_
    refine releases_bind (releases_edit (fun _ => rfl) fun _ => rfl) fun _ => ?_
    exact releases_ofExcept result

omit [KvBlobStore K] [Hardware H] in
theorem releases_saveGlobalScene : Releases (saveGlobalScene : Action K H Unit) := by
  refine releases_bind (releases_read id) fun h => releases_ite (fun _ => ?_) fun _ => releases_pure ()
  exact releases_bind releases_reported fun state => releases_edit (fun _ => rfl) fun _ => rfl

theorem releases_offWithEffect (effect : OffEffect) :
    Releases (offWithEffect effect : Action K H Unit) := by
  refine releases_bind releases_saveGlobalScene fun _ => releases_changed ?_
  refine keeps_bind (edit_keeps_intent fun _ => rfl) fun _ => ?_
  exact keeps_bind (edit_keeps_intent fun _ => rfl) fun _ => operate_keeps_intent _ _

theorem releases_handleOffWithEffect (identifier : EffectIdentifier) (variant : UInt8) :
    Releases (handleOffWithEffect identifier variant : Action K H Unit) := by
  unfold handleOffWithEffect
  split
  · exact releases_offWithEffect _
  · exact releases_offWithEffect _
  · exact releases_offWithEffect _
  · exact releases_offWithEffect _
  · exact releases_fail _

theorem releases_recallGlobalScene : Releases (recallGlobalScene : Action K H Unit) := by
  refine releases_bind (releases_read id) fun h => releases_ite (fun _ => releases_pure ()) fun _ => ?_
  cases h.globalSceneState with
  | none => exact releases_fail _
  | some state =>
      refine releases_changed ?_
      refine keeps_bind (operate_keeps_intent _ _) fun _ => ?_
      exact keeps_bind (edit_keeps_intent fun _ => rfl) fun _ => edit_keeps_intent fun _ => rfl

/-! ### Level and color -/

omit [KvBlobStore K] [Hardware H] in
theorem releases_executes (options : LightHandler K H → UInt8) (withOnOff : Bool)
    (mask override : UInt8) {call : Action K H Unit} (releases : Releases call) :
    Releases (do if ← executes options withOnOff mask override then call else pure ()) :=
  releases_bind (releases_of_keeps (executes_keeps options withOnOff mask override)) fun _ =>
    releases_ite (fun _ => releases) fun _ => releases_pure ()

theorem releases_levelToCurve (raw : UInt8) (withOnOff : Bool) (timeDs : Option UInt16)
    (mask override : UInt8) (linear : Bool) :
    Releases (levelToCurve raw withOnOff timeDs mask override linear : Action K H Unit) := by
  unfold levelToCurve
  split
  · refine releases_executes _ _ _ _ (releases_changed ?_)
    refine keeps_bind (operate_keeps_intent _ _) fun _ => keeps_bind (keeps_read id) fun h => ?_
    refine keeps_bind (edit_keeps_intent fun _ => rfl) fun _ => ?_
    have lights : Keeps (if withOnOff && Level.MIN.get < raw.toNat then
        edit fun h => { h with globalScene := true } else pure ())
        fun t : LightHandler K H => t.sceneIntent = none :=
      keeps_ite (fun _ => edit_keeps_intent fun _ => rfl) fun _ => keeps_pure ()
    refine keeps_ite (fun _ => ?_) fun _ => lights
    refine keeps_bind (operate_keeps_intent _ _) fun _ => ?_
    exact keeps_bind (edit_keeps_intent fun _ => rfl) fun _ => lights
  · exact releases_fail _

theorem releases_levelMove (mode : LevelMode) (rate : Option UInt8) (withOnOff : Bool)
    (mask override : UInt8) :
    Releases (levelMove mode rate withOnOff mask override : Action K H Unit) := by
  refine releases_executes _ _ _ _ (releases_ite (fun _ => releases_fail _) fun _ => ?_)
  exact releases_bind releases_acknowledged fun state => releases_levelToCurve _ _ _ _ _ _

theorem releases_levelStep (mode : LevelMode) (step : UInt8) (timeDs : Option UInt16)
    (withOnOff : Bool) (mask override : UInt8) :
    Releases (levelStep mode step timeDs withOnOff mask override : Action K H Unit) := by
  refine releases_executes _ _ _ _ ?_
  exact releases_bind releases_acknowledged fun state => releases_levelToCurve _ _ _ _ _ _

theorem releases_stopLevel (withOnOff : Bool) (mask override : UInt8) :
    Releases (stopLevel withOnOff mask override : Action K H Unit) := by
  refine releases_bind (releases_read id) fun h => releases_bind ?_ fun executed => ?_
  · exact releases_ite (fun _ => releases_pure true) fun _ =>
      releases_of_keeps (executes_keeps levelOptions withOnOff mask override)
  · refine releases_ite (fun _ => releases_changed ?_) fun _ => releases_pure ()
    refine keeps_bind (operate_keeps_intent _ _) fun _ => keeps_bind (keeps_read id) fun h => ?_
    refine keeps_bind (edit_keeps_intent fun _ => rfl) fun _ => ?_
    exact keeps_ite (fun _ => operate_keeps_intent _ _) fun _ => keeps_pure ()

/-- The color commands that execute end the coupling and make one call. -/
theorem releases_recolor (operation : Operation) :
    Releases (do
      edit changed
      edit fun h => { h with coupledTemperature := false }
      operate operation : Action K H Unit) :=
  releases_changed <| keeps_bind (edit_keeps_intent fun _ => rfl) fun _ => operate_keeps_intent _ _

theorem releases_colorTo (mireds timeDs : UInt16) (mask override : UInt8) :
    Releases (colorTo mireds timeDs mask override : Action K H Unit) :=
  releases_ite (fun _ => releases_fail _) fun _ => releases_executes _ _ _ _ (releases_recolor _)

theorem releases_stopColor (mask override : UInt8) :
    Releases (stopColor mask override : Action K H Unit) :=
  releases_executes _ _ _ _ (releases_recolor _)

theorem releases_colorMoveTo (up : Bool) (rate : UInt16) (bounds : UInt16 × UInt16)
    (mask override : UInt8) :
    Releases (colorMoveTo up rate bounds mask override : Action K H Unit) := by
  refine releases_ite (fun _ => releases_fail _) fun _ => releases_executes _ _ _ _ ?_
  refine releases_bind (releases_ofExcept _) fun range => ?_
  exact releases_bind releases_acknowledged fun state => releases_recolor _

theorem releases_colorMove (mode : ColorMode) (rate : UInt16) (bounds : UInt16 × UInt16)
    (mask override : UInt8) :
    Releases (colorMove mode rate bounds mask override : Action K H Unit) := by
  cases mode with
  | stop => exact releases_stopColor mask override
  | up => exact releases_colorMoveTo true rate bounds mask override
  | down => exact releases_colorMoveTo false rate bounds mask override

theorem releases_colorStep (mode : LevelMode) (step timeDs : UInt16) (bounds : UInt16 × UInt16)
    (mask override : UInt8) :
    Releases (colorStep mode step timeDs bounds mask override : Action K H Unit) := by
  refine releases_executes _ _ _ _ (releases_bind (releases_ofExcept _) fun range => ?_)
  exact releases_bind releases_acknowledged fun state => releases_colorTo _ timeDs mask override

/-! ### Scenes -/

omit [KvBlobStore K] [Hardware H] in
theorem releases_beginScene : Releases (beginScene : Action K H Unit) := by
  refine releases_bind (releases_read id) fun h => releases_ite (fun _ => releases_fail _) fun _ => ?_
  exact releases_bind releases_reported fun state => releases_edit (fun _ => rfl) fun _ => rfl

omit [KvBlobStore K] [Hardware H] in
theorem releases_stageScene (cluster : UInt32) (avps : List (Except ErrorCode AttributeValuePair))
    (durationMs : Nat) : Releases (stageScene cluster avps durationMs : Action K H Unit) := by
  refine releases_bind (releases_read id) fun h => ?_
  cases h.sceneDraft with
  | none => exact releases_fail _
  | some draft =>
      refine releases_ite (fun _ => releases_fail _) fun _ => releases_bind (releases_ofExcept _) fun staged => ?_
      exact releases_edit (fun _ => rfl) fun _ => rfl

omit [KvBlobStore K] [Hardware H] in
theorem releases_abortScene : Releases (abortScene : Action K H Unit) :=
  releases_bind (releases_edit (fun _ => rfl) fun _ => rfl) fun _ => releases_changed (keeps_pure ())

/-- A held scene is reported, or it is held and reported as before. -/
def Holds (h t : LightHandler K H) : Prop :=
  ∀ scene, t.sceneIntent = some scene → t.runtime.reported = .ok scene ∨
    h.sceneIntent = some scene ∧ t.runtime.reported = h.runtime.reported

omit [KvBlobStore K] [Hardware H] in
theorem Releases.holds {call : Action K H Unit} (releases : Releases call) (h : LightHandler K H) :
    Ends call h fun _ t => Holds h t := by
  refine (releases h).mono fun _ t released scene held => ?_
  rcases released with dropped | ⟨intent, runtime⟩
  · rw [dropped] at held
    cases held
  · exact .inr ⟨intent.symm.trans held, by rw [runtime]⟩

/-- A scene that is finished is held only if it is reported. -/
theorem finishScene_holds (h : LightHandler K H) : Ends finishScene h fun _ t => Holds h t := by
  simp only [finishScene, edit, ends_bind, ends_read, ends_update, id_eq]
  cases h.sceneDraft with
  | none => exact fun scene held => .inr ⟨held, rfl⟩
  | some draft =>
      simp only [ends_bind, ends_update, ends_attempt]
      refine ends_operate_outcome ?_
      dsimp only
      cases answer : (h.runtime.outcome (.recallScene draft.target draft.durationMs)).map fun _ => () with
      | error code =>
          simp only [ends_bind, ends_update, ends_fail]
          intro scene held
          cases held
      | ok _ =>
          simp only [ends_bind, ends_update]
          intro scene held
          cases held
          exact .inl (Runtime.outcome_recallScene answer)

theorem startup_holds (operation : Operation) (asked : operation.IsStartup) (h : LightHandler K H) :
    Ends (operate operation) h fun _ t => Holds h t :=
  ends_operate fun _ _ held => .inr ⟨held, Runtime.after_startup_reported h.runtime asked⟩

theorem after_direct (h : LightHandler K H) (operation : Operation) :
    h.after (.direct operation) = h.operated operation := by
  change Ends (operate operation) h fun _ t => t = h.operated operation
  exact ends_operate fun _ => rfl

/-- Only a call of the runtime beside the handler replaces a scene that stays held. -/
theorem after_holds (h : LightHandler K H) {command : Command}
    (handled : ∀ operation, command ≠ .direct operation) : Holds h (h.after command) := by
  change Ends (perform command) h fun _ t => Holds h t
  cases command with
  | on => exact (releases_power true).holds h
  | off => exact (releases_power false).holds h
  | toggle => exact releases_toggle.holds h
  | offWithEffect identifier variant => exact (releases_handleOffWithEffect identifier variant).holds h
  | onWithRecallGlobalScene => exact releases_recallGlobalScene.holds h
  | onWithTimedOff acceptOnlyOn onTime offWait =>
      exact (releases_timedOn acceptOnlyOn onTime offWait).holds h
  | moveToLevel raw withOnOff timeDs mask override =>
      exact (releases_levelToCurve raw withOnOff timeDs mask override false).holds h
  | moveLevel mode rate withOnOff mask override =>
      exact (releases_levelMove mode rate withOnOff mask override).holds h
  | stepLevel mode step timeDs withOnOff mask override =>
      exact (releases_levelStep mode step timeDs withOnOff mask override).holds h
  | stopLevel withOnOff mask override => exact (releases_stopLevel withOnOff mask override).holds h
  | moveToColorTemperature mireds timeDs mask override =>
      exact (releases_colorTo mireds timeDs mask override).holds h
  | moveColorTemperature mode rate bounds mask override =>
      exact (releases_colorMove mode rate bounds mask override).holds h
  | stepColorTemperature mode step timeDs bounds mask override =>
      exact (releases_colorStep mode step timeDs bounds mask override).holds h
  | stopMoveStep mask override => exact (releases_stopColor mask override).holds h
  | beginScene => exact releases_beginScene.holds h
  | stageScene cluster avps durationMs => exact (releases_stageScene cluster avps durationMs).holds h
  | finishScene => exact finishScene_holds h
  | abortScene => exact releases_abortScene.holds h
  | setStartUpOnOff value => exact startup_holds (.setStartup value) trivial h
  | setOnTime value => exact (releases_edit (fun _ => rfl) fun _ => rfl).holds h
  | setOffWaitTime value => exact (releases_edit (fun _ => rfl) fun _ => rfl).holds h
  | setLevelOptions value =>
      refine Releases.holds (releases_ite (fun _ => releases_fail _) fun _ => ?_) h
      exact releases_edit (fun _ => rfl) fun _ => rfl
  | setOnLevel value =>
      refine Releases.holds (releases_ite (fun _ => releases_fail _) fun _ => ?_) h
      exact releases_edit (fun _ => rfl) fun _ => rfl
  | setStartUpCurrentLevel value => exact startup_holds (.setStartupLevel value) trivial h
  | setColorOptions value =>
      refine Releases.holds (releases_ite (fun _ => releases_fail _) fun _ => ?_) h
      exact releases_edit (fun _ => rfl) fun _ => rfl
  | setStartUpColorTemperatureMireds value =>
      refine (ends_ite _ _ _ _ _).mpr ⟨fun _ scene held => .inr ⟨held, rfl⟩, fun _ => ?_⟩
      exact startup_holds (.setStartupTemperature _) trivial h
  | tick deciseconds => exact (releases_tick deciseconds).holds h
  | direct operation => exact absurd rfl (handled operation)

/-! ### Runs -/

omit [KvBlobStore K] [Hardware H] in
theorem reports_iff {r : Runtime K H} {scene : LightState} :
    r.reported.toOption = some scene ↔ r.reported = .ok scene := by
  cases r.reported with
  | ok target => simp [Except.toOption]
  | error code => simp [Except.toOption]

/-- A held scene is the one that is reported. -/
def Current (h : LightHandler K H) : Prop :=
  ∀ scene, h.sceneIntent = some scene → h.runtime.reported = .ok scene

instance Current.decidable (h : LightHandler K H) : Decidable h.Current :=
  decidable_of_iff (∀ scene ∈ h.sceneIntent, h.runtime.reported.toOption = some scene)
    (forall₂_congr fun _ _ => reports_iff)

end LightHandler

namespace Reporting

open LightHandler (reports_iff)

variable {K H : Type} [KvBlobStore K] [Hardware H]

/-- The step starts the On/Off loop. -/
def Step.starts : Step → Bool
  | .start index => index = ON_OFF
  | _ => false

/-- The call of the runtime beside the handler. -/
def Step.bypass : Step → Option Operation
  | .command (.direct operation) => some operation
  | _ => none

theorem Step.eq_of_starts {step : Step} (starts : step.starts) : step = .start ON_OFF := by
  cases step with
  | start index => exact congrArg Step.start (of_decide_eq_true starts)
  | _ => cases starts

theorem Step.eq_of_bypass {step : Step} {operation : Operation} (bypass : step.bypass = some operation) :
    step = .command (.direct operation) := by
  cases step with
  | command command =>
      cases command with
      | direct other => exact congrArg (fun operation => Step.command (.direct operation)) (Option.some_inj.mp bypass)
      | _ => cases bypass
  | _ => cases bypass

/-- The step hides from the On/Off loop that a held scene is not reported: the loop starts
with what is reported instead, or a call of the runtime beside the handler brings back
what the loop saw last. -/
def Overlooks (s : Reporting K H) (step : Step) : Prop :=
  (step.starts ∧ ∃ scene ∈ s.light.sceneIntent, s.light.runtime.reported.toOption ≠ some scene) ∨
    ∃ operation ∈ step.bypass, ∃ scene ∈ s.light.sceneIntent, ∃ report ∈ s.previous ON_OFF,
      (s.light.runtime.after operation).reported.toOption = report.output ∧ report.output ≠ some scene

instance Overlooks.decidable (s : Reporting K H) (step : Step) : Decidable (s.Overlooks step) :=
  inferInstanceAs (Decidable (_ ∨ ∃ _ ∈ _, _))

/-- A held scene is reported, or the running On/Off loop compares with another report. -/
def Watches (s : Reporting K H) : Prop :=
  ∀ scene, s.light.sceneIntent = some scene → s.light.runtime.reported = .ok scene ∨
    ∀ report, s.previous ON_OFF = some report → s.light.runtime.reported.toOption ≠ report.output

/-- A running On/Off loop keeps a held scene that it sees reported, and one over which it sees
no change. -/
theorem after_poll (s : Reporting K H) (ctx : AttrChangeNotifier) {report : ReportState}
    (captured : s.previous ON_OFF = some report) :
    (s.after ctx (.poll ON_OFF)).light.runtime = s.light.runtime ∧
      ∀ scene, (s.after ctx (.poll ON_OFF)).light.sceneIntent = some scene ↔
        s.light.sceneIntent = some scene ∧
          (s.light.runtime.reported = .ok scene ∨ s.light.runtime.reported.toOption = report.output) := by
  have polled : (s.after ctx (.poll ON_OFF)).light = (s.light.pollReport ctx ON_OFF report).1 := by
    simp [after, captured]
  rw [polled]
  refine ⟨s.light.pollReport_runtime ctx report ON_OFF, fun scene => ?_⟩
  rw [LightHandler.pollReport_sceneIntent]
  cases held : s.light.sceneIntent with
  | none => simp
  | some expected =>
      by_cases same : s.light.runtime.reported.toOption = report.output
      · simp [same]
      · by_cases shown : s.light.runtime.reported.toOption = some expected
        · rw [if_neg (by simp [shown])]
          constructor
          · rintro ⟨⟩
            exact ⟨rfl, .inl (reports_iff.mp shown)⟩
          · exact And.left
        · rw [if_pos ⟨same, by simpa using shown⟩]
          constructor
          · intro wrong
            cases wrong
          · rintro ⟨⟨⟩, reported | unseen⟩
            · exact absurd (reports_iff.mpr reported) shown
            · exact absurd unseen same

/-- A poll of a loop that watches ends with a scene that is current. -/
theorem Watches.poll {s : Reporting K H} (watches : s.Watches) (ctx : AttrChangeNotifier)
    (running : s.previous ON_OFF ≠ none) : (s.after ctx (.poll ON_OFF)).light.Current := by
  intro scene held
  obtain ⟨report, captured⟩ := Option.ne_none_iff_exists'.mp running
  obtain ⟨runtime, keeps⟩ := s.after_poll ctx captured
  rw [runtime]
  obtain ⟨before, reported | unseen⟩ := (keeps scene).mp held
  · exact reported
  · rcases watches scene before with reported | differs
    · exact reported
    · exact absurd unseen (differs report captured)

/-- A poll that compares a replaced scene's report with itself keeps the scene. -/
theorem not_current_of_blind {s : Reporting K H} (ctx : AttrChangeNotifier) {report : ReportState}
    {scene : LightState} (held : s.light.sceneIntent = some scene) (captured : s.previous ON_OFF = some report)
    (blind : s.light.runtime.reported.toOption = report.output) (replaced : report.output ≠ some scene) :
    ¬(s.after ctx (.poll ON_OFF)).light.Current := by
  intro current
  obtain ⟨runtime, keeps⟩ := s.after_poll ctx captured
  have reported := current scene ((keeps scene).mpr ⟨held, .inr blind⟩)
  rw [runtime] at reported
  rw [← blind] at replaced
  exact replaced (reports_iff.mpr reported)

omit [KvBlobStore K] [Hardware H] in
theorem Watches.keep {s t : Reporting K H} (watches : s.Watches)
    (intent : t.light.sceneIntent = s.light.sceneIntent)
    (reported : t.light.runtime.reported = s.light.runtime.reported)
    (previous : t.previous ON_OFF = s.previous ON_OFF) : t.Watches := by
  intro scene held
  rw [intent] at held
  rw [reported, previous]
  exact watches scene held

/-- A starting On/Off loop captures what is reported, whatever is held. -/
theorem Watches.start {s : Reporting K H} (watches : s.Watches) (ctx : AttrChangeNotifier) {index : Fin 3}
    (seen : ¬s.Overlooks (.start index)) : (s.after ctx (.start index)).Watches := by
  by_cases power : index = ON_OFF
  · subst power
    intro scene held
    refine .inl (by_contra fun replaced => seen (.inl ⟨rfl, scene, held, fun shown => ?_⟩))
    exact replaced (reports_iff.mp shown)
  · exact watches.keep rfl rfl (Function.update_of_ne (Ne.symm power) _ _)

theorem Watches.stop {s : Reporting K H} (watches : s.Watches) (ctx : AttrChangeNotifier) (index : Fin 3) :
    (s.after ctx (.stop index)).Watches := by
  by_cases power : index = ON_OFF
  · subst power
    refine fun scene held => .inr fun report captured => ?_
    simp [Reporting.after] at captured
  · exact watches.keep rfl rfl (Function.update_of_ne (Ne.symm power) _ _)

theorem Watches.polled {s : Reporting K H} (watches : s.Watches) (ctx : AttrChangeNotifier) (index : Fin 3) :
    (s.after ctx (.poll index)).Watches := by
  cases captured : s.previous index with
  | none =>
      have idle : s.after ctx (.poll index) = s := by simp [Reporting.after, captured]
      rw [idle]
      exact watches
  | some report =>
      by_cases power : index = ON_OFF
      · subst power
        have running : s.previous ON_OFF ≠ none := by simp [captured]
        exact fun scene held => .inl (watches.poll ctx running scene held)
      · have light : (s.after ctx (.poll index)).light = (s.light.pollReport ctx index report).1 := by
          simp [Reporting.after, captured]
        refine watches.keep ?_ ?_ ?_
        · rw [light, LightHandler.pollReport_sceneIntent_of_ne _ _ _ power]
        · rw [light, LightHandler.pollReport_runtime]
        · simp [Reporting.after, captured, Ne.symm power]

/-- A call beside the handler leaves the held scene alone. -/
theorem Watches.direct {s : Reporting K H} (ctx : AttrChangeNotifier) {operation : Operation}
    (seen : ¬s.Overlooks (.command (.direct operation))) :
    (s.after ctx (.command (.direct operation))).Watches := by
  intro scene held
  have operated : (s.after ctx (.command (.direct operation))).light = s.light.operated operation :=
    s.light.after_direct operation
  rw [operated] at held ⊢
  refine or_iff_not_imp_right.mpr fun blind => ?_
  push Not at blind
  obtain ⟨report, captured, same⟩ := blind
  refine by_contra fun replaced =>
    seen (.inr ⟨operation, rfl, scene, held, report, captured, same, fun shown => ?_⟩)
  exact replaced (reports_iff.mp (same.trans shown))

/-- A command of the handler drops the held scene unless it reports it. -/
theorem Watches.handled {s : Reporting K H} (watches : s.Watches) (ctx : AttrChangeNotifier)
    {command : LightHandler.Command} (handled : ∀ operation, command ≠ .direct operation) :
    (s.after ctx (.command command)).Watches := by
  intro scene held
  rcases s.light.after_holds handled scene held with reported | ⟨before, same⟩
  · exact .inl reported
  · change (s.light.after command).runtime.reported = _ ∨ ∀ report, s.previous ON_OFF = some report →
      (s.light.after command).runtime.reported.toOption ≠ report.output
    rw [same]
    exact watches scene before

/-- What is not overlooked is watched. -/
theorem Watches.after {s : Reporting K H} (watches : s.Watches) (ctx : AttrChangeNotifier)
    {step : Step} (seen : ¬s.Overlooks step) : (s.after ctx step).Watches := by
  cases step with
  | storeScene answer =>
      intro scene held
      cases answer with
      | ok _ => cases held
      | error code => exact watches scene held
  | start index => exact watches.start ctx seen
  | stop index => exact watches.stop ctx index
  | poll index => exact watches.polled ctx index
  | command command =>
      by_cases direct : ∃ operation, command = .direct operation
      · obtain ⟨operation, rfl⟩ := direct
        exact .direct ctx seen
      · exact watches.handled ctx fun operation same => direct ⟨operation, same⟩

/-- In every run that overlooks nothing, each poll of the On/Off loop ends with a held scene
that is reported. After any step that overlooks a replaced scene, the next poll keeps it
held. -/
theorem run_heldScene (kv : K) (hardware : H) (datavers : Vector UInt32 3) (ctx : AttrChangeNotifier)
    (steps : List Step) :
    let boot := new (LightHandler.new (Runtime.load kv hardware) datavers)
    let s := run ctx boot steps
    (Along (after ctx) (fun s step => ¬s.Overlooks step) boot steps → s.previous ON_OFF ≠ none →
      (s.after ctx (.poll ON_OFF)).light.Current) ∧
    ∀ step, s.Overlooks step → ¬((s.after ctx step).after ctx (.poll ON_OFF)).light.Current := by
  intro boot s
  constructor
  · intro seen running
    have booted : boot.Watches := fun scene held => nomatch held
    have watches : s.Watches :=
      seen.invariant (fun _ step noticed watches => Watches.after watches ctx noticed) booted
    exact watches.poll ctx running
  · rintro step (⟨starts, scene, held, replaced⟩ | ⟨operation, bypass, scene, held, report, captured, blind, replaced⟩)
    · cases Step.eq_of_starts starts
      have captured : (s.after ctx (.start ON_OFF)).previous ON_OFF = some (s.light.reportState ON_OFF) := by
        simp [after]
      exact not_current_of_blind ctx held captured rfl replaced
    · cases Step.eq_of_bypass bypass
      have operated : (s.after ctx (.command (.direct operation))).light =
          s.light.operated operation := s.light.after_direct operation
      refine not_current_of_blind ctx (by rw [operated]; exact held) captured ?_ replaced
      rw [operated]
      exact blind

/-- On a lamp that is up, its loop starts and a scene is recalled that lists On. -/
def recalls : List Step :=
  [.command (.direct (.tick 0)), .start ON_OFF, .command .beginScene,
    .command (.stageScene 6 [.ok ⟨.ok 0, .ok (some 1), .error .invalidCommand⟩] 0), .command .finishScene]

/-- A recalled scene is held and reported when its loop polls. -/
theorem run_heldScene_recalled :
    let boot := new (LightHandler.new (Runtime.load (default : MemoryStore) (default : SimulatedOutput))
      #v[0, 0, 0])
    let s := run .interactionModel boot recalls
    s.light.sceneIntent ≠ none ∧ (s.after .interactionModel (.poll ON_OFF)).light.Current := by
  intro boot s
  refine ⟨by decide +kernel, ?_⟩
  have seen : Along (after .interactionModel) (fun s step => ¬s.Overlooks step) boot recalls := by
    decide +kernel
  exact (run_heldScene default default #v[0, 0, 0] .interactionModel recalls).1 seen (by decide +kernel)

/-- An On scene that the console ends before the next poll stays held over an Off light. -/
theorem heldScene_overlooked :
    ¬∀ (kv : MemoryStore) (hardware : SimulatedOutput) (datavers : Vector UInt32 3)
        (ctx : AttrChangeNotifier) (steps : List Step),
      let s := run ctx (new (LightHandler.new (Runtime.load kv hardware) datavers)) steps
      s.previous ON_OFF ≠ none → (s.after ctx (.poll ON_OFF)).light.Current := by
  intro claimed
  let boot := new (LightHandler.new (Runtime.load (default : MemoryStore) (default : SimulatedOutput))
    #v[0, 0, 0])
  have replaced : ¬((run .interactionModel boot (recalls ++ [.command (.direct (.setPower false))])).after
      .interactionModel (.poll ON_OFF)).light.Current := by
    decide +kernel
  refine replaced (claimed default default #v[0, 0, 0] .interactionModel _ ?_)
  decide +kernel

end Reporting

end KeyRight.App
