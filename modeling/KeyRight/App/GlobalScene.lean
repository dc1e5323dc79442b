import KeyRight.App.Quietly
import KeyRight.App.Intent

/-!
Owns the global scene: which runs keep, from an accepted Off effect to the next recall,
exactly what was reported at the effect.

Does not own scenes with extension field sets, or what a recall shows.
-/

namespace KeyRight.App

open KeyRight.Core KeyRight.Support

variable {K H : Type}

/-! ### The power that an operation leaves -/

namespace Runtime

variable [KvBlobStore K] {r : Runtime K H} {operation : Operation}

theorem nextTarget_of_asks {plan : Plan} (writable : r.Writable) (asks : operation.Asks r plan) :
    r.nextTarget operation = plan.target := by
  obtain ⟨planner, planning, answer⟩ := asks
  rw [nextTarget_eq (Operation.not_tick_of_plan planning) (Operation.ne_off_of_plan planning)]
  exact plannedTarget_of_asks writable ⟨planner, planning, answer⟩

/-- A setting keeps the power that is intended. -/
theorem nextTarget_on_of_unlit (unlit : operation.Unlit) (untimed : ¬operation.IsTick)
    (other : operation ≠ .off) : (r.nextTarget operation).on = r.state.target.on := by
  rw [nextTarget_eq untimed other]
  rcases plannedTarget_cases r operation with same | ⟨plan, _, asks, planned⟩
  · rw [same]
  · rw [planned]
    exact (unlit.plan asks.asked).1

theorem nextTarget_on_of_stopTemperature :
    (r.nextTarget .stopTemperatureTransition).on = r.state.target.on := by
  rw [show r.nextTarget .stopTemperatureTransition = r.plannedTarget .stopTemperatureTransition from rfl]
  rcases plannedTarget_cases r .stopTemperatureTransition with same | ⟨plan, _, asks, planned⟩
  · rw [same]
  · obtain ⟨planner, planning, answer⟩ := asks
    cases planning
    obtain ⟨_, _, _, _, rfl⟩ := State.stopTemperaturePlan_cases answer
    rw [planned]

theorem nextTarget_on_of_tick (readable : r.state.loadFault = none) (now : Nat) :
    r.nextTarget (.tick now) = r.state.target := by
  have kept : ¬r.Reloads now := by
    intro reloads
    have pending := reloads.2.2
    rw [readable] at pending
    cases pending
  rw [nextTarget, if_neg kept]

/-- A Stop of a level fade that stores On. -/
structure StopsBright (r : Runtime K H) (frame : OutputFrame) : Prop where
  active : r.state.levelTransition ≠ none
  known : r.state.controller.appliedFrame = some frame
  bright : OutputBrightness.DENOMINATOR / 2 < frame.brightness.get

/-- A Stop keeps the power, stores Off, or stores On from a bright frame. -/
theorem nextTarget_on_of_stopLevel :
    (r.nextTarget .stopLevelTransition).on = r.state.target.on ∨
      (r.nextTarget .stopLevelTransition).on = false ∨ ∃ frame, r.StopsBright frame := by
  rw [show r.nextTarget .stopLevelTransition = r.plannedTarget .stopLevelTransition from rfl]
  rcases plannedTarget_cases r .stopLevelTransition with same | ⟨plan, _, asks, planned⟩
  · exact .inl (by rw [same])
  · obtain ⟨planner, planning, answer⟩ := asks
    cases planning
    obtain ⟨track, frame, active, known, rfl⟩ := State.stopLevelPlan_cases answer
    rw [planned]
    by_cases bright : OutputBrightness.DENOMINATOR / 2 < frame.brightness.get
    · exact .inr (.inr ⟨frame, by simp [active], known, bright⟩)
    · exact .inr (.inl (decide_eq_false bright))

end Runtime

namespace LightHandler

open Program

/-! ### A capture -/

variable [KvBlobStore K] [Hardware H]

/-- The light is healthy, and `OnLevel` is a level. -/
structure Ready (h : LightHandler K H) : Prop where
  reachable : h.runtime.Reachable
  known : h.runtime.state.controller.appliedFrame ≠ none
  onLevel : h.onLevel ≠ some 255

/-- The flag is clear and this was captured; the light has this power. -/
structure Captured (scene : Option LightState) (on : Bool) (h : LightHandler K H) : Prop
    extends Ready h where
  clear : h.globalScene = false
  kept : h.globalSceneState = scene
  power : h.runtime.state.target.on = on

/-- The flag is set and the light is intended On. -/
structure Flagged (h : LightHandler K H) : Prop where
  flag : h.globalScene = true
  power : h.runtime.state.target.on = true

variable {scene : Option LightState} {on next : Bool} {h t : LightHandler K H}

theorem Ready.settled (ready : Ready h) : Settled h.runtime.state :=
  ready.reachable.settled ready.known

theorem Ready.reports (ready : Ready h) : h.runtime.reported = .ok h.runtime.state.target :=
  Runtime.reported_eq_ok.mpr ⟨ready.settled.healthy.1, ready.known, rfl⟩

theorem Ready.edited (ready : Ready h) (runtime : t.runtime = h.runtime)
    (onLevel : t.onLevel = h.onLevel) : Ready t := by
  refine ⟨?_, ?_, ?_⟩
  · rw [runtime]
    exact ready.reachable
  · rw [runtime]
    exact ready.known
  · rw [onLevel]
    exact ready.onLevel

theorem Ready.operated (ready : Ready h) {operation : Operation} (stays : operation.Stays)
    (quiet : h.runtime.Quiet operation) : Ready (h.operated operation) :=
  ⟨ready.reachable.after operation, Runtime.known_after ready.reachable ready.known stays quiet,
    ready.onLevel⟩

theorem Captured.edited (captured : Captured scene on h) (runtime : t.runtime = h.runtime)
    (clear : t.globalScene = h.globalScene) (kept : t.globalSceneState = h.globalSceneState)
    (onLevel : t.onLevel = h.onLevel) : Captured scene on t := by
  refine ⟨captured.toReady.edited runtime onLevel, clear.trans captured.clear,
    kept.trans captured.kept, ?_⟩
  rw [runtime]
  exact captured.power

/-- A quiet call keeps the capture, with the power that it leaves. -/
theorem Captured.operated (captured : Captured scene on h) {operation : Operation}
    (stays : operation.Stays) (quiet : h.runtime.Quiet operation)
    (power : (h.runtime.nextTarget operation).on = next) : Captured scene next (h.operated operation) := by
  refine ⟨captured.toReady.operated stays quiet, captured.clear, captured.kept, ?_⟩
  change (h.runtime.after operation).state.target.on = next
  rw [Runtime.after_target]
  exact power

/-! ### On and Off -/

variable {past : List (Event K H)}

theorem nextTarget_on_of_setPower (ready : Ready h) (power : Bool) :
    (h.runtime.nextTarget (.setPower power)).on = power := by
  have asks : (Operation.setPower power).Asks h.runtime
      (State.setPowerPlan power h.runtime.state h.runtime.now) := ⟨_, rfl, rfl⟩
  rw [Runtime.nextTarget_of_asks (ready.reachable.writable ready.known) asks,
    State.setPowerPlan_target]

theorem ends_powerOff (captured : Captured scene on h) (grown : h.Grown past) :
    Ends (power false) h (Unless past fun _ t => Captured scene false t) := by
  simp only [power, edit, ends_bind, ends_update, Bool.false_eq_true, if_false]
  refine ends_quietly grown fun quiet => ?_
  have dark : Captured scene on h.changed.darkened.dataverChanged := captured.edited rfl rfl rfl rfl
  exact dark.operated trivial quiet (nextTarget_on_of_setPower dark.toReady false)

theorem switchOn_grows (older : List (Event K H)) :
    Keeps (do edit dataverChanged; operate (.setPower true)) (Grown (K := K) (H := H) older) :=
  keeps_bind ((follows_grown older).edit fun _ => ⟨rfl, rfl, id, id⟩) fun _ =>
    (follows_grown older).operate _

theorem ends_switchOn (ready : Ready h) (flag : h.globalScene = true) (grown : h.Grown past) :
    Ends (do edit dataverChanged; operate (.setPower true)) h (Unless past fun _ t => Flagged t) := by
  rw [ends_bind, edit, ends_update]
  refine ends_quietly grown fun _ => ⟨flag, ?_⟩
  change (h.runtime.after (.setPower true)).state.target.on = true
  rw [Runtime.after_target, nextTarget_on_of_setPower ready]

theorem ends_powerOn (ready : Ready h) (grown : h.Grown past) :
    Ends (power true) h (Unless past fun _ t => Flagged t) := by
  simp only [power, edit, ends_bind, ends_update, if_true, ends_read, id_eq]
  have powered : Ready h.changed.powered := ready.edited rfl rfl
  cases start : h.changed.powered.startLevel with
  | none => exact ends_switchOn powered rfl grown
  | some level =>
      have valid : level ≠ 255 := by
        rintro rfl
        exact ready.onLevel (Option.filter_eq_some_iff.mp start).1
      refine ends_asked_bind powered.settled
        (rampLevel_asks _ false level valid true (Nat.zero_le _)) grown switchOn_grows fun quiet _ => ?_
      exact ends_switchOn (powered.operated trivial quiet) rfl
        (grown.trans (Runtime.trace_suffix _ _))

/-- The capture of a dark light is kept, or the light was lit and the flag set. -/
def Guards (scene : Option LightState) (t : LightHandler K H) : Prop :=
  Captured scene false t ∨ Flagged t

/-- A command that executes or does nothing. -/
theorem ends_executed (captured : Captured scene false h) {options : LightHandler K H → UInt8}
    {withOnOff : Bool} {mask override : UInt8} {call : Action K H Unit}
    (ends : Ends call h (Unless past fun _ t => Guards scene t)) :
    Ends (do if ← executes options withOnOff mask override then call else pure ()) h
      (Unless past fun _ t => Guards scene t) :=
  ends_executes (fun _ _ _ => .inl captured) fun _ => ends

/-! ### Level -/

omit [KvBlobStore K] [Hardware H] in
theorem levelPlan_on (level : UInt8) (valid : level ≠ 255) (withOnOff : Bool) (durationMs : Nat)
    (curve : Curve) (s : State H) (now : Nat) :
    (State.levelTransitionPlan level valid withOnOff durationMs curve s now).target.on =
      if withOnOff then decide (Level.MIN.get < level.toNat) else s.target.on := by
  rw [State.levelTransitionPlan_target]
  cases withOnOff with
  | false => rfl
  | true => rfl

omit [KvBlobStore K] [Hardware H] in
theorem rampTemperature_unlit (linear : Bool) (temperature : ColorTemperature) (durationMs : Nat) :
    let operation := rampTemperature linear temperature durationMs
    operation.Unlit ∧ ¬operation.IsTick ∧ operation ≠ .off ∧ operation.Stays := by
  cases linear with
  | false => exact ⟨trivial, id, nofun, trivial⟩
  | true => exact ⟨trivial, id, nofun, trivial⟩

omit [KvBlobStore K] [Hardware H] in
theorem rampLevel_stays (linear : Bool) (raw : UInt8) (withOnOff : Bool) (durationMs : Nat) :
    (rampLevel linear raw withOnOff durationMs).Stays := by
  cases linear with
  | false => trivial
  | true => trivial

/-- The ramps of a level command keep the capture, or light the light and set the flag. -/
theorem Captured.ramped (captured : Captured scene false h) {raw : UInt8} {valid : raw ≠ 255}
    {withOnOff linear : Bool} {durationMs : Nat} {mask override : UInt8}
    (short : durationMs ≤ MAX_TRANSITION_MS)
    (ramped : Ramped h t raw valid withOnOff durationMs mask override linear) :
    Guards scene t := by
  have lit : (h.runtime.nextTarget (rampLevel linear raw withOnOff durationMs)).on =
      (withOnOff && decide (Level.MIN.get < raw.toNat)) := by
    rw [Runtime.nextTarget_of_asks (captured.reachable.writable captured.known)
      (rampLevel_asks h.runtime linear raw valid withOnOff short), levelPlan_on, captured.power]
    cases withOnOff with
    | false => rfl
    | true => rfl
  have level := captured.operated (rampLevel_stays linear raw withOnOff durationMs) ramped.level lit
  have reached : ∃ g : LightHandler K H, t.runtime = g.runtime ∧ g.globalScene = h.globalScene ∧
      g.globalSceneState = h.globalSceneState ∧ g.onLevel = h.onLevel ∧
      Captured scene (withOnOff && decide (Level.MIN.get < raw.toNat)) g := by
    have runtime := ramped.runtime
    by_cases couples : h.Couples mask override
    · obtain ⟨unlit, untimed, other, stays⟩ :=
        rampTemperature_unlit linear (coupledColor raw valid) durationMs
      have power := Runtime.nextTarget_on_of_unlit
        (r := (h.operated (rampLevel linear raw withOnOff durationMs)).runtime) unlit untimed other
      rw [if_pos couples] at runtime
      exact ⟨(h.operated (rampLevel linear raw withOnOff durationMs)).operated _, runtime, rfl, rfl,
        rfl, level.operated stays (ramped.color couples) (power.trans level.power)⟩
    · rw [if_neg couples] at runtime
      exact ⟨h.operated (rampLevel linear raw withOnOff durationMs), runtime, rfl, rfl, rfl, level⟩
  obtain ⟨g, runtime, clear, kept, onLevel, reached⟩ := reached
  have flag := ramped.flag
  cases on : withOnOff && decide (Level.MIN.get < raw.toNat) with
  | false =>
      rw [on] at reached flag
      refine .inl (reached.edited runtime ?_ (ramped.scene.trans kept.symm)
        (ramped.onLevel.trans onLevel.symm))
      rw [flag, clear]
      rfl
  | true =>
      rw [on] at reached flag
      refine .inr ⟨flag, ?_⟩
      rw [runtime]
      exact reached.power

theorem ends_levelToCurve (captured : Captured scene false h) (raw : UInt8) (withOnOff : Bool)
    (timeDs : Option UInt16) (mask override : UInt8) (linear : Bool) :
    Ends (levelToCurve raw withOnOff timeDs mask override linear) h
      (Unless h.runtime.trace fun _ t => Guards scene t) := by
  refine (ends_ramps captured.toReady.settled raw withOnOff timeDs mask override linear).mono ?_
  intro result t ends silent
  rcases ends silent with ⟨rfl, _⟩ | ⟨valid, _, _, ramped⟩
  · exact .inl captured
  · exact captured.ramped (deciseconds_short _) ramped

theorem ends_levelMove (captured : Captured scene false h) (mode : LevelMode) (rate : Option UInt8)
    (withOnOff : Bool) (mask override : UInt8) :
    Ends (levelMove mode rate withOnOff mask override) h
      (Unless h.runtime.trace fun _ t => Guards scene t) := by
  refine ends_executed captured ?_
  simp only [ends_ite, ends_fail, ends_bind]
  refine ⟨fun _ _ => .inl captured, fun _ => ends_acknowledged ?_⟩
  cases h.runtime.acknowledged with
  | error code => exact fun _ => .inl captured
  | ok state => exact ends_levelToCurve captured _ _ _ _ _ _

theorem ends_levelStep (captured : Captured scene false h) (mode : LevelMode) (step : UInt8)
    (timeDs : Option UInt16) (withOnOff : Bool) (mask override : UInt8) :
    Ends (levelStep mode step timeDs withOnOff mask override) h
      (Unless h.runtime.trace fun _ t => Guards scene t) := by
  refine ends_executed captured ?_
  rw [ends_bind]
  refine ends_acknowledged ?_
  cases h.runtime.acknowledged with
  | error code => exact fun _ => .inl captured
  | ok state => exact ends_levelToCurve captured _ _ _ _ _ _

/-- The Stop executes and freezes a level fade in its bright part. -/
def FreezesBright (h : LightHandler K H) : Command → Prop
  | .stopLevel withOnOff mask override =>
      (h.runtime.levelRemainingMs ≠ 0 ∨ ((executeLevel withOnOff mask override).start h).1 = .ok true) ∧
        ∃ frame, h.runtime.StopsBright frame
  | _ => False

theorem ends_stopLevel (captured : Captured scene false h) (withOnOff : Bool) (mask override : UInt8) :
    Ends (stopLevel withOnOff mask override) h (Unless h.runtime.trace fun _ t =>
      Captured scene false t ∨
        h.FreezesBright (.stopLevel withOnOff mask override) ∧ Captured scene true t) := by
  refine ends_stops (fun _ _ => .inl captured) fun executed => ?_
  have leaves : ∀ t : LightHandler K H,
      Captured scene (h.runtime.nextTarget .stopLevelTransition).on t →
      Captured scene false t ∨
        h.FreezesBright (.stopLevel withOnOff mask override) ∧ Captured scene true t := by
    intro t reached
    cases lit : (h.runtime.nextTarget .stopLevelTransition).on with
    | false =>
        rw [lit] at reached
        exact .inl reached
    | true =>
        rw [lit] at reached
        rcases Runtime.nextTarget_on_of_stopLevel (r := h.runtime) with same | dark | bright
        · rw [lit, captured.power] at same
          cases same
        · rw [lit] at dark
          cases dark
        · exact .inr ⟨⟨executed, bright⟩, reached⟩
  rw [ends_bind, edit, ends_update]
  have changed : Captured scene false h.changed := captured.edited rfl rfl rfl rfl
  refine ends_quietly_bind List.suffix_rfl ?_ fun quiet => ?_
  · intro older
    have follows := follows_grown (K := K) (H := H) older
    refine keeps_bind (keeps_read id) fun _ => ?_
    refine keeps_bind (follows.edit fun _ => ⟨rfl, rfl, id, id⟩) fun _ => ?_
    exact keeps_ite (fun _ => follows.operate _) fun _ => keeps_pure ()
  · have stays : Operation.stopLevelTransition.Stays := trivial
    have stopped := changed.operated stays quiet rfl
    cases (h.changed.runtime.outcome .stopLevelTransition).map fun _ => () with
    | error code => exact leaves _ stopped
    | ok _ =>
        simp only [edit, ends_bind, ends_read, ends_update, id_eq]
        have uncoupled := stopped.edited (t := { h.changed.operated .stopLevelTransition with
          coupledTemperature := false }) rfl rfl rfl rfl
        rw [ends_ite]
        refine ⟨fun _ => ends_quietly (Runtime.trace_suffix _ _) fun quiet => ?_, fun _ _ => ?_⟩
        · refine leaves _ (uncoupled.operated trivial quiet ?_)
          exact Runtime.nextTarget_on_of_stopTemperature.trans uncoupled.power
        · exact leaves _ uncoupled

/-! ### Color and settings -/

/-- The call leaves the intended power, whatever the light. -/
structure KeepsPower (operation : Operation) : Prop where
  stays : operation.Stays
  power : ∀ r : Runtime K H, (r.nextTarget operation).on = r.state.target.on

omit [Hardware H] in
theorem KeepsPower.of_unlit {operation : Operation} (unlit : operation.Unlit)
    (untimed : ¬operation.IsTick) (stays : operation.Stays) :
    KeepsPower (K := K) (H := H) operation := by
  refine ⟨stays, fun r => Runtime.nextTarget_on_of_unlit unlit untimed ?_⟩
  rintro rfl
  exact stays

omit [Hardware H] in
theorem KeepsPower.stopTemperature :
    KeepsPower (K := K) (H := H) .stopTemperatureTransition :=
  ⟨trivial, fun _ => Runtime.nextTarget_on_of_stopTemperature⟩

theorem ends_setting (captured : Captured scene on h) {operation : Operation}
    (keeps : KeepsPower (K := K) (H := H) operation) (grown : h.Grown past) :
    Ends (operate operation) h (Unless past fun _ t => Captured scene on t) := by
  refine ends_quietly grown fun quiet => ?_
  exact captured.operated keeps.stays quiet ((keeps.power h.runtime).trans captured.power)

theorem ends_recolor (captured : Captured scene on h) {operation : Operation}
    (keeps : KeepsPower (K := K) (H := H) operation) :
    Ends (do
      edit changed
      edit fun h => { h with coupledTemperature := false }
      operate operation) h (Unless h.runtime.trace fun _ t => Captured scene on t) := by
  simp only [edit, ends_bind, ends_update]
  refine ends_setting ?_ keeps List.suffix_rfl
  exact captured.edited rfl rfl rfl rfl

theorem ends_guards {call : Action K H Unit}
    (ends : Ends call h (Unless past fun _ t => Captured scene false t)) :
    Ends call h (Unless past fun _ t => Guards scene t) :=
  ends.mono fun _ _ captured silent => .inl (captured silent)

theorem ends_colorTo (captured : Captured scene false h) (mireds timeDs : UInt16) (mask override : UInt8) :
    Ends (colorTo mireds timeDs mask override) h (Unless h.runtime.trace fun _ t => Guards scene t) := by
  rw [colorTo, ends_ite]
  refine ⟨fun _ _ => .inl captured, fun _ => ends_executed captured (ends_guards ?_)⟩
  exact ends_recolor captured (.of_unlit trivial id trivial)

theorem ends_stopColor (captured : Captured scene false h) (mask override : UInt8) :
    Ends (stopColor mask override) h (Unless h.runtime.trace fun _ t => Guards scene t) :=
  ends_executed captured (ends_guards (ends_recolor captured .stopTemperature))

theorem ends_colorMoveTo (captured : Captured scene false h) (up : Bool) (rate : UInt16)
    (bounds : UInt16 × UInt16) (mask override : UInt8) :
    Ends (colorMoveTo up rate bounds mask override) h
      (Unless h.runtime.trace fun _ t => Guards scene t) := by
  rw [colorMoveTo, ends_ite]
  refine ⟨fun _ _ => .inl captured, fun _ => ends_executed captured ?_⟩
  rw [ends_bind, ends_ofExcept]
  cases colorBounds bounds with
  | error code => exact fun _ => .inl captured
  | ok range =>
      simp only [ends_bind]
      refine ends_acknowledged ?_
      cases h.runtime.acknowledged with
      | error code => exact fun _ => .inl captured
      | ok state => exact ends_guards (ends_recolor captured (.of_unlit trivial id trivial))

theorem ends_colorMove (captured : Captured scene false h) (mode : ColorMode) (rate : UInt16)
    (bounds : UInt16 × UInt16) (mask override : UInt8) :
    Ends (colorMove mode rate bounds mask override) h
      (Unless h.runtime.trace fun _ t => Guards scene t) := by
  cases mode with
  | stop => exact ends_stopColor captured mask override
  | up => exact ends_colorMoveTo captured true rate bounds mask override
  | down => exact ends_colorMoveTo captured false rate bounds mask override

theorem ends_colorStep (captured : Captured scene false h) (mode : LevelMode) (step timeDs : UInt16)
    (bounds : UInt16 × UInt16) (mask override : UInt8) :
    Ends (colorStep mode step timeDs bounds mask override) h
      (Unless h.runtime.trace fun _ t => Guards scene t) := by
  refine ends_executed captured ?_
  rw [ends_bind, ends_ofExcept]
  cases colorBounds bounds with
  | error code => exact fun _ => .inl captured
  | ok range =>
      simp only [ends_bind]
      refine ends_acknowledged ?_
      cases h.runtime.acknowledged with
      | error code => exact fun _ => .inl captured
      | ok state => exact ends_colorTo captured _ _ _ _

/-! ### Timers -/

theorem ends_timedOn (captured : Captured scene false h) (acceptOnlyOn : Bool)
    (onTime offWait : UInt16) :
    Ends (timedOn acceptOnlyOn onTime offWait) h
      (Unless h.runtime.trace fun _ t => Guards scene t) := by
  rw [timedOn, ends_ite]
  refine ⟨fun _ _ => .inl captured, fun _ => ?_⟩
  rw [ends_bind]
  refine ends_reported ?_
  rw [captured.toReady.reports]
  simp only [edit, ends_bind, ends_read, ends_update, id_eq, ends_ite, ends_pure, ends_attempt,
    ends_ofExcept]
  refine ⟨fun _ _ => .inl captured, fun _ => ⟨fun _ _ => .inl ?_, fun _ => ?_⟩⟩
  · exact captured.edited rfl rfl rfl rfl
  · have ready : Ready { h with onTime := max h.onTime onTime, offWait := offWait } :=
      captured.toReady.edited rfl rfl
    refine (ends_powerOn ready List.suffix_rfl).mono fun result t flagged silent => ?_
    exact .inr ⟨(flagged silent).flag, (flagged silent).power⟩

theorem ends_tick (captured : Captured scene false h) (deciseconds : UInt16) :
    Ends (tick deciseconds) h (Unless h.runtime.trace fun _ t => Guards scene t) := by
  have dark : h.runtime.snapshot.intended.on = false := captured.power
  simp only [tick, edit, ends_bind, ends_ite, ends_read, ends_update, ends_pure, id_eq, dark]
  refine ⟨fun _ _ => .inl captured, fun _ => ⟨fun on => absurd on (by simp), fun _ _ => .inl ?_⟩⟩
  exact captured.edited rfl rfl rfl rfl

/-! ### Scenes -/

/-- The rest of an effect, after its capture. -/
theorem ends_darken (captured : Captured scene on h) (effect : OffEffect) (grown : h.Grown past) :
    Ends (do
      edit changed
      edit darkened
      edit dataverChanged
      operate (.offWithEffect effect)) h
      (Unless past fun result t => result = .ok () ∧ Captured scene false t) := by
  simp only [edit, ends_bind, ends_update]
  have dark : Captured scene on h.changed.darkened.dataverChanged := captured.edited rfl rfl rfl rfl
  have asks : (Operation.offWithEffect effect).Asks h.runtime
      (State.offWithEffectPlan effect h.runtime.state h.runtime.now) := ⟨_, rfl, rfl⟩
  have stays : (Operation.offWithEffect effect).Stays := trivial
  have writable := captured.reachable.writable captured.known
  refine ends_asked dark.toReady.settled asks grown fun quiet _ => ⟨rfl, dark.operated stays quiet ?_⟩
  exact congrArg LightState.on (Runtime.nextTarget_of_asks writable asks)

/-- A second effect keeps the capture of the first. -/
theorem ends_offWithEffect (captured : Captured scene on h) (effect : OffEffect) :
    Ends (offWithEffect effect) h (Unless h.runtime.trace fun _ t => Captured scene false t) := by
  have saved : Ends saveGlobalScene h fun result t => result = .ok () ∧ t = h := by
    simp only [saveGlobalScene, ends_bind, ends_read, id_eq, captured.clear, Bool.false_eq_true,
      if_false, ends_pure]
    trivial
  rw [offWithEffect, ends_bind]
  refine saved.mono ?_
  rintro result t ⟨rfl, rfl⟩
  refine (ends_darken captured effect List.suffix_rfl).mono fun result t dark silent => ?_
  exact (dark silent).2

/-- With the flag set, an effect is refused or captures what is reported. -/
theorem ends_capture (reachable : h.runtime.Reachable) (onLevel : h.onLevel ≠ some 255)
    (flag : h.globalScene = true) (effect : OffEffect) :
    Ends (offWithEffect effect) h (Unless h.runtime.trace fun result t =>
      (∃ code, result = .error code) ∧ t = h ∨
        ∃ state, h.runtime.reported = .ok state ∧ result = .ok () ∧ Captured (some state) false t) := by
  have saved : Ends saveGlobalScene h fun result t =>
      (∃ code, result = .error code ∧ t = h) ∨
        ∃ state, h.runtime.reported = .ok state ∧ result = .ok () ∧
          t = { h with globalSceneState := some state, globalScene := false } := by
    simp only [saveGlobalScene, ends_bind, ends_read, id_eq, flag, if_true]
    refine ends_reported ?_
    cases h.runtime.reported with
    | error code => exact .inl ⟨code, rfl, rfl⟩
    | ok state => exact .inr ⟨state, rfl, rfl, rfl⟩
  rw [offWithEffect, ends_bind]
  refine saved.mono fun result t saved => ?_
  rcases saved with ⟨code, rfl, rfl⟩ | ⟨state, reports, rfl, rfl⟩
  · exact fun _ => .inl ⟨⟨code, rfl⟩, rfl⟩
  · have captured : Captured (some state) h.runtime.state.target.on
        { h with globalSceneState := some state, globalScene := false } :=
      ⟨⟨reachable, (Runtime.reported_eq_ok.mp reports).2.1, onLevel⟩, rfl, rfl, rfl⟩
    refine (ends_darken captured effect List.suffix_rfl).mono fun result t dark silent => ?_
    obtain ⟨succeeds, dark⟩ := dark silent
    exact .inr ⟨state, reports, succeeds, dark⟩

theorem ends_handleOffWithEffect (captured : Captured scene false h) (identifier : EffectIdentifier)
    (variant : UInt8) :
    Ends (handleOffWithEffect identifier variant) h
      (Unless h.runtime.trace fun _ t => Guards scene t) := by
  unfold handleOffWithEffect
  split
  · exact ends_guards (ends_offWithEffect captured _)
  · exact ends_guards (ends_offWithEffect captured _)
  · exact ends_guards (ends_offWithEffect captured _)
  · exact ends_guards (ends_offWithEffect captured _)
  · exact fun _ => .inl captured

/-- A recall of what was captured makes it the target and sets the flag. -/
theorem ends_recallGlobalScene (captured : Captured scene false h) :
    Ends recallGlobalScene h (Unless h.runtime.trace fun result t =>
      scene = none ∧ Captured scene false t ∨
        result = .ok () ∧ t.globalScene = true ∧
          ∃ state, scene = some state ∧ t.runtime.reported = .ok state) := by
  simp only [recallGlobalScene, ends_bind, ends_read, id_eq, captured.clear, captured.kept,
    Bool.false_eq_true, if_false]
  cases scene with
  | none => exact fun _ => .inl ⟨rfl, captured⟩
  | some state =>
      rw [ends_bind, edit, ends_update]
      have changed : Captured (some state) false h.changed := captured.edited rfl rfl rfl rfl
      have asks : (Operation.request state).Asks h.changed.runtime
          (State.recallScenePlan state 0 h.runtime.state h.runtime.now) := ⟨_, rfl, rfl⟩
      refine ends_asked_bind changed.toReady.settled asks List.suffix_rfl ?_ fun quiet glided => ?_
      · intro older
        have follows := follows_grown (K := K) (H := H) older
        refine keeps_bind (follows.edit fun _ => ⟨rfl, rfl, fun _ => rfl, id⟩) fun _ => ?_
        exact follows.edit fun _ => ⟨rfl, rfl, id, id⟩
      · simp only [edit, ends_bind, ends_update]
        refine fun _ => .inr ⟨rfl, rfl, state, rfl, ?_⟩
        refine Runtime.reported_eq_ok.mpr ⟨glided.healthy.1, glided.settled.known, ?_⟩
        exact glided.target.trans (State.recallScenePlan_target state 0 _ _)

theorem recallScene_refused (r : Runtime K H) (target : LightState) {durationMs : Nat}
    (long : MAX_TRANSITION_MS < durationMs) :
    r.outcome (.recallScene target durationMs) = .error .constraintError ∧
      (r.nextTarget (.recallScene target durationMs)).on = r.state.target.on := by
  have refused : (Operation.recallScene target durationMs).plan H = none := if_pos long
  constructor
  · rw [Runtime.outcome, Runtime.perform, Runtime.recallScene, if_pos long]
    rfl
  · exact congrArg LightState.on (Runtime.plannedTarget_of_planless refused)

theorem ends_finishScene_guards (captured : Captured scene false h) :
    Ends finishScene h (Unless h.runtime.trace fun _ t => Guards scene t) := by
  simp only [finishScene, edit, ends_bind, ends_read, ends_update, id_eq]
  cases h.sceneDraft with
  | none => exact fun _ => .inl (captured.edited rfl rfl rfl rfl)
  | some draft =>
      simp only [ends_bind, ends_update, ends_attempt]
      refine ends_operate_outcome ?_
      dsimp only
      have edited : Captured scene false { h with
          sceneDraft := none, coupledTemperature := false, onTime := 0, offWait := 0, timed := false } :=
        captured.edited rfl rfl rfl rfl
      have stays : (Operation.recallScene draft.target draft.durationMs).Stays := trivial
      by_cases long : MAX_TRANSITION_MS < draft.durationMs
      · obtain ⟨refused, power⟩ := recallScene_refused h.runtime draft.target long
        rw [refused]
        simp only [Except.map, ends_bind, ends_update, ends_fail]
        refine fun silent => .inl ?_
        have reached := edited.operated stays (Runtime.silent_iff.mp silent) (power.trans captured.power)
        exact reached.edited rfl rfl rfl rfl
      · have asks : (Operation.recallScene draft.target draft.durationMs).Asks h.runtime
            (State.recallScenePlan draft.target draft.durationMs h.runtime.state h.runtime.now) :=
          ⟨_, if_neg long, rfl⟩
        have power : (h.runtime.nextTarget (.recallScene draft.target draft.durationMs)).on =
            draft.target.on := by
          rw [Runtime.nextTarget_of_asks (captured.reachable.writable captured.known) asks,
            State.recallScenePlan_target]
        cases answer : (h.runtime.outcome (.recallScene draft.target draft.durationMs)).map fun _ => () with
        | error code =>
            simp only [ends_bind, ends_update, ends_fail]
            intro silent
            have succeeds := (Runtime.after_glides captured.toReady.settled asks
              (Runtime.silent_iff.mp silent)).1
            rw [succeeds] at answer
            cases answer
        | ok _ =>
            simp only [ends_bind, ends_update]
            intro silent
            have reached := edited.operated stays (Runtime.silent_iff.mp silent) power
            cases lit : draft.target.on with
            | false =>
                rw [lit] at reached
                exact .inl (reached.edited rfl rfl rfl rfl)
            | true => exact .inr ⟨rfl, reached.power.trans lit⟩

/-! ### Commands -/

/-- A command of Matter, or a tick of the runtime. -/
def Command.IsMatter : Command → Prop
  | .direct operation => operation.IsTick
  | _ => True

/-- What a quiet command leaves of a capture. -/
inductive Leaves (scene : Option LightState) (h : LightHandler K H) (command : Command)
    (t : LightHandler K H) : Prop where
  | kept (captured : Captured scene false t)
  | lit (flagged : Flagged t)
  | frozen (freezes : h.FreezesBright command) (captured : Captured scene true t)
  | recalled (flag : t.globalScene = true) (state : LightState) (same : scene = some state)
      (reports : t.runtime.reported = .ok state)

theorem ends_leaves {call : Action K H Unit} {command : Command}
    (ends : Ends call h (Unless past fun _ t => Guards scene t)) :
    Ends call h (Unless past fun _ t => Leaves scene h command t) := by
  refine ends.mono fun _ _ guards silent => ?_
  rcases guards silent with captured | flagged
  · exact .kept captured
  · exact .lit flagged

theorem ends_lit {call : Action K H Unit} (ends : Ends call h (Unless past fun _ t => Flagged t)) :
    Ends call h (Unless past fun _ t => Guards scene t) :=
  ends.mono fun _ _ flagged silent => .inr (flagged silent)

theorem ends_captured (captured : Captured scene false h) {command : Command}
    (matter : command.IsMatter) :
    Ends (perform command) h (Unless h.runtime.trace fun _ t => Leaves scene h command t) := by
  have drafted : ∀ (g : LightHandler K H) (draft : Option SceneDraft), Captured scene false g →
      Captured scene false { g with sceneDraft := draft } :=
    fun g draft captured => captured.edited rfl rfl rfl rfl
  have start : h.Grown h.runtime.trace := List.suffix_rfl
  cases command with
  | on => exact ends_leaves (ends_lit (ends_powerOn captured.toReady start))
  | off => exact ends_leaves (ends_guards (ends_powerOff captured start))
  | toggle =>
      rw [perform, toggle, ends_bind]
      refine ends_reported ?_
      rw [captured.toReady.reports]
      dsimp only
      rw [captured.power]
      exact ends_leaves (ends_lit (ends_powerOn captured.toReady start))
  | offWithEffect identifier variant =>
      exact ends_leaves (ends_handleOffWithEffect captured identifier variant)
  | onWithRecallGlobalScene =>
      refine (ends_recallGlobalScene captured).mono fun result t ends silent => ?_
      rcases ends silent with ⟨_, kept⟩ | ⟨_, flag, state, same, reports⟩
      · exact .kept kept
      · exact .recalled flag state same reports
  | onWithTimedOff acceptOnlyOn onTime offWait =>
      exact ends_leaves (ends_timedOn captured acceptOnlyOn onTime offWait)
  | moveToLevel raw withOnOff timeDs mask override =>
      exact ends_leaves (ends_levelToCurve captured raw withOnOff timeDs mask override false)
  | moveLevel mode rate withOnOff mask override =>
      exact ends_leaves (ends_levelMove captured mode rate withOnOff mask override)
  | stepLevel mode step timeDs withOnOff mask override =>
      exact ends_leaves (ends_levelStep captured mode step timeDs withOnOff mask override)
  | stopLevel withOnOff mask override =>
      refine (ends_stopLevel captured withOnOff mask override).mono fun result t ends silent => ?_
      rcases ends silent with kept | ⟨freezes, lit⟩
      · exact .kept kept
      · exact .frozen freezes lit
  | moveToColorTemperature mireds timeDs mask override =>
      exact ends_leaves (ends_colorTo captured mireds timeDs mask override)
  | moveColorTemperature mode rate bounds mask override =>
      exact ends_leaves (ends_colorMove captured mode rate bounds mask override)
  | stepColorTemperature mode step timeDs bounds mask override =>
      exact ends_leaves (ends_colorStep captured mode step timeDs bounds mask override)
  | stopMoveStep mask override => exact ends_leaves (ends_stopColor captured mask override)
  | beginScene =>
      exact (Follows.beginScene drafted h captured).mono fun _ _ kept _ => .kept kept
  | stageScene cluster avps durationMs =>
      exact (Follows.stageScene drafted cluster avps durationMs h captured).mono
        fun _ _ kept _ => .kept kept
  | finishScene => exact ends_leaves (ends_finishScene_guards captured)
  | abortScene =>
      exact fun _ => .kept (captured.edited rfl rfl rfl rfl)
  | setStartUpOnOff value =>
      exact ends_leaves (ends_guards (ends_setting captured (.of_unlit trivial id trivial) start))
  | setOnTime value => exact fun _ => .kept (captured.edited rfl rfl rfl rfl)
  | setOffWaitTime value => exact fun _ => .kept (captured.edited rfl rfl rfl rfl)
  | setLevelOptions value =>
      rw [perform, LightHandler.setLevelOptions, ends_ite]
      exact ⟨fun _ _ => .kept captured, fun _ _ => .kept (captured.edited rfl rfl rfl rfl)⟩
  | setOnLevel value =>
      rw [perform, LightHandler.setOnLevel, ends_ite]
      refine ⟨fun _ _ => .kept captured, fun legal _ => .kept ?_⟩
      exact ⟨⟨captured.reachable, captured.known, fun illegal => legal (.inr illegal)⟩,
        captured.clear, captured.kept, captured.power⟩
  | setStartUpCurrentLevel value =>
      exact ends_leaves (ends_guards (ends_setting captured (.of_unlit trivial id trivial) start))
  | setColorOptions value =>
      rw [perform, LightHandler.setColorOptions, ends_ite]
      exact ⟨fun _ _ => .kept captured, fun _ _ => .kept (captured.edited rfl rfl rfl rfl)⟩
  | setStartUpColorTemperatureMireds value =>
      rw [perform, LightHandler.setStartUpColorTemperatureMireds, ends_ite]
      refine ⟨fun _ _ => .kept captured, fun _ => ends_leaves (ends_guards ?_)⟩
      exact ends_setting captured (.of_unlit trivial id trivial) start
  | tick deciseconds => exact ends_leaves (ends_tick captured deciseconds)
  | direct operation =>
      cases operation with
      | tick now =>
          refine ends_quietly start fun quiet => .kept ?_
          have stays : (Operation.tick now).Stays := trivial
          refine captured.operated stays quiet ?_
          rw [Runtime.nextTarget_on_of_tick captured.toReady.settled.healthy.2.1]
          exact captured.power
      | _ => exact matter.elim

/-! ### Runs -/

/-- While the flag is clear, the light is intended Off and healthy. -/
structure Guarded (h : LightHandler K H) : Prop where
  reachable : h.runtime.Reachable
  onLevel : h.onLevel ≠ some 255
  guards : h.globalScene = true ∨ ∃ scene, Captured scene false h

/-- A command of Matter in which nothing fails, and that lights no captured light by a Stop. -/
structure Heeds (h : LightHandler K H) (command : Command) : Prop where
  matter : command.IsMatter
  quiet : h.Quiet command
  stops : h.globalScene = false → ¬h.FreezesBright command

/-- The runtime is reached from a boot and `OnLevel` is a level. -/
def Sound (h : LightHandler K H) : Prop := h.runtime.Reachable ∧ h.onLevel ≠ some 255

theorem follows_sound : Follows (Sound (K := K) (H := H)) where
  edited := fun _ _ edits sound => ⟨edits.runtime ▸ sound.1, edits.onLevel sound.2⟩
  operated := fun _ operation sound => ⟨sound.1.after operation, sound.2⟩

theorem follows_flagged :
    Follows fun t : LightHandler K H => t.Sound ∧ t.globalScene = true where
  edited := fun _ _ edits holds => ⟨follows_sound.edited _ _ edits holds.1, edits.flag holds.2⟩
  operated := fun _ operation holds => ⟨follows_sound.operated _ operation holds.1, holds.2⟩

theorem Sound.after {h : LightHandler K H} (sound : h.Sound) (command : Command) :
    (h.after command).Sound :=
  follows_sound.perform (fun _ => saveGlobalScene_keeps fun _ _ sound => sound)
    (fun _ _ _ sound => sound) h sound

/-- With the flag set, an accepted effect captures what is reported. -/
theorem ends_handleCapture (sound : h.Sound) (flag : h.globalScene = true)
    (identifier : EffectIdentifier) (variant : UInt8) :
    Ends (perform (.offWithEffect identifier variant)) h (Unless h.runtime.trace fun result t =>
      (∃ code, result = .error code) ∧ t = h ∨
        ∃ state, h.runtime.reported = .ok state ∧ result = .ok () ∧ Captured (some state) false t) := by
  rw [perform]
  unfold handleOffWithEffect
  split
  · exact ends_capture sound.1 sound.2 flag _
  · exact ends_capture sound.1 sound.2 flag _
  · exact ends_capture sound.1 sound.2 flag _
  · exact ends_capture sound.1 sound.2 flag _
  · exact fun _ => .inl ⟨⟨_, rfl⟩, rfl⟩

theorem Guarded.after (guarded : Guarded h) {command : Command} (heeds : h.Heeds command) :
    Guarded (h.after command) := by
  have sound := Sound.after ⟨guarded.reachable, guarded.onLevel⟩ command
  refine ⟨sound.1, sound.2, ?_⟩
  rcases guarded.guards with flag | ⟨scene, captured⟩
  · by_cases effect : command.IsEffect
    · cases command with
      | offWithEffect identifier variant =>
          have ends := ends_handleCapture ⟨guarded.reachable, guarded.onLevel⟩ flag identifier variant
          rcases after_quiet ends heeds.quiet with ⟨_, same⟩ | ⟨state, _, _, captured⟩
          · rw [same]
            exact .inl flag
          · exact .inr ⟨some state, captured⟩
      | _ => exact effect.elim
    · refine .inl (follows_flagged.perform (fun wrong => absurd wrong effect)
        (fun _ _ _ holds => holds) h ⟨⟨guarded.reachable, guarded.onLevel⟩, flag⟩).2
  · cases after_quiet (ends_captured captured heeds.matter) heeds.quiet with
    | kept captured => exact .inr ⟨scene, captured⟩
    | lit flagged => exact .inl flagged.flag
    | frozen freezes _ => exact absurd freezes (heeds.stops captured.clear)
    | recalled flag _ _ _ => exact .inl flag

/-- A command of Matter in which nothing fails and that leaves the light intended Off. -/
structure LeavesOff (h : LightHandler K H) (command : Command) : Prop where
  matter : command.IsMatter
  quiet : h.Quiet command
  dark : (h.after command).runtime.snapshot.intended.on = false

/-- A lit scene stays captured while the light stays Off. -/
theorem Captured.leavesOff {scene : LightState} (lit : scene.on = true)
    (captured : Captured (some scene) false h) {command : Command} (leaves : h.LeavesOff command) :
    Captured (some scene) false (h.after command) := by
  have dark : (h.after command).runtime.state.target.on = false := leaves.dark
  cases after_quiet (ends_captured captured leaves.matter) leaves.quiet with
  | kept captured => exact captured
  | lit flagged =>
      rw [flagged.power] at dark
      cases dark
  | frozen _ captured =>
      rw [captured.power] at dark
      cases dark
  | recalled _ state same reports =>
      cases same
      rw [(Runtime.reported_eq_ok.mp reports).2.2, lit] at dark
      cases dark

/-- In a run with working storage and hardware in which no Stop lights a captured light, what
is reported On at an accepted Off effect is what a later recall makes the target, if the
light stays Off in between. -/
theorem run_globalScene (kv : K) (hardware : H) (datavers : Vector UInt32 3)
    (commands later : List Command) (identifier : EffectIdentifier) (variant : UInt8)
    (scene : LightState) :
    let h := run (new (Runtime.load kv hardware) datavers) commands
    let effect := Command.offWithEffect identifier variant
    let dark := run (h.after effect) later
    Along after Heeds (new (Runtime.load kv hardware) datavers) commands →
      h.runtime.reported = .ok scene → scene.on = true →
      h.outcome effect = .ok () → h.Quiet effect → Along after LeavesOff (h.after effect) later →
      dark.Quiet .onWithRecallGlobalScene →
        dark.outcome .onWithRecallGlobalScene = .ok () ∧
          (dark.after .onWithRecallGlobalScene).runtime.reported = .ok scene := by
  intro h effect dark heeds reports lit accepted quiet stays recalls
  have guarded : Guarded h := by
    refine heeds.invariant (fun h command heeds guarded => guarded.after heeds) ?_
    exact ⟨.load kv hardware, nofun, .inl rfl⟩
  have flag : h.globalScene = true := by
    rcases guarded.guards with flag | ⟨other, captured⟩
    · exact flag
    · have off := captured.power
      rw [(Runtime.reported_eq_ok.mp reports).2.2, lit] at off
      cases off
  have captured : Captured (some scene) false (h.after effect) := by
    have ends := ends_handleCapture ⟨guarded.reachable, guarded.onLevel⟩ flag identifier variant
    rcases after_quiet ends quiet with ⟨⟨code, refused⟩, _⟩ | ⟨state, same, _, captured⟩
    · cases accepted.symm.trans refused
    · cases same.symm.trans reports
      exact captured
  have held : Captured (some scene) false dark :=
    stays.invariant (fun h command leaves captured => captured.leavesOff lit leaves) captured
  have ends : Ends (perform .onWithRecallGlobalScene) dark _ := ends_recallGlobalScene held
  rcases after_quiet ends recalls with ⟨none, _⟩ | ⟨succeeds, _, state, same, reported⟩
  · cases none
  · cases same
    exact ⟨succeeds, reported⟩

/-- A recall after an effect and a remembered level returns to the lit lamp. -/
theorem run_globalScene_recalled :
    let h := run bench [.direct (.tick 0), .on, .direct (.tick 400)]
    let dark := run (h.after (.offWithEffect .dyingLight 0)) [.direct (.tick 700),
      .offWithEffect .delayedAllOff 0, .moveToLevel 100 false none 1 1]
    dark.outcome .onWithRecallGlobalScene = .ok () ∧
      (dark.after .onWithRecallGlobalScene).runtime.reported = .ok h.runtime.state.target := by
  refine run_globalScene _ _ _ [.direct (.tick 0), .on, .direct (.tick 400)]
    [.direct (.tick 700), .offWithEffect .delayedAllOff 0, .moveToLevel 100 false none 1 1]
    .dyingLight 0 _ ⟨⟨trivial, ?_, fun _ => id⟩, ⟨trivial, ?_, fun _ => id⟩, ⟨trivial, ?_, fun _ => id⟩,
      trivial⟩ ?_ ?_ ?_ ?_ ⟨⟨trivial, ?_, ?_⟩, ⟨trivial, ?_, ?_⟩, ⟨trivial, ?_, ?_⟩, trivial⟩ ?_
  all_goals decide +kernel

/-- After a Stop in the bright part of an Off effect, the next effect captures nothing, and a
recall returns to what was captured before. -/
theorem run_globalScene_broken :
    let commands : List Command := [.direct (.tick 0), .on, .direct (.tick 400),
      .offWithEffect .delayedAllOff 2, .direct (.tick 800), .stopLevel true 0 0]
    let h := run bench commands
    let dark := h.after (.offWithEffect .delayedAllOff 0)
    let recalled := dark.after .onWithRecallGlobalScene
    Along after Quiet bench (commands ++ [.offWithEffect .delayedAllOff 0, .onWithRecallGlobalScene]) ∧
      h.runtime.reported.toOption.any LightState.on = true ∧
      h.outcome (.offWithEffect .delayedAllOff 0) = .ok () ∧
      dark.runtime.snapshot.intended.on = false ∧
      recalled.runtime.snapshot.intended ≠ h.runtime.snapshot.intended := by
  decide +kernel

end LightHandler

end KeyRight.App
