import KeyRight.App.Intent
import KeyRight.App.LightCalls
import KeyRight.App.Target

/-!
Owns the countdown of the Matter light: which runs of commands, attribute writes and
direct calls let its tick switch off only a light that is timed.

Does not own the countdown's length.
-/

namespace KeyRight.App.LightHandler

open KeyRight.Core KeyRight.Support Program

variable {K H : Type} [KvBlobStore K] [Hardware H]

/-! ### Careful commands -/

/-- The countdown runs with no `OnTime` left: the off-wait guard. -/
def Waiting (h : LightHandler K H) : Prop := h.timed = true ∧ h.onTime = 0

instance (h : LightHandler K H) : Decidable h.Waiting := inferInstanceAs (Decidable (_ ∧ _))

/-- The operation of a command that may change the intended power and leaves the
countdown alone, as it is called in this state. -/
def around (h : LightHandler K H) : Command → Option Operation
  | .onWithRecallGlobalScene => if h.globalScene then none else h.globalSceneState.map .request
  | .moveToLevel raw withOnOff timeDs _ _ =>
      some (.setLevelTransition raw withOnOff ((timeDs.getD 0).toNat * 100))
  | .moveLevel mode rate withOnOff _ _ =>
      if rate = some 0 then none
      else h.runtime.acknowledged.toOption.map fun state =>
        let target := levelMoveTarget mode withOnOff
        .setLevelRate target withOnOff
          ((UInt16.ofNat (divCeil (absDiff state.level.get target.toNat * 10)
            (rate.getD 254).toNat)).toNat * 100)
  | .stepLevel mode step timeDs withOnOff _ _ =>
      h.runtime.acknowledged.toOption.map fun state =>
        .setLevelTransition (levelStepTarget mode state.level step withOnOff) withOnOff
          ((timeDs.getD 0).toNat * 100)
  | .stopLevel withOnOff mask override =>
      if h.runtime.levelRemainingMs ≠ 0 ∨
          ((executeLevel withOnOff mask override).start h).1 = .ok true then
        some .stopLevelTransition
      else none
  | .direct operation => some operation
  | _ => none

/-- `timedOn` starts its countdown. -/
def startsTimer (h : LightHandler K H) (acceptOnlyOn : Bool) : Bool :=
  h.runtime.reported.toOption.any fun state => state.on || (!acceptOnlyOn && h.offWait == 0)

/-- The command starts or leaves no countdown without an `OnTime` beside a light that
is intended On. -/
def Timed (h : LightHandler K H) : Command → Prop
  | .onWithTimedOff acceptOnlyOn onTime offWait =>
      onTime ≠ U16_MAX → offWait ≠ U16_MAX → h.startsTimer acceptOnlyOn →
        max h.onTime onTime ≠ 0
  | .setOnTime value => h.timed = true → value = 0 → h.runtime.Tame
  | _ => True

/-- The command does not switch the light on around a waiting countdown, and starts no
countdown that has already ended. -/
structure Careful (h : LightHandler K H) (command : Command) : Prop where
  quiet : h.Waiting → ∀ operation, h.around command = some operation → ¬h.runtime.Wakes operation
  timed : h.Timed command

/-! ### Invariant -/

/-- A waiting countdown finds the light intended Off, or about to reboot. -/
structure Patient (h : LightHandler K H) : Prop where
  reachable : h.runtime.Reachable
  tame : h.Waiting → h.runtime.Tame

theorem Patient.operated {h : LightHandler K H} (patient : Patient h) {operation : Operation}
    (quiet : h.Waiting → ¬h.runtime.Wakes operation) : Patient (h.operated operation) :=
  ⟨patient.reachable.after operation,
    fun waiting => Runtime.tame_after patient.reachable (quiet waiting)⟩

/-- An edit that touches neither the countdown nor the runtime. -/
theorem Patient.edited {h t : LightHandler K H} (patient : Patient h)
    (runtime : t.runtime = h.runtime) (timed : t.timed = h.timed) (onTime : t.onTime = h.onTime) :
    Patient t := by
  obtain ⟨reachable, tame⟩ := patient
  refine ⟨runtime ▸ reachable, fun waiting => ?_⟩
  rw [runtime]
  exact tame ⟨timed ▸ waiting.1, onTime ▸ waiting.2⟩

/-! ### Calls that keep the invariant -/

/-- A command on the color temperature or a start-up setting. -/
theorem operate_keeps {operation : Operation} (command : operation.IsCommand)
    (kept : ∀ (s : State H) now plan, Asked s now operation plan → plan.target.on = s.target.on) :
    Keeps (operate operation) (Patient (K := K) (H := H)) := by
  intro h patient
  refine ends_operate fun _ => ⟨patient.reachable.after operation, fun waiting => ?_⟩
  refine (patient.tame waiting).after_command patient.reachable command fun plan asks on => ?_
  rw [← kept _ _ _ asks.asked]
  exact on

/-! ### On and Off -/

omit [KvBlobStore K] [Hardware H] in
theorem powered_not_waiting (h : LightHandler K H) : ¬h.powered.Waiting := by
  rintro ⟨timed, ended⟩
  change h.onTime = 0 at ended
  simp [powered, ended] at timed

/-- A light whose countdown does not wait, with the same `OnTime` as before. -/
def Lit (h t : LightHandler K H) : Prop :=
  t.runtime.Reachable ∧ t.onTime = h.onTime ∧ ¬t.Waiting

theorem operate_lit (h : LightHandler K H) (operation : Operation) :
    Keeps (operate operation) h.Lit := by
  intro t lit
  obtain ⟨reachable, onTime, awake⟩ := lit
  exact ends_operate fun _ => ⟨reachable.after operation, onTime, awake⟩

/-- An On leaves no countdown waiting. -/
theorem powerOn_lit {h : LightHandler K H} (reachable : h.runtime.Reachable) :
    Ends (power true) h fun _ t => h.Lit t := by
  have switches : Keeps (do edit dataverChanged; operate (.setPower true)) h.Lit :=
    keeps_bind (keeps_update fun _ lit => lit) fun _ => operate_lit h _
  have powered : h.Lit h.changed.powered := ⟨reachable, rfl, powered_not_waiting h.changed⟩
  simp only [power, edit, ends_bind, ends_update, if_true, ends_read, id_eq]
  cases h.changed.powered.startLevel with
  | none => exact switches _ powered
  | some level => exact keeps_bind (operate_lit h _) (fun _ => switches) _ powered

theorem powerOff_patient {h : LightHandler K H} (reachable : h.runtime.Reachable) :
    Ends (power false) h fun _ t => Patient t := by
  refine powerOff_runtime.mono fun _ t runtime => ⟨?_, fun _ => ?_⟩
  · rw [runtime]
    exact reachable.after _
  · rw [runtime]
    refine Runtime.tame_after_off reachable trivial ⟨_, rfl, rfl⟩ ?_
    rw [State.setPowerPlan_target]

theorem power_patient {h : LightHandler K H} (reachable : h.runtime.Reachable) (on : Bool) :
    Ends (power on) h fun _ t => Patient t := by
  cases on with
  | false => exact powerOff_patient reachable
  | true =>
      refine (powerOn_lit reachable).mono fun _ t lit => ?_
      exact ⟨lit.1, fun waiting => absurd waiting lit.2.2⟩

theorem offWithEffect_patient {h : LightHandler K H} (patient : Patient h) (effect : OffEffect) :
    Ends (offWithEffect effect) h fun _ t => Patient t := by
  have saves : Keeps saveGlobalScene (Patient (K := K) (H := H)) := by
    refine keeps_bind (keeps_read id) fun g => keeps_ite (fun _ => ?_) fun _ => keeps_pure ()
    refine keeps_bind (reported_keeps _) fun state => keeps_update fun t patient => ?_
    exact patient.edited rfl rfl rfl
  rw [offWithEffect, ends_bind]
  refine (saves h patient).mono fun result t patient => ?_
  cases result with
  | error code => exact patient
  | ok _ =>
      simp only [edit, ends_bind, ends_update]
      refine ends_operate fun _ => ⟨patient.reachable.after _, fun _ => ?_⟩
      exact Runtime.tame_after_off patient.reachable trivial ⟨_, rfl, rfl⟩ rfl

theorem tick_patient {h : LightHandler K H} (patient : Patient h) (deciseconds : UInt16) :
    Ends (tick deciseconds) h fun _ t => Patient t := by
  have stopped : ∀ {t : LightHandler K H}, t.runtime.Reachable →
      Patient ((t.setOffWait 0).setTimed false).dataverChanged := fun reachable =>
    ⟨reachable, fun waiting => Bool.noConfusion waiting.1⟩
  simp only [tick, edit, ends_bind, ends_ite, ends_read, ends_update, ends_pure, ends_attempt, id_eq]
  refine ⟨fun _ => patient, fun timed => ⟨fun on => ⟨fun ended => ?_, fun running => ?_⟩, fun off => ?_⟩⟩
  · exact (powerOff_patient patient.reachable).mono fun _ _ off => stopped off.reachable
  · exact ⟨patient.reachable, fun waiting => absurd waiting.2 running⟩
  · exact ⟨patient.reachable, fun _ on => absurd on off⟩

theorem toggle_patient {h : LightHandler K H} (patient : Patient h) :
    Ends toggle h fun _ t => Patient t := by
  rw [toggle, ends_bind]
  refine (reported_keeps _ h patient).mono fun result t patient => ?_
  cases result with
  | ok state => exact power_patient patient.reachable (!state.on)
  | error code => exact patient

/-- Where `timedOn` starts its countdown, there is an `OnTime` to count down. -/
theorem timedOn_patient {h : LightHandler K H} (patient : Patient h) {acceptOnlyOn : Bool}
    {onTime offWait : UInt16} (timed : h.Timed (.onWithTimedOff acceptOnlyOn onTime offWait)) :
    Ends (timedOn acceptOnlyOn onTime offWait) h fun _ t => Patient t := by
  unfold timedOn
  by_cases endless : onTime = U16_MAX ∨ offWait = U16_MAX
  · rw [if_pos endless]
    exact patient
  · rw [if_neg endless, ends_bind]
    refine ends_reported ?_
    cases reported : h.runtime.reported with
    | error code => exact patient
    | ok state =>
        have target : h.runtime.state.target = state := (Runtime.reported_eq_ok.mp reported).2.2
        simp only [edit, ends_bind, ends_read, ends_ite, ends_pure, ends_update, ends_attempt, id_eq]
        refine ⟨fun _ => patient, fun accepted => ⟨fun guarded => ?_, fun unguarded => ?_⟩⟩
        · refine ⟨patient.reachable, fun _ on => ?_⟩
          change h.runtime.state.target.on = true at on
          rw [target] at on
          simp [on] at guarded
        · have starts : h.startsTimer acceptOnlyOn = true := by
            rw [startsTimer, reported]
            change (state.on || (!acceptOnlyOn && h.offWait == 0)) = true
            cases on : state.on with
            | true => rfl
            | false =>
                have open' : h.offWait = 0 := by simpa [on] using unguarded
                simpa [on, open'] using accepted
          have remains := timed (fun same => endless (.inl same)) (fun same => endless (.inr same)) starts
          refine Ends.mono (powerOn_lit ?_) fun result t lit => (ends_ofExcept _ _ _).mpr ?_
          · exact patient.reachable
          · obtain ⟨reachable, onTime, _⟩ := lit
            exact ⟨reachable, fun waiting => absurd (onTime.symm.trans waiting.2) remains⟩

/-! ### Scenes -/

theorem recallGlobalScene_patient {h : LightHandler K H} (patient : Patient h)
    (careful : h.Careful .onWithRecallGlobalScene) :
    Ends recallGlobalScene h fun _ t => Patient t := by
  simp only [recallGlobalScene, ends_bind, ends_read, id_eq]
  cases current : h.globalScene with
  | true => exact patient
  | false =>
      simp only [Bool.false_eq_true, if_false]
      cases saved : h.globalSceneState with
      | none => exact patient
      | some state =>
          have quiet : h.changed.Waiting → ¬h.changed.runtime.Wakes (.request state) := fun waiting =>
            careful.quiet waiting _ (by simp [around, current, saved])
          simp only [edit, ends_bind, ends_update]
          refine ends_operate fun result => ?_
          have recalled := (patient.edited rfl rfl rfl : Patient h.changed).operated quiet
          cases result with
          | ok _ => exact recalled.edited rfl rfl rfl
          | error code => exact recalled

theorem finishScene_patient {h : LightHandler K H} (patient : Patient h) :
    Ends finishScene h fun _ t => Patient t := by
  simp only [finishScene, edit, ends_bind, ends_read, ends_update, id_eq]
  cases h.sceneDraft with
  | none => exact patient.edited rfl rfl rfl
  | some draft =>
      -- A scene ends the countdown before it switches the light.
      have stopped : ∀ {t : LightHandler K H}, t.runtime.Reachable → t.timed = false → Patient t := by
        intro t reachable ended
        refine ⟨reachable, fun waiting => ?_⟩
        rw [waiting.1] at ended
        cases ended
      simp only [ends_bind, ends_update, ends_attempt]
      refine ends_operate fun result => ?_
      cases result with
      | error code => exact stopped (patient.reachable.after _) rfl
      | ok _ => exact stopped (patient.reachable.after _) rfl

/-! ### Level and color -/

theorem operate_unlit {operation : Operation} (command : operation.IsCommand)
    (unlit : operation.Unlit) : Keeps (operate operation) (Patient (K := K) (H := H)) :=
  operate_keeps command fun _ _ _ asked => (unlit.plan asked).1

theorem rampTemperature_keeps (linear : Bool) (temperature : ColorTemperature) (durationMs : Nat) :
    Keeps (operate (rampTemperature linear temperature durationMs)) (Patient (K := K) (H := H)) := by
  cases linear with
  | true => exact operate_unlit trivial trivial
  | false => exact operate_unlit trivial trivial

/-- A level command keeps the invariant if its ramp does. -/
theorem levelToCurve_patient {h : LightHandler K H} (patient : Patient h) {raw : UInt8}
    {withOnOff : Bool} {timeDs : Option UInt16} {mask override : UInt8} {linear : Bool}
    (quiet : h.Waiting →
      ¬h.runtime.Wakes (rampLevel linear raw withOnOff ((timeDs.getD 0).toNat * 100))) :
    Ends (levelToCurve raw withOnOff timeDs mask override linear) h fun _ t => Patient t := by
  unfold levelToCurve
  by_cases valid : raw ≠ 255
  · rw [dif_pos valid]
    refine ends_executes (fun _ _ => patient) fun _ => ?_
    rw [edit]
    rw [ends_bind, ends_update, ends_bind]
    refine ends_operate fun result => ?_
    have ramped : Patient (h.changed.operated _) :=
      (patient.edited rfl rfl rfl : Patient h.changed).operated quiet
    cases result with
    | error code => exact ramped
    | ok _ =>
        refine (?_ : Keeps _ (Patient (K := K) (H := H))) _ ramped
        refine keeps_bind (keeps_read id) fun g => ?_
        refine keeps_bind (keeps_update fun t patient => patient.edited rfl rfl rfl) fun _ => ?_
        refine keeps_ite (fun _ => ?_) fun _ => ?_
        · refine keeps_bind (rampTemperature_keeps linear _ _) fun _ => ?_
          refine keeps_bind (keeps_update fun t patient => patient.edited rfl rfl rfl) fun _ => ?_
          exact keeps_ite (fun _ => keeps_update fun t patient => patient.edited rfl rfl rfl)
            fun _ => keeps_pure ()
        · exact keeps_ite (fun _ => keeps_update fun t patient => patient.edited rfl rfl rfl)
            fun _ => keeps_pure ()
  · rw [dif_neg valid]
    exact patient

theorem levelMove_patient {h : LightHandler K H} (patient : Patient h) {mode : LevelMode}
    {rate : Option UInt8} {withOnOff : Bool} {mask override : UInt8}
    (careful : h.Careful (.moveLevel mode rate withOnOff mask override)) :
    Ends (levelMove mode rate withOnOff mask override) h fun _ t => Patient t := by
  rw [levelMove]
  refine ends_executes (fun _ _ => patient) fun _ => ?_
  simp only [ends_ite, ends_fail, ends_bind]
  refine ⟨fun _ => patient, fun moves => ends_acknowledged ?_⟩
  have given : rate ≠ some 0 := by
    rintro rfl
    exact moves rfl
  cases known : h.runtime.acknowledged with
  | error code => exact patient
  | ok state =>
      refine levelToCurve_patient patient fun waiting => careful.quiet waiting _ ?_
      rw [around, if_neg given, known]
      rfl

theorem levelStep_patient {h : LightHandler K H} (patient : Patient h) {mode : LevelMode}
    {step : UInt8} {timeDs : Option UInt16} {withOnOff : Bool} {mask override : UInt8}
    (careful : h.Careful (.stepLevel mode step timeDs withOnOff mask override)) :
    Ends (levelStep mode step timeDs withOnOff mask override) h fun _ t => Patient t := by
  rw [levelStep]
  refine ends_executes (fun _ _ => patient) fun _ => ?_
  simp only [ends_bind]
  refine ends_acknowledged ?_
  cases known : h.runtime.acknowledged with
  | error code => exact patient
  | ok state =>
      refine levelToCurve_patient patient fun waiting => careful.quiet waiting _ ?_
      rw [around, known]
      rfl

/-- Stopping a temperature keeps the intended power. -/
theorem stopTemperature_keeps :
    Keeps (operate .stopTemperatureTransition) (Patient (K := K) (H := H)) := by
  refine operate_keeps trivial fun s now plan asked => ?_
  cases asked with
  | scene target durationMs is => simp at is
  | power on is => cases is
  | effect effect is => cases is
  | level level valid withOnOff durationMs curve is => cases is
  | temperature temperature durationMs curve => rfl
  | stopLevel _ is stops => cases is
  | stopTemperature _ is stops =>
      obtain ⟨_, _, _, _, rfl⟩ := State.stopTemperaturePlan_cases stops
      rfl

theorem stopLevel_patient {h : LightHandler K H} (patient : Patient h) {withOnOff : Bool}
    {mask override : UInt8} (careful : h.Careful (.stopLevel withOnOff mask override)) :
    Ends (stopLevel withOnOff mask override) h fun _ t => Patient t := by
  refine ends_stops (fun _ => patient) fun asked => ?_
  have quiet : h.Waiting → ¬h.runtime.Wakes .stopLevelTransition := fun waiting =>
    careful.quiet waiting _ (if_pos asked)
  rw [ends_bind, edit, ends_update, ends_bind]
  refine ends_operate fun result => ?_
  have stopped : Patient (h.changed.operated .stopLevelTransition) :=
    (patient.edited rfl rfl rfl : Patient h.changed).operated quiet
  cases result with
  | error code => exact stopped
  | ok _ =>
      refine (?_ : Keeps _ (Patient (K := K) (H := H))) _ stopped
      refine keeps_bind (keeps_read id) fun g => ?_
      refine keeps_bind (keeps_update fun t patient => patient.edited rfl rfl rfl) fun _ => ?_
      exact keeps_ite (fun _ => stopTemperature_keeps) fun _ => keeps_pure ()

/-! ### Color -/

/-- The color commands that execute end the coupling and make one call. -/
theorem recolor_keeps {operation : Operation}
    (keeps : Keeps (operate operation) (Patient (K := K) (H := H))) :
    Keeps (do
      edit changed
      edit fun h => { h with coupledTemperature := false }
      operate operation) (Patient (K := K) (H := H)) := by
  refine keeps_bind (keeps_update fun _ patient => patient.edited rfl rfl rfl) fun _ => ?_
  exact keeps_bind (keeps_update fun _ patient => patient.edited rfl rfl rfl) fun _ => keeps

theorem executeColor_keeps {mask override : UInt8} {call : Action K H Unit}
    (keeps : Keeps call (Patient (K := K) (H := H))) :
    Keeps (do if ← executeColor mask override then call else pure ()) (Patient (K := K) (H := H)) :=
  keeps_bind (executes_keeps colorOptions false mask override _) fun _ =>
    keeps_ite (fun _ => keeps) fun _ => keeps_pure ()

theorem colorTo_keeps (mireds timeDs : UInt16) (mask override : UInt8) :
    Keeps (colorTo mireds timeDs mask override) (Patient (K := K) (H := H)) :=
  keeps_ite (fun _ => keeps_fail _) fun _ =>
    executeColor_keeps (recolor_keeps (operate_unlit trivial trivial))

theorem stopColor_keeps (mask override : UInt8) :
    Keeps (stopColor mask override) (Patient (K := K) (H := H)) :=
  executeColor_keeps (recolor_keeps stopTemperature_keeps)

theorem colorMoveTo_keeps (up : Bool) (rate : UInt16) (bounds : UInt16 × UInt16)
    (mask override : UInt8) : Keeps (colorMoveTo up rate bounds mask override) (Patient (K := K) (H := H)) := by
  refine keeps_ite (fun _ => keeps_fail _) fun _ => executeColor_keeps ?_
  refine keeps_bind (keeps_ofExcept _) fun range => ?_
  refine keeps_bind (acknowledged_keeps _) fun state => ?_
  exact recolor_keeps (operate_unlit trivial trivial)

theorem colorMove_keeps (mode : ColorMode) (rate : UInt16) (bounds : UInt16 × UInt16)
    (mask override : UInt8) : Keeps (colorMove mode rate bounds mask override) (Patient (K := K) (H := H)) := by
  cases mode with
  | stop => exact stopColor_keeps mask override
  | up => exact colorMoveTo_keeps true rate bounds mask override
  | down => exact colorMoveTo_keeps false rate bounds mask override

theorem colorStep_keeps (mode : LevelMode) (step timeDs : UInt16) (bounds : UInt16 × UInt16)
    (mask override : UInt8) :
    Keeps (colorStep mode step timeDs bounds mask override) (Patient (K := K) (H := H)) := by
  refine executeColor_keeps ?_
  refine keeps_bind (keeps_ofExcept _) fun range => ?_
  refine keeps_bind (acknowledged_keeps _) fun state => ?_
  exact colorTo_keeps _ timeDs mask override

/-! ### Runs -/

theorem beginScene_keeps : Keeps beginScene (Patient (K := K) (H := H)) := by
  refine keeps_bind (keeps_read id) fun g => keeps_ite (fun _ => keeps_fail _) fun _ => ?_
  refine keeps_bind (reported_keeps _) fun state => keeps_update fun t patient => ?_
  exact patient.edited rfl rfl rfl

theorem stageScene_keeps (cluster : UInt32) (avps : List (Except ErrorCode AttributeValuePair))
    (durationMs : Nat) : Keeps (stageScene cluster avps durationMs) (Patient (K := K) (H := H)) := by
  refine keeps_bind (keeps_read id) fun g => ?_
  cases g.sceneDraft with
  | none => exact keeps_fail _
  | some draft =>
      refine keeps_ite (fun _ => keeps_fail _) fun _ => ?_
      refine keeps_bind (keeps_ofExcept _) fun staged => keeps_update fun t patient => ?_
      exact patient.edited rfl rfl rfl

theorem abortScene_keeps : Keeps abortScene (Patient (K := K) (H := H)) :=
  keeps_bind (keeps_update fun _ patient => patient.edited rfl rfl rfl) fun _ =>
    keeps_update fun _ patient => patient.edited rfl rfl rfl

/-- A careful command keeps the invariant. -/
theorem Patient.after {h : LightHandler K H} (patient : Patient h) {command : Command}
    (careful : h.Careful command) : Patient (h.after command) := by
  change Ends (perform command) h fun _ t => Patient t
  cases command with
  | on => exact power_patient patient.reachable true
  | off => exact power_patient patient.reachable false
  | toggle => exact toggle_patient patient
  | offWithEffect identifier variant =>
      simp only [perform, handleOffWithEffect]
      split
      · exact offWithEffect_patient patient _
      · exact offWithEffect_patient patient _
      · exact offWithEffect_patient patient _
      · exact offWithEffect_patient patient _
      · exact patient
  | onWithRecallGlobalScene => exact recallGlobalScene_patient patient careful
  | onWithTimedOff acceptOnlyOn onTime offWait => exact timedOn_patient patient careful.timed
  | moveToLevel raw withOnOff timeDs mask override =>
      exact levelToCurve_patient patient fun waiting => careful.quiet waiting _ rfl
  | moveLevel mode rate withOnOff mask override => exact levelMove_patient patient careful
  | stepLevel mode step timeDs withOnOff mask override => exact levelStep_patient patient careful
  | stopLevel withOnOff mask override => exact stopLevel_patient patient careful
  | moveToColorTemperature mireds timeDs mask override =>
      exact colorTo_keeps mireds timeDs mask override h patient
  | moveColorTemperature mode rate bounds mask override =>
      exact colorMove_keeps mode rate bounds mask override h patient
  | stepColorTemperature mode step timeDs bounds mask override =>
      exact colorStep_keeps mode step timeDs bounds mask override h patient
  | stopMoveStep mask override => exact stopColor_keeps mask override h patient
  | beginScene => exact beginScene_keeps h patient
  | stageScene cluster avps durationMs => exact stageScene_keeps cluster avps durationMs h patient
  | finishScene => exact finishScene_patient patient
  | abortScene => exact abortScene_keeps h patient
  | setStartUpOnOff value =>
      exact (operate_unlit trivial trivial : Keeps (operate (.setStartup value)) Patient) h patient
  | setOnTime value =>
      refine ⟨patient.reachable, fun waiting => careful.timed waiting.1 waiting.2⟩
  | setOffWaitTime value => exact patient.edited rfl rfl rfl
  | setLevelOptions value =>
      exact keeps_ite (fun _ => keeps_fail _)
        (fun _ => keeps_update fun _ patient => patient.edited rfl rfl rfl) h patient
  | setOnLevel value =>
      exact keeps_ite (fun _ => keeps_fail _)
        (fun _ => keeps_update fun _ patient => patient.edited rfl rfl rfl) h patient
  | setStartUpCurrentLevel value =>
      exact (operate_unlit trivial trivial : Keeps (operate (.setStartupLevel value)) Patient) h patient
  | setColorOptions value =>
      exact keeps_ite (fun _ => keeps_fail _)
        (fun _ => keeps_update fun _ patient => patient.edited rfl rfl rfl) h patient
  | setStartUpColorTemperatureMireds value =>
      have keeps : ∀ temperature, Keeps (operate (.setStartupTemperature temperature))
          (Patient (K := K) (H := H)) := fun _ => operate_unlit trivial trivial
      exact keeps_ite (fun _ => keeps_fail _) (fun _ => keeps _) h patient
  | tick deciseconds => exact tick_patient patient deciseconds
  | direct operation =>
      exact ends_operate fun _ => patient.operated fun waiting => careful.quiet waiting _ rfl

omit [KvBlobStore K] [Hardware H] in
theorem saturatingSub_eq_zero {value amount : UInt16} (zero : saturatingSub value amount = 0) :
    value ≤ amount := by
  unfold saturatingSub at zero
  by_cases within : amount ≤ value
  · rw [if_pos within] at zero
    have difference : (value - amount).toNat = 0 := by rw [zero]; rfl
    rw [UInt16.toNat_sub_of_le _ _ within] at difference
    rw [UInt16.le_iff_toNat_le]
    omega
  · exact UInt16.le_of_lt (UInt16.not_le.mp within)

/-- In a run of careful commands, a tick that changes the intended power from On to Off
found an `OnTime` that ran out in it. -/
theorem run_timedOff (kv : K) (hardware : H) (datavers : Vector UInt32 3) (commands : List Command)
    (careful : Along after Careful (new (Runtime.load kv hardware) datavers) commands)
    (deciseconds : UInt16) :
    let h := run (new (Runtime.load kv hardware) datavers) commands
    h.runtime.snapshot.intended.on = true →
      (h.after (.tick deciseconds)).runtime.snapshot.intended.on = false →
        1 ≤ h.onTime ∧ h.onTime ≤ deciseconds := by
  intro h on off
  have patient : Patient h := by
    refine careful.invariant (fun h command careful patient => patient.after careful) ?_
    exact ⟨.load kv hardware, fun waiting => Bool.noConfusion waiting.1⟩
  have ends : (h.after (.tick deciseconds)).runtime = h.runtime ∨ _ := tick_runtime h deciseconds
  rcases ends with same | ⟨timed, ended, switched⟩
  · rw [same, on] at off
    cases off
  · refine ⟨?_, saturatingSub_eq_zero ended⟩
    by_contra early
    have zero : h.onTime = 0 := by
      rw [← UInt16.toNat_inj]
      exact Nat.lt_one_iff.mp (UInt16.lt_iff_toNat_lt.mp (UInt16.not_le.mp early))
    have latched := patient.tame ⟨timed, zero⟩ on
    change (h.after (.tick deciseconds)).runtime = _ at switched
    rw [switched] at off
    change (h.runtime.after (.setPower false)).state.target.on = false at off
    have refused : ¬h.runtime.Writable := fun writable => writable.1 latched
    have kept : (h.runtime.after (.setPower false)).state.target = h.runtime.state.target := by
      rw [Runtime.after_target]
      change h.runtime.plannedTarget (.setPower false) = h.runtime.state.target
      exact Runtime.plannedTarget_of_unplanned fun _ _ => refused
    rw [kept] at off
    exact Bool.false_ne_true (off.symm.trans on)

/-- A light that was switched on for a second goes off after it. -/
theorem run_timedOff_expired :
    let h := run bench [.direct (.tick 0), .onWithTimedOff false 10 0]
    1 ≤ h.onTime ∧ h.onTime ≤ 10 := by
  refine run_timedOff _ _ _ [.direct (.tick 0), .onWithTimedOff false 10 0] ?_ 10
    (by decide +kernel) (by decide +kernel)
  refine ⟨⟨fun waiting => Bool.noConfusion waiting.1, trivial⟩, ⟨nofun, fun _ _ _ => ?_⟩, trivial⟩
  decide +kernel

/-- A level command that switches the light on beside a running off-wait guard is undone
by the next tick. -/
theorem run_timedOff_broken :
    ¬ ∀ (commands : List Command) (deciseconds : UInt16),
      let h := run bench commands
      h.runtime.snapshot.intended.on = true →
        (h.after (.tick deciseconds)).runtime.snapshot.intended.on = false →
          1 ≤ h.onTime ∧ h.onTime ≤ deciseconds := by
  intro always
  have timed := (always [.direct (.tick 0), .onWithTimedOff false 100 100, .off,
    .moveToLevel 100 true none 0 0] 1 (by decide +kernel) (by decide +kernel)).1
  have untimed : (run bench [.direct (.tick 0), .onWithTimedOff false 100 100, .off,
    .moveToLevel 100 true none 0 0]).onTime = 0 := by decide +kernel
  rw [untimed] at timed
  exact absurd timed (by decide)

end KeyRight.App.LightHandler
