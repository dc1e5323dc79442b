import KeyRight.App.Tracks

/-!
Owns the temperature track of a run: which Stop of the level can leave it behind on
an Off target, and what holds in a run without such a Stop. There a temperature
track leads to the temperature of an On target, and a runtime that has faded to Off
calls for one frame at all later times.

Does not own the level track.
-/

namespace KeyRight.App

open KeyRight.Core KeyRight.Support

variable {K H : Type}

/-- Every temperature track there is leads to the temperature of an On target. -/
def TemperatureAligned (track : Option TemperatureTransition) (target : LightState) : Prop :=
  ∀ fade, track = some fade → target.on = true ∧ fade.ramp.toValue = target.temperature.get

theorem TemperatureAligned.idle (target : LightState) : TemperatureAligned none target := nofun

theorem TemperatureAligned.active {fade : TemperatureTransition} {target : LightState}
    (on : target.on = true) (ends : fade.ramp.toValue = target.temperature.get) :
    TemperatureAligned (some fade) target := by
  rintro _ ⟨⟩
  exact ⟨on, ends⟩

theorem TemperatureAligned.filter {track : Option TemperatureTransition} {target : LightState}
    (aligned : TemperatureAligned track target) (keeps : TemperatureTransition → Bool) :
    TemperatureAligned (track.filter keeps) target :=
  fun fade active => aligned fade (Option.filter_eq_some_iff.mp active).1

/-- An Off target has no temperature track. -/
theorem TemperatureAligned.inactive {track : Option TemperatureTransition} {target : LightState}
    (aligned : TemperatureAligned track target) (dark : target.on = false) :
    track = none := by
  cases track with
  | none => rfl
  | some fade =>
      have on := (aligned fade rfl).1
      rw [dark] at on
      cases on

/-- A Stop of the level while both tracks run finds more than half of the least
nonzero brightness, so that it does not store Off. -/
def Runtime.StopsLit (r : Runtime K H) : Operation → Prop
  | .stopLevelTransition =>
      r.state.levelTransition = none ∨ r.state.temperatureTransition = none ∨
        ∀ frame ∈ r.state.controller.appliedFrame,
          OutputBrightness.DENOMINATOR / 2 < frame.brightness.get
  | _ => True

instance (r : Runtime K H) (operation : Operation) : Decidable (r.StopsLit operation) :=
  match operation with
  | .stopLevelTransition => inferInstanceAs (Decidable (_ ∨ _ ∨ _))
  | .tick _ | .request _ | .recallScene _ _ | .setPower _ | .setLevel _ _
  | .setLevelTransition _ _ _ | .setLevelRate _ _ _ | .setTemperature _
  | .setTemperatureTransition _ _ | .setTemperatureRate _ _ | .offWithEffect _
  | .stopTemperatureTransition | .setStartup _ | .setStartupLevel _ | .setStartupTemperature _
  | .off | .verify | .registers | .prepareReboot | .watchdogTestReady => isTrue trivial

/-! ### Plans -/

section

variable {s : State H} {now : Nat}

theorem TemperatureAligned.scene (aligned : TemperatureAligned s.temperatureTransition s.target)
    (target : LightState) (durationMs : Nat) :
    let plan := State.recallScenePlan target durationMs s now
    TemperatureAligned plan.temperatureTransition plan.target := by
  intro plan
  by_cases unchanged : target = s.target
  · rw [show plan = s.keep target from if_pos unchanged, unchanged]
    exact aligned
  · rw [show plan = _ from if_neg unchanged]
    dsimp only
    split
    · next lit => exact .active lit.2 rfl
    · exact .idle _

theorem TemperatureAligned.power (aligned : TemperatureAligned s.temperatureTransition s.target)
    (on : Bool) :
    let plan := State.setPowerPlan on s now
    TemperatureAligned plan.temperatureTransition plan.target := by
  intro plan
  by_cases unchanged : on = s.target.on
  · subst unchanged
    rw [show plan = s.keep s.target from if_pos rfl]
    exact aligned
  · rw [show plan = _ from if_neg unchanged]
    cases on with
    | false => exact .idle _
    | true =>
        have dark : s.target.on = false := by simpa using Ne.symm unchanged
        dsimp only
        rw [if_neg (by decide)]
        split
        · exact .active rfl rfl
        · rw [aligned.inactive dark]
          exact .idle _

theorem TemperatureAligned.level (aligned : TemperatureAligned s.temperatureTransition s.target)
    (level : UInt8) (valid : level ≠ 255) (withOnOff : Bool) (durationMs : Nat) (curve : Curve) :
    let plan := State.levelTransitionPlan level valid withOnOff durationMs curve s now
    TemperatureAligned plan.temperatureTransition plan.target := by
  intro plan
  have same : (s.levelTarget level valid withOnOff).temperature = s.target.temperature := rfl
  have cases_ := State.levelTransitionPlan_cases level valid withOnOff durationMs curve s now
  rcases cases_ with ⟨unchanged | ⟨_, darkBefore, _⟩, keeps⟩ | ⟨_, target, _, fades⟩
  · rw [show plan = _ from keeps, unchanged.1]
    exact aligned
  · rw [show plan = _ from keeps]
    change TemperatureAligned s.temperatureTransition _
    rw [aligned.inactive darkBefore]
    exact .idle _
  · rw [show plan.target = _ from target, show plan.temperatureTransition = _ from fades]
    cases on : (s.levelTarget level valid withOnOff).on with
    | false => exact .idle _
    | true =>
        rw [if_neg (by decide)]
        split
        · exact .active on rfl
        · exact fun fade active => ⟨on, (aligned fade active).2.trans (congrArg _ same.symm)⟩

theorem TemperatureAligned.temperature
    (aligned : TemperatureAligned s.temperatureTransition s.target)
    (temperature : ColorTemperature) (durationMs : Nat) (curve : Curve) :
    let plan := State.temperatureTransitionPlan temperature durationMs curve s now
    TemperatureAligned plan.temperatureTransition plan.target := by
  intro plan
  cases on : s.target.on with
  | false =>
      have kept : plan.temperatureTransition = s.temperatureTransition := if_neg (by simp [on])
      rw [kept, aligned.inactive on]
      exact .idle _
  | true =>
      by_cases changes : temperature ≠ s.target.temperature ∨ curve = .linear
      · rw [show plan.temperatureTransition = _ from if_pos ⟨on, changes⟩]
        split
        · exact .active on rfl
        · exact .idle _
      · have kept : plan.temperatureTransition = s.temperatureTransition :=
          if_neg fun moves => changes moves.2
        have same : temperature = s.target.temperature := by
          by_contra other
          exact changes (.inl other)
        rw [kept]
        exact fun fade active => ⟨on, (aligned fade active).2.trans (congrArg _ same.symm)⟩

/-- A Stop that finds enough brightness keeps the target On, at its temperature: the
level track of an On target freezes no colour. -/
theorem TemperatureAligned.stopLevel (aligned : TemperatureAligned s.temperatureTransition s.target)
    (level : LevelAligned s.levelTransition s.target)
    (lit : s.levelTransition = none ∨ s.temperatureTransition = none ∨
      ∀ frame ∈ s.controller.appliedFrame, OutputBrightness.DENOMINATOR / 2 < frame.brightness.get)
    {plan : Plan} (stops : State.stopLevelPlan s now = .ok (some plan)) :
    TemperatureAligned plan.temperatureTransition plan.target := by
  obtain ⟨stopped, applied, active, known, rfl⟩ := State.stopLevelPlan_cases stops
  rcases lit with inactive | inactive | lit
  · rw [inactive] at active
    cases active
  · rw [inactive]
    exact .idle _
  · intro fade fading
    obtain ⟨on, ends⟩ := aligned fade fading
    have thawed : stopped.offTemperature = none := by
      have freezes := (level stopped active).freezes
      rw [on] at freezes
      simpa using freezes
    refine ⟨decide_eq_true (lit applied known), ?_⟩
    rw [ends, thawed]
    rfl

/-- A plan for an aligned state is aligned, unless it is for a dim Stop. -/
theorem TemperatureAligned.plan {r : Runtime K H} {operation : Operation} {plan : Plan}
    (aligned : TemperatureAligned r.state.temperatureTransition r.state.target)
    (level : LevelAligned r.state.levelTransition r.state.target) (lit : r.StopsLit operation)
    (asked : Asked r.state r.now operation plan) :
    TemperatureAligned plan.temperatureTransition plan.target := by
  cases asked with
  | scene target durationMs is => exact aligned.scene target durationMs
  | power on is => exact aligned.power on
  | effect effect is => exact .idle _
  | level value valid withOnOff durationMs curve is =>
      exact aligned.level value valid withOnOff durationMs curve
  | temperature temperature durationMs curve => exact aligned.temperature temperature durationMs curve
  | stopLevel plan is stops =>
      subst is
      exact aligned.stopLevel level lit stops
  | stopTemperature plan is stops =>
      obtain ⟨_, _, _, _, rfl⟩ := State.stopTemperaturePlan_cases stops
      exact .idle _

end

/-! ### Frames of aligned tracks -/

namespace State

variable {s t : State H} {now : Nat}

theorem effective_dropLevel (target : t.target = s.target)
    (temperature : t.temperatureTransition = s.temperatureTransition)
    (level : t.levelTransition = (s.expire now).levelTransition) :
    t.effective now = s.effective now := by
  unfold effective
  rw [target, temperature, level, State.expire]
  cases s.levelTransition with
  | none => rfl
  | some track =>
      by_cases ended : track.remaining now = 0
      · rw [Option.filter_some, if_neg (by simp [ended])]
        simp only [if_pos ended]
      · rw [Option.filter_some, if_pos (by simp [ended])]

/-- A level track towards an On target leaves the temperature to the target. -/
theorem effective_temperature_of_still (still : s.temperatureTransition = none)
    (level : LevelAligned s.levelTransition s.target) (on : s.target.on = true) :
    (s.effective now).state.temperature = s.target.temperature := by
  unfold effective
  rw [still]
  cases active : s.levelTransition with
  | none => rfl
  | some track =>
      have thawed : track.offTemperature = none := by
        have freezes := (level track active).freezes
        rw [on] at freezes
        simpa using freezes
      simp only [thawed, Option.getD_none]
      split
      · rfl
      · rfl

/-- A fading temperature only replaces the temperature of the frame. -/
theorem effective_of_fading {fade : TemperatureTransition} (target : t.target = s.target)
    (level : t.levelTransition = s.levelTransition) (still : t.temperatureTransition = none)
    (fading : s.temperatureTransition = some fade) :
    s.effective now =
      { t.effective now with
        state := { (t.effective now).state with temperature := fade.temperature now } } := by
  unfold effective
  rw [fading, still, target, level]

theorem effective_dropTemperature (aligned : LevelAligned s.levelTransition s.target)
    (fades : TemperatureAligned s.temperatureTransition s.target) (target : t.target = s.target)
    (level : t.levelTransition = s.levelTransition)
    (temperature : t.temperatureTransition = (s.expire now).temperatureTransition) :
    t.effective now = s.effective now := by
  rw [State.expire] at temperature
  cases fading : s.temperatureTransition with
  | none =>
      rw [fading, Option.filter_none, ← fading] at temperature
      unfold effective
      rw [target, level, temperature]
  | some fade =>
      by_cases running : fade.remaining now = 0
      · rw [fading, Option.filter_some, if_neg (by simp [running])] at temperature
        obtain ⟨on, ends⟩ := fades fade fading
        have arrived : fade.temperature now = (t.effective now).state.temperature := by
          rw [effective_temperature_of_still temperature (by rw [level, target]; exact aligned)
            (by rw [target]; exact on), target]
          apply ColorTemperature.ext
          rw [TemperatureTransition.temperature_get, Transition.value_of_remaining running, ends]
        rw [effective_of_fading target level temperature fading, arrived]
      · rw [fading, Option.filter_some, if_pos (by simp [running]), ← fading] at temperature
        unfold effective
        rw [target, level, temperature]

/-- Dropping the tracks that have ended does not change the frame. -/
theorem effective_expire (aligned : LevelAligned s.levelTransition s.target)
    (fades : TemperatureAligned s.temperatureTransition s.target) :
    (s.expire now).effective now = s.effective now := by
  have dropped : State.effective { s with levelTransition := (s.expire now).levelTransition } now =
      s.effective now :=
    effective_dropLevel rfl rfl rfl
  rw [← dropped]
  exact effective_dropTemperature (aligned.filter _) fades rfl rfl rfl

/-- After a fade to Off, the frame does not depend on time. -/
theorem effective_of_dark (fades : TemperatureAligned s.temperatureTransition s.target)
    (dark : s.target.on = false) (faded : s.levelRemaining now = 0) :
    s.effective now = OutputFrame.fromState s.target := by
  unfold effective
  rw [fades.inactive dark]
  cases active : s.levelTransition with
  | none => rfl
  | some track =>
      rw [levelRemaining, active] at faded
      simp only [if_pos (show track.remaining now = 0 from faded)]

end State

end KeyRight.App
