import KeyRight.App.Tracks

/-!
Owns how an acknowledged frame relates to the tracks that are left beside it, in every
reachable runtime: it has the brightness that they call for, and their temperature as long
as a track or an Off target decides it.

Does not own what a command makes of the tracks.
-/

namespace KeyRight.App

open KeyRight.Core KeyRight.Support

variable {K H : Type}

/-! ### Two tracks -/

/-- A fade to Off has no temperature track beside it. -/
def FadesAlone (level : Option LevelTransition) (temperature : Option TemperatureTransition)
    (target : LightState) : Prop :=
  target.on = false → level ≠ none → temperature = none

theorem FadesAlone.still (level : Option LevelTransition) (target : LightState) :
    FadesAlone level none target := fun _ _ => rfl

/-- Only the power of the target matters. -/
theorem FadesAlone.retarget {level : Option LevelTransition}
    {temperature : Option TemperatureTransition} {before target : LightState}
    (alone : FadesAlone level temperature before) (on : target.on = before.on) :
    FadesAlone level temperature target :=
  fun dark active => alone (on.symm.trans dark) active

theorem FadesAlone.filter {level : Option LevelTransition}
    {temperature : Option TemperatureTransition} {target : LightState}
    (alone : FadesAlone level temperature target) (keepsLevel : LevelTransition → Bool)
    (keepsTemperature : TemperatureTransition → Bool) :
    FadesAlone (level.filter keepsLevel) (temperature.filter keepsTemperature) target := by
  intro dark active
  have fading : level ≠ none := by
    rintro rfl
    exact active rfl
  rw [alone dark fading]
  rfl

/-- A plan for a fade that is alone leaves it alone. -/
theorem FadesAlone.plan {s : State H} {now : Nat} {operation : Operation} {plan : Plan}
    (alone : FadesAlone s.levelTransition s.temperatureTransition s.target)
    (asked : Asked s now operation plan) :
    FadesAlone plan.levelTransition plan.temperatureTransition plan.target := by
  cases asked with
  | scene target durationMs is =>
      by_cases unchanged : target = s.target
      · rw [State.recallScenePlan, if_pos unchanged, unchanged]
        exact alone
      · rw [State.recallScenePlan, if_neg unchanged]
        intro dark _
        exact if_neg fun lit => by simp [show target.on = false from dark] at lit
  | power on is =>
      by_cases unchanged : on = s.target.on
      · simp only [State.setPowerPlan, if_pos unchanged]
        exact alone.retarget unchanged
      · simp only [State.setPowerPlan, if_neg unchanged]
        intro dark _
        exact if_pos (by simpa using dark)
  | effect effect is => exact .still _ _
  | level level valid withOnOff durationMs curve is =>
      have cases_ := State.levelTransitionPlan_cases level valid withOnOff durationMs curve s now
      rcases cases_ with ⟨unchanged | ⟨dark, darkBefore, _⟩, keeps⟩ | ⟨_, target, _, fades⟩
      · rw [keeps, unchanged.1]
        exact alone
      · rw [keeps]
        exact alone.retarget (dark.trans darkBefore.symm)
      · rw [target, fades]
        intro dark _
        exact if_pos (by simpa using dark)
  | temperature temperature durationMs curve =>
      intro dark active
      have darkBefore : s.target.on = false := dark
      have kept : (State.temperatureTransitionPlan temperature durationMs curve s now).temperatureTransition
          = s.temperatureTransition := if_neg (by simp [darkBefore])
      rw [kept]
      exact alone darkBefore active
  | stopLevel plan is stops =>
      obtain ⟨_, _, _, _, rfl⟩ := State.stopLevelPlan_cases stops
      exact fun _ active => absurd rfl active
  | stopTemperature plan is stops =>
      obtain ⟨_, _, _, _, rfl⟩ := State.stopTemperaturePlan_cases stops
      exact .still _ _

theorem FadesAlone.move [KvBlobStore K] {operation : Operation} {phase next : Phase}
    {r t : Runtime K H} (move : Move operation (phase, r) (next, t)) (tracked : Tracked r.state)
    (alone : FadesAlone r.state.levelTransition r.state.temperatureTransition r.state.target) :
    FadesAlone t.state.levelTransition t.state.temperatureTransition t.state.target := by
  cases move with
  | load _ saved tick running pending due found =>
      intro _ active
      exact absurd (tracked.unread (by simp [pending])).1 active
  | plan _ plan writable asks => exact alone.plan asks.asked
  | localOff => exact .still _ _
  | deferOff => exact .still _ _
  | ease => exact .still _ _
  | rest _ tick same => exact alone.filter _ _
  | check _ hardware tick same => exact alone.filter _ _
  | checkFailed _ hardware tick same => exact alone.filter _ _
  | steady _ same => exact alone.filter _ _
  | apply _ hardware differs => exact alone.filter _ _
  | _ => exact alone

/-! ### Frames of the tracks -/

namespace State

variable {s t : State H} {now : Nat}

/-- Only the tracks and the target are called for. -/
theorem effective_congr (target : t.target = s.target)
    (level : t.levelTransition = s.levelTransition)
    (temperature : t.temperatureTransition = s.temperatureTransition) :
    t.effective now = s.effective now := by
  unfold effective
  rw [target, level, temperature]

theorem effective_temperature_of_fading {fade : TemperatureTransition}
    (fading : s.temperatureTransition = some fade) :
    (s.effective now).state.temperature = fade.temperature now := by
  unfold effective
  rw [fading]

theorem effective_temperature_of_running {track : LevelTransition}
    (still : s.temperatureTransition = none) (active : s.levelTransition = some track)
    (running : track.remaining now ≠ 0) :
    (s.effective now).state.temperature = track.offTemperature.getD s.target.temperature := by
  unfold effective
  rw [still, active]
  simp only [if_neg running]

theorem effective_temperature_of_idle (still : s.temperatureTransition = none)
    (idle : s.levelTransition = none) :
    (s.effective now).state.temperature = s.target.temperature := by
  unfold effective
  rw [still, idle]
  rfl

/-- An Off target is only lit by a running level track. -/
theorem running_of_lit (dark : s.target.on = false)
    (lit : (s.effective now).brightness ≠ OutputBrightness.ZERO) :
    ∃ track, s.levelTransition = some track ∧ track.remaining now ≠ 0 := by
  cases active : s.levelTransition with
  | none =>
      rw [effective_brightness_of_none active, OutputFrame.fromState_brightness_of_off dark] at lit
      exact absurd rfl lit
  | some track =>
      refine ⟨track, rfl, fun ended => ?_⟩
      rw [effective_brightness_of_ended active ended,
        OutputFrame.fromState_brightness_of_off dark] at lit
      exact lit rfl

/-- A dark frame of an On target is the start of a level track. -/
theorem effective_level_of_dark (on : s.target.on = true)
    (dark : (s.effective now).brightness = OutputBrightness.ZERO) :
    (s.effective now).state.level = Level.MIN := by
  have bright : (OutputFrame.fromState s.target).brightness ≠ OutputBrightness.ZERO := by
    rw [OutputFrame.fromState_brightness_of_on on]
    exact OutputBrightness.fromLevel_ne_zero s.target.level
  cases active : s.levelTransition with
  | none =>
      rw [effective_brightness_of_none active] at dark
      exact absurd dark bright
  | some track =>
      by_cases ended : track.remaining now = 0
      · rw [effective_brightness_of_ended active ended] at dark
        exact absurd dark bright
      · rw [effective_brightness_of_running active ended] at dark
        unfold effective
        rw [active]
        simp only [if_neg ended, dark]
        cases s.temperatureTransition with
        | none => rfl
        | some fade => rfl

end State

/-! ### Acknowledged frames -/

/-- The tracks are running. -/
structure Live (s : State H) (now : Nat) : Prop where
  level : ∀ track, s.levelTransition = some track → track.remaining now ≠ 0
  temperature : ∀ fade, s.temperatureTransition = some fade → fade.remaining now ≠ 0

theorem Live.expired {s t : State H} {now : Nat}
    (level : t.levelTransition = (s.expire now).levelTransition)
    (temperature : t.temperatureTransition = (s.expire now).temperatureTransition) : Live t now := by
  constructor
  · intro track active
    rw [level] at active
    simpa using (Option.filter_eq_some_iff.mp active).2
  · intro fade active
    rw [temperature] at active
    simpa using (Option.filter_eq_some_iff.mp active).2

/-- A running level track is kept. -/
theorem State.expire_running {s : State H} {now : Nat}
    (running : ∀ track, s.levelTransition = some track → track.remaining now ≠ 0) :
    (s.expire now).levelTransition = s.levelTransition := by
  cases active : s.levelTransition with
  | none => rw [State.expire, active, Option.filter_none]
  | some track => rw [State.expire, active, Option.filter_some, if_pos (by simpa using running track active)]

theorem Live.expire_level {s : State H} {now : Nat} (live : Live s now) :
    (s.expire now).levelTransition = s.levelTransition := State.expire_running live.level

theorem Live.expire_temperature {s : State H} {now : Nat} (live : Live s now) :
    (s.expire now).temperatureTransition = s.temperatureTransition := by
  cases fading : s.temperatureTransition with
  | none => rw [State.expire, fading, Option.filter_none]
  | some fade =>
      rw [State.expire, fading, Option.filter_some, if_pos (by simpa using live.temperature fade fading)]

/-- The frame is what the state calls for now, except that a temperature may have been
reached which is not the target's. -/
structure Shows (s : State H) (now : Nat) (frame : OutputFrame) : Prop where
  power : frame.state.on = decide (frame.brightness ≠ OutputBrightness.ZERO)
  brightness : frame.brightness = (s.effective now).brightness
  temperature : frame.brightness ≠ OutputBrightness.ZERO →
    (s.target.on = true → s.temperatureTransition ≠ none) →
      frame.state.temperature = (s.effective now).state.temperature
  start : s.target.on = true → frame.brightness = OutputBrightness.ZERO →
    frame.state.level = Level.MIN

/-- The frame called for before the ended tracks are dropped. -/
theorem Shows.expired {s t : State H} {now : Nat}
    (alone : FadesAlone s.levelTransition s.temperatureTransition s.target)
    (target : t.target = s.target) (level : t.levelTransition = (s.expire now).levelTransition)
    (temperature : t.temperatureTransition = (s.expire now).temperatureTransition) :
    Shows t now (s.effective now) := by
  refine ⟨State.effective_on s now,
    (effective_brightness_expire (Nat.le_refl now) target level).symm, ?_, ?_⟩
  · intro lit decided
    cases fading : t.temperatureTransition with
    | some fade =>
        have before : s.temperatureTransition = some fade :=
          (Option.filter_eq_some_iff.mp (temperature.symm.trans fading)).1
        rw [State.effective_temperature_of_fading before, State.effective_temperature_of_fading fading]
    | none =>
        have dark : s.target.on = false := by
          rw [← target]
          by_contra on
          exact decided (by simpa using on) fading
        obtain ⟨track, active, running⟩ := State.running_of_lit dark lit
        have still : s.temperatureTransition = none := alone dark (by simp [active])
        have kept : t.levelTransition = some track := by
          rw [level, State.expire, active, Option.filter_some, if_pos (by simpa using running)]
        rw [State.effective_temperature_of_running still active running,
          State.effective_temperature_of_running fading kept running, target]
  · intro on dark
    rw [target] at on
    exact State.effective_level_of_dark on dark

theorem Shows.congr {s t : State H} {now : Nat} {frame : OutputFrame} (shows : Shows s now frame)
    (target : t.target = s.target) (level : t.levelTransition = s.levelTransition)
    (temperature : t.temperatureTransition = s.temperatureTransition) : Shows t now frame := by
  have same : t.effective now = s.effective now := State.effective_congr target level temperature
  refine ⟨shows.power, ?_, ?_, ?_⟩
  · rw [same]
    exact shows.brightness
  · rw [same, target, temperature]
    exact shows.temperature
  · rw [target]
    exact shows.start

theorem Live.congr {s t : State H} {now : Nat} (live : Live s now)
    (level : t.levelTransition = s.levelTransition)
    (temperature : t.temperatureTransition = s.temperatureTransition) : Live t now :=
  ⟨level ▸ live.level, temperature ▸ live.temperature⟩

/-! ### Frames at rest -/

/-- A property of the acknowledged frame that holds between operations. A tick first
moves the clock. -/
def Runtime.AtRest (holds : Runtime K H → OutputFrame → Prop) (operation : Operation) :
    Phase → Runtime K H → Prop
  | .called, r => ¬operation.IsTick → resting r
  | .returned, r => resting r
  | _, _ => True
where
  resting (r : Runtime K H) : Prop :=
    ∀ frame, r.state.controller.appliedFrame = some frame → holds r frame

/-- The property depends on the time, the target and the tracks alone, and holds of a frame
that was called for before the ended tracks were dropped. -/
structure Runtime.RestRule (holds : Runtime K H → OutputFrame → Prop) : Prop where
  keep : ∀ {r t : Runtime K H} {frame : OutputFrame}, t.now = r.now →
    t.state.target = r.state.target → t.state.levelTransition = r.state.levelTransition →
    t.state.temperatureTransition = r.state.temperatureTransition → holds r frame → holds t frame
  expired : ∀ {r t : Runtime K H},
    FadesAlone r.state.levelTransition r.state.temperatureTransition r.state.target →
    t.now = r.now → t.state.target = r.state.target →
    t.state.levelTransition = (r.state.expire r.now).levelTransition →
    t.state.temperatureTransition = (r.state.expire r.now).temperatureTransition →
    holds t (r.state.effective r.now)

section

variable {holds : Runtime K H → OutputFrame → Prop} {r t : Runtime K H}

theorem Runtime.AtRest.unknown (unknown : r.state.controller.appliedFrame = none) :
    AtRest.resting holds r := by
  intro frame known
  rw [unknown] at known
  cases known

/-- What a call leaves that is not about the light. -/
theorem Runtime.AtRest.keep (rule : RestRule holds) (resting : AtRest.resting holds r)
    (applied : t.state.controller.appliedFrame = r.state.controller.appliedFrame)
    (now : t.now = r.now) (target : t.state.target = r.state.target)
    (level : t.state.levelTransition = r.state.levelTransition)
    (temperature : t.state.temperatureTransition = r.state.temperatureTransition) :
    AtRest.resting holds t := by
  intro frame known
  exact rule.keep now target level temperature (resting frame (applied.symm.trans known))

theorem Runtime.AtRest.expired (rule : RestRule holds)
    (alone : FadesAlone r.state.levelTransition r.state.temperatureTransition r.state.target)
    (acknowledged : t.state.controller.appliedFrame = some (r.state.effective r.now))
    (now : t.now = r.now) (target : t.state.target = r.state.target)
    (level : t.state.levelTransition = (r.state.expire r.now).levelTransition)
    (temperature : t.state.temperatureTransition = (r.state.expire r.now).temperatureTransition) :
    AtRest.resting holds t := by
  intro frame known
  rw [acknowledged] at known
  cases known
  exact rule.expired alone now target level temperature

theorem Runtime.AtRest.move [KvBlobStore K] (rule : RestRule holds) {operation : Operation}
    {phase next : Phase} (move : Move operation (phase, r) (next, t)) (truthful : Truthful phase r)
    (alone : FadesAlone r.state.levelTransition r.state.temperatureTransition r.state.target)
    (resting : AtRest holds operation phase r) : AtRest holds operation next t := by
  cases move with
  | clock _ now tick => exact fun timeless => absurd (tick ▸ trivial) timeless
  | leave _ other idle _ =>
      by_cases known : r.state.controller.appliedFrame = none
      · exact .unknown known
      · exact resting (known_leaves truthful idle known)
  | loadFailed _ fault tick running pending found => exact .unknown (truthful.unknown_of_pending pending)
  | deferOff _ hardware ok off pending => exact .unknown rfl
  | startup _ startup asked writable stored =>
      exact .keep rule (resting asked.not_tick) rfl rfl rfl rfl rfl
  | startupRefused _ startup code asked writable refused =>
      exact .keep rule (resting asked.not_tick) rfl rfl rfl rfl rfl
  | verified _ frame hardware check known =>
      exact .keep rule (resting check.not_tick) rfl rfl rfl rfl rfl
  | read _ hardware registers =>
      exact .keep rule (resting (by rw [registers]; exact id)) rfl rfl rfl rfl rfl
  | latch _ hardware ok reboot => exact .unknown rfl
  | storeFailed _ hardware ok code dirty refused => exact .unknown rfl
  | rest _ tick same => exact .expired rule alone same rfl rfl rfl rfl
  | check _ hardware tick same => exact .expired rule alone same rfl rfl rfl rfl
  | steady _ same => exact .expired rule alone same rfl rfl rfl rfl
  | apply _ hardware differs => exact .expired rule alone rfl rfl rfl rfl rfl
  | giveUp _ hardware ok => exact .unknown rfl
  | _ => trivial

end

/-! ### Reachable frames -/

/-- An acknowledged frame is shown by running tracks. -/
theorem Runtime.shown_rule : RestRule (K := K) (H := H)
    fun r frame => Shows r.state r.now frame ∧ Live r.state r.now where
  keep := by
    intro r t frame now target level temperature composed
    rw [now]
    exact ⟨composed.1.congr target level temperature, composed.2.congr level temperature⟩
  expired := by
    intro r t alone now target level temperature
    rw [now]
    exact ⟨.expired alone target level temperature, .expired level temperature⟩

section

variable [KvBlobStore K]

/-- What holds between operations. -/
structure Composed (r : Runtime K H) : Prop where
  truthful : Truthful .called r
  tracked : Tracked r.state
  alone : FadesAlone r.state.levelTransition r.state.temperatureTransition r.state.target
  composed : ∀ frame, r.state.controller.appliedFrame = some frame →
    Shows r.state r.now frame ∧ Live r.state r.now

variable [Hardware H]

theorem Composed.load (kv : K) (hardware : H) : Composed (Runtime.load kv hardware) := by
  refine ⟨.load kv hardware, .load kv hardware, .still _ _, ?_⟩
  intro frame known
  cases known

/-- An operation takes frames at rest to frames at rest. -/
theorem Runtime.after_rests {holds : Runtime K H → OutputFrame → Prop} (rule : RestRule holds)
    {r : Runtime K H} (truthful : Truthful .called r) (tracked : Tracked r.state)
    (alone : FadesAlone r.state.levelTransition r.state.temperatureTransition r.state.target)
    (resting : AtRest.resting holds r) (operation : Operation) :
    Truthful .called (r.after operation) ∧ Tracked (r.after operation).state ∧
      FadesAlone (r.after operation).state.levelTransition
        (r.after operation).state.temperatureTransition (r.after operation).state.target ∧
      AtRest.resting holds (r.after operation) := by
  have returned := (after_moves r operation).preserve
    (fun phase t => Truthful phase t ∧ Tracked t.state ∧
      FadesAlone t.state.levelTransition t.state.temperatureTransition t.state.target ∧
        AtRest holds operation phase t)
    (fun move before => ⟨before.1.move move, before.2.1.move move before.1,
      before.2.2.1.move move before.2.1, before.2.2.2.move rule move before.1 before.2.2.1⟩)
    ⟨truthful, tracked, alone, fun _ => resting⟩
  exact ⟨returned.1.again, returned.2⟩

theorem Composed.after {r : Runtime K H} (composed : Composed r) (operation : Operation) :
    Composed (r.after operation) := by
  obtain ⟨truthful, tracked, alone, shown⟩ := Runtime.after_rests Runtime.shown_rule
    composed.truthful composed.tracked composed.alone composed.composed operation
  exact ⟨truthful, tracked, alone, shown⟩

theorem Runtime.Reachable.composed {r : Runtime K H} (reachable : r.Reachable) : Composed r :=
  reachable.invariant Composed.load fun _ operation composed => composed.after operation

/-- What rests on the time, the target and the tracks holds of every acknowledged frame
between operations. -/
theorem Runtime.Reachable.rests {holds : Runtime K H → OutputFrame → Prop} (rule : RestRule holds)
    {r : Runtime K H} (reachable : r.Reachable) : AtRest.resting holds r := by
  have boot : ∀ (kv : K) (hardware : H),
      Composed (Runtime.load kv hardware) ∧ AtRest.resting holds (Runtime.load kv hardware) :=
    fun kv hardware => ⟨.load kv hardware, AtRest.unknown rfl⟩
  have step : ∀ (r : Runtime K H) (operation : Operation), Composed r ∧ AtRest.resting holds r →
      Composed (r.after operation) ∧ AtRest.resting holds (r.after operation) := by
    intro r operation before
    obtain ⟨composed, resting⟩ := before
    exact ⟨composed.after operation,
      (after_rests rule composed.truthful composed.tracked composed.alone resting operation).2.2.2⟩
  have both : Composed r ∧ AtRest.resting holds r := reachable.invariant boot step
  exact both.2

omit [KvBlobStore K] [Hardware H] in
theorem Composed.shows {r : Runtime K H} (composed : Composed r) {frame : OutputFrame}
    (known : r.state.controller.appliedFrame = some frame) : Shows r.state r.now frame :=
  (composed.composed frame known).1

omit [KvBlobStore K] [Hardware H] in
theorem Composed.live {r : Runtime K H} (composed : Composed r)
    (known : r.state.controller.appliedFrame ≠ none) : Live r.state r.now := by
  obtain ⟨frame, known⟩ := Option.ne_none_iff_exists'.mp known
  exact (composed.composed frame known).2

end

end KeyRight.App
