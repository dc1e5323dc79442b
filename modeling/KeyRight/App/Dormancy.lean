import KeyRight.App.Temperature

/-!
Owns runs without a dim Stop: a temperature track always leads to the temperature of
an On target, an acknowledged frame is the one called for now, and after a fade to Off
a tick applies nothing to a known output.

Owns as well the run with a dim Stop that leaves a temperature track on an Off target.

Does not own the level track.
-/

namespace KeyRight.App

open KeyRight.Core KeyRight.Support

variable {K H : Type}

/-! ### Runs without a dim Stop -/

/-- Between operations the acknowledged frame is the one called for. A tick first
moves the clock. -/
def Runtime.ShowsAt (operation : Operation) : Phase → Runtime K H → Prop
  | .called, r => ¬operation.IsTick → shows r
  | .returned, r => shows r
  | _, _ => True
where
  shows (r : Runtime K H) : Prop :=
    ∀ frame, r.state.controller.appliedFrame = some frame → frame = r.state.effective r.now

structure Tempered (operation : Operation) (phase : Phase) (r : Runtime K H) : Prop where
  truthful : Truthful phase r
  tracked : Tracked r.state
  aligned : TemperatureAligned r.state.temperatureTransition r.state.target
  lit : phase = .called → r.StopsLit operation
  shows : r.ShowsAt operation phase

/-- An unknown output shows nothing. -/
theorem Runtime.ShowsAt.unknown {r : Runtime K H} (unknown : r.state.controller.appliedFrame = none) :
    ShowsAt.shows r := by
  intro frame known
  rw [unknown] at known
  cases known

/-- The frame called for stays acknowledged when the ended tracks are dropped. -/
theorem Runtime.ShowsAt.expire {r t : Runtime K H} (tracked : Tracked r.state)
    (aligned : TemperatureAligned r.state.temperatureTransition r.state.target)
    (acknowledged : t.state.controller.appliedFrame = some (r.state.effective r.now))
    (now : t.now = r.now)
    (effective : t.state.effective t.now = (r.state.expire r.now).effective t.now) :
    ShowsAt.shows t := by
  intro frame known
  rw [acknowledged] at known
  cases known
  rw [effective, now, State.effective_expire tracked.level aligned]

theorem TemperatureAligned.loaded {s : State H} (tracked : Tracked s) (pending : s.loadFault ≠ none)
    (saved : SavedState) :
    TemperatureAligned (s.loaded saved).temperatureTransition (s.loaded saved).target := by
  change TemperatureAligned s.temperatureTransition _
  rw [(tracked.unread pending).2]
  exact .idle _

section

variable [KvBlobStore K]

theorem TemperatureAligned.move {operation : Operation} {phase next : Phase} {r t : Runtime K H}
    (move : Move operation (phase, r) (next, t)) (tracked : Tracked r.state)
    (lit : phase = .called → r.StopsLit operation)
    (aligned : TemperatureAligned r.state.temperatureTransition r.state.target) :
    TemperatureAligned t.state.temperatureTransition t.state.target := by
  cases move with
  | load _ saved tick running pending due found => exact .loaded tracked (by simp [pending]) saved
  | plan _ plan writable asks => exact aligned.plan tracked.level (lit rfl) asks.asked
  | localOff _ hardware ok off readable => exact .idle _
  | deferOff _ hardware ok off pending => exact .idle _
  | ease _ hardware unknown => exact .idle _
  | rest _ tick same => exact aligned.filter _
  | check _ hardware tick same => exact aligned.filter _
  | checkFailed _ hardware tick same => exact aligned.filter _
  | steady _ same => exact aligned.filter _
  | apply _ hardware differs => exact aligned.filter _
  | _ => exact aligned

theorem Runtime.ShowsAt.move {operation : Operation} {phase next : Phase} {r t : Runtime K H}
    (move : Move operation (phase, r) (next, t)) (truthful : Truthful phase r)
    (tracked : Tracked r.state)
    (aligned : TemperatureAligned r.state.temperatureTransition r.state.target)
    (shows : r.ShowsAt operation phase) : t.ShowsAt operation next := by
  cases move with
  | clock _ now tick => exact fun timeless => absurd (tick ▸ trivial) timeless
  | leave _ other idle _ =>
      by_cases known : r.state.controller.appliedFrame = none
      · exact .unknown known
      · exact shows (known_leaves truthful idle known)
  | loadFailed _ fault tick running pending found => exact .unknown (truthful.unknown_of_pending pending)
  | deferOff _ hardware ok off pending => exact .unknown rfl
  | startup _ startup asked writable stored => exact shows asked.not_tick
  | startupRefused _ startup code asked writable refused => exact shows asked.not_tick
  | verified _ frame hardware check known => exact shows check.not_tick
  | read _ hardware registers => exact shows (by rw [registers]; exact id)
  | latch _ hardware ok reboot => exact .unknown rfl
  | storeFailed _ hardware ok code dirty refused => exact .unknown rfl
  | rest _ tick same => exact .expire tracked aligned same rfl rfl
  | check _ hardware tick same => exact .expire tracked aligned same rfl rfl
  | steady _ same => exact .expire tracked aligned same rfl rfl
  | apply _ hardware differs => exact .expire tracked aligned rfl rfl rfl
  | giveUp _ hardware ok => exact .unknown rfl
  | _ => trivial

theorem Tempered.move {operation : Operation} {phase next : Phase} {r t : Runtime K H}
    (move : Move operation (phase, r) (next, t)) (tempered : Tempered operation phase r) :
    Tempered operation next t := by
  obtain ⟨truthful, tracked, aligned, lit, shows⟩ := tempered
  refine ⟨truthful.move move, tracked.move move truthful, aligned.move move tracked lit, ?_,
    shows.move move truthful tracked aligned⟩
  rintro rfl
  cases move with
  | clock _ now tick =>
      rw [tick]
      trivial

end

section

variable [KvBlobStore K] [Hardware H]

open Program KeyRight.App.Runtime

/-- What holds between the operations of a run without a dim Stop. -/
structure Calm (r : Runtime K H) : Prop where
  truthful : Truthful .called r
  tracked : Tracked r.state
  aligned : TemperatureAligned r.state.temperatureTransition r.state.target
  shows : ShowsAt.shows r

theorem Calm.load (kv : K) (hardware : H) : Calm (Runtime.load kv hardware) :=
  ⟨.load kv hardware, .load kv hardware, .idle _, ShowsAt.unknown rfl⟩

theorem Calm.after {r : Runtime K H} (calm : Calm r) {operation : Operation}
    (lit : r.StopsLit operation) : Calm (r.after operation) := by
  have called : Tempered operation .called r :=
    ⟨calm.truthful, calm.tracked, calm.aligned, fun _ => lit, fun _ => calm.shows⟩
  have returned : Tempered operation .returned (r.after operation) :=
    (after_moves r operation).preserve (Tempered operation) Tempered.move called
  exact ⟨returned.truthful.again, returned.tracked, returned.aligned, returned.shows⟩

theorem Calm.run {r : Runtime K H} (calm : Calm r) {operations : List Operation}
    (lit : Along Runtime.after StopsLit r operations) : Calm (r.run operations) :=
  lit.invariant (fun _ _ lit calm => calm.after lit) calm

/-! ### Ticks after a fade to Off -/

/-- Faded to an Off target by some time, on a readable intent. -/
structure Faded (target : LightState) (faded : Nat) (r : Runtime K H) : Prop where
  readable : r.state.loadFault = none
  target : r.state.target = target
  passed : faded ≤ r.now
  level : ∀ track, r.state.levelTransition = some track → track.deadline ≤ faded

omit [KvBlobStore K] [Hardware H] in
theorem Faded.expire {target : LightState} {time : Nat} {r t : Runtime K H}
    (faded : Faded target time r) (readable : t.state.loadFault = r.state.loadFault)
    (same : t.state.target = r.state.target) (now : t.now = r.now)
    (level : t.state.levelTransition = (r.state.expire r.now).levelTransition) :
    Faded target time t := by
  refine ⟨readable.trans faded.readable, same.trans faded.target, now ▸ faded.passed, ?_⟩
  intro track active
  rw [level] at active
  exact faded.level track (Option.filter_eq_some_iff.mp active).1

omit [Hardware H] in
theorem Faded.move {target : LightState} {time now : Nat} (dark : target.on = false)
    (later : time ≤ now) {phase next : Phase} {r t : Runtime K H}
    (move : Move (.tick now) (phase, r) (next, t)) (faded : Faded target time r) :
    Faded target time t := by
  have all := faded
  obtain ⟨readable, same, passed, level⟩ := faded
  cases move with
  | clock _ now tick =>
      cases tick
      exact ⟨readable, same, later, level⟩
  | load _ saved tick running pending due found =>
      rw [readable] at pending
      cases pending
  | loadFailed _ fault tick running pending found =>
      rw [readable] at pending
      cases pending
  | plan _ plan writable asks => exact absurd trivial asks.not_tick
  | localOff _ hardware ok off _ => cases off
  | deferOff _ hardware ok off pending => cases off
  | repaired _ off => cases off
  | latch _ hardware ok reboot => cases reboot
  | ease _ hardware unknown =>
      refine ⟨readable, same, passed, fun track active => ?_⟩
      rw [← same] at dark
      simp [State.easeFromZero, dark] at active
  | rest _ tick same => exact all.expire rfl rfl rfl rfl
  | check _ hardware tick same => exact all.expire rfl rfl rfl rfl
  | checkFailed _ hardware tick same => exact all.expire rfl rfl rfl rfl
  | steady _ same => exact all.expire rfl rfl rfl rfl
  | apply _ hardware differs => exact all.expire rfl rfl rfl rfl
  | _ => exact ⟨readable, same, passed, level⟩

theorem Faded.run {target : LightState} (dark : target.on = false) {time : Nat} {r : Runtime K H}
    (faded : Faded target time r) {times : List Nat} (later : ∀ now ∈ times, time ≤ now) :
    Faded target time (r.run (times.map .tick)) := by
  induction times generalizing r with
  | nil => exact faded
  | cons now rest inductionHypothesis =>
      have ticked : Faded target time (r.after (.tick now)) :=
        (after_moves r (.tick now)).preserve (fun _ => Faded target time)
          (Faded.move dark (later now List.mem_cons_self)) faded
      exact inductionHypothesis ticked fun now member => later now (List.mem_cons_of_mem _ member)

/-- A tick that finds the frame it wants acknowledged applies nothing. -/
theorem Runtime.tick_rests {r : Runtime K H} (settled : Settled r.state) {now : Nat}
    (same : r.state.controller.appliedFrame = some (r.state.effective now)) :
    Ends (tick now) r fun _ t =>
      ∃ added, t.trace = added ++ r.trace ∧ ∀ event ∈ added, event.applies = false := by
  refine ends_tick settled (fun _ => ?_) fun differs => absurd same differs
  apply ends_rest
  · intro early
    exact ⟨[], rfl, by simp⟩
  · intro hardware
    exact ⟨[_], rfl, by simp [Event.applies]⟩
  · intro hardware left ok
    exact ⟨[_, _], rfl, by simp [Event.applies]⟩

/-- A tick of a calm runtime that has faded to Off and knows its output applies nothing. -/
theorem Faded.tick_rests {target : LightState} (dark : target.on = false) {time : Nat}
    {r : Runtime K H} (faded : Faded target time r) (calm : Calm r)
    (known : r.state.controller.appliedFrame ≠ none) {now : Nat} (later : time ≤ now) :
    ∀ event ∈ r.events (.tick now), event.applies = false := by
  have off : r.state.target.on = false := by rw [faded.target, dark]
  have override : ∀ moment, time ≤ moment → r.state.levelRemaining moment = 0 := by
    intro moment passed
    unfold State.levelRemaining
    cases active : r.state.levelTransition with
    | none => rfl
    | some track =>
        exact LevelTransition.remaining_eq_zero.mpr (Nat.le_trans (faded.level track active) passed)
  have same : r.state.controller.appliedFrame = some (r.state.effective now) := by
    obtain ⟨frame, acknowledged⟩ := Option.ne_none_iff_exists'.mp known
    rw [acknowledged, calm.shows frame acknowledged,
      State.effective_of_dark calm.aligned off (override r.now faded.passed),
      State.effective_of_dark calm.aligned off (override now later)]
  have settled : Settled r.state := ⟨known, calm.truthful.healthy nofun known, calm.truthful.clean known⟩
  have ends : Ends (done (tick now)) r fun _ t =>
      ∃ added, t.trace = added ++ r.trace ∧ ∀ event ∈ added, event.applies = false :=
    ends_done (Runtime.tick_rests settled same)
  obtain ⟨added, logged, harmless⟩ := ends
  have fresh : r.events (.tick now) = added := Runtime.events_eq logged
  exact fresh ▸ harmless

/-- A power command keeps the temperature of the target. -/
theorem Runtime.after_setPower_temperature (r : Runtime K H) (on : Bool) :
    (r.after (.setPower on)).state.target.temperature = r.state.target.temperature := by
  refine (after_moves r (.setPower on)).preserve
    (fun _ t => t.state.target.temperature = r.state.target.temperature) ?_ rfl
  intro phase next t u move same
  cases move with
  | load _ saved tick running pending due found => exact tick.elim
  | plan _ plan writable asks =>
      obtain ⟨planner, planning, answer⟩ := asks
      cases planning
      cases answer
      change (State.setPowerPlan on t.state t.now).target.temperature = _
      rw [State.setPowerPlan_target]
      exact same
  | _ => exact same

/-! ### Runs -/

/-- In every run without a dim Stop, a temperature track leads to the temperature of
an On target. After a fade to Off no temperature track is left, the frame called for
does not depend on time, no later tick applies a frame to a known output, and a later
On fades towards the temperature of the target. -/
theorem Runtime.run_temperatureTrack (kv : K) (hardware : H) (operations : List Operation)
    (lit : Along after StopsLit (load kv hardware) operations) :
    let r := run (load kv hardware) operations
    (∀ fade, r.state.temperatureTransition = some fade →
      r.state.target.on = true ∧ fade.ramp.toValue = r.state.target.temperature.get) ∧
    (r.state.target.on = false → r.levelRemainingMs = 0 →
      r.temperatureRemainingMs = 0 ∧
      (∀ later, r.now ≤ later → r.state.effective later = r.state.effective r.now) ∧
      (∀ times now, r.state.loadFault = none → (∀ time ∈ now :: times, r.now ≤ time) →
        let t := run r (times.map .tick)
        t.state.controller.appliedFrame ≠ none →
          ∀ event ∈ t.events (.tick now), event.applies = false) ∧
      ∀ fade, (r.after (.setPower true)).state.temperatureTransition = some fade →
        fade.ramp.toValue = r.state.target.temperature.get) := by
  intro r
  have calm : Calm r := (Calm.load kv hardware).run lit
  refine ⟨calm.aligned, fun dark ended => ⟨?_, fun later passed => ?_, ?_, fun fade active => ?_⟩⟩
  · rw [temperatureRemainingMs, State.temperatureRemaining, calm.aligned.inactive dark]
    rfl
  · have override : r.state.levelRemaining later = 0 :=
      State.levelRemaining_of_le (by rw [show r.state.levelRemaining r.now = 0 from ended]; exact passed)
    rw [State.effective_of_dark calm.aligned dark override,
      State.effective_of_dark calm.aligned dark ended]
  · intro times now readable later t known
    have faded : Faded r.state.target r.now r := by
      refine ⟨readable, rfl, Nat.le_refl _, fun track active => ?_⟩
      rw [levelRemainingMs, State.levelRemaining, active] at ended
      exact LevelTransition.remaining_eq_zero.mp ended
    have ticks : Along after StopsLit r (times.map .tick) := by
      refine Along.of_inputs (fun state operation member => ?_) r
      obtain ⟨time, _, rfl⟩ := List.mem_map.mp member
      trivial
    have ticked := faded.run dark fun time member => later time (List.mem_cons_of_mem _ member)
    exact ticked.tick_rests dark (calm.run ticks) known (later now List.mem_cons_self)
  · have powered := (calm.after (show r.StopsLit (.setPower true) from trivial)).aligned fade active
    rw [powered.2, after_setPower_temperature]

end

/-- A scene that was stopped well lit, and then faded to Off, rests. -/
theorem Runtime.run_temperatureTrack_stopped :
    let warm : ColorTemperature := ⟨200, by decide, by decide⟩
    let r := (bench none).run [.tick 0, .recallScene ⟨true, Level.DEFAULT, warm⟩ 60000,
      .tick 30000, .stopLevelTransition, .setPower false, .tick 30400]
    ∀ event ∈ (r.run [.tick 30500]).events (.tick 31000), event.applies = false :=
  ((run_temperatureTrack _ _ [.tick 0, .recallScene ⟨true, Level.DEFAULT, _⟩ 60000, .tick 30000,
    .stopLevelTransition, .setPower false, .tick 30400] (by decide +kernel)).2
      (by decide +kernel) (by decide +kernel)).2.2.1 [30500] 31000 (by decide +kernel)
        (by decide +kernel) (by decide +kernel)

/-- A Stop in the sub-minimum start of a fade stores Off, but keeps the temperature track
of the scene: it runs on, and the next tick applies a frame to the dark output. -/
theorem Runtime.run_temperatureTrack_broken :
    let warm : ColorTemperature := ⟨200, by decide, by decide⟩
    let r := (bench none).run [.tick 0, .recallScene ⟨true, Level.DEFAULT, warm⟩ 60000,
      .tick 5000, .stopLevelTransition]
    r.state.target.on = false ∧ r.levelRemainingMs = 0 ∧ r.temperatureRemainingMs = 55000 ∧
      r.state.effective 30000 ≠ r.state.effective r.now ∧
      ∃ event ∈ r.events (.tick 30000), event.applies = true := by
  decide +kernel

end KeyRight.App
