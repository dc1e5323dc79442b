import KeyRight.App.Glide

/-!
Owns what the two tracks of a reachable runtime lead to: a level track ends at the
brightness of the durable target and freezes a colour exactly on its way to Off, and
a runtime whose saved intent could not be read has no track.

Does not own the frames that are acknowledged on the way, or the condition under which
a temperature track leads to the target.
-/

namespace KeyRight.App

open KeyRight.Core KeyRight.Support

variable {K H : Type}

/-! ### Level tracks -/

/-- The track leads to the target's brightness, and freezes a colour if the target is Off. -/
structure LevelTransition.EndsAt (track : LevelTransition) (target : LightState) : Prop where
  brightness : track.last.toValue = (OutputFrame.fromState target).brightness.get
  freezes : track.offTemperature.isSome = !target.on

/-- Every level track there is leads to the target. -/
def LevelAligned (track : Option LevelTransition) (target : LightState) : Prop :=
  ∀ level, track = some level → level.EndsAt target

theorem LevelAligned.idle (target : LightState) : LevelAligned none target := nofun

theorem LevelAligned.active {track : LevelTransition} {target : LightState}
    (ends : track.EndsAt target) : LevelAligned (some track) target := by
  rintro _ ⟨⟩
  exact ends

theorem LevelAligned.filter {track : Option LevelTransition} {target : LightState}
    (aligned : LevelAligned track target) (keeps : LevelTransition → Bool) :
    LevelAligned (track.filter keeps) target :=
  fun level active => aligned level (Option.filter_eq_some_iff.mp active).1

theorem LevelAligned.ite {condition : Prop} [Decidable condition] {track : LevelTransition}
    {target : LightState} (ends : condition → track.EndsAt target) :
    LevelAligned (if condition then some track else none) target := by
  split
  · next met => exact .active (ends met)
  · exact .idle target

/-- Only the power and the brightness of the target matter to a level track. -/
theorem LevelAligned.retarget {track : Option LevelTransition} {before target : LightState}
    (aligned : LevelAligned track before) (on : target.on = before.on)
    (brightness : (OutputFrame.fromState target).brightness =
      (OutputFrame.fromState before).brightness) : LevelAligned track target := by
  intro level active
  obtain ⟨ends, freezes⟩ := aligned level active
  exact ⟨by rw [brightness, ends], by rw [on, freezes]⟩

theorem fromState_brightness_off {target before : LightState} (dark : target.on = false)
    (darkBefore : before.on = false) :
    (OutputFrame.fromState target).brightness = (OutputFrame.fromState before).brightness := by
  rw [OutputFrame.fromState_brightness_of_off dark,
    OutputFrame.fromState_brightness_of_off darkBefore]

namespace LevelTransition

/-- The last phase carries a level track over its deadline. -/
theorem value_of_deadline {track : LevelTransition} {now : Nat} (ended : track.remaining now = 0) :
    track.value now = track.last.toValue := by
  rw [remaining_eq_zero] at ended
  have started : track.last.start ≤ now := Nat.le_trans (Nat.le_add_right _ _) ended
  have last : track.phase now = track.last := by
    unfold phase LevelTransition.last at *
    cases next : track.thenRamp with
    | none => rfl
    | some ramp =>
        rw [next, Option.getD_some] at started
        rw [Option.filter_some, if_pos (decide_eq_true started)]
  rw [value, last]
  exact Transition.value_of_elapsed ended

end LevelTransition

namespace State

variable {s : State H} {now : Nat}

theorem levelFade_endsAt (target : LightState) (duration : Nat) (curve : Curve) :
    (s.levelFade now target duration curve).EndsAt target := by
  refine ⟨rfl, ?_⟩
  cases on : target.on with
  | true => simp [levelFade, on]
  | false => simp [levelFade, on]

/-- Every effect ends dark: the effects of one phase have a dark middle. -/
theorem effectFade_endsAt {target : LightState} (dark : target.on = false) (current : OutputFrame)
    (effect : OffEffect) :
    let (middle, first, last) := effectPhases current.brightness effect
    (effectFade current now middle first last).EndsAt target := by
  cases effect with
  | fastFade =>
      exact ⟨by rw [OutputFrame.fromState_brightness_of_off dark]; rfl, by rw [dark]; rfl⟩
  | noFade =>
      exact ⟨by rw [OutputFrame.fromState_brightness_of_off dark]; rfl, by rw [dark]; rfl⟩
  | slowFade =>
      exact ⟨by rw [OutputFrame.fromState_brightness_of_off dark]; rfl, by rw [dark]; rfl⟩
  | dyingLight =>
      exact ⟨by rw [OutputFrame.fromState_brightness_of_off dark]; rfl, by rw [dark]; rfl⟩

end State

/-- A plan for an aligned state is aligned. -/
theorem LevelAligned.plan {s : State H} {now : Nat} {operation : Operation} {plan : Plan}
    (aligned : LevelAligned s.levelTransition s.target) (asked : Asked s now operation plan) :
    LevelAligned plan.levelTransition plan.target := by
  cases asked with
  | scene target durationMs is =>
      by_cases unchanged : target = s.target
      · rw [State.recallScenePlan, if_pos unchanged]
        simpa only [State.keep, unchanged] using aligned
      · rw [State.recallScenePlan, if_neg unchanged]
        exact .ite fun _ => State.levelFade_endsAt target _ _
  | power on is =>
      by_cases unchanged : on = s.target.on
      · simp only [State.setPowerPlan, if_pos unchanged]
        exact aligned.retarget unchanged (congrArg (fun on => (OutputFrame.fromState
          { s.target with on := on }).brightness) unchanged)
      · simp only [State.setPowerPlan, if_neg unchanged]
        exact .active (State.levelFade_endsAt _ _ _)
  | effect effect is =>
      exact .ite fun _ => State.effectFade_endsAt rfl s.currentFrame effect
  | level level valid withOnOff durationMs curve is =>
      have cases_ := State.levelTransitionPlan_cases level valid withOnOff durationMs curve s now
      rcases cases_ with ⟨unchanged | ⟨dark, darkBefore, _⟩, keeps⟩ | ⟨_, target, fades, _⟩
      · rw [keeps, unchanged.1]
        exact aligned
      · rw [keeps]
        exact aligned.retarget (dark.trans darkBefore.symm) (fromState_brightness_off dark darkBefore)
      · rw [target, fades]
        exact .ite fun _ => State.levelFade_endsAt _ _ _
  | temperature temperature durationMs curve => exact aligned.retarget rfl rfl
  | stopLevel plan is stops =>
      obtain ⟨_, _, _, _, rfl⟩ := State.stopLevelPlan_cases stops
      exact .idle _
  | stopTemperature plan is stops =>
      obtain ⟨_, _, _, _, rfl⟩ := State.stopTemperaturePlan_cases stops
      exact aligned.retarget rfl rfl

/-! ### Reachable tracks -/

structure Tracked (s : State H) : Prop where
  level : LevelAligned s.levelTransition s.target
  unread : s.loadFault ≠ none → s.levelTransition = none ∧ s.temperatureTransition = none

theorem Tracked.expire {s : State H} (tracked : Tracked s) (now : Nat) : Tracked (s.expire now) := by
  refine ⟨tracked.level.filter _, fun unread => ?_⟩
  obtain ⟨level, temperature⟩ := tracked.unread unread
  constructor
  · simp [State.expire, level]
  · simp [State.expire, temperature]

/-- A load finds no track. -/
theorem Tracked.loaded {s : State H} (tracked : Tracked s) (pending : s.loadFault ≠ none)
    (saved : SavedState) : Tracked (s.loaded saved) := by
  have inactive := tracked.unread pending
  refine ⟨?_, fun _ => inactive⟩
  change LevelAligned s.levelTransition _
  rw [inactive.1]
  exact .idle _

theorem State.easeFromZero_aligned (s : State H) (now : Nat) :
    LevelAligned (s.easeFromZero now).levelTransition (s.easeFromZero now).target := by
  refine .ite fun on => ⟨?_, (congrArg not on).symm⟩
  rw [OutputFrame.fromState_brightness_of_on (show (s.easeFromZero now).target.on = true from on)]
  rfl

theorem Tracked.move [KvBlobStore K] {operation : Operation} {phase next : Phase}
    {r t : Runtime K H} (move : Move operation (phase, r) (next, t))
    (truthful : Truthful phase r) (tracked : Tracked r.state) : Tracked t.state := by
  cases move with
  | clock _ now tick => exact tracked
  | leave _ other _ _ => exact tracked
  | resume _ tick running due => exact tracked
  | load _ saved tick running pending due found =>
      exact tracked.loaded (by simp [pending]) saved
  | loadFailed _ fault tick running pending found =>
      exact ⟨tracked.level, fun _ => tracked.unread (by simp [pending])⟩
  | plan _ plan writable asks =>
      exact ⟨tracked.level.plan asks.asked, fun unread => absurd writable.2 unread⟩
  | localOff _ hardware ok off readable => exact ⟨.idle _, fun _ => ⟨rfl, rfl⟩⟩
  | deferOff _ hardware ok off pending => exact ⟨.idle _, fun _ => ⟨rfl, rfl⟩⟩
  | startup _ startup asked writable stored => exact ⟨tracked.level, tracked.unread⟩
  | startupRefused _ startup code asked writable refused => exact ⟨tracked.level, tracked.unread⟩
  | verified _ frame hardware check known => exact ⟨tracked.level, tracked.unread⟩
  | refuted _ frame hardware check known => exact ⟨tracked.level, tracked.unread⟩
  | read _ hardware registers => exact ⟨tracked.level, tracked.unread⟩
  | unread _ hardware registers => exact ⟨tracked.level, tracked.unread⟩
  | latch _ hardware ok reboot => exact ⟨tracked.level, tracked.unread⟩
  | clean _ clean => exact tracked
  | store _ dirty stored => exact ⟨tracked.level, tracked.unread⟩
  | storeFailed _ hardware ok code dirty refused => exact ⟨tracked.level, tracked.unread⟩
  | proceed _ readable => exact tracked
  | repaired _ off => exact ⟨tracked.level, fun unread => absurd rfl unread⟩
  | unstopped _ off => exact tracked
  | known _ known => exact tracked
  | ease _ hardware unknown =>
      exact ⟨State.easeFromZero_aligned r.state r.now, fun unread => absurd truthful.clean.2 unread⟩
  | unproven _ hardware unknown => exact ⟨tracked.level, tracked.unread⟩
  | rest _ tick same => exact tracked.expire r.now
  | check _ hardware tick same =>
      have expired := tracked.expire r.now
      exact ⟨expired.level, expired.unread⟩
  | checkFailed _ hardware tick same =>
      have expired := tracked.expire r.now
      exact ⟨expired.level, expired.unread⟩
  | steady _ same =>
      have expired := tracked.expire r.now
      exact ⟨expired.level, expired.unread⟩
  | apply _ hardware differs =>
      have expired := tracked.expire r.now
      exact ⟨expired.level, expired.unread⟩
  | applyFailed _ hardware differs => exact ⟨tracked.level, tracked.unread⟩
  | giveUp _ hardware ok => exact ⟨tracked.level, tracked.unread⟩

theorem Tracked.load [KvBlobStore K] [Hardware H] (kv : K) (hardware : H) :
    Tracked (Runtime.load kv hardware).state :=
  ⟨.idle _, fun _ => ⟨rfl, rfl⟩⟩

theorem Runtime.Reachable.tracked [KvBlobStore K] [Hardware H] {r : Runtime K H}
    (reachable : r.Reachable) : Tracked r.state :=
  (reachable.phases (fun phase t => Truthful phase t ∧ Tracked t.state)
    (fun kv hardware => ⟨Truthful.load kv hardware, Tracked.load kv hardware⟩)
    (fun move before => ⟨before.1.move move, before.2.move move before.1⟩)
    fun _ before => ⟨before.1.again, before.2⟩).2

/-! ### Settling -/

/-- A track that has run out shows the brightness of the target by itself. -/
theorem Tracked.arrives {s : State H} (tracked : Tracked s) {track : LevelTransition}
    (active : s.levelTransition = some track) {now : Nat} (ended : track.remaining now = 0) :
    track.brightness now = (OutputFrame.fromState s.target).brightness := by
  apply OutputBrightness.ext
  rw [LevelTransition.brightness_get, LevelTransition.value_of_deadline ended]
  exact (tracked.level track active).brightness

theorem State.effective_brightness_of_remaining {s : State H} {now : Nat}
    (ended : s.levelRemaining now = 0) :
    (s.effective now).brightness = (OutputFrame.fromState s.target).brightness := by
  cases active : s.levelTransition with
  | none => exact State.effective_brightness_of_none active now
  | some track =>
      rw [State.levelRemaining, active] at ended
      exact State.effective_brightness_of_ended active ended

theorem State.levelRemaining_of_le {s : State H} {now later : Nat}
    (passed : now + s.levelRemaining now ≤ later) : s.levelRemaining later = 0 := by
  unfold State.levelRemaining at *
  cases active : s.levelTransition with
  | none => rfl
  | some track =>
      simp only [active, Option.elim_some, LevelTransition.remaining] at passed ⊢
      omega

/-- In every reachable runtime a level track leads to the brightness of the target,
freezes a colour exactly if the target is Off, and hands over to the target without
a jump. From a healthy one, every quiet tick at or after the deadline acknowledges
the brightness of the target. -/
theorem Runtime.run_levelTrack [KvBlobStore K] [Hardware H] (kv : K) (hardware : H)
    (operations : List Operation) :
    let r := run (load kv hardware) operations
    (∀ track, r.state.levelTransition = some track →
      track.last.toValue = (OutputFrame.fromState r.state.target).brightness.get ∧
        (track.offTemperature.isSome = true ↔ r.state.target.on = false) ∧
        ∀ later, track.remaining later = 0 →
          track.brightness later = (OutputFrame.fromState r.state.target).brightness) ∧
    ∀ target times, r.reported = .ok target → (r.now :: times).Pairwise (· ≤ ·) →
      Along after Quiet r (times.map .tick) → times ≠ [] →
      r.now + r.levelRemainingMs ≤ (run r (times.map .tick)).now →
      ∃ frame, (run r (times.map .tick)).state.controller.appliedFrame = some frame ∧
        frame.brightness = (OutputFrame.fromState target).brightness ∧
        (run r (times.map .tick)).state.target = target := by
  intro r
  have reachable : r.Reachable := (Reachable.load kv hardware).run operations
  constructor
  · intro track active
    obtain ⟨ends, freezes⟩ := reachable.tracked.level track active
    exact ⟨ends, by simp [freezes], fun later ended => reachable.tracked.arrives active ended⟩
  · intro target times healthy later quiet ticked passed
    obtain ⟨_, known, rfl⟩ := reported_eq_ok.mp healthy
    obtain ⟨kept, _, shows⟩ := run_ticks_glide (reachable.settled known) later quiet
    obtain ⟨frame, shown, brightness⟩ := shows ticked
    refine ⟨frame, shown, ?_, kept⟩
    rw [brightness]
    exact State.effective_brightness_of_remaining (State.levelRemaining_of_le passed)

/-- An On command settles after its 400 ms. -/
theorem Runtime.run_levelTrack_powered :
    let target : LightState := { (default : LightState) with on := true }
    let t := ((bench none).run [.tick 20, .setPower true]).run [.tick 220, .tick 420]
    ∃ frame, t.state.controller.appliedFrame = some frame ∧
      frame.brightness = (OutputFrame.fromState target).brightness ∧ t.state.target = target :=
  (run_levelTrack _ _ [.tick 20, .setPower true]).2 _ [220, 420] rfl (by decide +kernel)
    (by decide +kernel) (by decide) (by decide +kernel)

end KeyRight.App
