import KeyRight.App.Glide

/-!
Owns recovery of an unknown output: the next frame is dark and follows a shutdown
that succeeded, and a target that is On then eases in from zero, whatever track
the triggering command had asked for.

Does not own which frames follow a known output.
-/

namespace KeyRight.App

open KeyRight.Core KeyRight.Support

variable {K H : Type}

/-! ### Unknown output in a trace -/

/-- Since the last application, or in that application itself, something happened
that makes the output unknown. -/
def unsettled : List (Event K H) → Bool
  | [] => true
  | .applyFrame _ _ _ ok :: _ => !ok
  | .shutdown _ :: _ => true
  | .verifyFrame _ ok :: older => !ok || unsettled older
  | .registers ok :: older => !ok || unsettled older
  | .load _ :: older => unsettled older
  | .store _ _ :: older => unsettled older

def Dark (frame : OutputFrame) : Prop :=
  frame.brightness = OutputBrightness.ZERO ∧ frame.state.on = false

/-- An application that an unknown output precedes is dark, right after a proven zero. -/
structure Restarts (held : State H) (frame : OutputFrame) (older : List (Event K H)) : Prop where
  unacknowledged : held.controller.appliedFrame = none → Dark frame
  proven : unsettled older = true → Dark frame ∧ older.head? = some (.shutdown true)

/-! ### Eased tracks -/

/-- The tracks that recovery installs at a time. -/
def Eased (s : State H) (now : Nat) : Prop :=
  s.levelTransition =
      (if s.target.on then
        some (LevelTransition.single OutputBrightness.ZERO
          (OutputBrightness.fromLevel s.target.level) now DEFAULT_TRANSITION_MS .smooth none)
      else none) ∧
    s.temperatureTransition = none

/-- The brightness of recovery: smoothstep from zero to the target level. -/
def easing (level : Level) (start now : Nat) : Nat :=
  Transition.value
    ⟨0, (OutputBrightness.fromLevel level).get, start, DEFAULT_TRANSITION_MS, .smooth⟩ now

theorem easing_start (level : Level) (start : Nat) : easing level start start = 0 := by
  have within : Transition.Within
      ⟨0, (OutputBrightness.fromLevel level).get, start, DEFAULT_TRANSITION_MS, .smooth⟩ 0 2530 :=
    ⟨⟨Nat.le_refl 0, Nat.zero_le _⟩, Nat.zero_le _, (OutputBrightness.fromLevel level).le_max⟩
  have timed : DEFAULT_TRANSITION_MS ≠ 0 := by decide
  exact Transition.value_at_start (by decide) within timed (Nat.le_refl _)

theorem Eased.brightness {s : State H} {start : Nat} (eased : Eased s start)
    (on : s.target.on = true) (now : Nat) :
    (s.effective now).brightness.get = easing s.target.level start now := by
  have active := eased.1
  rw [if_pos on] at active
  by_cases ended : LevelTransition.remaining (LevelTransition.single OutputBrightness.ZERO
      (OutputBrightness.fromLevel s.target.level) start DEFAULT_TRANSITION_MS .smooth none) now = 0
  · rw [State.effective_brightness_of_ended active ended,
      OutputFrame.fromState_brightness_of_on on]
    rw [LevelTransition.remaining_eq_zero, LevelTransition.single_deadline] at ended
    rw [easing, Transition.value_of_elapsed ended]
  · rw [State.effective_brightness_of_running active ended, LevelTransition.brightness_get,
      LevelTransition.single_value]
    rfl

theorem Eased.dark {s : State H} {now : Nat} (eased : Eased s now) : Dark (s.effective now) := by
  have zero : (s.effective now).brightness = OutputBrightness.ZERO := by
    cases on : s.target.on with
    | true => rw [OutputBrightness.eq_zero_iff, eased.brightness on, easing_start]
    | false =>
        have inactive := eased.1
        rw [if_neg (by simp [on])] at inactive
        rw [State.effective_brightness_of_none inactive,
          OutputFrame.fromState_brightness_of_off on]
  refine ⟨zero, ?_⟩
  rw [State.effective_on, zero]
  simp

/-- The default ramp is still running when it is installed. -/
theorem Eased.expire {s : State H} {now : Nat} (eased : Eased s now) : Eased (s.expire now) now := by
  obtain ⟨level, temperature⟩ := eased
  refine ⟨?_, by simp [State.expire, temperature]⟩
  change s.levelTransition.filter _ = _
  rw [level]
  by_cases on : s.target.on = true
  · rw [if_pos on, if_pos (show (s.expire now).target.on = true from on), Option.filter_some,
      if_pos]
    · rfl
    · have running : now + DEFAULT_TRANSITION_MS - now ≠ 0 := by
        rw [Nat.add_sub_cancel_left]
        decide
      simpa [LevelTransition.remaining] using running
  · rw [if_neg on, if_neg (show ¬(s.expire now).target.on = true from on)]
    rfl

/-! ### Every application restarts or continues -/

structure Grounded (phase : Phase) (r : Runtime K H) : Prop where
  logged : ∀ stored held frame ok older,
    (Event.applyFrame stored held frame ok :: older) <:+ r.trace → Restarts held frame older
  settled : phase ≠ .failing → r.state.controller.appliedFrame ≠ none → unsettled r.trace = false
  eased : phase = .poised → r.state.controller.appliedFrame = none →
    Eased r.state r.now ∧ r.trace.head? = some (.shutdown true)

theorem Grounded.restarts {r : Runtime K H} (grounded : Grounded .poised r) {held : State H}
    (same : held.controller.appliedFrame = r.state.controller.appliedFrame) :
    Restarts held (r.state.effective r.now) r.trace := by
  have dark : r.state.controller.appliedFrame = none →
      Dark (r.state.effective r.now) ∧ r.trace.head? = some (.shutdown true) := by
    intro unknown
    obtain ⟨eased, proven⟩ := grounded.eased rfl unknown
    exact ⟨eased.dark, proven⟩
  constructor
  · intro unacknowledged
    exact (dark (same.symm.trans unacknowledged)).1
  · intro open_
    by_cases unknown : r.state.controller.appliedFrame = none
    · exact dark unknown
    · rw [grounded.settled nofun unknown] at open_
      cases open_

/-- An application from a poised state restarts or continues. -/
theorem Grounded.shown {r : Runtime K H} (grounded : Grounded .poised r) (hardware : H) (ok : Bool) :
    ∀ stored held frame shown older,
      (Event.applyFrame stored held frame shown :: older) <:+
        ((r.onState fun s => s.intend (s.effective r.now)).shown (r.state.effective r.now)
          hardware ok).trace →
        Restarts held frame older := by
  intro stored held frame shown older suffix
  rcases List.suffix_cons_iff.mp suffix with same | earlier
  · obtain ⟨head, tail⟩ := List.cons.inj same
    cases head
    rw [tail]
    exact grounded.restarts rfl
  · exact grounded.logged _ _ _ _ _ earlier

theorem Grounded.move [KvBlobStore K] {operation : Operation} {phase next : Phase}
    {r t : Runtime K H} (move : Move operation (phase, r) (next, t))
    (grounded : Grounded phase r) : Grounded next t := by
  have all := grounded
  obtain ⟨logged, settled, eased⟩ := grounded
  cases move with
  | clock _ now tick => exact ⟨logged, settled, nofun⟩
  | leave _ other _ _ => exact ⟨logged, fun _ => settled nofun, nofun⟩
  | resume _ tick running due => exact ⟨logged, fun _ => settled nofun, nofun⟩
  | load _ saved tick running pending due found =>
      exact ⟨applied_cons rfl logged, fun _ known => absurd rfl known, nofun⟩
  | loadFailed _ fault tick running pending found =>
      exact ⟨applied_cons rfl logged, fun _ => settled nofun, nofun⟩
  | plan _ plan writable asks => exact ⟨logged, fun _ => settled nofun, nofun⟩
  | localOff _ hardware ok off readable =>
      exact ⟨applied_cons rfl logged, fun _ known => absurd rfl known, nofun⟩
  | deferOff _ hardware ok off pending =>
      exact ⟨applied_cons rfl logged, fun _ known => absurd rfl known, nofun⟩
  | startup _ startup asked writable stored =>
      exact ⟨applied_cons rfl logged, fun _ => settled nofun, nofun⟩
  | startupRefused _ startup code asked writable refused =>
      exact ⟨applied_cons rfl logged, fun _ => settled nofun, nofun⟩
  | verified _ frame hardware check known =>
      exact ⟨applied_cons rfl logged, fun _ => settled nofun, nofun⟩
  | refuted _ frame hardware check known =>
      exact ⟨applied_cons rfl logged, fun wrong => absurd rfl wrong, nofun⟩
  | read _ hardware registers =>
      exact ⟨applied_cons rfl logged, fun _ => settled nofun, nofun⟩
  | unread _ hardware registers =>
      exact ⟨applied_cons rfl logged, fun wrong => absurd rfl wrong, nofun⟩
  | latch _ hardware ok reboot =>
      exact ⟨applied_cons rfl logged, fun _ known => absurd rfl known, nofun⟩
  | clean _ clean => exact ⟨logged, fun _ => settled nofun, nofun⟩
  | store _ dirty stored => exact ⟨applied_cons rfl logged, fun _ => settled nofun, nofun⟩
  | storeFailed _ hardware ok code dirty refused =>
      exact ⟨applied_cons rfl (applied_cons rfl logged), fun _ known => absurd rfl known, nofun⟩
  | proceed _ readable => exact ⟨logged, fun _ => settled nofun, nofun⟩
  | repaired _ off => exact ⟨logged, fun _ => settled nofun, nofun⟩
  | unstopped _ off => exact ⟨logged, fun wrong => absurd rfl wrong, nofun⟩
  | known _ known => exact ⟨logged, fun _ => settled nofun, fun _ unknown => absurd unknown known⟩
  | ease _ hardware unknown =>
      exact ⟨applied_cons rfl logged, fun _ known => absurd unknown known,
        fun _ _ => ⟨⟨rfl, rfl⟩, rfl⟩⟩
  | unproven _ hardware unknown =>
      exact ⟨applied_cons rfl logged, fun wrong => absurd rfl wrong, nofun⟩
  | rest _ tick same => exact ⟨logged, fun _ => settled nofun, nofun⟩
  | check _ hardware tick same =>
      exact ⟨applied_cons rfl logged, fun _ => settled nofun, nofun⟩
  | checkFailed _ hardware tick same =>
      exact ⟨applied_cons rfl logged, fun wrong => absurd rfl wrong, nofun⟩
  | steady _ same => exact ⟨logged, fun _ => settled nofun, nofun⟩
  | apply _ hardware differs => exact ⟨all.shown hardware true, fun _ _ => rfl, nofun⟩
  | applyFailed _ hardware differs =>
      exact ⟨all.shown hardware false, fun wrong => absurd rfl wrong, nofun⟩
  | giveUp _ hardware ok =>
      exact ⟨applied_cons rfl logged, fun _ known => absurd rfl known, nofun⟩

theorem Grounded.load [KvBlobStore K] [Hardware H] (kv : K) (hardware : H) :
    Grounded .called (Runtime.load kv hardware) := by
  have nothing : ∀ stored held frame ok older,
      (Event.applyFrame stored held frame ok :: older) <:+ ([] : List (Event K H)) →
        Restarts held frame older := by
    intro stored held frame ok older suffix
    cases List.suffix_nil.mp suffix
  exact ⟨applied_cons rfl (applied_cons rfl nothing), fun _ known => absurd rfl known, nofun⟩

theorem Runtime.Reachable.grounded [KvBlobStore K] [Hardware H] {r : Runtime K H}
    (reachable : r.Reachable) : Grounded .called r :=
  reachable.phases Grounded Grounded.load Grounded.move
    fun _ before => ⟨before.logged, fun _ => before.settled nofun, nofun⟩

/-! ### Recovery eases in -/

/-- An operation that finds the output unknown and leaves it known has eased the tracks. -/
def EmergesAt : Phase → Runtime K H → Prop
  | .poised, r => r.state.controller.appliedFrame = none ∧ Eased r.state r.now
  | .failing, _ => True
  | .returned, r => r.state.controller.appliedFrame ≠ none →
      Eased r.state r.now ∧ ∃ frame, r.state.controller.appliedFrame = some frame ∧ Dark frame
  | _, r => r.state.controller.appliedFrame = none

theorem EmergesAt.move [KvBlobStore K] {operation : Operation} {phase next : Phase}
    {r t : Runtime K H} (move : Move operation (phase, r) (next, t))
    (emerges : EmergesAt phase r) : EmergesAt next t := by
  cases move with
  | clock _ now tick => exact emerges
  | leave _ other _ _ => exact fun known => absurd emerges known
  | resume _ tick running due => exact emerges
  | load _ saved tick running pending due found => rfl
  | loadFailed _ fault tick running pending found => exact fun known => absurd emerges known
  | plan _ plan writable asks => exact emerges
  | localOff _ hardware ok off readable => rfl
  | deferOff _ hardware ok off pending => exact fun known => absurd rfl known
  | startup _ startup asked writable stored => exact fun known => absurd emerges known
  | startupRefused _ startup code asked writable refused =>
      exact fun known => absurd emerges known
  | verified _ frame hardware check known =>
      rw [emerges] at known
      cases known
  | refuted _ frame hardware check known => trivial
  | read _ hardware registers => exact fun known => absurd emerges known
  | unread _ hardware registers => trivial
  | latch _ hardware ok reboot => exact fun known => absurd rfl known
  | clean _ clean => exact emerges
  | store _ dirty stored => exact emerges
  | storeFailed _ hardware ok code dirty refused => exact fun known => absurd rfl known
  | proceed _ readable => exact emerges
  | repaired _ off => exact emerges
  | unstopped _ off => trivial
  | known _ known => exact absurd emerges known
  | ease _ hardware unknown => exact ⟨unknown, rfl, rfl⟩
  | unproven _ hardware unknown => trivial
  | rest _ tick same =>
      rw [emerges] at same
      cases same
  | check _ hardware tick same =>
      rw [emerges] at same
      cases same
  | checkFailed _ hardware tick same => trivial
  | steady _ same =>
      rw [emerges.1] at same
      cases same
  | apply _ hardware differs =>
      exact fun _ => ⟨emerges.2.expire, r.state.effective r.now, rfl, emerges.2.dark⟩
  | applyFailed _ hardware differs => trivial
  | giveUp _ hardware ok => exact fun known => absurd rfl known

/-- From an unknown output to a known one, the brightness at each later quiet tick
is the easing from the moment of recovery. -/
theorem Runtime.after_eases [KvBlobStore K] [Hardware H] {r : Runtime K H}
    (reachable : r.Reachable) {operation : Operation}
    (unknown : r.state.controller.appliedFrame = none)
    (known : (r.after operation).state.controller.appliedFrame ≠ none)
    (on : (r.after operation).state.target.on = true) {times : List Nat}
    (later : ((r.after operation).now :: times).Pairwise (· ≤ ·))
    (quiet : Along after Quiet (r.after operation) (times.map .tick)) :
    ∃ frame,
      (run (r.after operation) (times.map .tick)).state.controller.appliedFrame = some frame ∧
        frame.brightness.get = easing (r.after operation).state.target.level
          (r.after operation).now (run (r.after operation) (times.map .tick)).now := by
  have emerged : EmergesAt .returned (r.after operation) :=
    (after_moves r operation).preserve EmergesAt EmergesAt.move unknown
  obtain ⟨eased, frame, shown, dark⟩ := emerged known
  by_cases still : times = []
  · subst still
    refine ⟨frame, shown, ?_⟩
    rw [show run (r.after operation) _ = r.after operation from rfl, easing_start, dark.1]
    rfl
  · have settled := (reachable.after operation).settled known
    obtain ⟨_, _, shows⟩ := run_ticks_glide settled later quiet
    obtain ⟨frame, shown, brightness⟩ := shows still
    refine ⟨frame, shown, ?_⟩
    rw [brightness, eased.brightness on]

/-! ### Runs -/

/-- In every run, a frame with brightness is applied only over an acknowledged one;
after anything that makes the output unknown, the next application is dark and
follows a shutdown that succeeded; and an unknown output that becomes known with
its target On then shows the easing from zero at every later quiet tick. -/
theorem Runtime.run_restart [KvBlobStore K] [Hardware H] (kv : K) (hardware : H)
    (operations : List Operation) :
    let r := run (load kv hardware) operations
    (∀ stored held frame ok older,
      (Event.applyFrame stored held frame ok :: older) <:+ r.trace →
        (frame.brightness ≠ OutputBrightness.ZERO → held.controller.appliedFrame ≠ none) ∧
        (unsettled older = true →
          (frame.brightness = OutputBrightness.ZERO ∧ frame.state.on = false) ∧
            older.head? = some (.shutdown true))) ∧
    ∀ operation times, r.state.controller.appliedFrame = none →
      (r.after operation).state.controller.appliedFrame ≠ none →
      (r.after operation).state.target.on = true →
      ((r.after operation).now :: times).Pairwise (· ≤ ·) →
      Along after Quiet (r.after operation) (times.map .tick) →
      ∃ frame,
        (run (r.after operation) (times.map .tick)).state.controller.appliedFrame = some frame ∧
          frame.brightness.get = easing (r.after operation).state.target.level
            (r.after operation).now (run (r.after operation) (times.map .tick)).now := by
  intro r
  have reachable : r.Reachable := (Reachable.load kv hardware).run operations
  constructor
  · intro stored held frame ok older suffix
    have restarts := reachable.grounded.logged stored held frame ok older suffix
    exact ⟨fun lit unacknowledged => lit (restarts.unacknowledged unacknowledged).1,
      restarts.proven⟩
  · intro operation times unknown known on later quiet
    exact after_eases reachable unknown known on later quiet

/-- A boot on a saved On intent eases in from zero: 757 is the default level. -/
theorem Runtime.run_restart_boot :
    let r := bench (some (encodeRecord { (default : LightState) with on := true } default))
    let t := (r.after (.tick 20)).run [.tick 220, .tick 700]
    ∃ frame, t.state.controller.appliedFrame = some frame ∧ frame.brightness.get = 757 :=
  (run_restart _ _ []).2 (.tick 20) [220, 700] rfl (by decide +kernel) rfl (by decide)
    (by decide +kernel)

end KeyRight.App
