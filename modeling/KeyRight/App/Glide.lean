import KeyRight.App.Acknowledgement

/-!
Owns runs of ticks in which nothing fails: from a healthy runtime, each tick
acknowledges exactly the frame that the tracks call for, keeps the target, and
only drops tracks that have ended.

Does not own the tracks that a command installs.
-/

namespace KeyRight.App

open KeyRight.Core KeyRight.Support

variable {K H : Type}

/-- The call reported an error. -/
def Event.failed : Event K H → Bool
  | .load (.error _) => true
  | .load (.ok _) => false
  | .store _ ok => !ok
  | .shutdown ok => !ok
  | .applyFrame _ _ _ ok => !ok
  | .verifyFrame _ ok => !ok
  | .registers ok => !ok

/-- No outside call of this operation fails. -/
def Runtime.Quiet [KvBlobStore K] [Hardware H] (r : Runtime K H) (operation : Operation) : Prop :=
  ∀ event ∈ r.events operation, event.failed = false

instance [KvBlobStore K] [Hardware H] (r : Runtime K H) (operation : Operation) :
    Decidable (r.Quiet operation) :=
  inferInstanceAs (Decidable (∀ event ∈ r.events operation, event.failed = false))

/-- Among what a quiet operation adds to the trace, nothing failed. -/
theorem Runtime.Quiet.refutes [KvBlobStore K] [Hardware H] {r : Runtime K H} {operation : Operation}
    (quiet : r.Quiet operation) {added : List (Event K H)}
    (logged : (r.after operation).trace = added ++ r.trace) :
    ¬∃ event ∈ added, event.failed = true := by
  rintro ⟨event, member, failed⟩
  have fresh : r.events operation = added := Runtime.events_eq logged
  have silent := quiet event (fresh ▸ member)
  rw [failed] at silent
  cases silent

/-- Acknowledged, healthy, and with nothing left to save. -/
structure Settled (s : State H) : Prop where
  known : s.controller.appliedFrame ≠ none
  healthy : Healthy s
  clean : s.dirty = false

/-- What a tick at `now` without a failure makes of a settled state. -/
structure Glided (s : State H) (now : Nat) (t : Runtime K H) : Prop where
  time : t.now = now
  shows : t.state.controller.appliedFrame = some (s.effective now)
  target : t.state.target = s.target
  level : t.state.levelTransition = (s.expire now).levelTransition
  temperature : t.state.temperatureTransition = (s.expire now).temperatureTransition
  healthy : Healthy t.state
  clean : t.state.dirty = false

theorem Glided.settled {s : State H} {now : Nat} {t : Runtime K H} (glided : Glided s now t) :
    Settled t.state :=
  ⟨by simp [glided.shows], glided.healthy, glided.clean⟩

/-- Either some call since `past` failed, or the tick glided. -/
def GlidesUnless (s : State H) (past : List (Event K H)) (now : Nat) (t : Runtime K H) : Prop :=
  ∃ added, t.trace = added ++ past ∧ ((∃ event ∈ added, event.failed = true) ∨ Glided s now t)

theorem GlidesUnless.of_failed {s : State H} {past : List (Event K H)} {now : Nat}
    {t : Runtime K H} {event last : Event K H} (failed : event.failed = true)
    (logged : t.trace = last :: event :: past) : GlidesUnless s past now t :=
  ⟨[last, event], logged, .inl ⟨event, by simp, failed⟩⟩

/-- Either some call since `past` failed, or the command succeeded and the output glided. -/
def SucceedsUnless (s : State H) (past : List (Event K H)) (now : Nat)
    (result : Except ErrorCode Unit) (t : Runtime K H) : Prop :=
  ∃ added, t.trace = added ++ past ∧
    ((∃ event ∈ added, event.failed = true) ∨ result = .ok () ∧ Glided s now t)

theorem SucceedsUnless.of_failed {s : State H} {past : List (Event K H)} {now : Nat}
    {result : Except ErrorCode Unit} {t : Runtime K H} {event last : Event K H}
    (failed : event.failed = true) (logged : t.trace = last :: event :: past) :
    SucceedsUnless s past now result t :=
  ⟨[last, event], logged, .inl ⟨event, by simp, failed⟩⟩

theorem SucceedsUnless.glides {s : State H} {past : List (Event K H)} {now : Nat}
    {result : Except ErrorCode Unit} {t : Runtime K H}
    (succeeds : SucceedsUnless s past now result t) : GlidesUnless s past now t := by
  obtain ⟨added, logged, failed | ⟨_, glided⟩⟩ := succeeds
  · exact ⟨added, logged, .inl failed⟩
  · exact ⟨added, logged, .inr glided⟩

/-! ### One tick -/

section

variable [KvBlobStore K] [Hardware H]

open Program KeyRight.App.Runtime

theorem Runtime.Reachable.settled {r : Runtime K H} (reachable : r.Reachable)
    (known : r.state.controller.appliedFrame ≠ none) : Settled r.state :=
  ⟨known, reachable.truthful.healthy nofun known, reachable.truthful.clean known⟩

/-- While the output is known, commands are accepted. -/
theorem Runtime.Reachable.writable {r : Runtime K H} (reachable : r.Reachable)
    (known : r.state.controller.appliedFrame ≠ none) : r.Writable := by
  obtain ⟨faultless, readable, _⟩ := (reachable.settled known).healthy
  refine ⟨?_, readable⟩
  rw [faultless]
  nofun

omit [KvBlobStore K] in
theorem Runtime.rest_glides {r : Runtime K H} {now : Nat} (current : r.now = now)
    (settled : Settled r.state)
    (same : r.state.controller.appliedFrame = some (r.state.effective now)) :
    Ends (rest now (r.state.effective now)) r
      fun _ t => GlidesUnless r.state r.trace now t := by
  apply ends_rest
  · intro early
    exact ⟨[], rfl, .inr ⟨current, same, rfl, rfl, rfl, settled.healthy, settled.clean⟩⟩
  · intro hardware
    exact ⟨[_], rfl, .inr ⟨current, same, rfl, rfl, rfl, settled.healthy, settled.clean⟩⟩
  · intro hardware left ok
    exact .of_failed rfl rfl

omit [KvBlobStore K] in
theorem Runtime.drive_succeeds {r : Runtime K H} {now : Nat} (current : r.now = now)
    (settled : Settled r.state) :
    Ends (drive now) r fun result t => SucceedsUnless r.state r.trace now result t := by
  obtain ⟨known, ⟨faultless, readable, prompt⟩, clean⟩ := settled
  apply ends_drive
  · intro same
    exact ⟨[], rfl, .inr ⟨rfl, current, same, rfl, rfl, rfl, ⟨rfl, readable, rfl⟩, clean⟩⟩
  · intro differs hardware
    exact ⟨[_], rfl, .inr ⟨rfl, current, rfl, rfl, rfl, rfl, ⟨rfl, readable, rfl⟩, clean⟩⟩
  · intro differs hardware left ok
    exact .of_failed rfl rfl

omit [KvBlobStore K] in
theorem Runtime.reconcile_succeeds {r : Runtime K H} {now : Nat} (current : r.now = now)
    (settled : Settled r.state) :
    Ends (reconcile now) r fun result t => SucceedsUnless r.state r.trace now result t := by
  apply ends_reconcile
  · intro known
    exact drive_succeeds current settled
  · intro unknown
    exact absurd unknown settled.known
  · intro unknown
    exact absurd unknown settled.known

/-- A tick of a settled runtime rests on the frame that is called for, or drives it. -/
theorem Runtime.ends_tick {r : Runtime K H} (settled : Settled r.state) {now : Nat}
    {post : Except ErrorCode Unit → Runtime K H → Prop}
    (rests : r.state.controller.appliedFrame = some (r.state.effective now) →
      Ends (rest now (r.state.effective now)) { r with now := now } post)
    (drives : r.state.controller.appliedFrame ≠ some (r.state.effective now) →
      Ends (drive now) { r with now := now } fun _ t => post (.ok ()) t) :
    Ends (tick now) r post := by
  obtain ⟨known, ⟨faultless, readable, prompt⟩, clean⟩ := settled
  simp only [tick, tickLoaded, saveIntent, ends_bind, ends_update, ends_read, ends_attempt,
    faultless, readable, prompt, clean, reduceCtorEq, Nat.not_lt_zero, or_self, if_false,
    Option.isSome_none, Bool.false_eq_true, ends_pure, tickOutput]
  by_cases same : r.state.controller.appliedFrame = some (r.state.effective now)
  · rw [dif_pos same]
    have shown : r.state.controller.appliedFrame.get (by simp [same]) = r.state.effective now := by
      simp [same]
    rw [shown]
    exact rests same
  · rw [dif_neg same]
    simp only [ends_bind, ends_attempt]
    apply ends_reconcile
    · intro _
      exact drives same
    · intro unknown
      exact absurd unknown known
    · intro unknown
      exact absurd unknown known

theorem Runtime.tick_glides {r : Runtime K H} (settled : Settled r.state) (now : Nat) :
    Ends (tick now) r fun _ t => GlidesUnless r.state r.trace now t := by
  apply ends_tick settled
  · intro same
    exact rest_glides rfl settled same
  · intro differs
    refine Ends.mono (drive_succeeds rfl settled) fun result t succeeds => ?_
    exact succeeds.glides

/-! ### Runs of ticks -/

omit [KvBlobStore K] [Hardware H] in
/-- Dropping ended tracks does not change the brightness called for later. -/
theorem effective_brightness_expire {s t : State H} {now later : Nat} (later_le : now ≤ later)
    (target : t.target = s.target) (level : t.levelTransition = (s.expire now).levelTransition) :
    (t.effective later).brightness = (s.effective later).brightness := by
  cases active : s.levelTransition with
  | none =>
      have gone : t.levelTransition = none := by rw [level, State.expire, active]; rfl
      rw [State.effective_brightness_of_none gone, State.effective_brightness_of_none active, target]
  | some track =>
      by_cases ended : track.remaining now = 0
      · have gone : t.levelTransition = none := by
          rw [level, State.expire, active]
          simp [ended]
        have override : track.remaining later = 0 := by
          rw [LevelTransition.remaining_eq_zero] at ended ⊢
          omega
        rw [State.effective_brightness_of_none gone,
          State.effective_brightness_of_ended active override, target]
      · have kept : t.levelTransition = some track := by
          rw [level, State.expire, active]
          simp [ended]
        by_cases override : track.remaining later = 0
        · rw [State.effective_brightness_of_ended kept override,
            State.effective_brightness_of_ended active override, target]
        · rw [State.effective_brightness_of_running kept override,
            State.effective_brightness_of_running active override]

/-- A quiet tick of a settled runtime glides. -/
theorem Runtime.after_tick_glides {r : Runtime K H} (settled : Settled r.state) {now : Nat}
    (quiet : r.Quiet (.tick now)) : Glided r.state now (r.after (.tick now)) := by
  have ends : Ends (done (tick now)) r fun _ t => GlidesUnless r.state r.trace now t :=
    ends_done (tick_glides settled now)
  obtain ⟨added, logged, failed | glided⟩ := ends
  · exact absurd failed (quiet.refutes logged)
  · exact glided

/-- Along quiet ticks the target stays, and each tick acknowledges the brightness
that the tracks called for at the start. -/
theorem Runtime.run_ticks_glide {r : Runtime K H} (settled : Settled r.state) {times : List Nat}
    (later : (r.now :: times).Pairwise (· ≤ ·))
    (quiet : Along after Quiet r (times.map .tick)) :
    (run r (times.map .tick)).state.target = r.state.target ∧
      r.now ≤ (run r (times.map .tick)).now ∧
      (times ≠ [] → ∃ frame,
        (run r (times.map .tick)).state.controller.appliedFrame = some frame ∧
          frame.brightness = (r.state.effective (run r (times.map .tick)).now).brightness) := by
  induction times generalizing r with
  | nil => exact ⟨rfl, Nat.le_refl _, fun wrong => absurd rfl wrong⟩
  | cons now rest inductionHypothesis =>
      have glided := after_tick_glides settled quiet.1
      have started : r.now ≤ now := (List.pairwise_cons.mp later).1 now List.mem_cons_self
      have restLater : ((r.after (.tick now)).now :: rest).Pairwise (· ≤ ·) := by
        rw [glided.time]
        exact (List.pairwise_cons.mp later).2
      obtain ⟨target, passed, shows⟩ := inductionHypothesis glided.settled restLater quiet.2
      have unfolded : run r ((now :: rest).map .tick) =
          run (r.after (.tick now)) (rest.map .tick) := rfl
      rw [glided.time] at passed
      rw [unfolded]
      refine ⟨target.trans glided.target, started.trans passed, fun _ => ?_⟩
      by_cases last : rest = []
      · subst last
        refine ⟨r.state.effective now, glided.shows, ?_⟩
        rw [show run (r.after (.tick now)) _ = r.after (.tick now) from rfl, glided.time]
      · obtain ⟨frame, known, brightness⟩ := shows last
        refine ⟨frame, known, brightness.trans ?_⟩
        exact effective_brightness_expire passed glided.target glided.level

end

end KeyRight.App
