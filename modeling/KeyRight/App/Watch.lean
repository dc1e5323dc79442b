import KeyRight.App.Bench
import KeyRight.App.Glide

/-!
Owns how long an acknowledged frame may go unchecked: a tick five seconds after the last
contact with the output reads the frame back or applies another one, whatever happened in
between, and a failed contact is followed by a shutdown and five seconds without one.

Does not own what a readback compares.
-/

namespace KeyRight.App

open KeyRight.Core KeyRight.Support

variable {K H : Type}

/-! ### Contacts -/

/-- The operation established a frame: by an application, or by the verification of a tick. -/
def Event.contact : Operation → Event K H → Bool
  | _, .applyFrame _ _ _ ok => ok
  | .tick _, .verifyFrame _ ok => ok
  | _, _ => false

/-- A readback of this frame, or the application of another one. -/
def Event.checks (frame : OutputFrame) : Event K H → Prop
  | .verifyFrame verified _ => verified = frame
  | .applyFrame _ _ applied _ => applied ≠ frame
  | _ => False

/-- The call established a frame. -/
def Event.shows : Event K H → Bool
  | .applyFrame _ _ _ ok => ok
  | _ => false

/-- The time of the last contact, after an operation that ended at `now`. -/
def contactAfter (operation : Operation) (events : List (Event K H)) (now : Nat)
    (last : Option Nat) : Option Nat :=
  if events.any (Event.contact operation) then some now else last

theorem contactAfter_cons {operation : Operation} {event : Event K H} {events : List (Event K H)}
    {now : Nat} {last : Option Nat} (other : event.contact operation = false) :
    contactAfter operation (event :: events) now last = contactAfter operation events now last := by
  simp [contactAfter, other]

theorem contactAfter_contact {operation : Operation} {event : Event K H}
    {events : List (Event K H)} {now : Nat} {last : Option Nat}
    (contact : event.contact operation = true) :
    contactAfter operation (event :: events) now last = some now := by
  simp [contactAfter, contact]

namespace Runtime

open Program

/-- The time of the last contact in a run, if there was one, given the last one before it. -/
def lastContact [KvBlobStore K] [Hardware H] (r : Runtime K H) (last : Option Nat) :
    List Operation → Option Nat
  | [] => last
  | operation :: rest =>
      lastContact (r.after operation)
        (contactAfter operation (r.events operation) (r.after operation).now last) rest

/-! ### The deadline of the next check -/

/-- A known output is due for a check five seconds after its last contact. -/
def Watched (last : Option Nat) (r : Runtime K H) : Prop :=
  r.state.controller.appliedFrame ≠ none →
    ∃ contact, last = some contact ∧ r.state.nextVerify = contact + 5000

/-- What an operation has called since `past`, and the deadline it has set by that. -/
structure WatchedAt (operation : Operation) (past : List (Event K H)) (last : Option Nat)
    (phase : Phase) (t : Runtime K H) : Prop where
  logged : ∃ added, t.trace = added ++ past ∧ (phase = .called → added = []) ∧
    (phase ≠ .failing → Watched (contactAfter operation added t.now last) t)

section

variable {operation : Operation} {past : List (Event K H)} {last : Option Nat}
  {phase next : Phase} {r t : Runtime K H}

theorem Watched.of_unknown (unknown : r.state.controller.appliedFrame = none) : Watched last r :=
  fun known => absurd unknown known

theorem Watched.keep (watched : Watched last r)
    (applied : t.state.controller.appliedFrame ≠ none → r.state.controller.appliedFrame ≠ none)
    (deadline : t.state.nextVerify = r.state.nextVerify) : Watched last t := by
  intro known
  rw [deadline]
  exact watched (applied known)

/-- No outside call. -/
theorem WatchedAt.keep (watched : WatchedAt operation past last phase r) (running : phase ≠ .failing)
    (called : next ≠ .called) (trace : t.trace = r.trace) (now : t.now = r.now)
    (applied : t.state.controller.appliedFrame ≠ none → r.state.controller.appliedFrame ≠ none)
    (deadline : t.state.nextVerify = r.state.nextVerify) :
    WatchedAt operation past last next t := by
  obtain ⟨added, logged, _, due⟩ := watched.logged
  refine ⟨added, trace.trans logged, fun wrong => absurd wrong called, fun _ => ?_⟩
  rw [now]
  exact (due running).keep applied deadline

/-- An outside call that is no contact. -/
theorem WatchedAt.cons (watched : WatchedAt operation past last phase r) (running : phase ≠ .failing)
    (called : next ≠ .called) {event : Event K H} (other : event.contact operation = false)
    (trace : t.trace = event :: r.trace) (now : t.now = r.now)
    (applied : t.state.controller.appliedFrame ≠ none → r.state.controller.appliedFrame ≠ none)
    (deadline : t.state.nextVerify = r.state.nextVerify) :
    WatchedAt operation past last next t := by
  obtain ⟨added, logged, _, due⟩ := watched.logged
  refine ⟨event :: added, by rw [trace, logged]; rfl, fun wrong => absurd wrong called, fun _ => ?_⟩
  rw [now, contactAfter_cons other]
  exact (due running).keep applied deadline

/-- A contact sets the deadline. -/
theorem WatchedAt.contact (watched : WatchedAt operation past last phase r)
    (called : next ≠ .called) {event : Event K H} (contact : event.contact operation = true)
    (trace : t.trace = event :: r.trace) (deadline : t.state.nextVerify = t.now + 5000) :
    WatchedAt operation past last next t := by
  obtain ⟨added, logged, _, _⟩ := watched.logged
  refine ⟨event :: added, by rw [trace, logged]; rfl, fun wrong => absurd wrong called, fun _ _ => ?_⟩
  exact ⟨t.now, contactAfter_contact contact, deadline⟩

/-- The output became unknown, or a failure is yet to be followed by a shutdown. -/
theorem WatchedAt.lost (watched : WatchedAt operation past last phase r) (called : next ≠ .called)
    (events : List (Event K H)) (trace : t.trace = events ++ r.trace)
    (lost : next ≠ .failing → t.state.controller.appliedFrame = none) :
    WatchedAt operation past last next t := by
  obtain ⟨added, logged, _, _⟩ := watched.logged
  refine ⟨events ++ added, by rw [trace, logged, List.append_assoc],
    fun wrong => absurd wrong called, fun running => ?_⟩
  exact .of_unknown (lost running)

theorem Event.contact_check {frame : OutputFrame} {ok : Bool} (tick : operation.IsTick) :
    (Event.verifyFrame frame ok : Event K H).contact operation = ok := by
  cases operation with
  | tick now => rfl
  | _ => exact tick.elim

theorem Event.contact_verify {frame : OutputFrame} {ok : Bool} (check : operation.IsCheck) :
    (Event.verifyFrame frame ok : Event K H).contact operation = false := by
  cases operation with
  | verify => rfl
  | watchdogTestReady => rfl
  | _ => exact check.elim

theorem WatchedAt.move [KvBlobStore K] (watched : WatchedAt operation past last phase r)
    (move : Move operation (phase, r) (next, t)) : WatchedAt operation past last next t := by
  cases move with
  | clock _ now tick =>
      obtain ⟨added, logged, fresh, due⟩ := watched.logged
      cases fresh rfl
      exact ⟨[], logged, fun _ => rfl, fun running => (due running).keep id rfl⟩
  | load _ saved tick running pending due found =>
      exact watched.lost (by decide) [_] rfl fun _ => rfl
  | loadFailed _ fault tick running pending found =>
      exact watched.cons (by decide) (by decide) rfl rfl rfl id rfl
  | localOff _ hardware ok off readable => exact watched.lost (by decide) [_] rfl fun _ => rfl
  | deferOff _ hardware ok off pending => exact watched.lost (by decide) [_] rfl fun _ => rfl
  | startup _ startup asked writable stored =>
      exact watched.cons (by decide) (by decide) rfl rfl rfl id rfl
  | startupRefused _ startup code asked writable refused =>
      exact watched.cons (by decide) (by decide) rfl rfl rfl id rfl
  | verified _ frame hardware check known =>
      exact watched.cons (by decide) (by decide) (Event.contact_verify check) rfl rfl id rfl
  | refuted _ frame hardware check known =>
      exact watched.lost (by decide) [_] rfl fun running => absurd rfl running
  | read _ hardware registers => exact watched.cons (by decide) (by decide) rfl rfl rfl id rfl
  | unread _ hardware registers =>
      exact watched.lost (by decide) [_] rfl fun running => absurd rfl running
  | latch _ hardware ok reboot => exact watched.lost (by decide) [_] rfl fun _ => rfl
  | store _ dirty stored => exact watched.cons (by decide) (by decide) rfl rfl rfl id rfl
  | storeFailed _ hardware ok code dirty refused =>
      exact watched.lost (by decide) [_, _] rfl fun _ => rfl
  | unstopped _ off => exact watched.lost (by decide) [] rfl fun running => absurd rfl running
  | ease _ hardware unknown =>
      exact watched.cons (by decide) (by decide) rfl rfl rfl id rfl
  | unproven _ hardware unknown =>
      exact watched.lost (by decide) [_] rfl fun running => absurd rfl running
  | check _ hardware tick same =>
      exact watched.contact (by decide) (Event.contact_check tick) rfl rfl
  | checkFailed _ hardware tick same =>
      exact watched.lost (by decide) [_] rfl fun running => absurd rfl running
  | steady _ same =>
      refine watched.keep (by decide) (by decide) rfl rfl id ?_
      simp [State.settled, State.expire, State.intend, Controller.command]
  | apply _ hardware differs =>
      refine watched.contact (by decide) rfl rfl ?_
      simp [State.settled, State.expire, differs]
  | applyFailed _ hardware differs =>
      exact watched.lost (by decide) [_] rfl fun running => absurd rfl running
  | giveUp _ hardware ok => exact watched.lost (by decide) [_] rfl fun _ => rfl
  | _ => exact watched.keep (by decide) (by decide) rfl rfl id rfl

end

section

variable [KvBlobStore K] [Hardware H]

theorem Watched.after {r : Runtime K H} {last : Option Nat} (watched : Watched last r)
    (operation : Operation) :
    Watched (contactAfter operation (r.events operation) (r.after operation).now last)
      (r.after operation) := by
  have start : WatchedAt operation r.trace last .called r :=
    ⟨[], rfl, fun _ => rfl, fun _ => watched⟩
  have returned := (after_moves r operation).preserve (WatchedAt operation r.trace last)
    (fun move before => before.move move) start
  obtain ⟨added, logged, _, due⟩ := returned.logged
  rw [events_eq logged]
  exact due (by decide)

/-- Along every run, a known output is due for a check five seconds after its last contact. -/
theorem Watched.run {r : Runtime K H} {last : Option Nat} (watched : Watched last r)
    (operations : List Operation) :
    Watched (r.lastContact last operations) (Runtime.run r operations) := by
  induction operations generalizing r last with
  | nil => exact watched
  | cons operation rest inductionHypothesis => exact inductionHypothesis (watched.after operation)

/-! ### The tick that checks -/

/-- The calls of one tick: a check of the frame and, where that fails, a shutdown that
leaves the output unknown and its retry five seconds away. -/
def Checks (frame : OutputFrame) (now : Nat) (past : List (Event K H)) (t : Runtime K H) : Prop :=
  t.now = now ∧ ∃ event : Event K H, event.checks frame ∧
    ((event.failed = false ∧ t.trace = event :: past) ∨
      (event.failed = true ∧ (∃ ok, t.trace = .shutdown ok :: event :: past) ∧
        t.state.controller.appliedFrame = none ∧ t.state.retryAt = now + 5000))

theorem tick_checks {r : Runtime K H} (settled : Settled r.state) {frame : OutputFrame}
    (known : r.state.controller.appliedFrame = some frame) {now : Nat}
    (due : r.state.nextVerify ≤ now) : Ends (tick now) r fun _ t => Checks frame now r.trace t := by
  apply ends_tick settled
  · intro same
    have shown : r.state.effective now = frame := Option.some.inj (same.symm.trans known)
    rw [shown]
    apply ends_rest
    · intro early
      exact absurd due (Nat.not_le_of_lt early)
    · intro hardware
      exact ⟨rfl, .verifyFrame frame true, rfl, .inl ⟨rfl, rfl⟩⟩
    · intro hardware left stopped
      exact ⟨rfl, .verifyFrame frame false, rfl, .inr ⟨rfl, ⟨stopped, rfl⟩, rfl, rfl⟩⟩
  · intro differs
    have apart : r.state.effective now ≠ frame := by
      intro shown
      exact differs (known.trans (congrArg some shown.symm))
    apply ends_drive
    · intro same
      exact absurd same differs
    · intro _ hardware
      exact ⟨rfl, .applyFrame _ _ _ true, apart, .inl ⟨rfl, rfl⟩⟩
    · intro _ hardware left stopped
      exact ⟨rfl, .applyFrame _ _ _ false, apart, .inr ⟨rfl, ⟨stopped, rfl⟩, rfl, rfl⟩⟩

/-! ### The wait after a failure -/

/-- The output is unknown, and no tick before `due` is to touch it. -/
structure Waits (due : Nat) (r : Runtime K H) : Prop where
  unknown : r.state.controller.appliedFrame = none
  retry : due ≤ r.state.retryAt
  time : due ≤ r.now + 5000

/-- Some call since `past` has established a frame, or the wait goes on. -/
def WaitsAt (past : List (Event K H)) (due : Nat) (t : Runtime K H) : Prop :=
  ∃ added, t.trace = added ++ past ∧ ((∃ event ∈ added, event.shows = true) ∨ Waits due t)

omit [KvBlobStore K] [Hardware H] in
theorem WaitsAt.step {past : List (Event K H)} {due : Nat} {r t : Runtime K H}
    (waits : WaitsAt past due r) (events : List (Event K H)) (trace : t.trace = events ++ r.trace)
    (goesOn : Waits due r → (∃ event ∈ events, event.shows = true) ∨ Waits due t) :
    WaitsAt past due t := by
  obtain ⟨added, logged, shown | waiting⟩ := waits
  · obtain ⟨event, member, shows⟩ := shown
    exact ⟨events ++ added, by rw [trace, logged, List.append_assoc],
      .inl ⟨event, List.mem_append_right _ member, shows⟩⟩
  · refine ⟨events ++ added, by rw [trace, logged, List.append_assoc], ?_⟩
    rcases goesOn waiting with ⟨event, member, shows⟩ | still
    · exact .inl ⟨event, List.mem_append_left _ member, shows⟩
    · exact .inr still

omit [KvBlobStore K] [Hardware H] in
theorem WaitsAt.keep {past : List (Event K H)} {due : Nat} {r t : Runtime K H}
    (waits : WaitsAt past due r) (events : List (Event K H)) (trace : t.trace = events ++ r.trace)
    (applied : t.state.controller.appliedFrame = r.state.controller.appliedFrame)
    (retry : t.state.retryAt = r.state.retryAt) (time : t.now = r.now) : WaitsAt past due t := by
  refine waits.step events trace fun still => .inr ⟨applied.trans still.unknown, ?_, ?_⟩
  · rw [retry]
    exact still.retry
  · rw [time]
    exact still.time

omit [Hardware H] in
theorem WaitsAt.move {operation : Operation} {past : List (Event K H)} {due : Nat}
    (later : ∀ now, operation = .tick now → due ≤ now + 5000) {phase next : Phase}
    {r t : Runtime K H} (move : Move operation (phase, r) (next, t)) (waits : WaitsAt past due r) :
    WaitsAt past due t := by
  cases move with
  | clock _ now tick => exact waits.step [] rfl fun still => .inr ⟨still.unknown, still.retry, later now tick⟩
  | load _ saved tick running pending overdue found =>
      exact waits.step [_] rfl fun still => .inr ⟨rfl, still.retry, still.time⟩
  | loadFailed _ fault tick running pending found =>
      exact waits.step [_] rfl fun still => .inr ⟨still.unknown, still.time, still.time⟩
  | localOff _ hardware ok off readable =>
      exact waits.step [_] rfl fun still => .inr ⟨rfl, still.retry, still.time⟩
  | deferOff _ hardware ok off pending =>
      exact waits.step [_] rfl fun still => .inr ⟨rfl, still.retry, still.time⟩
  | latch _ hardware ok reboot =>
      exact waits.step [_] rfl fun still => .inr ⟨rfl, still.retry, still.time⟩
  | storeFailed _ hardware ok code dirty refused =>
      exact waits.step [_, _] rfl fun still => .inr ⟨rfl, still.time, still.time⟩
  | rest _ tick same =>
      refine waits.step [] rfl fun still => ?_
      rw [still.unknown] at same
      cases same
  | check _ hardware tick same =>
      refine waits.step [_] rfl fun still => ?_
      rw [still.unknown] at same
      cases same
  | checkFailed _ hardware tick same =>
      refine waits.step [_] rfl fun still => ?_
      rw [still.unknown] at same
      cases same
  | steady _ same =>
      refine waits.step [] rfl fun still => ?_
      rw [still.unknown] at same
      cases same
  | apply _ hardware differs => exact waits.step [_] rfl fun _ => .inl ⟨_, List.mem_singleton_self _, rfl⟩
  | applyFailed _ hardware differs =>
      exact waits.step [_] rfl fun still => .inr ⟨rfl, still.retry, still.time⟩
  | giveUp _ hardware ok =>
      exact waits.step [_] rfl fun still => .inr ⟨rfl, still.time, still.time⟩
  | startup _ startup asked writable stored => exact waits.keep [_] rfl rfl rfl rfl
  | startupRefused _ startup code asked writable refused => exact waits.keep [_] rfl rfl rfl rfl
  | verified _ frame hardware check known => exact waits.keep [_] rfl rfl rfl rfl
  | refuted _ frame hardware check known => exact waits.keep [_] rfl rfl rfl rfl
  | read _ hardware registers => exact waits.keep [_] rfl rfl rfl rfl
  | unread _ hardware registers => exact waits.keep [_] rfl rfl rfl rfl
  | store _ dirty stored => exact waits.keep [_] rfl rfl rfl rfl
  | ease _ hardware unknown => exact waits.keep [_] rfl rfl rfl rfl
  | unproven _ hardware unknown => exact waits.keep [_] rfl rfl rfl rfl
  | _ => exact waits.keep [] rfl rfl rfl rfl

/-- No call of the operation establishes a frame. -/
def Dims (r : Runtime K H) (operation : Operation) : Prop :=
  ∀ event ∈ r.events operation, event.shows = false

theorem Waits.after {due : Nat} {r : Runtime K H} (waits : Waits due r) {operation : Operation}
    (later : ∀ now, operation = .tick now → due ≤ now + 5000) (dims : r.Dims operation) :
    Waits due (r.after operation) := by
  have start : WaitsAt r.trace due r := ⟨[], rfl, .inr waits⟩
  obtain ⟨added, logged, shown | still⟩ :=
    (after_moves r operation).preserve (fun _ => WaitsAt r.trace due) (WaitsAt.move later) start
  · obtain ⟨event, member, shows⟩ := shown
    have dark := dims event (events_eq logged ▸ member)
    rw [shows] at dark
    cases dark
  · exact still

/-- Whatever is asked meanwhile, the wait goes on until something establishes a frame. -/
theorem Waits.run {due : Nat} {r : Runtime K H} (waits : Waits due r) {operations : List Operation}
    (later : ∀ now, .tick now ∈ operations → due ≤ now + 5000)
    (dims : Along Runtime.after Dims r operations) : Waits due (Runtime.run r operations) := by
  induction operations generalizing r with
  | nil => exact waits
  | cons operation rest inductionHypothesis =>
      have next := waits.after (fun now tick => later now (tick ▸ List.mem_cons_self)) dims.1
      exact inductionHypothesis next (fun now member => later now (List.mem_cons_of_mem _ member)) dims.2

/-- A tick before the retry time does nothing but set the clock. -/
theorem Waits.silent {due now : Nat} {r : Runtime K H} (waits : Waits due r) (early : now < due) :
    r.events (.tick now) = [] := by
  have held : r.state.fault = .rebooting ∨ now < r.state.retryAt := .inr (early.trans_le waits.retry)
  have ends : Ends (done (tick now)) r fun _ t => t.trace = r.trace := by
    simp only [tick, done, ends_bind, ends_update, ends_read]
    rw [if_pos held]
    rfl
  have logged : (r.after (.tick now)).trace = r.trace := ends
  exact events_eq logged

/-! ### Every run -/

/-- Along every run, a tick at least five seconds after the last contact checks the
acknowledged frame; if that fails, it ends with the output unknown and a shutdown attempted,
and until something else establishes a frame, no tick of the next five seconds touches the
output. -/
theorem run_watched (kv : K) (hardware : H) (operations : List Operation) {frame : OutputFrame}
    (known : (run (load kv hardware) operations).state.controller.appliedFrame = some frame) :
    let r := run (load kv hardware) operations
    ∃ last, lastContact (load kv hardware) none operations = some last ∧
      ∀ now, last + 5000 ≤ now → ∃ event : Event K H, event.checks frame ∧
        ((event.failed = false ∧ r.events (.tick now) = [event]) ∨
          (event.failed = true ∧ (∃ ok, r.events (.tick now) = [.shutdown ok, event]) ∧
            (r.after (.tick now)).state.controller.appliedFrame = none ∧
            ∀ asked : List Operation, (∀ time, .tick time ∈ asked → now ≤ time) →
              Along after Dims (r.after (.tick now)) asked → ∀ time < now + 5000,
                (run (r.after (.tick now)) asked).events (.tick time) = [])) := by
  intro r
  have reachable : r.Reachable := (Reachable.load kv hardware).run operations
  have settled : Settled r.state := reachable.settled (by simp [r, known])
  have unknown : (load kv hardware).state.controller.appliedFrame = none := rfl
  obtain ⟨last, contact, due⟩ :=
    (Watched.of_unknown unknown : Watched none (load kv hardware)).run operations settled.known
  refine ⟨last, contact, fun now overdue => ?_⟩
  have deadline : r.state.nextVerify ≤ now := due.trans_le overdue
  have checks : Checks frame now r.trace (r.after (.tick now)) := by
    have ends : Ends (done (tick now)) r fun _ t => Checks frame now r.trace t :=
      ends_done (tick_checks settled known deadline)
    exact ends
  obtain ⟨time, event, checks, ⟨sound, logged⟩ | ⟨failed, ⟨ok, logged⟩, lost, retry⟩⟩ := checks
  · exact ⟨event, checks, .inl ⟨sound, events_eq logged⟩⟩
  · refine ⟨event, checks, .inr ⟨failed, ⟨ok, events_eq logged⟩, lost, ?_⟩⟩
    intro asked later dims early before
    have waits : Waits (now + 5000) (r.after (.tick now)) := ⟨lost, retry.ge, by rw [time]⟩
    exact (waits.run (fun time member => Nat.add_le_add_right (later time member) 5000) dims).silent before

/-- Five seconds after the last fade frame a tick reads the frame back. -/
theorem run_watched_powered :
    let r := run (load (default : MemoryStore) (default : SimulatedOutput))
      [.tick 0, .setPower true, .tick 400, .tick 1000]
    ∃ event frame, event.checks frame ∧ r.events (.tick 5400) = [event] := by
  have known : (run (load (default : MemoryStore) (default : SimulatedOutput))
      [.tick 0, .setPower true, .tick 400, .tick 1000]).state.controller.appliedFrame ≠ none := by
    decide +kernel
  obtain ⟨frame, acknowledged⟩ := Option.ne_none_iff_exists'.mp known
  obtain ⟨last, contact, checked⟩ :=
    run_watched default default [.tick 0, .setPower true, .tick 400, .tick 1000] acknowledged
  have time : last = 400 := by
    have same : lastContact (load (default : MemoryStore) (default : SimulatedOutput)) none
        [.tick 0, .setPower true, .tick 400, .tick 1000] = some 400 := by
      decide +kernel
    rw [contact] at same
    exact Option.some.inj same
  subst time
  obtain ⟨event, checks, ⟨_, logged⟩ | ⟨_, _, lost, _⟩⟩ := checked 5400 (by decide)
  · exact ⟨event, frame, checks, logged⟩
  · exact absurd lost (by decide +kernel)

end

end Runtime

end KeyRight.App
