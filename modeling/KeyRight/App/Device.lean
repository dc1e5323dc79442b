import KeyRight.App.Bench
import KeyRight.App.Escalation
import KeyRight.App.Quietly
import KeyRight.App.Reboot
import KeyRight.App.WifiController

/-!
Owns the tasks of `firmware/app/src/device_matter.rs` side by side: the loop that runs and
restarts the transport, the supervision of an updated image (`ota.rs`, `ota_health.rs`), and
the calls of the runtime that the other tasks make.

What the radio, its queue, the update service and the fabrics answer is given with an event.
The main results say what precedes a reset of the controller and what can still happen before
it. Does not own the commands of Matter and of the console, or what follows a reset.
-/

namespace KeyRight.App

open KeyRight.Core KeyRight.Support

/-! ### The health of an updated image -/

/-- Bound for an updated image's self-test. -/
def OTA_CONFIRM_DEADLINE_MS : Nat := 300000

/-- Current uninterrupted association and usable local IPv6 required. -/
def OTA_HEALTHY_MS : Nat := 30000

inductive OtaVerdict where
  | wait
  | confirm
  | rollBack
deriving DecidableEq, Repr

/-- Output readback runs last, and only once the other evidence already passes. -/
def otaVerdict {σ : Type} (uptimeMs : Nat) (commissioned : Bool) (networkHealthyMs : Nat)
    (outputVerified : σ → σ × Bool) (state : σ) : σ × OtaVerdict :=
  let (state, verified) :=
    if commissioned ∧ OTA_HEALTHY_MS ≤ networkHealthyMs then outputVerified state else (state, false)
  (state,
    if verified then .confirm
    else if OTA_CONFIRM_DEADLINE_MS ≤ uptimeMs then .rollBack
    else .wait)

/-- The output is known, without a fault, and reads back. -/
def Runtime.outputVerified {K H : Type} [KvBlobStore K] [Hardware H] (r : Runtime K H) :
    Runtime K H × Bool :=
  if r.state.fault = .none ∧ r.state.controller.appliedFrame.isSome then
    (r.after .verify, (r.outcome .verify).isOk)
  else (r, false)

theorem Runtime.outputVerified_cases {K H : Type} [KvBlobStore K] [Hardware H]
    (r : Runtime K H) :
    (r.outputVerified = (r, false) ∧ ¬(r.state.fault = .none ∧ r.state.controller.appliedFrame.isSome)) ∨
      r.outputVerified = (r.after .verify, (r.outcome .verify).isOk) ∧ r.state.fault = .none ∧
        r.state.controller.appliedFrame.isSome := by
  unfold Runtime.outputVerified
  split
  · next known => exact .inr ⟨rfl, known⟩
  · next unknown => exact .inl ⟨rfl, unknown⟩

/-! ### The tasks -/

/-- Time for the last words before a reset. -/
def RESET_DELAY_MS : Nat := 250

inductive TransportPhase where
  | running
  | waiting (till : Nat)
  | resetting (till : Nat)
deriving DecidableEq, Repr

structure Device (K H : Type) where
  runtime : Runtime K H
  controller : WifiController
  supervision : Supervision
  transport : TransportPhase
  /-- `TX_STALL`. -/
  stalled : Bool
  /-- The image is on trial, and the bootloader could return to the previous one. -/
  unconfirmed : Bool
  canRollBack : Bool
  /-- When the image is looked at next, or when its rollback resets the controller. -/
  check : Nat
  rollback : Option Nat
  /-- When a staged update resets the controller. -/
  update : Option Nat

namespace Device

variable {K H : Type}

def start (runtime : Runtime K H) (unconfirmed canRollBack : Bool) : Device K H where
  runtime := runtime
  controller := .boot
  supervision := default
  transport := .waiting 0
  stalled := false
  unconfirmed := unconfirmed
  canRollBack := canRollBack
  check := 0
  rollback := none
  update := none

inductive Event where
  /-- The controller of the radio, and requests of the console to it. -/
  | radio (event : WifiController.Event)
  /-- The network stack uses the guarded driver. -/
  | driver (call : DriverCall)
  /-- The interface monitor polls. -/
  | poll (ready v4 : Bool)
  /-- The transport task looks at its three futures. -/
  | exit (returned : Bool)
  | start
  /-- Another task calls the runtime. -/
  | operation (operation : Operation)
  /-- A pass over the image on trial, and whether its confirmation can be written. -/
  | check (commissioned written : Bool)
  /-- An update is staged. -/
  | staged

inductive Effect where
  | nothing
  | called (call : DriverCall)
  | exited (exit : TransportExit) (response : Response)
  | started
  | checked (verdict : OtaVerdict) (written : Bool)
  | staged

variable [KvBlobStore K] [Hardware H]

/-- Requests of the console may come at any time. -/
def reaches (d : Device K H) : WifiController.Event → Prop
  | .requestDisconnect => True
  | .requestRestart => True
  | .exited => False
  | .started => False
  | _ => d.transport = .running

instance (d : Device K H) : ∀ event, Decidable (d.reaches event)
  | .requestDisconnect | .requestRestart => isTrue trivial
  | .exited | .started => isFalse not_false
  | .waitChanged | .cancelled | .fetched _ _ | .woken | .disconnecting | .disconnectEnded _
  | .connecting | .associating _ _ | .connectEnded _ | .scanEnded _ =>
      inferInstanceAs (Decidable (_ = _))

def onNetwork (d : Device K H) (edit : Network → Network) : Device K H :=
  { d with controller := { d.controller with network := edit d.controller.network } }

/-- Which of the three futures is ready first, in the order in which they are looked at. -/
def exitCause (d : Device K H) (returned : Bool) : Option ExitCause :=
  if returned then some .stack
  else if d.controller.restart then some .restart
  else if d.stalled then some .stall
  else none

/-- The transport is down: reset the controller, or wait before the next start. -/
def exited (d : Device K H) (now : Nat) (cause : ExitCause) : Device K H × Effect :=
  let exit : TransportExit := ⟨cause, d.controller.network.healthyForMs now⟩
  let (supervision, response) := d.supervision.exited exit
  match response with
  | .reset =>
      ({ d with
          runtime := d.runtime.after .prepareReboot
          supervision := supervision
          transport := .resetting (now + RESET_DELAY_MS) }, .exited exit .reset)
  | .retry seconds =>
      ({ d with
          controller := (d.controller.step (now, .exited)).1
          supervision := supervision
          transport := .waiting (now + 1000 * seconds) }, .exited exit (.retry seconds))

/-- A pass over the image on trial. -/
def checked (d : Device K H) (now : Nat) (commissioned written : Bool) : Device K H × Effect :=
  let (runtime, verdict) := otaVerdict now commissioned (d.controller.network.currentHealthyMs now)
    Runtime.outputVerified d.runtime
  let passed : Device K H := { d with runtime := runtime, check := now + 5000 }
  match verdict with
  | .wait => (passed, .checked .wait written)
  | .confirm => ({ passed with unconfirmed := !written }, .checked .confirm written)
  | .rollBack =>
      if d.canRollBack then
        ({ passed with
            runtime := runtime.after .prepareReboot
            rollback := some (now + RESET_DELAY_MS) }, .checked .rollBack written)
      else (passed, .checked .rollBack written)

def step (d : Device K H) : Nat × Event → Device K H × Effect
  | (now, .radio event) =>
      (if d.reaches event then { d with controller := (d.controller.step (now, event)).1 } else d,
        .nothing)
  | (now, .driver call) =>
      if d.transport = .running then
        let stalled := (GuardedDriver.call d.controller.network.queue (now, call)).2.stalled
        ({ d.onNetwork fun network => network.after (now, GuardedDriver.event call) with
            stalled := d.stalled || stalled }, .called call)
      else (d, .nothing)
  | (now, .poll ready v4) =>
      if d.transport = .running then
        let polled := d.onNetwork fun network => (network.poll now ready v4).1
        if (d.controller.network.poll now ready v4).2 then polled.exited now .stack
        else (polled, .nothing)
      else (d, .nothing)
  | (now, .exit returned) =>
      if d.transport = .running then
        match d.exitCause returned with
        | some cause => d.exited now cause
        | none => (d, .nothing)
      else (d, .nothing)
  | (now, .start) =>
      match d.transport with
      | .waiting till =>
          if till ≤ now then
            ({ d with
                controller := (d.controller.step (now, .started)).1
                transport := .running
                stalled := false }, .started)
          else (d, .nothing)
      | _ => (d, .nothing)
  | (_, .operation operation) => ({ d with runtime := d.runtime.after operation }, .nothing)
  | (now, .check commissioned written) =>
      if d.unconfirmed ∧ d.rollback = none ∧ d.check ≤ now then d.checked now commissioned written
      else (d, .nothing)
  | (now, .staged) =>
      if d.update = none then
        ({ d with runtime := d.runtime.after .prepareReboot, update := some (now + RESET_DELAY_MS) },
          .staged)
      else (d, .nothing)

/-! ### A blocked queue -/

/-- For sixty seconds no call of the driver made progress. -/
def Blocked (calls : List (Nat × DriverCall)) : Prop :=
  ∃ earlier first later last rest, calls = earlier ++ (first :: later) ++ rest ∧
    (first :: later).getLast? = some last ∧ first.1 + 60000 ≤ last.1 ∧
    ∀ made ∈ first :: later, ¬made.2.progress

theorem Blocked.concat {calls : List (Nat × DriverCall)} (blocked : Blocked calls)
    (call : Nat × DriverCall) : Blocked (calls ++ [call]) := by
  obtain ⟨earlier, first, later, last, rest, rfl, stretch⟩ := blocked
  exact ⟨earlier, first, later, last, rest ++ [call], by simp, stretch⟩

theorem blocked_of_stalled {calls : List (Nat × DriverCall)} {call : Nat × DriverCall}
    (stalled : (GuardedDriver.call (stateAfter GuardedDriver.call default calls) call).2.stalled = true) :
    Blocked (calls ++ [call]) := by
  obtain ⟨⟨earlier, first, later, split, passed, none⟩, _⟩ := GuardedDriver.stalled_only stalled
  refine ⟨earlier, first, later, call, [], by rw [split, List.append_nil], ?_, passed, none⟩
  have ends := congrArg List.getLast? split
  rw [List.getLast?_concat, List.getLast?_append_of_ne_nil _ (List.cons_ne_nil _ _)] at ends
  exact ends.symm

/-- Nothing but a start renews the guard of the queue. -/
theorem step_queue (c : WifiController) {input : Nat × WifiController.Event}
    (running : input.2 ≠ .started) : (c.step input).1.network.queue = c.network.queue := by
  have updated : ∀ (c : WifiController) now up rssi,
      (c.updateConnected now up rssi).network.queue = c.network.queue := by
    intro c now up rssi
    cases up <;> cases rssi <;> rfl
  have recorded : ∀ (c : WifiController) now result,
      (c.recordConnectionResult now result).network.queue = c.network.queue := by
    intro c now result
    cases result with
    | ok value => rfl
    | error code => exact updated c now false none
  have timed : ∀ (c : WifiController) outcome, (c.deadline outcome).1.network = c.network := by
    intro c outcome
    cases outcome <;> rfl
  obtain ⟨now, event⟩ := input
  cases event with
  | requestDisconnect =>
      rcases c.requestDisconnect_cases now with same | ⟨_, same⟩
      · rw [same]
      · rw [same]
  | waitChanged =>
      simp only [WifiController.step]
      split <;> rfl
  | fetched connected rssi =>
      simp only [WifiController.step]
      split
      · exact updated c now connected _
      · rfl
  | woken =>
      simp only [WifiController.step]
      split
      · split <;> rfl
      · rfl
  | disconnecting =>
      simp only [WifiController.step]
      split
      · exact updated c now false none
      · rfl
  | disconnectEnded outcome =>
      simp only [WifiController.step]
      split
      · exact (recorded _ now _).trans (congrArg Network.queue (timed c outcome))
      · rfl
  | connecting => exact updated { c with attempts := c.attempts + 1 } now false none
  | associating connected rssi => exact updated c now connected rssi
  | connectEnded outcome =>
      exact (recorded _ now _).trans (congrArg Network.queue (timed c outcome))
  | scanEnded outcome =>
      simp only [WifiController.step]
      split
      · exact (updated _ now false none).trans (congrArg Network.queue (timed c outcome))
      · exact congrArg Network.queue (timed c outcome)
  | started => exact absurd rfl running
  | _ => rfl

/-! ### What precedes a reset -/

/-- An event with what it did. -/
abbrev Entry : Type := (Nat × Event) × Effect

def Effect.isStarted : Effect → Bool
  | .started => true
  | _ => false

def Entry.call (entry : Entry) : Option (Nat × DriverCall) :=
  match entry.2 with
  | .called call => some (entry.1.1, call)
  | _ => none

/-- The calls of the driver since the transport started. -/
def calls (entries : List Entry) : List (Nat × DriverCall) :=
  (entries.rtakeWhile fun entry => !entry.2.isStarted).filterMap Entry.call

theorem calls_concat (entries : List Entry) (entry : Entry) :
    calls (entries ++ [entry]) =
      if entry.2.isStarted then [] else calls entries ++ entry.call.toList := by
  unfold calls
  rw [List.rtakeWhile_concat]
  cases entry.2.isStarted with
  | true => rfl
  | false =>
      rw [if_neg Bool.false_ne_true, Bool.not_false, if_pos rfl, List.filterMap_append]
      cases called : entry.call <;> simp [called]

/-- A transmit stall ended the transport. -/
def Effect.Stalls (effect : Effect) : Prop :=
  ∃ healthyMs response, effect = .exited ⟨.stall, healthyMs⟩ response

/-- The transport that ended had been healthy for two minutes. -/
def Effect.Recovers (effect : Effect) : Prop :=
  ∃ exit response, effect = .exited exit response ∧ exit.Healthy

/-- A transmit stall ended an earlier transport, whose queue was blocked for sixty seconds, and
no transport since has been healthy for two minutes. -/
def StalledBefore (entries : List Entry) : Prop :=
  ∃ earlier exit between, entries = earlier ++ exit :: between ∧ exit.2.Stalls ∧
    Blocked (calls earlier) ∧ ∀ later ∈ between, ¬later.2.Recovers

theorem StalledBefore.concat {entries : List Entry} {entry : Entry} (stalled : StalledBefore entries)
    (ill : ¬entry.2.Recovers) : StalledBefore (entries ++ [entry]) := by
  obtain ⟨earlier, exit, between, rfl, stalls, blocked, short⟩ := stalled
  refine ⟨earlier, exit, between ++ [entry], by simp, stalls, blocked, fun later member => ?_⟩
  rcases List.mem_append.mp member with early | last
  · exact short later early
  · rw [List.mem_singleton.mp last]
    exact ill

/-- What the tasks remember of a run. -/
structure Recalls (entries : List Entry) (d : Device K H) : Prop where
  queue : d.controller.network.queue = stateAfter GuardedDriver.call default (calls entries)
  stalled : d.stalled = true → Blocked (calls entries)
  recreated : d.supervision.queueRecovery.recreated = true → StalledBefore entries

/-- A reset is the response to a stall after a stall; otherwise a stall is remembered. -/
theorem exited_cases (d : Device K H) (now : Nat) (cause : ExitCause) :
    ∃ healthyMs response, (d.exited now cause).2 = .exited ⟨cause, healthyMs⟩ response ∧
      (d.exited now cause).1.controller.network.queue = d.controller.network.queue ∧
      (d.exited now cause).1.stalled = d.stalled ∧
      (response = .reset → cause = .stall ∧ d.supervision.queueRecovery.recreated = true ∧
        healthyMs < 120000) ∧
      ((d.exited now cause).1.supervision.queueRecovery.recreated = true →
        cause = .stall ∨ d.supervision.queueRecovery.recreated = true ∧ healthyMs < 120000) := by
  let exit : TransportExit := ⟨cause, d.controller.network.healthyForMs now⟩
  by_cases again : exit.cause = .stall ∧ d.supervision.queueRecovery.recreated ∧ ¬exit.Healthy
  · obtain ⟨next, resets⟩ := Supervision.exited_reset again
    have same : d.exited now cause = ({ d with
        runtime := d.runtime.after .prepareReboot
        supervision := next
        transport := .resetting (now + RESET_DELAY_MS) }, .exited exit .reset) := by
      simp only [exited, exit, resets]
    rw [same]
    exact ⟨_, _, rfl, rfl, rfl, fun _ => ⟨again.1, again.2.1, Nat.not_le.mp again.2.2⟩, fun _ => .inl again.1⟩
  · obtain ⟨recovery, retries, recreated⟩ := Supervision.exited_retry again
    have same : d.exited now cause = ({ d with
        controller := (d.controller.step (now, .exited)).1
        supervision := ⟨(d.supervision.backoff.nextDelaySecs exit.healthyMs).1, recovery⟩
        transport := .waiting (now + 1000 * (d.supervision.backoff.nextDelaySecs exit.healthyMs).2) },
        .exited exit (.retry (d.supervision.backoff.nextDelaySecs exit.healthyMs).2)) := by
      simp only [exited, exit, retries]
    rw [same]
    refine ⟨_, _, rfl, rfl, rfl, nofun, fun again => ?_⟩
    exact (recreated.mp again).imp_right fun kept => ⟨kept.1, Nat.not_le.mp kept.2⟩

section

variable {entries : List Entry} {d t : Device K H}

omit [KvBlobStore K] [Hardware H] in
/-- An event that leaves what is remembered. -/
theorem Recalls.keep (recalls : Recalls entries d) {entry : Entry}
    (queue : t.controller.network.queue = d.controller.network.queue) (stalled : t.stalled = d.stalled)
    (supervision : t.supervision = d.supervision) (running : entry.2.isStarted = false)
    (silent : entry.call = none) (ill : ¬entry.2.Recovers) : Recalls (entries ++ [entry]) t := by
  have same : calls (entries ++ [entry]) = calls entries := by
    rw [calls_concat, running, silent, if_neg Bool.false_ne_true, Option.toList_none, List.append_nil]
  constructor
  · rw [same, queue]
    exact recalls.queue
  · rw [same, stalled]
    exact recalls.stalled
  · rw [supervision]
    exact fun recreated => (recalls.recreated recreated).concat ill

omit [KvBlobStore K] [Hardware H] in
theorem stalled_of_exitCause (d : Device K H) {returned : Bool}
    (stall : d.exitCause returned = some .stall) : d.stalled = true := by
  unfold exitCause at stall
  split at stall
  · cases stall
  · split at stall
    · cases stall
    · split at stall
      · assumption
      · cases stall

/-- The end of a transport, which a stall ends only where the queue was blocked. -/
theorem Recalls.exited (recalls : Recalls entries d) {input : Nat × Event} (now : Nat)
    {cause : ExitCause} (told : cause = .stall → d.stalled = true) :
    Recalls (entries ++ [(input, (d.exited now cause).2)]) (d.exited now cause).1 := by
  obtain ⟨healthyMs, response, effect, queue, stalled, _, recreated⟩ := d.exited_cases now cause
  rw [effect]
  have same : calls (entries ++ [(input, Effect.exited ⟨cause, healthyMs⟩ response)]) =
      calls entries := by
    rw [calls_concat]
    exact List.append_nil _
  constructor
  · rw [same, queue]
    exact recalls.queue
  · rw [same, stalled]
    exact recalls.stalled
  · intro again
    rcases recreated again with rfl | ⟨before, short⟩
    · exact ⟨entries, _, [], rfl, ⟨healthyMs, response, rfl⟩, recalls.stalled (told rfl), nofun⟩
    · refine (recalls.recreated before).concat ?_
      rintro ⟨exit, other, same, healthy⟩
      cases same
      exact absurd healthy (Nat.not_le.mpr short)

/-- A pass over the image leaves the transport alone. -/
theorem checked_cases (d : Device K H) (now : Nat) (commissioned written : Bool) :
    ∃ verdict, (d.checked now commissioned written).2 = .checked verdict written ∧
      (d.checked now commissioned written).1.controller = d.controller ∧
      (d.checked now commissioned written).1.stalled = d.stalled ∧
      (d.checked now commissioned written).1.supervision = d.supervision ∧
      (d.checked now commissioned written).1.transport = d.transport := by
  unfold checked
  dsimp only
  split
  · exact ⟨_, rfl, rfl, rfl, rfl, rfl⟩
  · exact ⟨_, rfl, rfl, rfl, rfl, rfl⟩
  · split
    · exact ⟨_, rfl, rfl, rfl, rfl, rfl⟩
    · exact ⟨_, rfl, rfl, rfl, rfl, rfl⟩

theorem Recalls.step (recalls : Recalls entries d) (input : Nat × Event) :
    Recalls (entries ++ [(input, (d.step input).2)]) (d.step input).1 := by
  have silent : ¬Effect.nothing.Recovers := by
    rintro ⟨exit, response, wrong, _⟩
    cases wrong
  have idle : Recalls (entries ++ [(input, .nothing)]) d := recalls.keep rfl rfl rfl rfl rfl silent
  obtain ⟨now, event⟩ := input
  cases event with
  | radio event =>
      simp only [Device.step]
      split
      · next reaches =>
          refine recalls.keep (step_queue d.controller ?_) rfl rfl rfl rfl silent
          rintro rfl
          exact reaches
      · exact idle
  | driver call =>
      simp only [Device.step]
      split
      · have grows : calls (entries ++ [((now, Event.driver call), Effect.called call)]) =
            calls entries ++ [(now, call)] := calls_concat _ _
        refine ⟨?_, ?_, fun recreated => (recalls.recreated recreated).concat ?_⟩
        · rw [grows, stateAfter_concat, ← recalls.queue]
          exact GuardedDriver.after_queue d.controller.network now call
        · rw [grows]
          intro stalled
          rcases Bool.or_eq_true_iff.mp stalled with before | due
          · exact (recalls.stalled before).concat _
          · rw [recalls.queue] at due
            exact blocked_of_stalled due
        · rintro ⟨exit, response, wrong, _⟩
          cases wrong
      · exact idle
  | poll ready v4 =>
      have queue : (d.controller.network.poll now ready v4).1.queue = d.controller.network.queue := by
        unfold Network.poll
        dsimp only
        split <;> rfl
      have polled : Recalls entries (d.onNetwork fun network => (network.poll now ready v4).1) :=
        ⟨queue.trans recalls.queue, recalls.stalled, recalls.recreated⟩
      simp only [Device.step]
      split
      · split
        · exact polled.exited now nofun
        · exact polled.keep rfl rfl rfl rfl rfl silent
      · exact idle
  | exit returned =>
      simp only [Device.step]
      split
      · split
        · next cause ready =>
            exact recalls.exited now fun stall => d.stalled_of_exitCause (ready.trans (congrArg some stall))
        · exact idle
      · exact idle
  | start =>
      simp only [Device.step]
      split
      · split
        · have fresh : calls (entries ++ [((now, Event.start), Effect.started)]) = [] := calls_concat _ _
          refine ⟨?_, nofun, fun recreated => (recalls.recreated recreated).concat ?_⟩
          · rw [fresh]
            rfl
          · rintro ⟨exit, response, wrong, _⟩
            cases wrong
        · exact idle
      · exact idle
  | operation operation => exact recalls.keep rfl rfl rfl rfl rfl silent
  | check commissioned written =>
      simp only [Device.step]
      split
      · obtain ⟨verdict, effect, controller, stalled, supervision, _⟩ :=
          d.checked_cases now commissioned written
        rw [effect]
        refine recalls.keep (by rw [controller]) stalled supervision rfl rfl ?_
        rintro ⟨exit, response, wrong, _⟩
        cases wrong
      · exact idle
  | staged =>
      simp only [Device.step]
      split
      · refine recalls.keep rfl rfl rfl rfl rfl ?_
        rintro ⟨exit, response, wrong, _⟩
        cases wrong
      · exact idle

theorem recalls (runtime : Runtime K H) (unconfirmed canRollBack : Bool) (inputs : List (Nat × Event)) :
    Recalls (transcript step (start runtime unconfirmed canRollBack) inputs)
      (stateAfter step (start runtime unconfirmed canRollBack) inputs) := by
  induction inputs using List.reverseRecOn with
  | nil => exact ⟨rfl, nofun, nofun⟩
  | append_singleton inputs input inductionHypothesis =>
      rw [transcript_concat, stateAfter_concat]
      exact inductionHypothesis.step input

/-- What an event does to a transport that it ends. -/
theorem exited_of_step (recalls : Recalls entries d) {input : Nat × Event} {exit : TransportExit}
    (resets : (d.step input).2 = .exited exit .reset) :
    exit.cause = .stall ∧ exit.healthyMs < 120000 ∧ Blocked (calls entries) ∧ StalledBefore entries := by
  obtain ⟨now, event⟩ := input
  have ended : ∀ t : Device K H, t.supervision = d.supervision → ∀ cause,
      (cause = .stall → d.stalled = true) → (t.exited now cause).2 = .exited exit .reset →
      exit.cause = .stall ∧ exit.healthyMs < 120000 ∧ Blocked (calls entries) ∧ StalledBefore entries := by
    intro t same cause told resets
    obtain ⟨healthyMs, response, effect, _, _, reset, _⟩ := t.exited_cases now cause
    rw [effect] at resets
    cases resets
    obtain ⟨rfl, recreated, short⟩ := reset rfl
    exact ⟨rfl, short, recalls.stalled (told rfl), recalls.recreated (same ▸ recreated)⟩
  cases event with
  | poll ready v4 =>
      simp only [step] at resets
      split at resets
      · split at resets
        · exact ended (d.onNetwork fun network => (network.poll now ready v4).1) rfl .stack nofun resets
        · cases resets
      · cases resets
  | exit returned =>
      simp only [step] at resets
      split at resets
      · split at resets
        · next cause ready =>
            exact ended d rfl cause
              (fun stall => d.stalled_of_exitCause (ready.trans (congrArg some stall))) resets
        · cases resets
      · cases resets
  | check commissioned written =>
      simp only [step] at resets
      split at resets
      · obtain ⟨verdict, effect, _⟩ := d.checked_cases now commissioned written
        rw [effect] at resets
        cases resets
      · cases resets
  | driver call =>
      simp only [step] at resets
      split at resets <;> cases resets
  | start =>
      simp only [step] at resets
      split at resets
      · split at resets <;> cases resets
      · cases resets
  | staged =>
      simp only [step] at resets
      split at resets <;> cases resets
  | radio event => cases resets
  | operation operation => cases resets

/-- Whatever happens after a boot, the transport task resets the controller only where the
queue of this transport was blocked for sixty seconds, the queue of an earlier transport had
been blocked for sixty seconds as well and a stall ended it, and no transport between them or
this one was healthy for two minutes. -/
theorem reset_after_two_stalls (runtime : Runtime K H) (unconfirmed canRollBack : Bool)
    (inputs : List (Nat × Event)) (input : Nat × Event) (exit : TransportExit)
    (resets : ((stateAfter step (start runtime unconfirmed canRollBack) inputs).step input).2 =
      .exited exit .reset) :
    let entries := transcript step (start runtime unconfirmed canRollBack) inputs
    exit.cause = .stall ∧ exit.healthyMs < 120000 ∧ Blocked (calls entries) ∧ StalledBefore entries :=
  exited_of_step (recalls runtime unconfirmed canRollBack inputs) resets

/-- Two transports in a row, each with a queue that is blocked for a minute. -/
def twoStalls : List (Nat × Event) :=
  [(0, .start), (0, .driver (.linkState true false)), (60000, .driver (.linkState true false)),
    (60000, .exit false), (65000, .start), (65000, .driver (.linkState true false)),
    (125000, .driver (.linkState true false))]

theorem reset_after_two_stalls_minute :
    let entries := transcript step (start (Runtime.bench none) false false) twoStalls
    ExitCause.stall = .stall ∧ 0 < 120000 ∧ Blocked (calls entries) ∧ StalledBefore entries :=
  reset_after_two_stalls (Runtime.bench none) false false twoStalls (125000, .exit false) ⟨.stall, 0⟩ rfl

end

/-! ### The pace of restarts -/

def Entry.start (entry : Entry) : Option Nat :=
  match entry.2 with
  | .started => some entry.1.1
  | _ => none

/-- When transports started. -/
def starts (entries : List Entry) : List Nat := entries.filterMap Entry.start

theorem starts_concat (entries : List Entry) (entry : Entry) :
    starts (entries ++ [entry]) = starts entries ++ entry.start.toList := by
  rw [starts, List.filterMap_append]
  cases same : entry.start <;> simp [same, starts]

/-- Transports start five seconds apart, and none waits longer than a minute. -/
structure Paced (entries : List Entry) (clock : Nat) (d : Device K H) : Prop where
  spaced : (starts entries).Pairwise fun earlier later => earlier + 5000 ≤ later
  past : ∀ time ∈ starts entries, time ≤ clock
  waits : ∀ till, d.transport = .waiting till →
    (∀ time ∈ starts entries, time + 5000 ≤ till) ∧ till ≤ clock + 60000

omit [KvBlobStore K] [Hardware H] in
theorem nextDelaySecs_bounds (backoff : RestartBackoff) (healthyMs : Nat) :
    5 ≤ (backoff.nextDelaySecs healthyMs).2 ∧ (backoff.nextDelaySecs healthyMs).2 ≤ 60 := by
  simp only [RestartBackoff.nextDelaySecs, delay_of_exponent]
  have grows : ∀ exponent, 1 ≤ 2 ^ exponent := fun exponent => Nat.one_le_two_pow
  exact ⟨Nat.le_min.mpr ⟨by decide, Nat.le_mul_of_pos_right 5 (grows _)⟩, Nat.min_le_left _ _⟩

theorem exited_waits (d : Device K H) (now : Nat) (cause : ExitCause) {till : Nat}
    (waits : (d.exited now cause).1.transport = .waiting till) :
    now + 5000 ≤ till ∧ till ≤ now + 60000 := by
  let exit : TransportExit := ⟨cause, d.controller.network.healthyForMs now⟩
  by_cases again : exit.cause = .stall ∧ d.supervision.queueRecovery.recreated ∧ ¬exit.Healthy
  · obtain ⟨next, resets⟩ := Supervision.exited_reset again
    simp only [exited, exit, resets] at waits
    cases waits
  · obtain ⟨recovery, retries, _⟩ := Supervision.exited_retry again
    obtain ⟨least, most⟩ :=
      nextDelaySecs_bounds d.supervision.backoff (d.controller.network.healthyForMs now)
    simp only [exited, exit, retries] at waits
    cases waits
    omega

section

variable {entries : List Entry} {clock : Nat} {d t : Device K H} {input : Nat × Event}

omit [KvBlobStore K] [Hardware H] in
theorem Paced.keep (paced : Paced entries clock d) (present : clock ≤ input.1) {effect : Effect}
    (transport : t.transport = d.transport) (silent : Entry.start (input, effect) = none) :
    Paced (entries ++ [(input, effect)]) input.1 t := by
  have same : starts (entries ++ [(input, effect)]) = starts entries := by
    rw [starts_concat, silent, Option.toList_none, List.append_nil]
  refine ⟨same ▸ paced.spaced, fun time member => ?_, fun till waits => ?_⟩
  · rw [same] at member
    exact Nat.le_trans (paced.past time member) present
  · rw [same]
    obtain ⟨apart, soon⟩ := paced.waits till (transport ▸ waits)
    exact ⟨apart, Nat.le_trans soon (Nat.add_le_add_right present _)⟩

theorem Paced.exited (paced : Paced entries clock d) (present : clock ≤ input.1) (cause : ExitCause) :
    Paced (entries ++ [(input, (d.exited input.1 cause).2)]) input.1 (d.exited input.1 cause).1 := by
  obtain ⟨healthyMs, response, effect, _⟩ := d.exited_cases input.1 cause
  rw [effect]
  have same : starts (entries ++ [(input, Effect.exited ⟨cause, healthyMs⟩ response)]) = starts entries := by
    rw [starts_concat]
    exact List.append_nil _
  refine ⟨same ▸ paced.spaced, fun time member => ?_, fun till waits => ?_⟩
  · rw [same] at member
    exact Nat.le_trans (paced.past time member) present
  · rw [same]
    obtain ⟨least, most⟩ := d.exited_waits input.1 cause waits
    refine ⟨fun time member => ?_, most⟩
    have before := paced.past time member
    omega

theorem Paced.step (paced : Paced entries clock d) (present : clock ≤ input.1) :
    Paced (entries ++ [(input, (d.step input).2)]) input.1 (d.step input).1 := by
  have idle : Paced (entries ++ [(input, .nothing)]) input.1 d := paced.keep present rfl rfl
  obtain ⟨now, event⟩ := input
  cases event with
  | radio event =>
      simp only [Device.step]
      split
      · exact paced.keep present rfl rfl
      · exact idle
  | driver call =>
      simp only [Device.step]
      split
      · exact paced.keep present rfl rfl
      · exact idle
  | poll ready v4 =>
      have polled : Paced entries clock (d.onNetwork fun network => (network.poll now ready v4).1) :=
        ⟨paced.spaced, paced.past, paced.waits⟩
      simp only [Device.step]
      split
      · split
        · exact polled.exited present .stack
        · exact polled.keep present rfl rfl
      · exact idle
  | exit returned =>
      simp only [Device.step]
      split
      · split
        · exact paced.exited present _
        · exact idle
      · exact idle
  | start =>
      simp only [Device.step]
      split
      · next till waits =>
          split
          · next due =>
              obtain ⟨apart, _⟩ := paced.waits till waits
              have grows : starts (entries ++ [((now, Event.start), Effect.started)]) =
                  starts entries ++ [now] := starts_concat _ _
              refine ⟨?_, fun time member => ?_, nofun⟩
              · rw [grows, List.pairwise_append]
                refine ⟨paced.spaced, List.pairwise_singleton _ _, fun time member later last => ?_⟩
                rw [List.mem_singleton.mp last]
                exact Nat.le_trans (apart time member) due
              · rw [grows] at member
                rcases List.mem_append.mp member with early | last
                · exact Nat.le_trans (paced.past time early) present
                · exact Nat.le_of_eq (List.mem_singleton.mp last)
          · exact idle
      · exact idle
  | operation operation => exact paced.keep present rfl rfl
  | check commissioned written =>
      simp only [Device.step]
      split
      · obtain ⟨verdict, effect, _, _, _, transport⟩ := d.checked_cases now commissioned written
        rw [effect]
        exact paced.keep present transport rfl
      · exact idle
  | staged =>
      simp only [Device.step]
      split
      · exact paced.keep present rfl rfl
      · exact idle

theorem paced (runtime : Runtime K H) (unconfirmed canRollBack : Bool) {inputs : List (Nat × Event)}
    {now : Nat} (ordered : Ordered inputs now) :
    Paced (transcript Device.step (start runtime unconfirmed canRollBack) inputs) (lastTime 0 inputs)
      (stateAfter Device.step (start runtime unconfirmed canRollBack) inputs) := by
  induction inputs using List.reverseRecOn generalizing now with
  | nil =>
      refine ⟨.nil, nofun, fun till waits => ?_⟩
      cases waits
      exact ⟨nofun, Nat.zero_le _⟩
  | append_singleton inputs input inductionHypothesis =>
      obtain ⟨before, _⟩ := ordered_concat.mp ordered
      rw [transcript_concat, stateAfter_concat, lastTime_concat]
      exact (inductionHypothesis before).step before.lastTime_le

/-- Whatever ends the transports of a boot, a stretch of time sees at most one start for each
five seconds of it and one more, and no transport waits more than a minute for its start. -/
theorem restarts_paced (runtime : Runtime K H) (unconfirmed canRollBack : Bool)
    (inputs : List (Nat × Event)) (now : Nat) (ordered : Ordered inputs now) :
    (∀ since till, 5000 * ((starts (transcript Device.step (start runtime unconfirmed canRollBack)
        inputs)).filter fun time => since ≤ time ∧ time ≤ till).length ≤ till - since + 5000) ∧
      ∀ till, (stateAfter Device.step (start runtime unconfirmed canRollBack) inputs).transport =
        .waiting till → till ≤ now + 60000 := by
  have paced := paced runtime unconfirmed canRollBack ordered
  refine ⟨fun since till => ?_, fun till waits => ?_⟩
  · refine length_le_of_spaced (paced.spaced.filter _) fun time member => ?_
    simpa using (List.mem_filter.mp member).2
  · exact Nat.le_trans (paced.waits till waits).2 (Nat.add_le_add_right ordered.lastTime_le _)

/-- Two starts within the minute of the first stall and five seconds more. -/
theorem restarts_paced_stalls :
    (∀ since till, 5000 * ((starts (transcript Device.step (start (Runtime.bench none) false false)
        twoStalls)).filter fun time => since ≤ time ∧ time ≤ till).length ≤ till - since + 5000) ∧
      ∀ till, (stateAfter Device.step (start (Runtime.bench none) false false) twoStalls).transport =
        .waiting till → till ≤ 125000 + 60000 :=
  restarts_paced _ false false twoStalls 125000 ⟨by decide, by decide⟩

end

/-! ### The runtime beside the tasks -/

/-- What an event calls the runtime for: the operation of another task, or a check of the
output or the preparation of a reset. -/
def Calls (event : Event) (operation : Operation) : Prop :=
  event = .operation operation ∨ operation = .verify ∨ operation = .prepareReboot

/-- The evidence that confirms an image: it belongs to a fabric, the network has been healthy
for thirty seconds, and the output is known without a fault and reads back. -/
structure Proves (d : Device K H) (now : Nat) (commissioned : Bool) : Prop where
  commissioned : commissioned = true
  healthy : OTA_HEALTHY_MS ≤ d.controller.network.currentHealthyMs now
  faultless : d.runtime.state.fault = .none
  known : d.runtime.state.controller.appliedFrame.isSome
  verified : (d.runtime.outcome .verify).isOk = true

/-- The verdict is to confirm exactly on the evidence. -/
theorem otaVerdict_eq (d : Device K H) (now : Nat) (commissioned : Bool) :
    (d.Proves now commissioned ∧
      otaVerdict now commissioned (d.controller.network.currentHealthyMs now) Runtime.outputVerified
        d.runtime = (d.runtime.after .verify, .confirm)) ∨
    ¬d.Proves now commissioned ∧ ∃ operations, (∀ operation ∈ operations, operation = .verify) ∧
      otaVerdict now commissioned (d.controller.network.currentHealthyMs now) Runtime.outputVerified
        d.runtime =
          (d.runtime.run operations, if OTA_CONFIRM_DEADLINE_MS ≤ now then .rollBack else .wait) := by
  by_cases asked : commissioned ∧ OTA_HEALTHY_MS ≤ d.controller.network.currentHealthyMs now
  · simp only [otaVerdict, if_pos asked]
    rcases d.runtime.outputVerified_cases with ⟨same, unknown⟩ | ⟨same, faultless, known⟩
    · rw [same]
      exact .inr ⟨fun proves => unknown ⟨proves.faultless, proves.known⟩, [], nofun, rfl⟩
    · rw [same]
      cases verified : (d.runtime.outcome .verify).isOk with
      | true => exact .inl ⟨⟨asked.1, asked.2, faultless, known, verified⟩, rfl⟩
      | false =>
          refine .inr ⟨fun proves => ?_, [.verify], by simp, rfl⟩
          exact absurd (verified.symm.trans proves.verified) Bool.false_ne_true
  · simp only [otaVerdict, if_neg asked]
    exact .inr ⟨fun proves => asked ⟨proves.commissioned, proves.healthy⟩, [], nofun, rfl⟩

/-- A pass confirms on the evidence, and prepares a rollback past the deadline without it. -/
theorem checked_eq (d : Device K H) (now : Nat) (commissioned written : Bool) :
    (d.Proves now commissioned ∧ d.checked now commissioned written =
      ({ d with
          runtime := d.runtime.after .verify
          check := now + 5000
          unconfirmed := !written }, .checked .confirm written)) ∨
    ¬d.Proves now commissioned ∧ ∃ operations, (∀ operation ∈ operations, operation = .verify) ∧
      d.checked now commissioned written =
        if OTA_CONFIRM_DEADLINE_MS ≤ now then
          if d.canRollBack then
            ({ d with
                runtime := (d.runtime.run operations).after .prepareReboot
                check := now + 5000
                rollback := some (now + RESET_DELAY_MS) }, .checked .rollBack written)
          else ({ d with runtime := d.runtime.run operations, check := now + 5000 },
            .checked .rollBack written)
        else ({ d with runtime := d.runtime.run operations, check := now + 5000 },
          .checked .wait written) := by
  rcases d.otaVerdict_eq now commissioned with ⟨proves, verdict⟩ | ⟨unproven, operations, checks, verdict⟩
  · refine .inl ⟨proves, ?_⟩
    rw [checked, verdict]
  · refine .inr ⟨unproven, operations, checks, ?_⟩
    rw [checked, verdict]
    by_cases late : OTA_CONFIRM_DEADLINE_MS ≤ now
    · simp only [if_pos late]
    · simp only [if_neg late]

/-- Every event calls the runtime for a run of such operations. -/
theorem step_runtime (d : Device K H) (input : Nat × Event) :
    ∃ operations, (∀ operation ∈ operations, Calls input.2 operation) ∧
      (d.step input).1.runtime = d.runtime.run operations := by
  have exits : ∀ t : Device K H, t.runtime = d.runtime → ∀ now cause,
      ∃ operations, (∀ operation ∈ operations, Calls input.2 operation) ∧
        (t.exited now cause).1.runtime = d.runtime.run operations := by
    intro t same now cause
    unfold exited
    dsimp only
    split
    · exact ⟨[.prepareReboot], by simp [Calls], congrArg (Runtime.after · .prepareReboot) same⟩
    · exact ⟨[], nofun, same⟩
  obtain ⟨now, event⟩ := input
  cases event with
  | radio event =>
      refine ⟨[], nofun, ?_⟩
      simp only [step]
      split <;> rfl
  | driver call =>
      refine ⟨[], nofun, ?_⟩
      simp only [step]
      split <;> rfl
  | poll ready v4 =>
      simp only [step]
      split
      · split
        · exact exits (d.onNetwork fun network => (network.poll now ready v4).1) rfl now .stack
        · exact ⟨[], nofun, rfl⟩
      · exact ⟨[], nofun, rfl⟩
  | exit returned =>
      simp only [step]
      split
      · split
        · exact exits d rfl now _
        · exact ⟨[], nofun, rfl⟩
      · exact ⟨[], nofun, rfl⟩
  | start =>
      refine ⟨[], nofun, ?_⟩
      simp only [step]
      split
      · split <;> rfl
      · rfl
  | operation operation => exact ⟨[operation], by simp [Calls], rfl⟩
  | check commissioned written =>
      simp only [step]
      split
      · rcases d.checked_eq now commissioned written with ⟨_, same⟩ | ⟨_, operations, checks, same⟩
        · rw [same]
          exact ⟨[.verify], by simp [Calls], rfl⟩
        · have calls : ∀ operation ∈ operations, Calls (.check commissioned written) operation :=
            fun operation member => .inr (.inl (checks operation member))
          rw [same]
          split
          · split
            · refine ⟨operations ++ [.prepareReboot], ?_, ?_⟩
              · intro operation member
                rcases List.mem_append.mp member with early | last
                · exact calls operation early
                · exact .inr (.inr (List.mem_singleton.mp last))
              · exact (runAll_append Runtime.after d.runtime operations [.prepareReboot]).symm
            · exact ⟨operations, calls, rfl⟩
          · exact ⟨operations, calls, rfl⟩
      · exact ⟨[], nofun, rfl⟩
  | staged =>
      simp only [step]
      split
      · exact ⟨[.prepareReboot], by simp [Calls], rfl⟩
      · exact ⟨[], nofun, rfl⟩

theorem reachable_run {d : Device K H} (reachable : d.runtime.Reachable) (inputs : List (Nat × Event)) :
    (stateAfter step d inputs).runtime.Reachable := by
  refine stateAfter_invariant step (fun d => d.runtime.Reachable) ?_ reachable inputs
  intro d input reachable
  obtain ⟨operations, _, same⟩ := d.step_runtime input
  rw [same]
  exact reachable.run operations

/-! ### What can still happen before a reset -/

/-- The event prepares a reset of the controller. -/
def Prepares (d : Device K H) (input : Nat × Event) : Prop :=
  (∃ exit, (d.step input).2 = .exited exit .reset) ∨ (d.step input).2 = .staged ∨
    (d.rollback = none ∧ (d.step input).1.rollback ≠ none)

/-- No local Off with a readable intent and no failing read of the registers comes between. -/
def KeepsLatch (d : Device K H) (input : Nat × Event) : Prop :=
  ∀ operation, input.2 = .operation operation → d.runtime.LatchKept operation

/-- The trial of the image is where it was. -/
structure SameTrial (d t : Device K H) : Prop where
  unconfirmed : t.unconfirmed = d.unconfirmed
  rollback : t.rollback = d.rollback
  canRollBack : t.canRollBack = d.canRollBack

/-- What a step can do to the image on trial: nothing, or the transport ends, or a pass is made,
or an update is staged. -/
inductive StepCases (d : Device K H) (input : Nat × Event) : Prop where
  | other (kept : SameTrial d (d.step input).1)
      (effect : (d.step input).2 = .nothing ∨ (d.step input).2 = .started ∨
        ∃ call, (d.step input).2 = .called call)
  | ended (t : Device K H) (now : Nat) (cause : ExitCause) (same : d.step input = t.exited now cause)
      (kept : SameTrial d t)
  | passed (now : Nat) (commissioned written : Bool) (pass : input = (now, .check commissioned written))
      (unconfirmed : d.unconfirmed = true) (running : d.rollback = none)
      (same : d.step input = d.checked now commissioned written)
  | staged (same : d.step input = ({ d with
      runtime := d.runtime.after .prepareReboot, update := some (input.1 + RESET_DELAY_MS) }, .staged))

theorem step_cases (d : Device K H) (input : Nat × Event) : StepCases d input := by
  have idle : d.step input = (d, .nothing) → StepCases d input := fun same =>
    .other (by rw [same]; exact ⟨rfl, rfl, rfl⟩) (.inl (by rw [same]))
  obtain ⟨now, event⟩ := input
  cases event with
  | radio event =>
      refine .other ?_ (.inl rfl)
      simp only [step]
      split <;> exact ⟨rfl, rfl, rfl⟩
  | driver call =>
      by_cases running : d.transport = .running
      · refine .other ?_ (.inr (.inr ⟨call, ?_⟩)) <;> simp only [step, if_pos running]
        exact ⟨rfl, rfl, rfl⟩
      · exact idle (if_neg running)
  | poll ready v4 =>
      by_cases running : d.transport = .running
      · by_cases due : (d.controller.network.poll now ready v4).2
        · refine .ended (d.onNetwork fun network => (network.poll now ready v4).1) now .stack ?_ ⟨rfl, rfl, rfl⟩
          simp only [step, if_pos running, if_pos due]
        · refine .other ?_ (.inl ?_) <;> simp only [step, if_pos running, if_neg due]
          exact ⟨rfl, rfl, rfl⟩
      · exact idle (if_neg running)
  | exit returned =>
      by_cases running : d.transport = .running
      · cases ready : d.exitCause returned with
        | none => exact idle (by simp only [step, if_pos running, ready])
        | some cause =>
            exact .ended d now cause (by simp only [step, if_pos running, ready]) ⟨rfl, rfl, rfl⟩
      · exact idle (if_neg running)
  | start =>
      cases waiting : d.transport with
      | waiting till =>
          by_cases due : till ≤ now
          · refine .other ?_ (.inr (.inl ?_)) <;> simp only [step, waiting, if_pos due]
            exact ⟨rfl, rfl, rfl⟩
          · exact idle (by simp only [step, waiting, if_neg due])
      | _ => exact idle (by simp only [step, waiting])
  | operation operation => exact .other ⟨rfl, rfl, rfl⟩ (.inl rfl)
  | check commissioned written =>
      by_cases due : d.unconfirmed ∧ d.rollback = none ∧ d.check ≤ now
      · exact .passed now commissioned written rfl due.1 due.2.1 (if_pos due)
      · exact idle (if_neg due)
  | staged =>
      by_cases free : d.update = none
      · exact .staged (if_pos free)
      · exact idle (if_neg free)

/-- The end of a transport leaves the image on trial, and a reset latches the runtime. -/
theorem exited_latches (d : Device K H) (now : Nat) (cause : ExitCause) :
    SameTrial d (d.exited now cause).1 ∧
      ∃ exit response, (d.exited now cause).2 = .exited exit response ∧
        (response = .reset → (d.exited now cause).1.runtime.state.fault = .rebooting) := by
  unfold exited
  dsimp only
  split
  · exact ⟨⟨rfl, rfl, rfl⟩, _, _, rfl, fun _ => rfl⟩
  · exact ⟨⟨rfl, rfl, rfl⟩, _, _, rfl, nofun⟩

theorem prepares_latched {d : Device K H} {input : Nat × Event} (prepares : d.Prepares input) :
    (d.step input).1.runtime.state.fault = .rebooting := by
  cases d.step_cases input with
  | other kept effect =>
      rcases prepares with ⟨exit, reset⟩ | staged | ⟨none, some⟩
      · rw [reset] at effect
        simp at effect
      · rw [staged] at effect
        simp at effect
      · exact absurd (kept.rollback.trans none) some
  | ended t now cause same kept =>
      obtain ⟨ended, exit, response, effect, latches⟩ := t.exited_latches now cause
      rw [same]
      rcases prepares with ⟨other, reset⟩ | staged | ⟨none, some⟩
      · rw [same, effect] at reset
        cases reset
        exact latches rfl
      · rw [same, effect] at staged
        cases staged
      · rw [same] at some
        exact absurd ((ended.rollback.trans kept.rollback).trans none) some
  | passed now commissioned written pass _ running same =>
      rw [same]
      unfold Prepares at prepares
      rw [same] at prepares
      rcases d.checked_eq now commissioned written with ⟨_, passed⟩ | ⟨_, operations, _, passed⟩
      · rw [passed] at prepares
        rcases prepares with ⟨exit, wrong⟩ | wrong | ⟨none, some⟩
        · cases wrong
        · cases wrong
        · exact absurd none some
      · rw [passed] at prepares ⊢
        by_cases late : OTA_CONFIRM_DEADLINE_MS ≤ now
        · by_cases returns : d.canRollBack
          · rw [if_pos late, if_pos returns]
            rfl
          · rw [if_pos late, if_neg returns] at prepares
            rcases prepares with ⟨exit, wrong⟩ | wrong | ⟨none, some⟩
            · cases wrong
            · cases wrong
            · exact absurd none some
        · rw [if_neg late] at prepares
          rcases prepares with ⟨exit, wrong⟩ | wrong | ⟨none, some⟩
          · cases wrong
          · cases wrong
          · exact absurd none some
  | staged same =>
      rw [same]
      rfl

/-- Once a reset is prepared, and until it comes, the runtime stays rebooting and applies
nothing, whatever the tasks do. -/
structure StaysDark (r t : Runtime K H) : Prop where
  latched : t.state.fault = .rebooting
  dark : ∃ added, t.trace = added ++ r.trace ∧ ∀ event ∈ added, event.applies = false

omit [KvBlobStore K] [Hardware H] in
theorem StaysDark.refl {r : Runtime K H} (latched : r.state.fault = .rebooting) : StaysDark r r :=
  ⟨latched, [], rfl, by simp⟩

omit [KvBlobStore K] [Hardware H] in
theorem StaysDark.trans {r t u : Runtime K H} (first : StaysDark r t) (second : StaysDark t u) :
    StaysDark r u := by
  obtain ⟨_, added, logged, dark⟩ := first
  obtain ⟨latched, more, further, darker⟩ := second
  refine ⟨latched, more ++ added, ?_, fun event member => ?_⟩
  · rw [further, logged, List.append_assoc]
  · exact (List.mem_append.mp member).elim (darker event) (dark event)

theorem staysDark_of_kept {r : Runtime K H} (reachable : r.Reachable)
    (latched : r.state.fault = .rebooting) {operation : Operation} (kept : r.LatchKept operation) :
    StaysDark r (r.after operation) := by
  have unknown : r.state.controller.appliedFrame = none := by
    by_contra known
    have faultless := (reachable.truthful.healthy nofun known).1
    rw [latched] at faultless
    cases faultless
  have held := (Runtime.latchHeld_iff latched unknown operation).mpr kept
  obtain ⟨added, logged⟩ := r.trace_suffix operation
  refine ⟨held.latched, added, logged.symm, ?_⟩
  rw [← Runtime.events_eq logged.symm]
  exact held.dark

theorem staysDark_run {operations : List Operation} {r : Runtime K H} (reachable : r.Reachable)
    (latched : r.state.fault = .rebooting) (kept : Along Runtime.after Runtime.LatchKept r operations) :
    StaysDark r (r.run operations) := by
  induction operations generalizing r with
  | nil => exact .refl latched
  | cons operation rest inductionHypothesis =>
      have first := staysDark_of_kept reachable latched kept.1
      exact first.trans (inductionHypothesis (reachable.after operation) first.latched kept.2)

theorem staysDark_step {d : Device K H} (reachable : d.runtime.Reachable)
    (latched : d.runtime.state.fault = .rebooting) {input : Nat × Event} (kept : d.KeepsLatch input) :
    StaysDark d.runtime (d.step input).1.runtime := by
  by_cases other : ∃ operation, input.2 = .operation operation
  · obtain ⟨now, event⟩ := input
    obtain ⟨operation, rfl⟩ := other
    exact staysDark_of_kept reachable latched (kept operation rfl)
  · obtain ⟨operations, calls, same⟩ := d.step_runtime input
    rw [same]
    refine staysDark_run reachable latched (Along.of_inputs (fun t operation member => ?_) _)
    rcases calls operation member with called | rfl | rfl
    · exact absurd ⟨operation, called⟩ other
    · trivial
    · trivial

/-- A runtime that is rebooting proves nothing. -/
theorem unconfirmed_of_latched {d : Device K H} (latched : d.runtime.state.fault = .rebooting)
    (input : Nat × Event) (written : Bool) : (d.step input).2 ≠ .checked .confirm written := by
  intro confirms
  cases d.step_cases input with
  | other _ effect =>
      rw [confirms] at effect
      simp at effect
  | ended t now cause same _ =>
      obtain ⟨_, exit, response, effect, _⟩ := t.exited_latches now cause
      rw [same, effect] at confirms
      cases confirms
  | passed now commissioned kept pass _ _ same =>
      rw [same] at confirms
      rcases d.checked_eq now commissioned kept with ⟨proves, _⟩ | ⟨_, operations, _, passed⟩
      · exact nomatch latched.symm.trans proves.faultless
      · rw [passed] at confirms
        split at confirms
        · split at confirms <;> cases confirms
        · cases confirms
  | staged same =>
      rw [same] at confirms
      cases confirms

/-- Once an event has prepared a reset of the controller, and until the reset comes, the
runtime stays rebooting and applies nothing, and the image is not confirmed, whatever the
tasks do, unless a local Off or a failing read of the registers breaks the latch. -/
theorem prepared_reset_stays_dark (kv : K) (hardware : H) (unconfirmed canRollBack : Bool)
    {inputs : List (Nat × Event)} {input : Nat × Event} {later : List (Nat × Event)}
    (prepares : (stateAfter step (start (Runtime.load kv hardware) unconfirmed canRollBack) inputs).Prepares
      input)
    (kept : Along (fun d input => (step d input).1) KeepsLatch
      (stateAfter step (start (Runtime.load kv hardware) unconfirmed canRollBack) (inputs ++ [input])) later) :
    let prepared := stateAfter step (start (Runtime.load kv hardware) unconfirmed canRollBack)
      (inputs ++ [input])
    StaysDark prepared.runtime (stateAfter step prepared later).runtime ∧
      ∀ entry ∈ transcript step prepared later, ∀ written, entry.2 ≠ .checked .confirm written := by
  intro prepared
  have reachable : prepared.runtime.Reachable := reachable_run (.load kv hardware) _
  have latched : prepared.runtime.state.fault = .rebooting := by
    have after : prepared = _ := stateAfter_concat _ _ _ _
    rw [after]
    exact prepares_latched prepares
  induction later using List.reverseRecOn with
  | nil => exact ⟨.refl latched, by simp [transcript]⟩
  | append_singleton later last inductionHypothesis =>
      obtain ⟨earlier, here, _⟩ := Along.append.mp kept
      obtain ⟨dark, unconfirmed⟩ := inductionHypothesis earlier
      rw [stateAfter_concat, transcript_concat]
      refine ⟨dark.trans (staysDark_step (reachable_run reachable later) dark.latched here), ?_⟩
      intro entry member written
      rcases List.mem_append.mp member with early | final
      · exact unconfirmed entry early written
      · rw [List.mem_singleton.mp final]
        exact unconfirmed_of_latched dark.latched last written

/-- A staged update on a bench image, and what may still happen before the reset. -/
theorem prepared_reset_stays_dark_staged :
    let prepared := stateAfter step (start (Runtime.bench none) true true) ([] ++ [(0, .staged)])
    let later : List (Nat × Event) :=
      [(20, .operation (.tick 20)), (30, .operation (.setPower true)), (40, .check true true)]
    StaysDark prepared.runtime (stateAfter step prepared later).runtime ∧
      ∀ entry ∈ transcript step prepared later, ∀ written, entry.2 ≠ .checked .confirm written :=
  prepared_reset_stays_dark _ _ true true (.inr (.inl rfl))
    ⟨fun _ same => by cases same; trivial, fun _ same => by cases same; trivial, nofun, trivial⟩

/-! ### The trial of an updated image -/

/-- How the trial of an image stands after a run. -/
structure Trial (runtime : Runtime K H) (canRollBack : Bool) (inputs : List (Nat × Event))
    (d : Device K H) : Prop where
  able : d.canRollBack = canRollBack
  confirmed : d.unconfirmed = false → d.rollback = none ∧
    ∃ earlier now commissioned later, inputs = earlier ++ (now, .check commissioned true) :: later ∧
      (stateAfter step (start runtime true canRollBack) earlier).Proves now commissioned
  returned : ∀ till, d.rollback = some till → canRollBack = true ∧ d.unconfirmed = true ∧
    ∃ earlier now commissioned written later,
      inputs = earlier ++ (now, .check commissioned written) :: later ∧ till = now + RESET_DELAY_MS ∧
        OTA_CONFIRM_DEADLINE_MS ≤ now ∧
        ¬(stateAfter step (start runtime true canRollBack) earlier).Proves now commissioned

theorem Trial.kept {runtime : Runtime K H} {canRollBack : Bool} {inputs : List (Nat × Event)}
    {d t : Device K H} (trial : Trial runtime canRollBack inputs d) (same : SameTrial d t)
    (input : Nat × Event) : Trial runtime canRollBack (inputs ++ [input]) t := by
  obtain ⟨unconfirmed, rollback, returns⟩ := same
  constructor
  · exact returns.trans trial.able
  · rw [unconfirmed, rollback]
    intro confirmed
    obtain ⟨none, earlier, now, commissioned, later, rfl, proves⟩ := trial.confirmed confirmed
    exact ⟨none, earlier, now, commissioned, later ++ [input], by simp, proves⟩
  · rw [unconfirmed, rollback]
    intro till prepared
    obtain ⟨able, onTrial, earlier, now, commissioned, written, later, rfl, rest⟩ :=
      trial.returned till prepared
    exact ⟨able, onTrial, earlier, now, commissioned, written, later ++ [input], by simp, rest⟩

theorem Trial.passed {runtime : Runtime K H} {canRollBack : Bool} {inputs : List (Nat × Event)}
    (trial : Trial runtime canRollBack inputs (stateAfter step (start runtime true canRollBack) inputs))
    (unconfirmed : (stateAfter step (start runtime true canRollBack) inputs).unconfirmed = true)
    (running : (stateAfter step (start runtime true canRollBack) inputs).rollback = none)
    (now : Nat) (commissioned written : Bool) :
    Trial runtime canRollBack (inputs ++ [(now, .check commissioned written)])
      ((stateAfter step (start runtime true canRollBack) inputs).checked now commissioned written).1 := by
  have able := trial.able
  generalize state : stateAfter step (start runtime true canRollBack) inputs = d at *
  have waits : ∀ t : Device K H, SameTrial d t →
      Trial runtime canRollBack (inputs ++ [(now, .check commissioned written)]) t := fun t same =>
    trial.kept same _
  rcases d.checked_eq now commissioned written with ⟨proves, same⟩ | ⟨unproven, operations, _, same⟩
  · rw [same]
    cases written with
    | false => exact waits _ ⟨unconfirmed.symm, rfl, rfl⟩
    | true =>
        refine ⟨able, fun _ => ⟨running, inputs, now, commissioned, [], rfl, ?_⟩, fun till prepared => ?_⟩
        · rw [state]
          exact proves
        · exact nomatch running.symm.trans prepared
  · rw [same]
    by_cases late : OTA_CONFIRM_DEADLINE_MS ≤ now
    · by_cases returns : d.canRollBack
      · rw [if_pos late, if_pos returns]
        refine ⟨able, fun confirmed => ?_, fun till prepared => ?_⟩
        · exact nomatch unconfirmed.symm.trans confirmed
        · cases prepared
          refine ⟨able.symm.trans returns, unconfirmed, inputs, now, commissioned, written, [], rfl, rfl, late, ?_⟩
          rw [state]
          exact unproven
      · rw [if_pos late, if_neg returns]
        exact waits _ ⟨rfl, rfl, rfl⟩
    · rw [if_neg late]
      exact waits _ ⟨rfl, rfl, rfl⟩

theorem trial (runtime : Runtime K H) (canRollBack : Bool) (inputs : List (Nat × Event)) :
    Trial runtime canRollBack inputs (stateAfter step (start runtime true canRollBack) inputs) := by
  induction inputs using List.reverseRecOn with
  | nil => exact ⟨rfl, nofun, nofun⟩
  | append_singleton inputs input inductionHypothesis =>
      rw [stateAfter_concat]
      cases (stateAfter step (start runtime true canRollBack) inputs).step_cases input with
      | other kept _ => exact inductionHypothesis.kept kept input
      | ended t now cause same kept =>
          obtain ⟨ended, _⟩ := t.exited_latches now cause
          rw [same]
          exact (inductionHypothesis.kept ⟨ended.unconfirmed.trans kept.unconfirmed,
            ended.rollback.trans kept.rollback, ended.canRollBack.trans kept.canRollBack⟩ input)
      | passed now commissioned written pass unconfirmed running same =>
          rw [same, pass]
          exact inductionHypothesis.passed unconfirmed running now commissioned written
      | staged same =>
          have kept : SameTrial (stateAfter step (start runtime true canRollBack) inputs)
              ((stateAfter step (start runtime true canRollBack) inputs).step input).1 := by
            rw [same]
            exact ⟨rfl, rfl, rfl⟩
          exact inductionHypothesis.kept kept input

/-- Whatever happens in the life of an updated image: it is confirmed only at a pass with all
the evidence, and then never rolled back; a rollback is prepared only past the deadline, at a
pass without the evidence, of an image that was not confirmed and that can be rolled back; and
a pass past the deadline that can neither confirm nor write leaves such an image nowhere else. -/
theorem trial_settles (runtime : Runtime K H) (canRollBack : Bool) (inputs : List (Nat × Event)) :
    let d := stateAfter step (start runtime true canRollBack) inputs
    Trial runtime canRollBack inputs d ∧
      ∀ now commissioned written, d.unconfirmed = true → d.rollback = none → d.check ≤ now →
        OTA_CONFIRM_DEADLINE_MS ≤ now → canRollBack = true →
        let t := (d.step (now, .check commissioned written)).1
        t.unconfirmed = false ∨ t.rollback = some (now + RESET_DELAY_MS) ∨
          (written = false ∧ d.Proves now commissioned) := by
  intro d
  refine ⟨trial runtime canRollBack inputs, ?_⟩
  intro now commissioned written unconfirmed running due late returns t
  have able : d.canRollBack = true := (trial runtime canRollBack inputs).able.trans returns
  have passes : d.step (now, .check commissioned written) = d.checked now commissioned written :=
    if_pos ⟨unconfirmed, running, due⟩
  have after : t = (d.checked now commissioned written).1 := congrArg Prod.fst passes
  rw [after]
  rcases d.checked_eq now commissioned written with ⟨proves, same⟩ | ⟨_, operations, _, same⟩
  · rw [same]
    cases written with
    | false => exact .inr (.inr ⟨rfl, proves⟩)
    | true => exact .inl rfl
  · rw [same, if_pos late, if_pos able]
    exact .inr (.inl rfl)

end Device

end KeyRight.App
