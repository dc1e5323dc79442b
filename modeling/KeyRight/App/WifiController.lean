import KeyRight.App.Sustained
import Mathlib.Data.List.DropRight

/-!
Owns the Wi-Fi controller of `firmware/app/src/network.rs`: its operations with their
deadlines, the local interruption that the console asks for, and when it asks for a new
transport.

What the radio answers is given with an event, as is that a deadline has passed. Does not own
the frames of the radio, or what a requested restart leads to.
-/

namespace KeyRight.App

open KeyRight.Support

/-! ### Errors -/

inductive WifiError where
  | notConnected
  | disconnected
  | unsupported
  | other (code : Nat)
deriving DecidableEq, Repr

/-- An error of a network operation; the codes of `Other` that the firmware names are apart. -/
inductive NetCtlError where
  | otherConnectionFailure
  | unsupportedSecurity
  | noNetworkInterface
  | txTimeout
  | invalidAction
  | other (code : ErrorCode)
deriving DecidableEq, Repr

/-- `to_ctl_err`. -/
def WifiError.toCtlErr : WifiError → NetCtlError
  | .notConnected => .otherConnectionFailure
  | .disconnected => .otherConnectionFailure
  | .unsupported => .unsupportedSecurity
  | .other _ => .noNetworkInterface

/-- An interruption does nothing to a radio that is not associated. -/
def disconnectInner (associated : Bool) (disconnected : Except WifiError Unit) :
    Except NetCtlError Unit :=
  if associated then disconnected.mapError WifiError.toCtlErr else .ok ()

/-- A connection attempt, with the radio's answers to the configuration and to the attempt.
That the scan before it finds nothing only widens the attempt to all channels. -/
def connectInner (wifiCredentials : Bool) (configured connected : Except WifiError Unit) :
    Except NetCtlError Unit := do
  if !wifiCredentials then throw .invalidAction
  configured.mapError WifiError.toCtlErr
  connected.mapError WifiError.toCtlErr

/-- Consecutive internal driver failures need a fresh controller. -/
structure DriverErrors where
  consecutive : UInt8
deriving DecidableEq, Repr

instance : Inhabited DriverErrors := ⟨⟨0⟩⟩

/-- The counter saturates. -/
def DriverErrors.observe (errors : DriverErrors) (internalFailure : Bool) : DriverErrors × Bool :=
  let consecutive :=
    if internalFailure then UInt8.ofNat (min 255 (errors.consecutive.toNat + 1)) else 0
  (⟨consecutive⟩, decide (3 ≤ consecutive.toNat))

/-! ### The controller -/

/-- Where the task that waits for a change of the association is. -/
inductive Notifier where
  /-- It has returned, or is not running. -/
  | away
  | fetching
  | sleeping (since : Nat)
  | disconnecting
deriving DecidableEq, Repr

structure WifiController where
  network : Network
  attempts : UInt32
  timeouts : UInt32
  /-- A new transport is asked for. -/
  restart : Bool
  /-- The signal that wakes the notifier. -/
  disconnect : Bool
  errors : DriverErrors
  associated : AssociatedHealth
  notifier : Notifier
deriving DecidableEq, Repr

namespace WifiController

def boot : WifiController := ⟨Network.boot, 0, 0, false, false, default, default, .away⟩

def updateConnected (c : WifiController) (now : Nat) (connected : Bool) (rssi : Option Int32) :
    WifiController :=
  { c with
    network := (c.network.updateConnected now connected rssi).1
    associated := if connected then c.associated else default }

/-- How an operation ends: with its result, or `none` at its deadline. -/
abbrev Outcome : Type := Option (Except NetCtlError Unit)

def deadline (c : WifiController) : Outcome → WifiController × Except NetCtlError Unit
  | some result => (c, result)
  | none => ({ c with timeouts := c.timeouts + 1, restart := true }, .error .txTimeout)

/-- An internal failure, which an absent access point is not. -/
def isInternal : Except NetCtlError Unit → Bool
  | .error .noNetworkInterface => true
  | _ => false

/-- An access point that is absent or refuses the association is no internal failure. -/
theorem isInternal_connectInner (wifiCredentials : Bool) (configured connected : Except WifiError Unit) :
    isInternal (connectInner wifiCredentials configured connected) = true ↔
      wifiCredentials = true ∧ ∃ code, configured = .error (.other code) ∨
        configured = .ok () ∧ connected = .error (.other code) := by
  have refused : ∀ failure : NetCtlError, ∀ next : Unit → Except NetCtlError Unit,
      (Except.error failure >>= next) = .error failure := fun _ _ => rfl
  have passed : ∀ next : Unit → Except NetCtlError Unit, (Except.ok () >>= next) = next () := fun _ => rfl
  cases wifiCredentials with
  | false => simp [connectInner, isInternal, throw, throwThe, MonadExceptOf.throw, refused]
  | true =>
      rcases configured with failure | _
      · cases failure <;> simp [connectInner, Except.mapError, WifiError.toCtlErr, isInternal, refused]
      · rcases connected with failure | _
        · cases failure <;> simp [connectInner, Except.mapError, WifiError.toCtlErr, isInternal, passed]
        · simp [connectInner, Except.mapError, isInternal, passed]

/-- Nor is a link that the radio does not have, or drops on its own. -/
theorem isInternal_disconnectInner (associated : Bool) (disconnected : Except WifiError Unit) :
    isInternal (disconnectInner associated disconnected) = true ↔
      associated = true ∧ ∃ code, disconnected = .error (.other code) := by
  cases associated with
  | false => simp [disconnectInner, isInternal]
  | true =>
      rcases disconnected with failure | _
      · cases failure <;> simp [disconnectInner, Except.mapError, WifiError.toCtlErr, isInternal]
      · simp [disconnectInner, Except.mapError, isInternal]

def recordConnectionResult (c : WifiController) (now : Nat) (result : Except NetCtlError Unit) :
    WifiController :=
  let updated := if result matches .error _ then c.updateConnected now false none else c
  let (errors, restart) := updated.errors.observe (isInternal result)
  { updated with errors := errors, restart := updated.restart || restart }

/-- The beginning of the notifier's loop. -/
def loop (c : WifiController) : WifiController :=
  { c with notifier := if c.network.disconnectPending then .disconnecting else .fetching }

inductive Event where
  /-- The console asks for an interruption of the link, or for a new transport. -/
  | requestDisconnect
  | requestRestart
  /-- The stack waits for a change, or no longer does. -/
  | waitChanged
  | cancelled
  /-- The notifier has the answers of the radio. -/
  | fetched (connected : Bool) (rssi : Option Int32)
  | woken
  /-- The notifier has the radio for an interruption. -/
  | disconnecting
  | disconnectEnded (outcome : Outcome)
  /-- A connection attempt has the radio, and later finds it associated. -/
  | connecting
  | associating (connected : Bool) (rssi : Option Int32)
  | connectEnded (outcome : Outcome)
  | scanEnded (outcome : Outcome)
  /-- The transport exited with everything that it was running; and a new one starts. -/
  | exited
  | started
deriving DecidableEq, Repr

/-- The end of an attempt to connect, or of an interruption, that the radio answers in time. -/
def Event.connected (wifiCredentials : Bool) (configured connected : Except WifiError Unit) : Event :=
  .connectEnded (some (connectInner wifiCredentials configured connected))

def Event.interrupted (associated : Bool) (disconnected : Except WifiError Unit) : Event :=
  .disconnectEnded (some (disconnectInner associated disconnected))

/-- What becomes of requests for an interruption. -/
inductive Fate where
  | none
  | accepted
  | performed
  | forgotten
deriving DecidableEq, Repr

/-- What an event did beside the state: to a request, the result that it recorded, and what
the watch of the association was told. -/
structure Effects where
  fate : Fate := .none
  result : Option (Except NetCtlError Unit) := none
  reading : Option RadioReading := none
  timedOut : Bool := false
deriving DecidableEq

def Effects.count (effects : Effects) (fate : Fate) : Nat := if effects.fate = fate then 1 else 0

/-- The watch is told that the radio is not associated. -/
def down : Option RadioReading := some ⟨false, false⟩

/-- A result that is an error tells the watch so. -/
def fallen (result : Except NetCtlError Unit) : Option RadioReading :=
  if result matches .error _ then down else none

def ended (outcome : Outcome) : Effects :=
  let result := outcome.getD (.error .txTimeout)
  { result := some result, reading := fallen result, timedOut := outcome.isNone }

def step (c : WifiController) : Nat × Event → WifiController × Effects
  | (_, .requestDisconnect) =>
      match c.network.requestDisconnect with
      | .ok network => ({ c with network := network, disconnect := true }, { fate := .accepted })
      | .error _ => (c, {})
  | (_, .requestRestart) => ({ c with restart := true }, {})
  | (_, .waitChanged) => (if c.notifier = .away then c.loop else c, {})
  | (_, .cancelled) => ({ c with notifier := .away }, {})
  | (now, .fetched connected rssi) =>
      if c.notifier = .fetching then
        let reading := if connected then rssi else none
        let updated := c.updateConnected now connected reading
        let (associated, due) := updated.associated.restartDue now connected reading.isSome
        let changed := (c.network.updateConnected now connected reading).2
        ({ updated with
            associated := associated
            restart := updated.restart || due
            notifier := if changed then .away else .sleeping now },
          { reading := some ⟨connected, reading.isSome⟩ })
      else (c, {})
  | (now, .woken) =>
      match c.notifier with
      | .sleeping since =>
          if c.disconnect ∨ since + 2000 ≤ now then ({ c with disconnect := false }.loop, {}) else (c, {})
      | _ => (c, {})
  | (now, .disconnecting) =>
      if c.notifier = .disconnecting then (c.updateConnected now false none, { reading := down })
      else (c, {})
  | (now, .disconnectEnded outcome) =>
      if c.notifier = .disconnecting then
        let (timed, result) := c.deadline outcome
        let recorded := timed.recordConnectionResult now result
        ({ recorded with
            network := { recorded.network with disconnectPending := false }
            disconnect := false
            notifier := .away }, { ended outcome with fate := .performed })
      else (c, {})
  | (now, .connecting) =>
      ({ c with attempts := c.attempts + 1 }.updateConnected now false none, { reading := down })
  | (now, .associating connected rssi) =>
      (c.updateConnected now connected rssi, { reading := if connected then none else down })
  | (now, .connectEnded outcome) =>
      let (timed, result) := c.deadline outcome
      (timed.recordConnectionResult now result, ended outcome)
  | (now, .scanEnded outcome) =>
      let (timed, result) := c.deadline outcome
      (if result matches .error _ then timed.updateConnected now false none else timed,
        { ended outcome with result := none })
  | (_, .exited) =>
      ({ c with network := c.network.restarted, disconnect := false, notifier := .away },
        { fate := if c.network.disconnectPending then .forgotten else .none })
  | (_, .started) =>
      ({ c with network := c.network.started, restart := false, errors := default, associated := default },
        {})

/-! ### Answers of the radio -/

theorem recordConnectionResult_restart (c : WifiController) (now : Nat)
    (result : Except NetCtlError Unit) :
    (c.recordConnectionResult now result).restart =
      (c.restart || (c.errors.observe (isInternal result)).2) := by
  cases result <;> rfl

theorem restart_of_record {c : WifiController} {now : Nat} {result : Except NetCtlError Unit}
    (asks : (c.recordConnectionResult now result).restart = true) :
    c.restart = true ∨ isInternal result = true := by
  cases internal : isInternal result with
  | true => exact .inr rfl
  | false =>
      rw [recordConnectionResult_restart, internal, Bool.or_eq_true] at asks
      exact .inl (asks.resolve_right (by simp [DriverErrors.observe]))

/-- Of the answers to an attempt to connect, only an internal failure of the driver asks for a
new transport. -/
theorem restart_of_connected {c : WifiController} {now : Nat} {wifiCredentials : Bool}
    {configured connected : Except WifiError Unit}
    (asks : (c.step (now, .connected wifiCredentials configured connected)).1.restart = true) :
    c.restart = true ∨ wifiCredentials = true ∧ ∃ code, configured = .error (.other code) ∨
      configured = .ok () ∧ connected = .error (.other code) :=
  (restart_of_record asks).imp_right (isInternal_connectInner _ _ _).mp

theorem restart_of_interrupted {c : WifiController} {now : Nat} {associated : Bool}
    {disconnected : Except WifiError Unit}
    (asks : (c.step (now, .interrupted associated disconnected)).1.restart = true) :
    c.restart = true ∨ associated = true ∧ ∃ code, disconnected = .error (.other code) := by
  by_cases interrupting : c.notifier = .disconnecting
  · simp only [step, Event.interrupted, interrupting, if_true, deadline] at asks
    exact (restart_of_record asks).imp_right (isInternal_disconnectInner _ _).mp
  · simp only [step, Event.interrupted, interrupting, if_false] at asks
    exact .inl asks

/-! ### Interruptions -/

theorem updateConnected_pending (n : Network) (now : Nat) (connected : Bool) (rssi : Option Int32) :
    (n.updateConnected now connected rssi).1.disconnectPending = n.disconnectPending := by
  cases connected <;> cases rssi <;> rfl

/-- What an event leaves of the handshake between the console and the notifier. -/
structure Undisturbed (c t : WifiController) : Prop where
  pending : t.network.disconnectPending = c.network.disconnectPending
  disconnect : t.disconnect = c.disconnect
  notifier : t.notifier = c.notifier

theorem updateConnected_undisturbed (c : WifiController) (now : Nat) (connected : Bool)
    (rssi : Option Int32) : Undisturbed c (c.updateConnected now connected rssi) :=
  ⟨updateConnected_pending _ _ _ _, rfl, rfl⟩

theorem deadline_undisturbed (c : WifiController) (outcome : Outcome) :
    Undisturbed c (c.deadline outcome).1 := by
  cases outcome <;> exact ⟨rfl, rfl, rfl⟩

theorem Undisturbed.trans {c t u : WifiController} (first : Undisturbed c t)
    (second : Undisturbed t u) : Undisturbed c u :=
  ⟨second.pending.trans first.pending, second.disconnect.trans first.disconnect,
    second.notifier.trans first.notifier⟩

theorem recordConnectionResult_undisturbed (c : WifiController) (now : Nat)
    (result : Except NetCtlError Unit) : Undisturbed c (c.recordConnectionResult now result) := by
  cases result with
  | ok value => exact ⟨rfl, rfl, rfl⟩
  | error code =>
      obtain ⟨pending, disconnect, notifier⟩ := updateConnected_undisturbed c now false none
      exact ⟨pending, disconnect, notifier⟩

/-- The signal is set only while an interruption is pending, and always where the notifier
could miss it; the notifier interrupts the link only while an interruption is pending. -/
structure Handshake (c : WifiController) : Prop where
  signalled : c.disconnect = true → c.network.disconnectPending = true
  heard : c.network.disconnectPending = true → c.notifier ≠ .away → c.notifier ≠ .disconnecting →
    c.disconnect = true
  asked : c.notifier = .disconnecting → c.network.disconnectPending = true

theorem Handshake.undisturbed {c t : WifiController} (handshake : Handshake c)
    (same : Undisturbed c t) : Handshake t := by
  obtain ⟨pending, disconnect, notifier⟩ := same
  constructor
  · rw [pending, disconnect]
    exact handshake.signalled
  · rw [pending, disconnect, notifier]
    exact handshake.heard
  · rw [pending, notifier]
    exact handshake.asked

theorem Handshake.loop {c : WifiController} (signalled : c.disconnect = true →
    c.network.disconnectPending = true) : Handshake c.loop := by
  unfold WifiController.loop
  cases pending : c.network.disconnectPending with
  | true => exact ⟨fun _ => pending, fun _ _ other => absurd rfl other, fun _ => pending⟩
  | false =>
      refine ⟨signalled, fun wrong => ?_, nofun⟩
      exact absurd (pending.symm.trans wrong) Bool.false_ne_true

/-- A request is taken only while none is pending. -/
theorem requestDisconnect_cases (c : WifiController) (now : Nat) :
    c.step (now, .requestDisconnect) = (c, {}) ∨
      c.network.disconnectPending = false ∧
        c.step (now, .requestDisconnect) =
          ({ c with network := { c.network with disconnectPending := true }, disconnect := true },
            { fate := .accepted }) := by
  simp only [step, Network.requestDisconnect]
  by_cases offline : !c.network.connected
  · rw [if_pos offline]
    exact .inl rfl
  · rw [if_neg offline]
    by_cases pending : c.network.disconnectPending
    · rw [if_pos pending]
      exact .inl rfl
    · rw [if_neg pending]
      exact .inr ⟨Bool.not_eq_true _ ▸ pending, rfl⟩

/-- One event keeps the handshake, and accounts for every request. -/
theorem Handshake.step {c : WifiController} (handshake : Handshake c) (input : Nat × Event) :
    Handshake (c.step input).1 ∧
      c.network.disconnectPending.toNat + (c.step input).2.count .accepted =
        (c.step input).1.network.disconnectPending.toNat + (c.step input).2.count .performed +
          (c.step input).2.count .forgotten := by
  have idle : ∀ t : WifiController, Undisturbed c t → ∀ effects : Effects, effects.fate = .none →
      Handshake t ∧ c.network.disconnectPending.toNat + effects.count .accepted =
        t.network.disconnectPending.toNat + effects.count .performed + effects.count .forgotten := by
    intro t same effects none
    refine ⟨handshake.undisturbed same, ?_⟩
    simp [Effects.count, none, same.pending]
  have loops : ∀ t : WifiController, t.network.disconnectPending = c.network.disconnectPending →
      (t.disconnect = true → t.network.disconnectPending = true) →
      Handshake t.loop ∧ c.network.disconnectPending.toNat + Effects.count {} .accepted =
        t.loop.network.disconnectPending.toNat + Effects.count {} .performed +
          Effects.count {} .forgotten := by
    intro t same signalled
    refine ⟨.loop signalled, ?_⟩
    simp [Effects.count, WifiController.loop, same]
  obtain ⟨now, event⟩ := input
  cases event with
  | requestDisconnect =>
      rcases c.requestDisconnect_cases now with refused | ⟨free, taken⟩
      · rw [refused]
        exact idle c ⟨rfl, rfl, rfl⟩ _ rfl
      · rw [taken, free]
        exact ⟨⟨fun _ => rfl, fun _ _ _ => rfl, fun _ => rfl⟩, rfl⟩
  | requestRestart => exact idle { c with restart := true } ⟨rfl, rfl, rfl⟩ {} rfl
  | waitChanged =>
      by_cases away : c.notifier = .away
      · simp only [WifiController.step, if_pos away]
        exact loops c rfl handshake.signalled
      · simp only [WifiController.step, if_neg away]
        exact idle c ⟨rfl, rfl, rfl⟩ _ rfl
  | cancelled => exact ⟨⟨handshake.signalled, fun _ away => absurd rfl away, nofun⟩, rfl⟩
  | fetched connected rssi =>
      by_cases fetching : c.notifier = .fetching
      · simp only [WifiController.step, if_pos fetching, updateConnected]
        refine ⟨⟨?_, ?_, ?_⟩, by simp [Effects.count, updateConnected_pending]⟩
        · rw [updateConnected_pending]
          exact handshake.signalled
        · rw [updateConnected_pending]
          intro pending _ _
          exact handshake.heard pending (by simp [fetching]) (by simp [fetching])
        · have apart : ∀ changed : Bool, (if changed then Notifier.away else .sleeping now) ≠ .disconnecting := by
            intro changed
            cases changed <;> nofun
          exact fun wrong => absurd wrong (apart _)
      · simp only [WifiController.step, if_neg fetching]
        exact idle c ⟨rfl, rfl, rfl⟩ _ rfl
  | woken =>
      cases asleep : c.notifier with
      | sleeping since =>
          simp only [WifiController.step, asleep]
          split
          · exact loops { c with disconnect := false } rfl nofun
          · exact idle c ⟨rfl, rfl, rfl⟩ _ rfl
      | _ =>
          simp only [WifiController.step, asleep]
          exact idle c ⟨rfl, rfl, rfl⟩ _ rfl
  | disconnecting =>
      simp only [WifiController.step]
      split
      · exact idle _ (updateConnected_undisturbed c now false none) _ rfl
      · exact idle c ⟨rfl, rfl, rfl⟩ _ rfl
  | disconnectEnded outcome =>
      by_cases asked : c.notifier = .disconnecting
      · simp only [WifiController.step, if_pos asked, handshake.asked asked]
        exact ⟨⟨nofun, nofun, nofun⟩, rfl⟩
      · simp only [WifiController.step, if_neg asked]
        exact idle c ⟨rfl, rfl, rfl⟩ _ rfl
  | connecting =>
      obtain ⟨pending, disconnect, notifier⟩ := updateConnected_undisturbed c now false none
      exact idle (c.step (now, .connecting)).1 ⟨pending, disconnect, notifier⟩ { reading := down } rfl
  | associating connected rssi => exact idle _ (updateConnected_undisturbed c now connected rssi) _ rfl
  | connectEnded outcome =>
      exact idle _ ((deadline_undisturbed c outcome).trans (recordConnectionResult_undisturbed _ _ _)) _ rfl
  | scanEnded outcome =>
      simp only [WifiController.step]
      split
      · exact idle _ ((deadline_undisturbed c outcome).trans (updateConnected_undisturbed _ _ _ _)) _ rfl
      · exact idle _ (deadline_undisturbed c outcome) _ rfl
  | exited =>
      refine ⟨⟨nofun, nofun, nofun⟩, ?_⟩
      cases pending : c.network.disconnectPending <;>
        simp [Effects.count, WifiController.step, pending, Network.restarted]
  | started => exact idle (c.step (now, .started)).1 ⟨rfl, rfl, rfl⟩ {} rfl

/-- How often requests met a fate in a run from boot. -/
def fates (inputs : List (Nat × Event)) (fate : Fate) : Nat :=
  ((transcript step boot inputs).map fun entry => entry.2.count fate).sum

/-- In every run, each accepted request for an interruption is performed once, or forgotten
with the transport that exits, or pending; and while it is pending, a notifier that sleeps
wakes at once and interrupts the link. -/
theorem interruptions_handshake (inputs : List (Nat × Event)) :
    let c := stateAfter step boot inputs
    fates inputs .accepted =
        fates inputs .performed + fates inputs .forgotten + c.network.disconnectPending.toNat ∧
      (c.disconnect = true → c.network.disconnectPending = true) ∧
      ∀ since now, c.network.disconnectPending = true → c.notifier = .sleeping since →
        (c.step (now, .woken)).1.notifier = .disconnecting := by
  intro c
  have run : Handshake c ∧ fates inputs .accepted =
      fates inputs .performed + fates inputs .forgotten + c.network.disconnectPending.toNat := by
    induction inputs using List.reverseRecOn with
    | nil => exact ⟨⟨nofun, nofun, nofun⟩, rfl⟩
    | append_singleton inputs input inductionHypothesis =>
        obtain ⟨handshake, counted⟩ := inductionHypothesis
        obtain ⟨kept, accounted⟩ := handshake.step input
        have grows : ∀ fate, fates (inputs ++ [input]) fate =
            fates inputs fate + ((stateAfter step boot inputs).step input).2.count fate := by
          intro fate
          simp only [fates, transcript_concat, List.map_append, List.sum_append, List.map_cons,
            List.map_nil, List.sum_singleton]
        have after : c = ((stateAfter step boot inputs).step input).1 := stateAfter_concat _ _ _ _
        rw [after]
        refine ⟨kept, ?_⟩
        rw [grows, grows, grows]
        omega
  obtain ⟨handshake, counted⟩ := run
  refine ⟨counted, handshake.signalled, fun since now pending asleep => ?_⟩
  have signalled : c.disconnect = true := handshake.heard pending (by simp [asleep]) (by simp [asleep])
  simp [step, asleep, signalled, loop, pending]

/-! ### Restarts -/

/-- An event with what it did. -/
abbrev Entry : Type := (Nat × Event) × Effects

def results (entries : List Entry) : List (Except NetCtlError Unit) := entries.filterMap fun entry => entry.2.result

/-- What the watch of the association was told, and when. -/
def readings (entries : List Entry) : List (Nat × RadioReading) :=
  entries.filterMap fun entry => entry.2.reading.map fun reading => (entry.1.1, reading)

/-- The event asks for a new transport: the console does, a deadline passed, the last three
results were internal failures, or the radio has not answered for sixty seconds while it was
associated. -/
def Asks (before : List Entry) (entry : Entry) : Prop :=
  entry.1.2 = .requestRestart ∨ entry.2.timedOut = true ∨
    (entry.2.result ≠ none ∧ 3 ≤ streak isInternal (results (before ++ [entry]))) ∨
    (entry.2.reading ≠ none ∧
      Sustained RadioReading.bad 60000 (readings (before ++ [entry])) entry.1.1)

theorem results_concat (entries : List Entry) (entry : Entry) :
    results (entries ++ [entry]) = results entries ++ entry.2.result.toList := by
  rw [results, List.filterMap_append]
  cases same : entry.2.result <;> simp [same, results]

theorem readings_concat (entries : List Entry) (entry : Entry) :
    readings (entries ++ [entry]) =
      readings entries ++ (entry.2.reading.map fun reading => (entry.1.1, reading)).toList := by
  rw [readings, List.filterMap_append]
  cases same : entry.2.reading <;> simp [same, readings]

/-- The counter of the driver errors, up to its limit. -/
def Counts (errors : DriverErrors) (results : List (Except NetCtlError Unit)) : Prop :=
  errors.consecutive.toNat = min 255 (streak isInternal results)

theorem Counts.observe {errors : DriverErrors} {results : List (Except NetCtlError Unit)}
    (counts : Counts errors results) (result : Except NetCtlError Unit) :
    Counts (errors.observe (isInternal result)).1 (results ++ [result]) ∧
      ((errors.observe (isInternal result)).2 = true ↔ 3 ≤ streak isInternal (results ++ [result])) := by
  have counted : (errors.observe (isInternal result)).1.consecutive.toNat =
      min 255 (streak isInternal (results ++ [result])) := by
    rw [streak_concat]
    unfold DriverErrors.observe
    cases isInternal result with
    | false => rfl
    | true =>
        rw [if_pos rfl, if_pos rfl, UInt8.toNat_ofNat', counts]
        omega
  refine ⟨counted, ?_⟩
  change decide (3 ≤ (errors.observe (isInternal result)).1.consecutive.toNat) = true ↔ _
  rw [decide_eq_true_iff, counted]
  omega

/-- The watch of the association times what it was told. -/
def Times (associated : AssociatedHealth) (readings : List (Nat × RadioReading)) : Prop :=
  associated.failedSince = badSince RadioReading.bad readings

theorem Times.observe {associated : AssociatedHealth} {readings : List (Nat × RadioReading)}
    (times : Times associated readings) (now : Nat) (reading : RadioReading) :
    Times (associated.observe (now, reading)).1 (readings ++ [(now, reading)]) ∧
      ((associated.observe (now, reading)).2 = true ↔
        Sustained RadioReading.bad 60000 (readings ++ [(now, reading)]) now) := by
  constructor
  · unfold Times
    rw [AssociatedHealth.observe_since, badSince_concat, times]
  · rw [AssociatedHealth.observe_due, sustained_concat (by decide), times]

/-- That the radio is not associated is never a failure. -/
theorem Times.down {associated : AssociatedHealth} {readings : List (Nat × RadioReading)}
    (times : Times associated readings) (now : Nat) :
    Times default (readings ++ [(now, ⟨false, false⟩)]) ∧
      ¬Sustained RadioReading.bad 60000 (readings ++ [(now, ⟨false, false⟩)]) now := by
  obtain ⟨after, due⟩ := times.observe now ⟨false, false⟩
  exact ⟨after, fun sustained => nomatch due.mpr sustained⟩

/-- What the controller knows of the events since the transport started. -/
structure Watches (entries : List Entry) (c : WifiController) : Prop where
  errors : Counts c.errors (results entries)
  associated : Times c.associated (readings entries)
  restart : c.restart = true ↔ Occurs Asks entries

section

variable {entries : List Entry} {c t : WifiController} {input : Nat × Event} {effects : Effects}

/-- What an event does is told by what it recorded and by whether it asks. -/
theorem Watches.concat (watches : Watches entries c)
    (errors : Counts t.errors (results entries ++ effects.result.toList))
    (associated : Times t.associated
      (readings entries ++ (effects.reading.map fun reading => (input.1, reading)).toList))
    (restart : t.restart = true ↔ c.restart = true ∨ Asks entries (input, effects)) :
    Watches (entries ++ [(input, effects)]) t := by
  constructor
  · rw [results_concat]
    exact errors
  · rw [readings_concat]
    exact associated
  · rw [occurs_concat, restart, watches.restart]

/-- An event that records nothing and fails nothing. -/
theorem Watches.quiet (watches : Watches entries c) (errors : t.errors = c.errors)
    (associated : t.associated = c.associated) (restart : t.restart = c.restart) {fate : Fate}
    (other : input.2 ≠ .requestRestart) : Watches (entries ++ [(input, { fate := fate })]) t := by
  refine watches.concat ?_ ?_ ?_
  · rw [errors, Option.toList_none, List.append_nil]
    exact watches.errors
  · rw [associated, Option.map_none, Option.toList_none, List.append_nil]
    exact watches.associated
  · simp [restart, Asks, other]

/-- An event that finds the radio not associated. -/
theorem Watches.fell (watches : Watches entries c) (errors : t.errors = c.errors)
    (associated : t.associated = default) (restart : t.restart = c.restart)
    (other : input.2 ≠ .requestRestart) : Watches (entries ++ [(input, { reading := down })]) t := by
  obtain ⟨times, well⟩ := watches.associated.down input.1
  refine watches.concat ?_ ?_ ?_
  · rw [errors, Option.toList_none, List.append_nil]
    exact watches.errors
  · rw [associated]
    exact times
  · rw [restart, Asks, readings_concat]
    simp [other, down, well]

/-- An operation that ends at its deadline or with a result. -/
theorem deadline_eq (c : WifiController) (outcome : Outcome) :
    (c.deadline outcome).2 = outcome.getD (.error .txTimeout) ∧
      (c.deadline outcome).1.errors = c.errors ∧ (c.deadline outcome).1.associated = c.associated ∧
      (c.deadline outcome).1.restart = (c.restart || outcome.isNone) := by
  cases outcome <;> simp [deadline]

/-- An operation whose result counts. -/
theorem Watches.recorded (watches : Watches entries c) (outcome : Outcome) {fate : Fate}
    (other : input.2 ≠ .requestRestart)
    (errors : t.errors = ((c.deadline outcome).1.recordConnectionResult input.1
      (c.deadline outcome).2).errors)
    (associated : t.associated = ((c.deadline outcome).1.recordConnectionResult input.1
      (c.deadline outcome).2).associated)
    (restart : t.restart = ((c.deadline outcome).1.recordConnectionResult input.1
      (c.deadline outcome).2).restart) :
    Watches (entries ++ [(input, { ended outcome with fate := fate })]) t := by
  obtain ⟨result, sameErrors, sameAssociated, sameRestart⟩ := c.deadline_eq outcome
  rw [result] at errors associated restart
  generalize (c.deadline outcome).1 = timed at *
  obtain ⟨counts, third⟩ := watches.errors.observe (outcome.getD (.error .txTimeout))
  obtain ⟨down, well⟩ := watches.associated.down input.1
  rw [← sameErrors] at counts third
  cases recorded : outcome.getD (.error .txTimeout) with
  | ok value =>
      rw [recorded] at errors associated restart counts third
      have silent : (ended outcome).reading = none := by simp [ended, recorded, fallen]
      refine watches.concat ?_ ?_ ?_
      · rw [errors, ended, recorded]
        exact counts
      · rw [associated, silent, Option.map_none, Option.toList_none, List.append_nil]
        exact sameAssociated ▸ watches.associated
      · rw [restart, recordConnectionResult_restart, Bool.or_eq_true, third, sameRestart,
          Bool.or_eq_true, Asks, results_concat, or_assoc]
        simp [other, ended, recorded, fallen]
  | error code =>
      rw [recorded] at errors associated restart counts third
      refine watches.concat ?_ ?_ ?_
      · rw [errors, ended, recorded]
        exact counts
      · rw [associated, ended, recorded]
        exact down
      · rw [restart, recordConnectionResult_restart, Bool.or_eq_true, third, sameRestart,
          Bool.or_eq_true, Asks, results_concat, readings_concat, or_assoc]
        simp [other, ended, recorded, fallen, WifiController.down, well]

/-- An answer of the radio to the notifier. -/
theorem Watches.fetched (watches : Watches entries c) {now : Nat} {connected : Bool}
    {rssi reading : Option Int32} (errors : t.errors = c.errors)
    (associated : t.associated =
      ((if connected then c.associated else default).restartDue now connected reading.isSome).1)
    (restart : t.restart = (c.restart ||
      ((if connected then c.associated else default).restartDue now connected reading.isSome).2)) :
    Watches (entries ++ [((now, .fetched connected rssi),
      { reading := some ⟨connected, reading.isSome⟩ })]) t := by
  have same : (if connected then c.associated else default).restartDue now connected reading.isSome =
      c.associated.observe (now, ⟨connected, reading.isSome⟩) := by
    cases connected <;> rfl
  rw [same] at associated restart
  obtain ⟨times, due⟩ := watches.associated.observe now ⟨connected, reading.isSome⟩
  refine watches.concat ?_ ?_ ?_
  · rw [errors, Option.toList_none, List.append_nil]
    exact watches.errors
  · rw [associated]
    exact times
  · rw [restart, Bool.or_eq_true, due, Asks, readings_concat]
    simp

/-- A scan asks for a new transport at its deadline only. -/
theorem Watches.scanned (watches : Watches entries c) (outcome : Outcome) {now : Nat} :
    Watches (entries ++ [((now, .scanEnded outcome), (c.step (now, .scanEnded outcome)).2)])
      (c.step (now, .scanEnded outcome)).1 := by
  obtain ⟨down, _⟩ := watches.associated.down now
  rcases outcome with _ | code | value
  · refine watches.concat ?_ down ?_
    · exact (List.append_nil (results entries)).symm ▸ watches.errors
    · simp [WifiController.step, deadline, WifiController.updateConnected, Asks, ended]
  · exact watches.fell (by rfl) (by rfl) (by rfl) (by nofun)
  · exact watches.quiet (by rfl) (by rfl) (by rfl) (by nofun)

/-- One event of a transport that has started. -/
theorem Watches.step (watches : Watches entries c) (running : input.2 ≠ .started) :
    Watches (entries ++ [(input, (c.step input).2)]) (c.step input).1 := by
  obtain ⟨now, event⟩ := input
  have idle : event ≠ .requestRestart →
      Watches (entries ++ [((now, event), ({} : Effects))]) c := fun other =>
    watches.quiet rfl rfl rfl other
  cases event with
  | requestDisconnect =>
      rcases c.requestDisconnect_cases now with refused | ⟨_, taken⟩
      · rw [refused]
        exact idle nofun
      · rw [taken]
        exact watches.quiet (by rfl) (by rfl) (by rfl) (by nofun)
  | requestRestart =>
      refine watches.concat ?_ ?_ ?_
      · exact (List.append_nil (results entries)).symm ▸ watches.errors
      · exact (List.append_nil (readings entries)).symm ▸ watches.associated
      · simp [WifiController.step, Asks]
  | waitChanged =>
      simp only [WifiController.step]
      split
      · exact watches.quiet (by rfl) (by rfl) (by rfl) (by nofun)
      · exact idle nofun
  | cancelled => exact watches.quiet (by rfl) (by rfl) (by rfl) (by nofun)
  | fetched connected rssi =>
      simp only [WifiController.step]
      split
      · exact watches.fetched (by rfl) (by rfl) (by rfl)
      · exact idle nofun
  | woken =>
      cases asleep : c.notifier with
      | sleeping since =>
          simp only [WifiController.step, asleep]
          split
          · exact watches.quiet (by rfl) (by rfl) (by rfl) (by nofun)
          · exact idle nofun
      | _ =>
          simp only [WifiController.step, asleep]
          exact idle nofun
  | disconnecting =>
      simp only [WifiController.step]
      split
      · exact watches.fell (by rfl) (by rfl) (by rfl) (by nofun)
      · exact idle nofun
  | disconnectEnded outcome =>
      simp only [WifiController.step]
      split
      · exact watches.recorded outcome (by nofun) (by rfl) (by rfl) (by rfl)
      · exact idle nofun
  | connecting => exact watches.fell (by rfl) (by rfl) (by rfl) (by nofun)
  | associating connected rssi =>
      cases connected with
      | true => exact watches.quiet (by rfl) (by rfl) (by rfl) (by nofun)
      | false => exact watches.fell (by rfl) (by rfl) (by rfl) (by nofun)
  | connectEnded outcome => exact watches.recorded outcome (by nofun) (by rfl) (by rfl) (by rfl)
  | scanEnded outcome => exact watches.scanned outcome
  | exited =>
      simp only [WifiController.step]
      exact watches.quiet (by rfl) (by rfl) (by rfl) (by nofun)
  | started => exact absurd rfl running

end

/-- The events of a run since the transport started. -/
def sinceStarted (inputs : List (Nat × Event)) : List Entry :=
  (transcript step boot inputs).rtakeWhile fun entry => entry.1.2 ≠ .started

theorem watches (inputs : List (Nat × Event)) :
    Watches (sinceStarted inputs) (stateAfter step boot inputs) := by
  have fresh : ∀ t : WifiController, t.restart = false → t.errors = default →
      t.associated = default → Watches [] t := by
    intro t restart errors associated
    refine ⟨by rw [errors]; rfl, by rw [associated]; rfl, ?_⟩
    simp [restart, Occurs]
  induction inputs using List.reverseRecOn with
  | nil => exact fresh boot rfl rfl rfl
  | append_singleton inputs input inductionHypothesis =>
      rw [stateAfter_concat, sinceStarted, transcript_concat, List.rtakeWhile_concat]
      by_cases started : input.2 = .started
      · obtain ⟨now, event⟩ := input
        cases started
        simp only [ne_eq, not_true_eq_false, decide_false, Bool.false_eq_true, if_false]
        exact fresh _ rfl rfl rfl
      · rw [if_pos (by simpa using started)]
        exact inductionHypothesis.step started

/-- In every run, a new transport is asked for exactly if, since the transport started, the
console asked, an operation reached its deadline, three connections or interruptions in a row
failed internally, or the radio query failed for sixty seconds of unbroken association. -/
theorem restart_iff (inputs : List (Nat × Event)) :
    (stateAfter step boot inputs).restart = true ↔ Occurs Asks (sinceStarted inputs) :=
  (watches inputs).restart

end WifiController

end KeyRight.App
