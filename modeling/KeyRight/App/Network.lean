import KeyRight.App.State
import KeyRight.Support.Stopwatch

/-!
Owns the local health of the network, as the counters of `firmware/app/src/network.rs` and
`network_driver.rs` and the transmit guard of `network_tx.rs` keep it, and its events:
association updates, polls of the interfaces, observations of the transmit queue and
restarts of the transport.

A time of `u64::MAX` is `none`. What the radio, its queue and its interfaces answer is given
with the event.

Does not own the radio operations, their deadlines, or the delays between transports.
-/

namespace KeyRight.App

/-! ### Observers -/

def STALL_MS : Nat := 60000

structure QueueHealth where
  blockedSince : Option Nat
  reported : Bool
deriving DecidableEq, Repr

instance : Inhabited QueueHealth := ⟨⟨none, false⟩⟩

/-- Tells whether a stall is to be reported. -/
def QueueHealth.observe (health : QueueHealth) (now : Nat) (linked capacity : Bool) :
    QueueHealth × Bool :=
  if !linked || capacity then (⟨none, false⟩, false)
  else
    let since := health.blockedSince.getD now
    if !health.reported ∧ STALL_MS ≤ now - since then (⟨some since, true⟩, true)
    else (⟨some since, health.reported⟩, false)

structure LocalNetHealth where
  missingSince : Option Nat
deriving DecidableEq, Repr

instance : Inhabited LocalNetHealth := ⟨⟨none⟩⟩

def LocalNetHealth.restartDue (health : LocalNetHealth) (now : Nat) (associated localReady : Bool) :
    LocalNetHealth × Bool :=
  if !associated || localReady then (⟨none⟩, false)
  else
    let since := health.missingSince.getD now
    (⟨some since⟩, 60000 ≤ now - since)

/-! ### Counters -/

/-- `i32::MIN` stands for no reading. -/
def NO_RSSI : Int32 := Int32.minValue

structure Network where
  connected : Bool
  rssi : Int32
  localReady : Bool
  ipv4Ready : Bool
  healthySince : Option Nat
  longestHealthyMs : Nat
  txBlockedSince : Option Nat
  restarts : UInt32
  ipTimeouts : UInt32
  disconnectPending : Bool
  /-- The association that the controller reported last. -/
  reported : Bool
  monitor : LocalNetHealth
  queue : QueueHealth
deriving DecidableEq, Repr

namespace Network

def boot : Network where
  connected := false
  rssi := NO_RSSI
  localReady := false
  ipv4Ready := false
  healthySince := none
  longestHealthyMs := 0
  txBlockedSince := none
  restarts := 0
  ipTimeouts := 0
  disconnectPending := false
  reported := false
  monitor := default
  queue := default

/-- Health time stops at the beginning of known local backpressure. -/
def healthyUntil (n : Network) (now : Nat) : Nat := n.txBlockedSince.elim now fun since => min now since

/-- The current uninterrupted healthy interval only; zero while unhealthy. -/
def currentHealthyMs (n : Network) (now : Nat) : Nat :=
  match n.healthySince with
  | none => 0
  | some since =>
      if !n.connected ∨ !n.localReady ∨ n.rssi = NO_RSSI then 0 else n.healthyUntil now - since

/-- Longest continuous healthy interval in this transport run, including a completed
interval before its failure. -/
def healthyForMs (n : Network) (now : Nat) : Nat := max (n.currentHealthyMs now) n.longestHealthyMs

def endHealthyPeriod (n : Network) (now : Nat) : Network :=
  { n with
    healthySince := none
    longestHealthyMs :=
      n.healthySince.elim n.longestHealthyMs fun since =>
        max n.longestHealthyMs (n.healthyUntil now - since) }

/-- Tells whether the reported association changed. -/
def updateConnected (n : Network) (now : Nat) (connected : Bool) (rssi : Option Int32) : Network × Bool :=
  let updated : Network :=
    { n with
      connected := connected
      rssi := rssi.getD NO_RSSI
      localReady := if connected then n.localReady else false
      ipv4Ready := if connected then n.ipv4Ready else false }
  let ended := if !connected ∨ rssi = none then updated.endHealthyPeriod now else updated
  ({ ended with reported := connected }, n.reported != connected)

/-- One pass of the interface monitor; tells whether it ends the transport. -/
def poll (n : Network) (now : Nat) (ready v4 : Bool) : Network × Bool :=
  let polled : Network := { n with localReady := ready, ipv4Ready := v4 }
  let timed :=
    if polled.connected ∧ ready ∧ polled.rssi ≠ NO_RSSI then
      { polled with healthySince := some (polled.healthySince.getD now) }
    else polled.endHealthyPeriod now
  let (monitor, due) := n.monitor.restartDue now n.connected ready
  ({ timed with
      monitor := monitor
      ipTimeouts := if due then n.ipTimeouts + 1 else n.ipTimeouts }, due)

/-- The guard has observed its queue, and publishes since when it is blocked. -/
def observed (n : Network) (queue : QueueHealth) : Network :=
  { n with queue := queue, txBlockedSince := queue.blockedSince }

/-- `receive` and `transmit` of the guard: a token is progress. -/
def progress (n : Network) (now : Nat) (token : Bool) : Network :=
  if token then n.observed (n.queue.observe now true true).1 else n

/-- `link_state` of the guard; tells whether the queue is reported as stalled. -/
def linkState (n : Network) (now : Nat) (up token : Bool) : Network × Bool :=
  let (queue, stalled) := n.queue.observe now up (up && token)
  (n.observed queue, stalled)

/-- The transport starts with a new guard, controller and monitor. -/
def started (n : Network) : Network :=
  { n with reported := false, monitor := default, queue := default }

def restarted (n : Network) : Network :=
  { n with
    txBlockedSince := none
    restarts := n.restarts + 1
    connected := false
    rssi := NO_RSSI
    localReady := false
    ipv4Ready := false
    healthySince := none
    longestHealthyMs := 0
    disconnectPending := false }

def requestDisconnect (n : Network) : Except ErrorCode Network :=
  if !n.connected then throw .invalidState
  else if n.disconnectPending then throw .busy
  else pure { n with disconnectPending := true }

/-! ### Runs -/

inductive Event where
  | updateConnected (connected : Bool) (rssi : Option Int32)
  | poll (ready v4 : Bool)
  | receive (token : Bool)
  | transmit (token : Bool)
  | linkState (up token : Bool)
  | started
  | restarted
  | requestDisconnect
deriving DecidableEq, Repr

/-- The network after an event, with its time. -/
def after (n : Network) : Nat × Event → Network
  | (now, .updateConnected connected rssi) => (n.updateConnected now connected rssi).1
  | (now, .poll ready v4) => (n.poll now ready v4).1
  | (now, .receive token) => n.progress now token
  | (now, .transmit token) => n.progress now token
  | (now, .linkState up token) => (n.linkState now up token).1
  | (_, .started) => n.started
  | (_, .restarted) => n.restarted
  | (_, .requestDisconnect) => n.requestDisconnect.toOption.getD n

end Network

end KeyRight.App
