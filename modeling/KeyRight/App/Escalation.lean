import KeyRight.Support.Run
import KeyRight.Support.Streak
import Mathlib.Algebra.Group.Nat.Defs

/-!
Owns the supervision of the transport, as the loop of `firmware/app/src/device_matter.rs` does
it with `QueueRecovery` of `network_tx.rs` and `RestartBackoff` of `recovery.rs`: after each
exit of the transport it either resets the controller or waits before the next start.

Does not own what ends a transport, nor how long it was healthy.
-/

namespace KeyRight.App

open KeyRight.Support

/-! ### Two memories -/

/-- The radio's in-flight counter survives driver recreation. Escalate only when a fresh
driver still cannot transmit; two healthy minutes allow a new independent incident. -/
structure QueueRecovery where
  recreated : Bool
deriving DecidableEq, Repr

instance : Inhabited QueueRecovery := ⟨⟨false⟩⟩

def QueueRecovery.recordHealth (recovery : QueueRecovery) (healthyForMs : Nat) : QueueRecovery :=
  if 120000 ≤ healthyForMs then ⟨false⟩ else recovery

/-- The question is remembered as well. -/
def QueueRecovery.rebootRequired (recovery : QueueRecovery) : QueueRecovery × Bool :=
  (⟨true⟩, recovery.recreated)

structure RestartBackoff where
  failures : UInt8
deriving DecidableEq, Repr

instance : Inhabited RestartBackoff := ⟨⟨0⟩⟩

/-- The counter saturates. -/
def RestartBackoff.nextDelaySecs (backoff : RestartBackoff) (healthyForMs : Nat) :
    RestartBackoff × Nat :=
  let failures := if 120000 ≤ healthyForMs then 0 else backoff.failures
  let seconds := min (5 <<< min failures.toNat 4) 60
  (⟨UInt8.ofNat (min 255 (failures.toNat + 1))⟩, seconds)

/-- The exponent saturates at 4, where the delay has already reached its bound. -/
theorem delay_of_exponent (exponent : Nat) :
    min (5 <<< min exponent 4) 60 = min 60 (5 * 2 ^ exponent) := by
  rw [Nat.shiftLeft_eq, Nat.min_comm]
  rcases Nat.lt_or_ge exponent 4 with small | large
  · rw [Nat.min_eq_left small.le]
  · have power : 2 ^ 4 ≤ 2 ^ exponent := Nat.pow_le_pow_right (by decide) large
    rw [Nat.min_eq_right large]
    omega

theorem RestartBackoff.nextDelaySecs_counted {backoff : RestartBackoff} {count : Nat}
    (counted : backoff.failures.toNat = min 255 count) (healthyForMs : Nat) :
    let exponent := if 120000 ≤ healthyForMs then 0 else count
    (backoff.nextDelaySecs healthyForMs).2 = min 60 (5 * 2 ^ exponent) ∧
      (backoff.nextDelaySecs healthyForMs).1.failures.toNat = min 255 (exponent + 1) := by
  intro exponent
  have failures : (if 120000 ≤ healthyForMs then 0 else backoff.failures).toNat =
      min 255 exponent := by
    by_cases healthy : 120000 ≤ healthyForMs
    · simp [exponent, healthy]
    · simp [exponent, healthy, counted]
  simp only [nextDelaySecs, failures]
  constructor
  · rw [delay_of_exponent]
    rcases Nat.le_total exponent 255 with small | large
    · rw [Nat.min_eq_right small]
    · have power : 2 ^ 4 ≤ 2 ^ exponent :=
        Nat.pow_le_pow_right (by decide) (Nat.le_trans (by decide) large)
      rw [Nat.min_eq_left large, Nat.min_eq_left (by decide), Nat.min_eq_left (by omega)]
  · rw [UInt8.toNat_ofNat']
    omega

/-! ### The loop -/

/-- What ended the transport first: the stack itself, a requested restart or a transmit stall. -/
inductive ExitCause where
  | stack
  | restart
  | stall
deriving DecidableEq, Repr

structure TransportExit where
  cause : ExitCause
  healthyMs : Nat
deriving DecidableEq, Repr

/-- Two healthy minutes end an incident. -/
def TransportExit.Healthy (exit : TransportExit) : Prop := 120000 ≤ exit.healthyMs

instance : DecidablePred TransportExit.Healthy := fun exit =>
  inferInstanceAs (Decidable (120000 ≤ exit.healthyMs))

structure Supervision where
  backoff : RestartBackoff
  queueRecovery : QueueRecovery
deriving DecidableEq, Repr

instance : Inhabited Supervision := ⟨⟨default, default⟩⟩

inductive Response where
  | reset
  | retry (seconds : Nat)
deriving DecidableEq, Repr

namespace Supervision

def retry (supervision : Supervision) (healthyMs : Nat) : Supervision × Response :=
  let (backoff, seconds) := supervision.backoff.nextDelaySecs healthyMs
  ({ supervision with backoff := backoff }, .retry seconds)

/-- A reset is requested by a stall only, and only a stall asks for it. -/
def exited (supervision : Supervision) (exit : TransportExit) : Supervision × Response :=
  let recorded := supervision.queueRecovery.recordHealth exit.healthyMs
  if exit.cause = .stall then
    let (recovery, required) := recorded.rebootRequired
    if required then ({ supervision with queueRecovery := recovery }, .reset)
    else retry { supervision with queueRecovery := recovery } exit.healthyMs
  else retry { supervision with queueRecovery := recorded } exit.healthyMs

theorem recordHealth_recreated (recovery : QueueRecovery) (exit : TransportExit) :
    (recovery.recordHealth exit.healthyMs).recreated ↔ recovery.recreated ∧ ¬exit.Healthy := by
  unfold QueueRecovery.recordHealth TransportExit.Healthy
  by_cases healthy : 120000 ≤ exit.healthyMs
  · simp [healthy]
  · simp [healthy]

/-- The health of the exit is recorded before the question is asked. -/
theorem exited_reset {supervision : Supervision} {exit : TransportExit}
    (again : exit.cause = .stall ∧ supervision.queueRecovery.recreated ∧ ¬exit.Healthy) :
    ∃ next, supervision.exited exit = (next, .reset) := by
  have recorded := (recordHealth_recreated supervision.queueRecovery exit).mpr again.2
  refine ⟨{ supervision with queueRecovery := ⟨true⟩ }, ?_⟩
  simp only [exited, QueueRecovery.rebootRequired, if_pos again.1, recorded, if_true]

/-- Without a reset the backoff advances, and a stall is remembered. -/
theorem exited_retry {supervision : Supervision} {exit : TransportExit}
    (first : ¬(exit.cause = .stall ∧ supervision.queueRecovery.recreated ∧ ¬exit.Healthy)) :
    ∃ recovery : QueueRecovery,
      supervision.exited exit =
        (⟨(supervision.backoff.nextDelaySecs exit.healthyMs).1, recovery⟩,
          .retry (supervision.backoff.nextDelaySecs exit.healthyMs).2) ∧
      (recovery.recreated ↔
        exit.cause = .stall ∨ supervision.queueRecovery.recreated ∧ ¬exit.Healthy) := by
  have recorded := recordHealth_recreated supervision.queueRecovery exit
  by_cases stall : exit.cause = .stall
  · have fresh : (supervision.queueRecovery.recordHealth exit.healthyMs).recreated = false :=
      Bool.eq_false_iff.mpr fun again => first ⟨stall, recorded.mp again⟩
    refine ⟨⟨true⟩, ?_, by simp [stall]⟩
    simp only [exited, QueueRecovery.rebootRequired, if_pos stall, fresh, Bool.false_eq_true, if_false]
    rfl
  · refine ⟨supervision.queueRecovery.recordHealth exit.healthyMs, ?_, by simp [stall, recorded]⟩
    simp only [exited, if_neg stall]
    rfl

end Supervision

/-! ### The life of a lamp -/

inductive LifeEvent where
  | exit (exit : TransportExit)
  /-- The power returns, or the controller is reset for another reason. -/
  | reboot
deriving DecidableEq, Repr

/-- A boot with the exits of its transport so far. -/
structure BootHistory where
  supervision : Supervision
  exits : List TransportExit
deriving DecidableEq, Repr

namespace BootHistory

def start : BootHistory := ⟨default, []⟩

def after (boot : BootHistory) : LifeEvent → BootHistory
  | .exit exit =>
      match boot.supervision.exited exit with
      | (_, .reset) => start
      | (supervision, .retry _) => ⟨supervision, boot.exits ++ [exit]⟩
  | .reboot => start

/-- What the two memories know about the exits of their boot. -/
structure Remembers (boot : BootHistory) : Prop where
  recreated : boot.supervision.queueRecovery.recreated ↔
    Marked (fun exit => exit.cause = .stall) TransportExit.Healthy boot.exits
  failures : boot.supervision.backoff.failures.toNat =
    min 255 (sinceReset TransportExit.Healthy boot.exits)

theorem start_remembers : start.Remembers where
  recreated := by
    constructor
    · intro recreated
      cases recreated
    · intro marked
      exact absurd marked (not_marked_nil _ _)
  failures := rfl

theorem Remembers.after {boot : BootHistory} (remembers : boot.Remembers) (event : LifeEvent) :
    (boot.after event).Remembers := by
  cases event with
  | reboot => exact start_remembers
  | exit exit =>
      by_cases again : exit.cause = .stall ∧ boot.supervision.queueRecovery.recreated ∧ ¬exit.Healthy
      · obtain ⟨next, resets⟩ := Supervision.exited_reset again
        simp only [BootHistory.after, resets]
        exact start_remembers
      · obtain ⟨recovery, retries, recreated⟩ := Supervision.exited_retry again
        obtain ⟨_, counted⟩ :=
          RestartBackoff.nextDelaySecs_counted remembers.failures exit.healthyMs
        constructor
        · simp only [BootHistory.after, retries]
          rw [recreated, marked_concat, remembers.recreated]
        · simp only [BootHistory.after, retries]
          rw [counted, sinceReset_concat]
          by_cases healthy : exit.Healthy
          · rw [if_pos healthy, if_pos (show 120000 ≤ exit.healthyMs from healthy)]
          · rw [if_neg healthy, if_neg (show ¬120000 ≤ exit.healthyMs from healthy)]

theorem remembers (events : List LifeEvent) : (runAll after start events).Remembers :=
  runAll_invariant (fun _ event remembers => remembers.after event) start_remembers events

end BootHistory

/-! ### Escalation -/

/-- A stall, and an earlier one of the same boot, since which no exit was healthy. -/
def Escalates (exits : List TransportExit) (exit : TransportExit) : Prop :=
  exit.cause = .stall ∧ ∃ before earlier after, exits = before ++ earlier :: after ∧
    earlier.cause = .stall ∧ ∀ later ∈ after ++ [exit], later.healthyMs < 120000

theorem escalates_iff {exits : List TransportExit} {exit : TransportExit} :
    Escalates exits exit ↔ exit.cause = .stall ∧
      Marked (fun exit => exit.cause = .stall) TransportExit.Healthy exits ∧ ¬exit.Healthy := by
  refine and_congr_right fun _ => ⟨?_, ?_⟩
  · rintro ⟨before, earlier, after, split, stall, short⟩
    refine ⟨⟨before, earlier, after, split, stall, fun later member => ?_⟩, ?_⟩
    · exact Nat.not_le.mpr (short later (by simp [member]))
    · exact Nat.not_le.mpr (short exit (by simp))
  · rintro ⟨⟨before, earlier, after, split, stall, short⟩, ill⟩
    refine ⟨before, earlier, after, split, stall, fun later member => ?_⟩
    rcases List.mem_append.mp member with early | last
    · exact Nat.not_le.mp (short later early)
    · rw [List.mem_singleton.mp last]
      exact Nat.not_le.mp ill

/-- After any life of the lamp, at any exit. The number of failures counts the exits of this
boot back to and including the last healthy one. -/
theorem escalates (events : List LifeEvent) (exit : TransportExit) :
    let boot := runAll BootHistory.after BootHistory.start events
    let failures :=
      if 120000 ≤ exit.healthyMs then 0
      else sinceReset TransportExit.Healthy boot.exits
    ((boot.supervision.exited exit).2 = .reset ↔ Escalates boot.exits exit) ∧
      ((boot.supervision.exited exit).2 = .reset ∨
        (boot.supervision.exited exit).2 = .retry (min 60 (5 * 2 ^ failures))) := by
  intro boot failures
  have remembers : boot.Remembers := BootHistory.remembers events
  rw [escalates_iff, ← remembers.recreated]
  by_cases again : exit.cause = .stall ∧ boot.supervision.queueRecovery.recreated ∧ ¬exit.Healthy
  · obtain ⟨next, resets⟩ := Supervision.exited_reset again
    simp only [resets, again, not_false_eq_true, and_self, true_or]
  · obtain ⟨recovery, retries, _⟩ := Supervision.exited_retry again
    obtain ⟨delay, _⟩ := RestartBackoff.nextDelaySecs_counted remembers.failures exit.healthyMs
    rw [retries]
    refine ⟨⟨fun wrong => ?_, fun wrong => absurd wrong again⟩, .inr (congrArg Response.retry delay)⟩
    cases wrong

end KeyRight.App
