import KeyRight.App.LightCalls
import KeyRight.App.Target

/-!
Owns the length of a timed Off: the countdown depends on the deciseconds that were
delivered, not on how they were split, and the maintenance loop of
`firmware/app/src/presets.rs` delivers every decisecond once, however it is woken.

Does not own what starts a countdown.
-/

namespace KeyRight.App

open KeyRight.Core KeyRight.Support Program

variable {K H : Type}

/-! ### A countdown -/

/-- The timers of a light in deciseconds, and its intended state. -/
structure Countdown where
  onTime : Nat
  offWait : Nat
  timed : Bool
  target : LightState
deriving DecidableEq

namespace Countdown

/-- The countdown after an amount of time. At expiry the light is switched off, where that
is accepted. -/
def count (c : Countdown) (accepted : Bool) (amount : Nat) : Countdown :=
  if c.timed then
    if c.target.on then
      if amount < c.onTime then { c with onTime := c.onTime - amount }
      else
        { onTime := 0
          offWait := 0
          timed := false
          target := if accepted then { c.target with on := false } else c.target }
    else
      { c with
        onTime := 0
        offWait := c.offWait - amount
        timed := amount < c.offWait }
  else c

theorem count_of_idle {c : Countdown} (idle : c.timed = false) (accepted : Bool) (amount : Nat) :
    c.count accepted amount = c := by
  simp [count, idle]

/-- Two amounts count like their sum. -/
theorem count_count (c : Countdown) {accepted later : Bool} {first second : Nat}
    (same : (c.count accepted first).timed = true → later = accepted) :
    (c.count accepted first).count later second = c.count accepted (first + second) := by
  cases timed : c.timed with
  | false => rw [count_of_idle timed, count_of_idle timed, count_of_idle timed]
  | true =>
      cases on : c.target.on with
      | true =>
          by_cases running : first < c.onTime
          · have counted : c.count accepted first = { c with onTime := c.onTime - first } := by
              simp [count, timed, on, running]
            rw [counted] at same ⊢
            rw [same timed]
            by_cases ends : second < c.onTime - first
            · have sum : first + second < c.onTime := by omega
              simp [count, timed, on, ends, sum, Nat.sub_sub]
            · have sum : ¬first + second < c.onTime := by omega
              simp [count, timed, on, ends, sum]
          · have sum : ¬first + second < c.onTime := by omega
            simp [count, timed, on, running, sum]
      | false =>
          by_cases waiting : first < c.offWait
          · have counted : c.count accepted first =
                { c with onTime := 0, offWait := c.offWait - first } := by
              simp [count, timed, on, waiting]
            rw [counted]
            have ends : second < c.offWait - first ↔ first + second < c.offWait := by omega
            simp [count, timed, on, ends, Nat.sub_sub]
          · have sum : ¬first + second < c.offWait := by omega
            have spent : c.offWait - first = 0 := by omega
            have done : c.offWait - (first + second) = 0 := by omega
            simp [count, timed, on, waiting, sum, spent, done]

/-- The countdown after all that was delivered to it. Nothing is delivered as zero. -/
def elapse (c : Countdown) (accepted : Bool) (total : Nat) : Countdown :=
  if total = 0 then c else c.count accepted total

theorem elapse_count (c : Countdown) (accepted : Bool) (total : Nat) {amount : Nat}
    (due : 0 < amount) :
    (c.elapse accepted total).count accepted amount = c.elapse accepted (total + amount) := by
  unfold elapse
  rw [if_neg (show total + amount ≠ 0 by omega)]
  by_cases fresh : total = 0
  · rw [if_pos fresh, fresh, Nat.zero_add]
  · rw [if_neg fresh]
    exact c.count_count fun _ => rfl

end Countdown

/-! ### Ticks of the light -/

section

variable [KvBlobStore K] [Hardware H]

/-- What a power command that the runtime accepts makes of the target. -/
theorem Runtime.after_setPower_target (r : Runtime K H) (on : Bool) :
    (r.after (.setPower on)).state.target =
      if r.Writable then { r.state.target with on := on } else r.state.target := by
  rw [after_target]
  change r.plannedTarget (.setPower on) = _
  by_cases writable : r.Writable
  · have asks : (Operation.setPower on).Asks r (State.setPowerPlan on r.state r.now) := ⟨_, rfl, rfl⟩
    rw [plannedTarget_of_asks writable asks, State.setPowerPlan_target, if_pos writable]
  · rw [plannedTarget, if_neg writable, if_neg writable]

namespace LightHandler

/-- The light that a tick leaves. -/
def ticked (h : LightHandler K H) (deciseconds : UInt16) : LightHandler K H :=
  ((tick deciseconds).start h).2

omit [KvBlobStore K] [Hardware H] in
def countdown (h : LightHandler K H) : Countdown where
  onTime := h.onTime.toNat
  offWait := h.offWait.toNat
  timed := h.timed
  target := h.runtime.snapshot.intended

theorem saturatingSub_toNat (value amount : UInt16) :
    (saturatingSub value amount).toNat = value.toNat - amount.toNat := by
  unfold saturatingSub
  split
  · next le =>
      rw [UInt16.toNat_sub_of_le _ _ le]
  · next above =>
      rw [UInt16.le_iff_toNat_le] at above
      rw [UInt16.toNat_zero]
      omega

theorem powerOff_ends (h : LightHandler K H) :
    Ends (power false) h fun _ t => t.onTime = 0 ∧ t.runtime = h.runtime.after (.setPower false) := by
  simp only [power, edit, ends_bind, ends_update, Bool.false_eq_true, if_false]
  exact ends_operate fun _ => ⟨rfl, rfl⟩

/-- A tick counts down, and leaves the runtime alone until the countdown has ended. -/
theorem tick_counts (h : LightHandler K H) (deciseconds : UInt16) :
    Ends (tick deciseconds) h fun _ t =>
      t.countdown = h.countdown.count (decide h.runtime.Writable) deciseconds.toNat ∧
        (t.timed = true → t.runtime = h.runtime) := by
  simp only [tick, edit, ends_bind, ends_ite, ends_read, ends_update, ends_pure, ends_attempt, id_eq]
  refine ⟨fun idle => ?_, fun timed => ⟨fun on => ⟨fun ended => ?_, fun running => ?_⟩, fun off => ?_⟩⟩
  · have idle : h.countdown.timed = false := by simpa [countdown] using idle
    exact ⟨(Countdown.count_of_idle idle _ _).symm, fun _ => trivial⟩
  · have timed : h.countdown.timed = true := by simpa [countdown] using timed
    have spent : ¬deciseconds.toNat < h.countdown.onTime := by
      have zero := congrArg UInt16.toNat ended
      rw [saturatingSub_toNat, UInt16.toNat_zero] at zero
      change ¬deciseconds.toNat < h.onTime.toNat
      omega
    refine (powerOff_ends _).mono fun result t powered => ?_
    obtain ⟨cleared, runtime⟩ := powered
    refine ⟨?_, fun wrong => Bool.noConfusion wrong⟩
    have on : h.countdown.target.on = true := on
    rw [Countdown.count, if_pos timed, if_pos on, if_neg spent]
    change (⟨t.onTime.toNat, 0, false, t.runtime.state.target⟩ : Countdown) = _
    rw [cleared, runtime, Runtime.after_setPower_target]
    by_cases writable : h.runtime.Writable
    · rw [if_pos writable, decide_eq_true writable]
      rfl
    · rw [if_neg writable, decide_eq_false writable]
      rfl
  · have timed : h.countdown.timed = true := by simpa [countdown] using timed
    have on : h.countdown.target.on = true := on
    have left : deciseconds.toNat < h.countdown.onTime := by
      by_contra spent
      refine running (UInt16.toNat_inj.mp ?_)
      rw [saturatingSub_toNat, UInt16.toNat_zero]
      exact Nat.sub_eq_zero_of_le (Nat.not_lt.mp spent)
    rw [Countdown.count, if_pos timed, if_pos on, if_pos left]
    refine ⟨?_, fun _ => rfl⟩
    change (⟨(saturatingSub h.onTime deciseconds).toNat, h.offWait.toNat, h.timed, _⟩ : Countdown) = _
    rw [saturatingSub_toNat]
    rfl
  · have timed : h.countdown.timed = true := by simpa [countdown] using timed
    have off : ¬h.countdown.target.on = true := off
    rw [Countdown.count, if_pos timed, if_neg off]
    refine ⟨?_, fun _ => rfl⟩
    change (⟨0, (saturatingSub h.offWait deciseconds).toNat,
      if saturatingSub h.offWait deciseconds = 0 then false else h.timed, _⟩ : Countdown) = _
    have ends : saturatingSub h.offWait deciseconds = 0 ↔ ¬deciseconds.toNat < h.countdown.offWait := by
      rw [← UInt16.toNat_inj, saturatingSub_toNat, UInt16.toNat_zero, Nat.sub_eq_zero_iff_le]
      exact Nat.not_lt.symm
    rw [saturatingSub_toNat]
    by_cases waiting : deciseconds.toNat < h.countdown.offWait
    · rw [if_neg (fun spent => ends.mp spent waiting), decide_eq_true waiting]
      exact congrArg (Countdown.mk _ _ · _) timed
    · rw [if_pos (ends.mpr waiting), decide_eq_false waiting]
      rfl

theorem ticked_counts (h : LightHandler K H) (deciseconds : UInt16) :
    (h.ticked deciseconds).countdown =
        h.countdown.count (decide h.runtime.Writable) deciseconds.toNat ∧
      ((h.ticked deciseconds).timed = true → (h.ticked deciseconds).runtime = h.runtime) :=
  tick_counts h deciseconds

/-- Two ticks leave the timers and the intended state of one. -/
theorem ticked_ticked (h : LightHandler K H) {first second : UInt16}
    (range : first.toNat + second.toNat ≤ 65535) :
    ((h.ticked first).ticked second).countdown = (h.ticked (first + second)).countdown := by
  obtain ⟨counted, kept⟩ := h.ticked_counts first
  have sum : (first + second).toNat = first.toNat + second.toNat := by
    rw [UInt16.toNat_add]
    exact Nat.mod_eq_of_lt (by omega)
  rw [((h.ticked first).ticked_counts second).1, (h.ticked_counts (first + second)).1, counted, sum]
  refine Countdown.count_count _ fun timed => ?_
  rw [← counted] at timed
  rw [kept timed]

end LightHandler

/-! ### Nothing else changes the power -/

/-- How far a tick or a power command has come with a readable intent. -/
def Runtime.StandsAt (r : Runtime K H) : Phase → Runtime K H → Prop
  | .called, t => t.state.loadFault = r.state.loadFault ∧ (t.Writable ↔ r.Writable)
  | .returned, t => t.state.loadFault = r.state.loadFault ∧ (t.Writable ↔ r.Writable)
  | _, t => t.Writable ∧ r.Writable

/-- A tick, or a power command. -/
def Operation.Runs : Operation → Prop
  | .tick _ => True
  | .setPower _ => True
  | _ => False

omit [Hardware H] in
theorem Runtime.StandsAt.move {operation : Operation} (runs : operation.Runs) {r : Runtime K H}
    (readable : r.state.loadFault ≠ some .storage) {phase next : Phase} {t u : Runtime K H}
    (move : Move operation (phase, t) (next, u)) (stands : r.StandsAt phase t) :
    r.StandsAt next u := by
  have settled : ∀ {v : Runtime K H}, v.Writable → r.Writable →
      v.state.loadFault = r.state.loadFault ∧ (v.Writable ↔ r.Writable) := by
    intro v writable before
    exact ⟨writable.2.trans before.2.symm, fun _ => before, fun _ => writable⟩
  cases move with
  | clock _ now tick => exact stands
  | leave _ other idle unplanned => exact stands
  | resume _ tick running due => exact ⟨running, stands.2.mp running⟩
  | load _ saved tick running pending due found => exact absurd (stands.1.symm.trans pending) readable
  | loadFailed _ fault tick running pending found =>
      exact absurd (stands.1.symm.trans pending) readable
  | plan _ plan writable asks => exact ⟨writable, stands.2.mp writable⟩
  | localOff _ hardware ok off _ =>
      subst off
      exact runs.elim
  | deferOff _ hardware ok off pending =>
      subst off
      exact runs.elim
  | startup _ startup asked writable stored =>
      cases operation with
      | tick now => exact asked.elim
      | setPower on => exact asked.elim
      | _ => exact runs.elim
  | startupRefused _ startup code asked writable refused =>
      cases operation with
      | tick now => exact asked.elim
      | setPower on => exact asked.elim
      | _ => exact runs.elim
  | verified _ frame hardware check known =>
      cases operation with
      | tick now => exact check.elim
      | setPower on => exact check.elim
      | _ => exact runs.elim
  | refuted _ frame hardware check known =>
      cases operation with
      | tick now => exact check.elim
      | setPower on => exact check.elim
      | _ => exact runs.elim
  | read _ hardware registers =>
      subst registers
      exact runs.elim
  | unread _ hardware registers =>
      subst registers
      exact runs.elim
  | latch _ hardware ok reboot =>
      subst reboot
      exact runs.elim
  | storeFailed _ hardware ok code dirty refused =>
      exact settled ⟨nofun, stands.1.2⟩ stands.2
  | repaired _ off =>
      subst off
      exact runs.elim
  | unstopped _ off =>
      subst off
      exact runs.elim
  | rest _ tick same => exact settled stands.1 stands.2
  | check _ hardware tick same => exact settled stands.1 stands.2
  | steady _ same => exact settled ⟨nofun, stands.1.2⟩ stands.2
  | apply _ hardware differs => exact settled ⟨nofun, stands.1.2⟩ stands.2
  | giveUp _ hardware ok => exact settled ⟨nofun, stands.1.2⟩ stands.2
  | _ => exact stands

theorem Runtime.after_stands {r : Runtime K H} (readable : r.state.loadFault ≠ some .storage)
    {operation : Operation} (runs : operation.Runs) :
    (r.after operation).state.loadFault = r.state.loadFault ∧
      ((r.after operation).Writable ↔ r.Writable) :=
  (after_moves r operation).preserve r.StandsAt (StandsAt.move runs readable) ⟨rfl, Iff.rfl⟩

/-- A tick of the light leaves the runtime alone, or switches it off. -/
theorem LightHandler.ticked_stands {h : LightHandler K H}
    (readable : h.runtime.state.loadFault ≠ some .storage) (deciseconds : UInt16) :
    (h.ticked deciseconds).runtime.state.loadFault = h.runtime.state.loadFault ∧
      ((h.ticked deciseconds).runtime.Writable ↔ h.runtime.Writable) := by
  have runtime : (h.ticked deciseconds).runtime = h.runtime ∨
      h.timed = true ∧ saturatingSub h.onTime deciseconds = 0 ∧
        (h.ticked deciseconds).runtime = h.runtime.after (.setPower false) :=
    h.tick_runtime deciseconds
  rcases runtime with same | ⟨_, _, powered⟩
  · rw [same]
    exact ⟨rfl, Iff.rfl⟩
  · rw [powered]
    exact Runtime.after_stands readable trivial

/-- A tick of the runtime that reads no saved intent leaves the countdown. -/
theorem LightHandler.operated_tick_countdown {h : LightHandler K H}
    (readable : h.runtime.state.loadFault ≠ some .storage) (now : Nat) :
    (h.operated (.tick now)).countdown = h.countdown := by
  have settled : ¬h.runtime.Reloads now := fun reloads => readable reloads.2.2
  have target : (h.runtime.after (.tick now)).state.target = h.runtime.state.target := by
    rw [Runtime.after_target, Runtime.nextTarget, if_neg settled]
  exact congrArg (Countdown.mk _ _ _) target

end

/-! ### The maintenance loop -/

/-- The loop of `maintenance` between two iterations. -/
structure Maintenance (K H : Type) where
  last : Nat
  light : LightHandler K H
  /-- Ghost: the deciseconds delivered to the light so far. -/
  delivered : Nat

namespace Maintenance

variable [KvBlobStore K] [Hardware H]

def ticks (m : Maintenance K H) (now : Nat) : Nat := min ((now - m.last) / 100) 65535

def deliver (m : Maintenance K H) (ticks : Nat) : Maintenance K H :=
  if 0 < ticks then
    { last := m.last + ticks * 100
      light := m.light.ticked (UInt16.ofNat ticks)
      delivered := m.delivered + ticks }
  else m

/-- One iteration at `now`. -/
def iteration (m : Maintenance K H) (now : Nat) : Maintenance K H :=
  let m := m.deliver (m.ticks now)
  { m with light := m.light.operated (.tick now) }

/-- The loop after iterations at these times. -/
def run (light : LightHandler K H) (start : Nat) (nows : List Nat) : Maintenance K H :=
  runAll iteration ⟨start, light, 0⟩ nows

/-- Every delivered decisecond has passed, and `last` marks where they end. -/
structure Accounts (start now : Nat) (m : Maintenance K H) : Prop where
  marks : start + 100 * m.delivered = m.last
  passed : m.last ≤ now

theorem iteration_delivered (m : Maintenance K H) (now : Nat) :
    (m.iteration now).delivered = m.delivered + m.ticks now ∧
      (m.iteration now).last = m.last + m.ticks now * 100 := by
  unfold iteration deliver
  by_cases due : 0 < m.ticks now
  · rw [if_pos due]
    exact ⟨rfl, rfl⟩
  · rw [if_neg due]
    have none : m.ticks now = 0 := Nat.eq_zero_of_not_pos due
    rw [none]
    exact ⟨rfl, rfl⟩

/-- An iteration delivers all that has passed, up to its cap. -/
theorem Accounts.iteration {start before now : Nat} {m : Maintenance K H}
    (accounts : Accounts start before m) (later : before ≤ now) :
    Accounts start now (m.iteration now) ∧
      ((m.iteration now).delivered = (now - start) / 100 ∨
        (m.iteration now).delivered = m.delivered + 65535 ∧
          (m.iteration now).delivered ≤ (now - start) / 100) := by
  obtain ⟨marks, passed⟩ := accounts
  obtain ⟨delivered, last⟩ := m.iteration_delivered now
  have capped : m.ticks now = min ((now - m.last) / 100) 65535 := rfl
  refine ⟨⟨?_, ?_⟩, ?_⟩
  · omega
  · omega
  · by_cases cap : (now - m.last) / 100 ≤ 65535
    · rw [Nat.min_eq_left cap] at capped
      exact .inl (by omega)
    · rw [Nat.min_eq_right (by omega)] at capped
      exact .inr ⟨by omega, by omega⟩

/-- Along wake-ups that do not go back, every iteration accounts for its time. -/
theorem Accounts.runAll {start before now : Nat} {m : Maintenance K H}
    (accounts : Accounts start before m) {nows : List Nat}
    (later : (before :: (nows ++ [now])).Pairwise (· ≤ ·)) :
    Accounts start now (runAll Maintenance.iteration m nows) := by
  induction nows generalizing before m with
  | nil => exact ⟨accounts.marks, accounts.passed.trans (by simpa using later)⟩
  | cons next rest inductionHypothesis =>
      have first : before ≤ next := (List.pairwise_cons.mp later).1 next List.mem_cons_self
      exact inductionHypothesis (accounts.iteration first).1 (List.pairwise_cons.mp later).2

/-! ### The countdown along the loop -/

/-- The countdown has counted all that was delivered, and nothing else. -/
structure Counts (h : LightHandler K H) (m : Maintenance K H) : Prop where
  countdown : m.light.countdown = h.countdown.elapse (decide h.runtime.Writable) m.delivered
  readable : m.light.runtime.state.loadFault ≠ some .storage
  writable : m.light.runtime.Writable ↔ h.runtime.Writable

theorem Counts.deliver {h : LightHandler K H} {m : Maintenance K H} (counts : Counts h m)
    {ticks : Nat} (capped : ticks ≤ 65535) : Counts h (m.deliver ticks) := by
  unfold Maintenance.deliver
  by_cases due : 0 < ticks
  · rw [if_pos due]
    obtain ⟨countdown, readable, writable⟩ := counts
    obtain ⟨counted, kept⟩ := m.light.ticked_counts (UInt16.ofNat ticks)
    have amount : (UInt16.ofNat ticks).toNat = ticks := UInt16.toNat_ofNat_of_lt' (by
      change ticks < 65536
      omega)
    have same : decide m.light.runtime.Writable = decide h.runtime.Writable := decide_eq_decide.mpr writable
    have stands : (m.light.ticked (UInt16.ofNat ticks)).runtime.state.loadFault =
          m.light.runtime.state.loadFault ∧
        ((m.light.ticked (UInt16.ofNat ticks)).runtime.Writable ↔ m.light.runtime.Writable) :=
      m.light.ticked_stands readable (UInt16.ofNat ticks)
    refine ⟨?_, stands.1 ▸ readable, stands.2.trans writable⟩
    rw [counted, countdown, same, amount]
    exact h.countdown.elapse_count _ _ due
  · rw [if_neg due]
    exact counts

theorem Counts.iteration {h : LightHandler K H} {m : Maintenance K H} (counts : Counts h m)
    (now : Nat) : Counts h (m.iteration now) := by
  obtain ⟨countdown, readable, writable⟩ := counts.deliver (Nat.min_le_right _ 65535 : m.ticks now ≤ _)
  obtain ⟨loadFault, stands⟩ := Runtime.after_stands readable (show (Operation.tick now).Runs from trivial)
  refine ⟨?_, ?_, stands.trans writable⟩
  · exact (LightHandler.operated_tick_countdown readable now).trans countdown
  · exact fun pending => readable (loadFault.symm.trans pending)

/-- Along the loop, the countdown depends on the total delivered alone. -/
theorem run_counts {h : LightHandler K H} (readable : h.runtime.state.loadFault ≠ some .storage)
    (start : Nat) (nows : List Nat) : Counts h (run h start nows) :=
  runAll_invariant (fun _ now counts => counts.iteration now) ⟨rfl, readable, Iff.rfl⟩ nows

end Maintenance

/-- Timed Off and its wake-ups: two ticks are one; every wake-up that does not go back accounts
for all the time that has passed, up to a cap whose rest is carried over; and with a readable
intent, which nothing else then changes, the countdown is the same for every schedule that
delivers the same total. -/
theorem LightHandler.timedOff_schedules [KvBlobStore K] [Hardware H] :
    (∀ (h : LightHandler K H) (first second : UInt16), first.toNat + second.toNat ≤ 65535 →
      ((h.ticked first).ticked second).countdown = (h.ticked (first + second)).countdown) ∧
    (∀ (h : LightHandler K H) (start : Nat) (nows : List Nat) (now : Nat),
      (start :: (nows ++ [now])).Pairwise (· ≤ ·) →
      let before := Maintenance.run h start nows
      let m := before.iteration now
      start + 100 * m.delivered = m.last ∧ m.last ≤ now ∧
        (m.delivered = (now - start) / 100 ∨
          m.delivered = before.delivered + 65535 ∧ m.delivered ≤ (now - start) / 100)) ∧
    ∀ (h : LightHandler K H) (start : Nat) (nows : List Nat),
      h.runtime.state.loadFault ≠ some .storage →
      (Maintenance.run h start nows).light.countdown =
        h.countdown.elapse (decide h.runtime.Writable) (Maintenance.run h start nows).delivered := by
  refine ⟨fun h first second range => h.ticked_ticked range, ?_, ?_⟩
  · intro h start nows now later before m
    have fresh : Maintenance.Accounts start start (⟨start, h, 0⟩ : Maintenance K H) :=
      ⟨rfl, Nat.le_refl start⟩
    obtain ⟨⟨marks, passed⟩, total⟩ := (fresh.runAll later).iteration (Nat.le_refl now)
    exact ⟨marks, passed, total⟩
  · intro h start nows readable
    exact (Maintenance.run_counts readable start nows).countdown

/-- A light that is timed On for two seconds is Off after wake-ups at uneven times. -/
theorem LightHandler.timedOff_schedules_uneven :
    let h : LightHandler MemoryStore SimulatedOutput :=
      { bench with
        runtime := bench.runtime.run [.tick 0, .setPower true], onTime := 20, timed := true }
    (Maintenance.run h 0 [30, 250, 260, 1999, 2040]).light.countdown.target.on = false := by
  intro h
  rw [LightHandler.timedOff_schedules.2.2 h 0 [30, 250, 260, 1999, 2040] (by decide +kernel)]
  decide +kernel

end KeyRight.App
