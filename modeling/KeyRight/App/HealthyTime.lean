import KeyRight.App.Network

/-!
Owns the healthy time that the network counts: it is at most one interval of continuous
health without transmit backpressure, unless an episode of backpressure ends within a
period that is still counted.

Does not own what the restart delays and the confirmation of an update make of it.
-/

namespace KeyRight.App.Network

open KeyRight.Support

/-! ### Health -/

/-- Associated, with a usable local address and a reading of the radio. -/
def Associated (n : Network) : Prop := n.connected = true ∧ n.localReady = true ∧ n.rssi ≠ NO_RSSI

/-- Associated, and no backpressure is known. -/
def InForce (n : Network) : Prop := n.Associated ∧ n.txBlockedSince = none

instance InForce.decidable : DecidablePred InForce := fun n =>
  inferInstanceAs (Decidable ((n.connected = true ∧ n.localReady = true ∧ n.rssi ≠ NO_RSSI) ∧ _))

def Event.Restarts (event : Event) : Prop := event = .restarted

instance Event.Restarts.decidable : DecidablePred Event.Restarts := fun event =>
  inferInstanceAs (Decidable (event = .restarted))

/-- Since when the queue is blocked, where an observation of the guard publishes it. -/
def published (n : Network) : Nat × Event → Option (Option Nat)
  | (_, .receive token) => if token then some none else none
  | (_, .transmit token) => if token then some none else none
  | (now, .linkState up token) => some (n.queue.observe now up (up && token)).1.blockedSince
  | _ => none

/-- The event lets time count that was not healthy: an observation ends or moves the known
backpressure of a period that began before it, or a reading that stands for none leaves a
period running. -/
def Loses (n : Network) (input : Nat × Event) : Prop :=
  (∃ since ∈ n.healthySince, since < input.1 ∧ n.txBlockedSince ≠ none ∧
      ∃ blocked ∈ n.published input, blocked ≠ n.txBlockedSince) ∨
    n.healthySince ≠ none ∧ input.2 = .updateConnected true (some NO_RSSI)

instance Loses.decidable (n : Network) (input : Nat × Event) : Decidable (n.Loses input) :=
  inferInstanceAs (Decidable (_ ∨ _))

/-! ### Periods -/

/-- A period that runs after the step has begun with it, or ran before and has not lost the
time at which its queue was blocked. -/
def Prolongs (n t : Network) (now : Nat) : Prop :=
  ∀ since, t.healthySince = some since → t.Associated ∧
    (since = now ∨ n.healthySince = some since ∧
      (t.txBlockedSince = n.txBlockedSince ∨ n.txBlockedSince = none))

/-- The counted period lies within the interval that the stopwatch times, or had timed
until the queue was blocked. -/
structure Tracks (n : Network) (w : Stopwatch) (clock : Nat) : Prop where
  counted : n.longestHealthyMs ≤ w.longest
  associated : ∀ since, n.healthySince = some since → n.Associated
  timed : n.txBlockedSince = none → ∀ since, n.healthySince = some since →
    ∃ began ≤ since, w.since = some began
  stopped : ∀ blocked since, n.txBlockedSince = some blocked → n.healthySince = some since →
    blocked - since ≤ w.longest
  inForce : n.InForce → w.since ≠ none
  past : ∀ began, w.since = some began → began ≤ clock
  blocked : ∀ since, n.txBlockedSince = some since → since ≤ clock
  queue : ∀ since, n.queue.blockedSince = some since → since ≤ clock
  began : ∀ since, n.healthySince = some since → since ≤ clock

/-- Without a period nothing is counted. -/
theorem Tracks.idle {n : Network} {w : Stopwatch} {clock : Nat} (uncounted : n.longestHealthyMs = 0)
    (ended : n.healthySince = none) (unblocked : n.txBlockedSince = none)
    (disconnected : n.connected = false) (halted : w.since = none)
    (queue : ∀ since, n.queue.blockedSince = some since → since ≤ clock) : Tracks n w clock where
  counted := uncounted ▸ Nat.zero_le _
  associated := by simp [ended]
  timed := by simp [ended]
  stopped := by simp [ended]
  inForce := by simp [InForce, Associated, disconnected]
  past := by simp [halted]
  blocked := by simp [unblocked]
  queue := queue
  began := by simp [ended]

theorem Tracks.boot : Tracks boot .stopped 0 := .idle rfl rfl rfl rfl rfl nofun

section

variable {n : Network} {w : Stopwatch} {clock now : Nat}

/-- A period counts no longer than the stopwatch. -/
theorem Tracks.period (tracks : Tracks n w clock) {since : Nat} (running : n.healthySince = some since) :
    n.healthyUntil now - since ≤ w.reading now := by
  unfold healthyUntil
  cases backpressure : n.txBlockedSince with
  | none =>
      obtain ⟨began, before, timed⟩ := tracks.timed backpressure since running
      have current : w.current now = now - began := by simp [Stopwatch.current, timed]
      rw [Option.elim_none, Stopwatch.reading, current]
      omega
  | some blocked =>
      have stopped := tracks.stopped blocked since backpressure running
      rw [Option.elim_some, Stopwatch.reading]
      omega

theorem Tracks.current_le (tracks : Tracks n w clock) : n.currentHealthyMs now ≤ w.reading now := by
  unfold currentHealthyMs
  cases running : n.healthySince with
  | none => exact Nat.zero_le _
  | some since =>
      dsimp only
      split
      · exact Nat.zero_le _
      · exact tracks.period running

theorem Tracks.healthyFor_le (tracks : Tracks n w clock) : n.healthyForMs now ≤ w.reading now :=
  Nat.max_le.mpr ⟨tracks.current_le, Nat.le_trans tracks.counted (Nat.le_max_left _ _)⟩

/-- A step that keeps the counted time within the stopwatch. -/
theorem Tracks.step (tracks : Tracks n w clock) (present : clock ≤ now) {t : Network}
    (counted : t.longestHealthyMs ≤ (w.observe now false (decide t.InForce)).longest)
    (periods : n.Prolongs t now)
    (blocked : ∀ since, t.txBlockedSince = some since → since ≤ now)
    (queue : ∀ since, t.queue.blockedSince = some since → since ≤ now) :
    Tracks t (w.observe now false (decide t.InForce)) now := by
  have past : ∀ began, w.since = some began → began ≤ now := fun began timed =>
    Nat.le_trans (tracks.past began timed) present
  have times : ∃ began ≤ now, (w.observe now false true).since = some began := Stopwatch.since_observe past
  refine ⟨counted, fun since running => (periods since running).1, ?_, ?_, ?_, ?_, blocked, queue, ?_⟩
  · intro unblocked since running
    obtain ⟨associated, current | ⟨before, kept⟩⟩ := periods since running
    · rw [decide_eq_true (show t.InForce from ⟨associated, unblocked⟩)]
      obtain ⟨began, early, timed⟩ := times
      exact ⟨began, current ▸ early, timed⟩
    · have open_ : n.txBlockedSince = none := kept.elim (fun same => same ▸ unblocked) id
      obtain ⟨began, early, timed⟩ := tracks.timed open_ since before
      rw [decide_eq_true (show t.InForce from ⟨associated, unblocked⟩)]
      exact ⟨began, early, by simp [Stopwatch.observe, timed]⟩
  · intro since period backpressure running
    have closed : ¬t.InForce := fun inForce => by
      rw [inForce.2] at backpressure
      cases backpressure
    have stop := blocked since backpressure
    rw [decide_eq_false closed]
    obtain ⟨associated, current | ⟨before, same | open_⟩⟩ := periods period running
    · omega
    · have stopped := tracks.stopped since period (same ▸ backpressure) before
      have kept : w.longest ≤ (w.observe now false false).longest := Stopwatch.longest_le_observe
      omega
    · obtain ⟨began, early, timed⟩ := tracks.timed open_ period before
      have counts : now - began ≤ (w.observe now false false).longest := Stopwatch.counts_observe timed
      omega
  · intro inForce
    rw [decide_eq_true inForce]
    obtain ⟨began, _, timed⟩ := times
    simp [timed]
  · intro began timed
    by_cases inForce : t.InForce
    · rw [decide_eq_true inForce] at timed
      obtain ⟨other, early, same⟩ := times
      rw [same] at timed
      cases timed
      exact early
    · rw [decide_eq_false inForce] at timed
      cases timed
  · intro since running
    obtain ⟨_, current | ⟨before, _⟩⟩ := periods since running
    · exact Nat.le_of_eq current
    · exact Nat.le_trans (tracks.began since before) present

/-- A step that ends the period counts no more than the stopwatch does. -/
theorem Tracks.ends (tracks : Tracks n w clock) (present : clock ≤ now) {t : Network}
    (ended : t.healthySince = none)
    (counted : t.longestHealthyMs = (n.endHealthyPeriod now).longestHealthyMs)
    (blocked : t.txBlockedSince = n.txBlockedSince) (queue : t.queue = n.queue)
    (closed : ¬t.Associated) : Tracks t (w.observe now false (decide t.InForce)) now := by
  have stopped : decide t.InForce = false := decide_eq_false fun inForce => closed inForce.1
  refine tracks.step present ?_ ?_ ?_ ?_
  · rw [stopped, counted]
    change (n.endHealthyPeriod now).longestHealthyMs ≤ w.reading now
    unfold endHealthyPeriod
    have before : n.longestHealthyMs ≤ w.reading now := Nat.le_trans tracks.counted (Nat.le_max_left _ _)
    cases running : n.healthySince with
    | none => exact before
    | some since => exact Nat.max_le.mpr ⟨before, tracks.period running⟩
  · intro since running
    rw [ended] at running
    cases running
  · intro since known
    exact Nat.le_trans (tracks.blocked since (blocked ▸ known)) present
  · intro since known
    exact Nat.le_trans (tracks.queue since (queue ▸ known)) present

/-- A step that leaves the periods alone. -/
theorem Tracks.keeps (tracks : Tracks n w clock) (present : clock ≤ now) {t : Network}
    (longest : t.longestHealthyMs = n.longestHealthyMs)
    (periods : n.Prolongs t now)
    (blocked : ∀ since, t.txBlockedSince = some since → since ≤ now)
    (queue : ∀ since, t.queue.blockedSince = some since → since ≤ now) :
    Tracks t (w.observe now false (decide t.InForce)) now :=
  tracks.step present (longest ▸ Nat.le_trans tracks.counted Stopwatch.longest_le_observe) periods
    blocked queue

theorem Tracks.updateConnected (tracks : Tracks n w clock) (present : clock ≤ now) (connected : Bool)
    (rssi : Option Int32) (readable : n.healthySince ≠ none → ¬(connected = true ∧ rssi = some NO_RSSI)) :
    Tracks (n.updateConnected now connected rssi).1
      (w.observe now false (decide (n.updateConnected now connected rssi).1.InForce)) now := by
  cases connected with
  | false => exact tracks.ends present rfl rfl rfl rfl fun associated => nomatch associated.1
  | true =>
      cases rssi with
      | none => exact tracks.ends present rfl rfl rfl rfl fun associated => associated.2.2 rfl
      | some reading =>
          refine tracks.keeps present rfl (fun since running => ⟨?_, .inr ⟨running, .inl rfl⟩⟩) ?_ ?_
          · obtain ⟨_, ready, _⟩ := tracks.associated since running
            refine ⟨rfl, ready, fun sentinel => ?_⟩
            refine readable (fun idle => ?_) ⟨rfl, congrArg some sentinel⟩
            rw [show n.healthySince = some since from running] at idle
            cases idle
          · exact fun since known => Nat.le_trans (tracks.blocked since known) present
          · exact fun since known => Nat.le_trans (tracks.queue since known) present

theorem Tracks.poll (tracks : Tracks n w clock) (present : clock ≤ now) (ready v4 : Bool) :
    Tracks (n.poll now ready v4).1 (w.observe now false (decide (n.poll now ready v4).1.InForce)) now := by
  by_cases associated : n.connected = true ∧ ready = true ∧ n.rssi ≠ NO_RSSI
  · have polled : (n.poll now ready v4).1 = { n with
        localReady := ready
        ipv4Ready := v4
        healthySince := some (n.healthySince.getD now)
        monitor := (n.poll now ready v4).1.monitor
        ipTimeouts := (n.poll now ready v4).1.ipTimeouts } := by
      simp [Network.poll, associated]
    rw [polled]
    refine tracks.keeps present rfl (fun since running => ⟨associated, ?_⟩) ?_ ?_
    · have same : n.healthySince.getD now = since := Option.some_inj.mp running
      cases before : n.healthySince with
      | none =>
          rw [before] at same
          exact .inl same.symm
      | some began =>
          rw [before] at same
          exact .inr ⟨congrArg some same, .inl rfl⟩
    · exact fun since known => Nat.le_trans (tracks.blocked since known) present
    · exact fun since known => Nat.le_trans (tracks.queue since known) present
  · have polled : (n.poll now ready v4).1 = { n.endHealthyPeriod now with
        localReady := ready
        ipv4Ready := v4
        monitor := (n.poll now ready v4).1.monitor
        ipTimeouts := (n.poll now ready v4).1.ipTimeouts } := by
      simp [Network.poll, associated, endHealthyPeriod, healthyUntil]
    rw [polled]
    exact tracks.ends present rfl rfl rfl rfl associated

/-- An observation of the queue keeps the backpressure of an earlier period. -/
theorem Tracks.observed (tracks : Tracks n w clock) (present : clock ≤ now) {queue : QueueHealth}
    (past : ∀ since, queue.blockedSince = some since → since ≤ now)
    (kept : ∀ since, n.healthySince = some since → since < now → n.txBlockedSince = none ∨
      queue.blockedSince = n.txBlockedSince) :
    Tracks (n.observed queue) (w.observe now false (decide (n.observed queue).InForce)) now := by
  refine tracks.keeps present rfl (fun since running => ⟨tracks.associated since running, ?_⟩) past past
  rcases Nat.lt_or_ge since now with before | current
  · exact .inr ⟨running, (kept since running before).symm⟩
  · exact .inl (Nat.le_antisymm (Nat.le_trans (tracks.began since running) present) current)

theorem observe_past {health : QueueHealth} {up capacity : Bool}
    (past : ∀ since, health.blockedSince = some since → since ≤ now) (since : Nat)
    (blocked : (health.observe now up capacity).1.blockedSince = some since) : since ≤ now := by
  unfold QueueHealth.observe at blocked
  have began : health.blockedSince.getD now ≤ now := by
    cases before : health.blockedSince with
    | none => exact Nat.le_refl now
    | some earlier => exact past earlier before
  split at blocked
  · cases blocked
  · dsimp only at blocked
    split at blocked
    · cases blocked
      exact began
    · cases blocked
      exact began

/-- A published observation that does not lose time keeps the backpressure of an earlier
period. -/
theorem kept_of_not_loses {event : Event} (keeps : ¬n.Loses (now, event)) {blocked : Option Nat}
    (published : n.published (now, event) = some blocked) (since : Nat)
    (running : n.healthySince = some since) (before : since < now) :
    n.txBlockedSince = none ∨ blocked = n.txBlockedSince := by
  by_contra lost
  obtain ⟨known, moved⟩ := not_or.mp lost
  exact keeps (.inl ⟨since, running, before, known, blocked, published, moved⟩)

theorem Tracks.progress (tracks : Tracks n w clock) (present : clock ≤ now) (token : Bool)
    (kept : token = true → ∀ since, n.healthySince = some since → since < now →
      n.txBlockedSince = none ∨ none = n.txBlockedSince) :
    Tracks (n.progress now token) (w.observe now false (decide (n.progress now token).InForce)) now := by
  cases token with
  | true => exact tracks.observed present nofun (kept rfl)
  | false =>
      refine tracks.keeps present rfl (fun since running => ?_) ?_ ?_
      · exact ⟨tracks.associated since running, .inr ⟨running, .inl rfl⟩⟩
      · exact fun since known => Nat.le_trans (tracks.blocked since known) present
      · exact fun since known => Nat.le_trans (tracks.queue since known) present

theorem after_requestDisconnect (n : Network) (now : Nat) :
    ∃ pending, n.after (now, .requestDisconnect) = { n with disconnectPending := pending } := by
  change ∃ pending, n.requestDisconnect.toOption.getD n = _
  unfold requestDisconnect
  by_cases down : !n.connected
  · rw [if_pos down]
    exact ⟨n.disconnectPending, rfl⟩
  · rw [if_neg down]
    by_cases pending : n.disconnectPending
    · rw [if_pos pending]
      exact ⟨n.disconnectPending, rfl⟩
    · rw [if_neg pending]
      exact ⟨true, rfl⟩

/-- An event that does not lose time keeps the counted periods within the stopwatch. -/
theorem Tracks.after (tracks : Tracks n w clock) (present : clock ≤ now) {event : Event}
    (keeps : ¬n.Loses (now, event)) :
    Tracks (n.after (now, event))
      (w.observe now (decide event.Restarts) (decide (n.after (now, event)).InForce)) now := by
  have past : ∀ since, n.queue.blockedSince = some since → since ≤ now := fun since known =>
    Nat.le_trans (tracks.queue since known) present
  have blocked : ∀ since, n.txBlockedSince = some since → since ≤ now := fun since known =>
    Nat.le_trans (tracks.blocked since known) present
  cases event with
  | updateConnected connected rssi =>
      refine tracks.updateConnected present connected rssi fun running => ?_
      rintro ⟨rfl, rfl⟩
      exact keeps (.inr ⟨running, rfl⟩)
  | poll ready v4 => exact tracks.poll present ready v4
  | receive token =>
      refine tracks.progress present token ?_
      rintro rfl
      exact kept_of_not_loses keeps rfl
  | transmit token =>
      refine tracks.progress present token ?_
      rintro rfl
      exact kept_of_not_loses keeps rfl
  | linkState up token =>
      exact tracks.observed present (observe_past past) (kept_of_not_loses keeps rfl)
  | started =>
      refine tracks.keeps present rfl (fun since running => ?_) blocked nofun
      exact ⟨tracks.associated since running, .inr ⟨running, .inl rfl⟩⟩
  | restarted => exact .idle rfl rfl rfl rfl rfl past
  | requestDisconnect =>
      obtain ⟨pending, same⟩ := n.after_requestDisconnect now
      rw [same]
      refine tracks.keeps present rfl (fun since running => ?_) blocked past
      exact ⟨tracks.associated since running, .inr ⟨running, .inl rfl⟩⟩

end

/-! ### Runs -/

/-- The length of a single interval since the last restart of the transport, throughout which
the network was associated and no backpressure was known. -/
def Uninterrupted (events : List (Nat × Event)) (now length : Nat) : Prop :=
  Lasts after InForce Event.Restarts boot events now length

def run (events : List (Nat × Event)) : Network := runAll after boot events

theorem tracks_run {events : List (Nat × Event)} {now : Nat} (ordered : Ordered events now)
    (keeps : Along after (fun n input => ¬n.Loses input) boot events) :
    Tracks (run events) (watch after InForce Event.Restarts boot events) (lastTime 0 events) := by
  induction events using List.reverseRecOn generalizing now with
  | nil => exact .boot
  | append_singleton events input inductionHypothesis =>
      obtain ⟨earlier, last⟩ := Along.append.mp keeps
      obtain ⟨before, _⟩ := ordered_concat.mp ordered
      have tracks := inductionHypothesis before earlier
      rw [watch_concat, lastTime_concat, run, runAll_append]
      exact tracks.after before.lastTime_le last.1

/-- An event that loses time leaves the period running and the association up. -/
theorem after_of_loses {n : Network} {input : Nat × Event} (loses : n.Loses input)
    (up : n.connected = true) :
    (n.after input).healthySince = n.healthySince ∧ (n.after input).connected = true ∧
      (n.after input).localReady = n.localReady := by
  obtain ⟨now, event⟩ := input
  rcases loses with ⟨_, _, _, _, blocked, published, _⟩ | ⟨_, sentinel⟩
  · cases event with
    | receive token =>
        cases token with
        | true => exact ⟨rfl, up, rfl⟩
        | false => cases published
    | transmit token =>
        cases token with
        | true => exact ⟨rfl, up, rfl⟩
        | false => cases published
    | linkState linked token => exact ⟨rfl, up, rfl⟩
    | _ => cases published
  · cases sentinel
    exact ⟨rfl, rfl, rfl⟩

/-- With a good reading and capacity again, the lost time counts. -/
def recovered (now : Nat) : List (Nat × Event) :=
  [(now, .updateConnected true (some 0)), (now, .linkState true true)]

theorem currentHealthyMs_recovered {n : Network} {since : Nat} (running : n.healthySince = some since)
    (ready : n.localReady = true) (now later : Nat) :
    (runAll after n (recovered now)).currentHealthyMs later = later - since := by
  have still : (runAll after n (recovered now)).healthySince = some since := running
  have usable : (runAll after n (recovered now)).localReady = true := ready
  have reading : (0 : Int32) ≠ NO_RSSI := by decide
  have associated : (runAll after n (recovered now)).Associated := ⟨rfl, usable, reading⟩
  have unblocked : (runAll after n (recovered now)).healthyUntil later = later := rfl
  simp [currentHealthyMs, still, unblocked, associated.1, associated.2.1, associated.2.2]

/-- Where the network was not in force, an interval ends before or starts after. -/
theorem Uninterrupted.length_lt {first later : List (Nat × Event)} {now length counted : Nat}
    (uninterrupted : Uninterrupted (first ++ later) now length) (ordered : Ordered (first ++ later) now)
    (interrupted : ¬(run first).InForce) (early : nextTime now later < counted)
    (late : now - nextTime now later < counted) : length < counted := by
  rcases uninterrupted with rfl | ⟨since, till, interval, rfl⟩
  · omega
  · have bound := interval.length_le ordered interrupted
    omega

/-- After an event that loses time, a network that recovers counts more than any interval. -/
theorem Tracks.exceeds {events : List (Nat × Event)} {clock now : Nat} {w : Stopwatch} {event : Event}
    (tracks : Tracks (run events) w clock) (present : clock ≤ now) (ordered : Ordered events now)
    (loses : (run events).Loses (now, event)) :
    let later := (now, event) :: recovered (now + 1)
    Ordered (events ++ later) (2 * now + 2) ∧ ∀ length, Uninterrupted (events ++ later) (2 * now + 2) length →
      length < (run (events ++ later)).currentHealthyMs (2 * now + 2) := by
  intro later
  obtain ⟨since, running⟩ : ∃ since, (run events).healthySince = some since := by
    rcases loses with ⟨since, running, _⟩ | ⟨running, _⟩
    · exact ⟨since, running⟩
    · exact Option.ne_none_iff_exists'.mp running
  have began : since ≤ now := Nat.le_trans (tracks.began since running) present
  obtain ⟨up, ready, _⟩ := tracks.associated since running
  obtain ⟨still, _, usable⟩ := after_of_loses loses up
  have counts : (run (events ++ later)).currentHealthyMs (2 * now + 2) = 2 * now + 2 - since := by
    rw [run, runAll_append]
    exact currentHealthyMs_recovered (still.trans running) (usable.trans ready) (now + 1) _
  have apart : events ++ later = (events ++ [(now, event)]) ++ recovered (now + 1) := by
    simp [later]
  have whole : Ordered (events ++ later) (2 * now + 2) := by
    have same : events ++ later = events ++ [(now, event)] ++
        [(now + 1, .updateConnected true (some 0))] ++ [(now + 1, .linkState true true)] := by
      simp [later, recovered]
    rw [same, ordered_concat, ordered_concat, ordered_concat]
    exact ⟨⟨⟨ordered, Nat.le_add_right now 1⟩, Nat.le_refl _⟩, by dsimp only; omega⟩
  refine ⟨whole, fun length uninterrupted => ?_⟩
  rw [counts]
  rcases loses with ⟨other, same, before, blocked, _⟩ | ⟨_, sentinel⟩
  · -- The queue was blocked before the event.
    cases running.symm.trans same
    refine uninterrupted.length_lt whole (fun inForce => blocked inForce.2) ?_ ?_
    · rw [nextTime_cons]
      omega
    · rw [nextTime_cons]
      omega
  · -- There is no reading after the event.
    cases sentinel
    rw [apart] at uninterrupted whole
    refine uninterrupted.length_lt whole ?_ ?_ ?_
    · rw [run, runAll_append]
      exact fun inForce => inForce.1.2.2 rfl
    · rw [recovered, nextTime_cons]
      omega
    · rw [recovered, nextTime_cons]
      omega

/-- In every run that loses no time, the counted times are at most the length of a single
interval of continuous health without backpressure since the last restart. After the first
event that loses time, a run goes on to count more than any such interval. -/
theorem run_healthyTime (events : List (Nat × Event))
    (keeps : Along after (fun n input => ¬n.Loses input) boot events) :
    (∀ now, Ordered events now → ∃ length, Uninterrupted events now length ∧
      (run events).healthyForMs now ≤ length ∧ (run events).currentHealthyMs now ≤ length) ∧
    ∀ now event, Ordered events now → (run events).Loses (now, event) →
      ∃ later ending, Ordered (events ++ (now, event) :: later) ending ∧
        ∀ length, Uninterrupted (events ++ (now, event) :: later) ending length →
          length < (run (events ++ (now, event) :: later)).currentHealthyMs ending := by
  constructor
  · intro now ordered
    have tracks := tracks_run ordered keeps
    refine ⟨_, watch_lasts boot events now, ?_, ?_⟩
    · exact tracks.healthyFor_le
    · exact tracks.current_le
  · intro now event ordered loses
    exact ⟨recovered (now + 1), 2 * now + 2,
      (tracks_run ordered keeps).exceeds ordered.lastTime_le ordered loses⟩

/-- A period of 30 s that ends while the queue is blocked still counts after the queue is
free. -/
theorem run_healthyTime_blocked :
    let events : List (Nat × Event) := [(0, .updateConnected true (some (-40))), (1000, .poll true true),
      (31000, .linkState true false), (40000, .updateConnected false none), (41000, .linkState true true)]
    (run events).healthyForMs 50000 = 30000 ∧ ∃ length, Uninterrupted events 50000 length ∧
      (run events).healthyForMs 50000 ≤ length ∧ (run events).currentHealthyMs 50000 ≤ length :=
  ⟨by decide, (run_healthyTime _ (by decide)).1 50000 ⟨by decide, by decide⟩⟩

/-- A queue that is blocked for 30 s of a minute leaves the whole minute counted. -/
theorem healthyTime_exceeded :
    ¬∀ (events : List (Nat × Event)) (now : Nat), Ordered events now →
      ∃ length, Uninterrupted events now length ∧ (run events).healthyForMs now ≤ length ∧
        (run events).currentHealthyMs now ≤ length := by
  intro claimed
  let blocked : List (Nat × Event) := [(0, .updateConnected true (some (-40))), (0, .poll true true),
    (10000, .linkState true false)]
  have ordered : Ordered (blocked ++ [(40000, .linkState true true)]) 60000 := ⟨by decide, by decide⟩
  obtain ⟨length, uninterrupted, _, counted⟩ := claimed _ 60000 ordered
  have counts : (run (blocked ++ [(40000, .linkState true true)])).currentHealthyMs 60000 = 60000 := by
    decide
  have short : length < 60000 :=
    uninterrupted.length_lt ordered (show ¬(run blocked).InForce by decide) (by decide) (by decide)
  rw [counts] at counted
  omega

end KeyRight.App.Network
