import KeyRight.App.Network
import KeyRight.Support.Streak

/-!
Owns when the observers of the local health raise an alarm: `LocalNetHealth` and
`AssociatedHealth` of `firmware/app/src/recovery.rs`, and `QueueHealth` with the guarded
driver of `network_tx.rs`. Each alarm tells of sixty seconds without progress.

What the guarded driver's inner driver answers is given with the call, and a time with each
observation. Does not own what an alarm leads to.
-/

namespace KeyRight.App

open KeyRight.Support

/-! ### Recovery -/

structure LocalReading where
  associated : Bool
  localReady : Bool
deriving DecidableEq, Repr

def LocalReading.bad (reading : LocalReading) : Bool := reading.associated && !reading.localReady

namespace LocalNetHealth

def observe (health : LocalNetHealth) (observation : Nat × LocalReading) : LocalNetHealth × Bool :=
  health.restartDue observation.1 observation.2.associated observation.2.localReady

theorem observe_since (health : LocalNetHealth) (observation : Nat × LocalReading) :
    (health.observe observation).1.missingSince =
      if observation.2.bad then some (health.missingSince.getD observation.1) else none := by
  obtain ⟨now, associated, localReady⟩ := observation
  cases associated <;> cases localReady <;> rfl

theorem observe_due (health : LocalNetHealth) (observation : Nat × LocalReading) :
    (health.observe observation).2 = true ↔
      observation.2.bad ∧ 60000 ≤ observation.1 - health.missingSince.getD observation.1 := by
  obtain ⟨now, associated, localReady⟩ := observation
  cases associated <;> cases localReady <;> simp [observe, restartDue, LocalReading.bad]

theorem due_iff (before : List (Nat × LocalReading)) (observation : Nat × LocalReading) :
    ((stateAfter observe default before).observe observation).2 = true ↔
      Sustained LocalReading.bad 60000 (before ++ [observation]) observation.1 :=
  stateAfter_sustained (by decide) observe_since observe_due rfl before observation

end LocalNetHealth

/-- Repeated failure of the radio query is local evidence that a cached association is stale. -/
structure AssociatedHealth where
  failedSince : Option Nat
deriving DecidableEq, Repr

instance : Inhabited AssociatedHealth := ⟨⟨none⟩⟩

def AssociatedHealth.restartDue (health : AssociatedHealth) (now : Nat) (associated radioOk : Bool) :
    AssociatedHealth × Bool :=
  if !associated || radioOk then (⟨none⟩, false)
  else
    let since := health.failedSince.getD now
    (⟨some since⟩, 60000 ≤ now - since)

structure RadioReading where
  associated : Bool
  radioOk : Bool
deriving DecidableEq, Repr

def RadioReading.bad (reading : RadioReading) : Bool := reading.associated && !reading.radioOk

namespace AssociatedHealth

def observe (health : AssociatedHealth) (observation : Nat × RadioReading) : AssociatedHealth × Bool :=
  health.restartDue observation.1 observation.2.associated observation.2.radioOk

theorem observe_since (health : AssociatedHealth) (observation : Nat × RadioReading) :
    (health.observe observation).1.failedSince =
      if observation.2.bad then some (health.failedSince.getD observation.1) else none := by
  obtain ⟨now, associated, radioOk⟩ := observation
  cases associated <;> cases radioOk <;> rfl

theorem observe_due (health : AssociatedHealth) (observation : Nat × RadioReading) :
    (health.observe observation).2 = true ↔
      observation.2.bad ∧ 60000 ≤ observation.1 - health.failedSince.getD observation.1 := by
  obtain ⟨now, associated, radioOk⟩ := observation
  cases associated <;> cases radioOk <;> simp [observe, restartDue, RadioReading.bad]

theorem due_iff (before : List (Nat × RadioReading)) (observation : Nat × RadioReading) :
    ((stateAfter observe default before).observe observation).2 = true ↔
      Sustained RadioReading.bad 60000 (before ++ [observation]) observation.1 :=
  stateAfter_sustained (by decide) observe_since observe_due rfl before observation

end AssociatedHealth

/-! ### The transmit queue -/

structure QueueReading where
  linked : Bool
  capacity : Bool
deriving DecidableEq, Repr

def QueueReading.bad (reading : QueueReading) : Bool := reading.linked && !reading.capacity

namespace QueueHealth

def step (health : QueueHealth) (observation : Nat × QueueReading) : QueueHealth × Bool :=
  health.observe observation.1 observation.2.linked observation.2.capacity

/-- An alarm among the observations and answers so far, since which the queue has been blocked. -/
def Alarmed (before : List (Nat × QueueReading)) : Prop :=
  Marked (fun entry => entry.2 = true) (fun entry => ¬entry.1.2.bad)
    (transcript step default before)

/-- A stall is due once the queue has been blocked for the whole period, and only once. -/
def due (health : QueueHealth) (now : Nat) : Bool :=
  !health.reported && decide (STALL_MS ≤ now - health.blockedSince.getD now)

theorem due_iff {health : QueueHealth} {now : Nat} :
    health.due now = true ↔
      60000 ≤ now - health.blockedSince.getD now ∧ ¬health.reported = true := by
  rw [due, Bool.and_eq_true, decide_eq_true_eq, Bool.not_eq_true', Bool.not_eq_true, and_comm]
  rfl

theorem step_eq (health : QueueHealth) (observation : Nat × QueueReading) :
    health.step observation =
      if observation.2.bad then
        (⟨some (health.blockedSince.getD observation.1),
          health.reported || health.due observation.1⟩, health.due observation.1)
      else (⟨none, false⟩, false) := by
  obtain ⟨now, linked, capacity⟩ := observation
  cases linked with
  | false => rfl
  | true =>
      cases capacity with
      | true => rfl
      | false =>
          unfold step observe QueueReading.bad due
          by_cases passed : STALL_MS ≤ now - health.blockedSince.getD now
          · cases health.reported <;> simp [passed]
          · cases health.reported <;> simp [passed]

theorem reported_iff (before : List (Nat × QueueReading)) :
    (stateAfter step default before).reported = true ↔ Alarmed before := by
  induction before using List.reverseRecOn with
  | nil =>
      constructor
      · intro wrong
        cases wrong
      · intro alarmed
        exact absurd alarmed (not_marked_nil _ _)
  | append_singleton before observation inductionHypothesis =>
      rw [Alarmed, transcript_concat, marked_concat, stateAfter_concat, step_eq]
      change _ ↔ _ ∨ Alarmed before ∧ _
      rw [← inductionHypothesis]
      by_cases bad : observation.2.bad
      · simp [bad, or_comm]
      · simp [bad]

theorem stalled_iff (before : List (Nat × QueueReading)) (observation : Nat × QueueReading) :
    ((stateAfter step default before).step observation).2 = true ↔
      Sustained QueueReading.bad 60000 (before ++ [observation]) observation.1 ∧ ¬Alarmed before := by
  have since : (stateAfter step default before).blockedSince = badSince QueueReading.bad before :=
    stateAfter_badSince (fun health observation => by rw [step_eq]; split <;> rfl) rfl before
  rw [sustained_concat (by decide), step_eq, ← reported_iff, ← since]
  by_cases bad : observation.2.bad
  · rw [if_pos bad, due_iff, and_iff_right bad]
  · simp [bad]

end QueueHealth

/-! ### The guarded driver -/

/-- A call of the wrapped driver, with what the inner driver answers: whether it hands out a
token, and whether the link is up. -/
inductive DriverCall where
  | receive (token : Bool)
  | transmit (token : Bool)
  | linkState (up token : Bool)
deriving DecidableEq, Repr

/-- A token was obtained, or the link was seen down. -/
def DriverCall.progress : DriverCall → Bool
  | .receive token => token
  | .transmit token => token
  | .linkState up token => !up || token

/-- What a call leaves behind: the value handed to the health observer, whether the stall
callback ran, and the wake scheduled with the runner's waker. -/
structure GuardEffects where
  observed : Option (Option Nat) := none
  stalled : Bool := false
  alarm : Option Nat := none
deriving DecidableEq, Repr

def QueueHealth.remainingMs (health : QueueHealth) (now : Nat) : Option Nat :=
  (health.blockedSince.filter fun _ => !health.reported).map fun since => STALL_MS - (now - since)

namespace GuardedDriver

/-- `receive` and `transmit` alike: a token is progress. -/
def handOut (health : QueueHealth) (now : Nat) (token : Bool) : QueueHealth × GuardEffects :=
  if token then ((health.observe now true true).1, { observed := some none }) else (health, {})

def receive (health : QueueHealth) (now : Nat) (tokens : Bool) : QueueHealth × GuardEffects :=
  handOut health now tokens

def transmit (health : QueueHealth) (now : Nat) (token : Bool) : QueueHealth × GuardEffects :=
  handOut health now token

/-- The probe drops an unconsumed token. The alarm outlasts a lost wake of the transmitter. -/
def linkState (health : QueueHealth) (now : Nat) (up token : Bool) : QueueHealth × GuardEffects :=
  let capacity := up && token
  let (health, stalled) := health.observe now up capacity
  (health, { observed := some health.blockedSince, stalled := stalled, alarm := health.remainingMs now })

def call (health : QueueHealth) : Nat × DriverCall → QueueHealth × GuardEffects
  | (now, .receive tokens) => receive health now tokens
  | (now, .transmit token) => transmit health now token
  | (now, .linkState up token) => linkState health now up token

/-- Progress starts the period anew, an unanswered token request tells nothing, and a probe of
an established link without capacity is an observation of the blocked queue. -/
theorem call_cases (health : QueueHealth) (input : Nat × DriverCall) :
    (input.2.progress ∧ (call health input).1 = ⟨none, false⟩ ∧
        (call health input).2.stalled = false) ∨
      (¬input.2.progress ∧ (call health input).1 = health ∧
        (call health input).2.stalled = false) ∨
      (¬input.2.progress ∧
        (call health input).1 = ⟨some (health.blockedSince.getD input.1),
          health.reported || health.due input.1⟩ ∧
        (call health input).2.stalled = health.due input.1) := by
  have answered : ∀ now token,
      (token = true ∧ (handOut health now token).1 = ⟨none, false⟩ ∧
          (handOut health now token).2.stalled = false) ∨
        (¬token = true ∧ (handOut health now token).1 = health ∧
          (handOut health now token).2.stalled = false) := by
    intro now token
    cases token with
    | true => exact .inl ⟨rfl, rfl, rfl⟩
    | false => exact .inr ⟨Bool.false_ne_true, rfl, rfl⟩
  obtain ⟨now, made⟩ := input
  cases made with
  | receive token => exact (answered now token).imp_right .inl
  | transmit token => exact (answered now token).imp_right .inl
  | linkState up token =>
      have observed := QueueHealth.step_eq health (now, ⟨up, up && token⟩)
      have state := congrArg Prod.fst observed
      have answer := congrArg Prod.snd observed
      cases up with
      | false => exact .inl ⟨rfl, state, answer⟩
      | true =>
          cases token with
          | true => exact .inl ⟨rfl, state, answer⟩
          | false => exact .inr (.inr ⟨Bool.false_ne_true, state, answer⟩)

/-- What the health of the guard knows about the calls so far. -/
structure Guards (calls : List (Nat × DriverCall)) : Prop where
  began : ∀ since, (stateAfter call default calls).blockedSince = some since →
    ∃ earlier first later, calls = earlier ++ first :: later ∧ first.1 = since ∧
      ∀ made ∈ first :: later, ¬made.2.progress
  reported : Marked (fun entry => entry.2.stalled = true) (fun entry => entry.1.2.progress)
    (transcript call default calls) → (stateAfter call default calls).reported = true

theorem Guards.extend {calls : List (Nat × DriverCall)} (guards : Guards calls)
    {input : Nat × DriverCall} (without : ¬input.2.progress) {since : Nat}
    (began : (stateAfter call default calls).blockedSince = some since) :
    ∃ earlier first later, calls ++ [input] = earlier ++ first :: later ∧ first.1 = since ∧
      ∀ made ∈ first :: later, ¬made.2.progress := by
  obtain ⟨earlier, first, later, split, start, none⟩ := guards.began since began
  refine ⟨earlier, first, later ++ [input], by simp [split], start, fun made member => ?_⟩
  rw [← List.cons_append] at member
  rcases List.mem_append.mp member with before | last
  · exact none made before
  · rw [List.mem_singleton.mp last]
    exact without

theorem guards (calls : List (Nat × DriverCall)) : Guards calls := by
  induction calls using List.reverseRecOn with
  | nil =>
      constructor
      · intro since wrong
        cases wrong
      · intro alarmed
        exact absurd alarmed (not_marked_nil _ _)
  | append_singleton calls input inductionHypothesis =>
      rcases call_cases (stateAfter call default calls) input with
        ⟨progress, state, quiet⟩ | ⟨without, state, quiet⟩ | ⟨without, state, answer⟩
      · constructor
        · intro since wrong
          rw [stateAfter_concat, state] at wrong
          cases wrong
        · rw [transcript_concat, marked_concat, quiet]
          rintro (wrong | ⟨_, stays⟩)
          · cases wrong
          · exact absurd progress stays
      · constructor
        · rw [stateAfter_concat, state]
          exact fun since began => inductionHypothesis.extend without began
        · rw [transcript_concat, marked_concat, stateAfter_concat, state, quiet]
          rintro (wrong | ⟨alarmed, _⟩)
          · cases wrong
          · exact inductionHypothesis.reported alarmed
      · constructor
        · rw [stateAfter_concat, state]
          intro since began
          cases blocked : (stateAfter call default calls).blockedSince with
          | none =>
              rw [blocked] at began
              cases began
              exact ⟨calls, input, [], rfl, rfl, by simpa using without⟩
          | some start =>
              rw [blocked] at began
              cases began
              exact inductionHypothesis.extend without blocked
        · rw [transcript_concat, marked_concat, stateAfter_concat, state, answer]
          rintro (due | ⟨alarmed, _⟩)
          · exact Bool.or_eq_true_iff.mpr (.inr due)
          · exact Bool.or_eq_true_iff.mpr (.inl (inductionHypothesis.reported alarmed))

/-- The callback runs only after a whole period without progress, and only once in it. -/
theorem stalled_only {before : List (Nat × DriverCall)} {input : Nat × DriverCall}
    (stalled : (call (stateAfter call default before) input).2.stalled = true) :
    (∃ earlier first later, before ++ [input] = earlier ++ first :: later ∧
        first.1 + 60000 ≤ input.1 ∧ ∀ made ∈ first :: later, ¬made.2.progress) ∧
      ¬Marked (fun entry => entry.2.stalled = true) (fun entry => entry.1.2.progress)
        (transcript call default before) := by
  have guards := guards before
  rcases call_cases (stateAfter call default before) input with
    ⟨_, _, quiet⟩ | ⟨_, _, quiet⟩ | ⟨without, _, answer⟩
  · rw [quiet] at stalled
    cases stalled
  · rw [quiet] at stalled
    cases stalled
  · rw [answer, QueueHealth.due_iff] at stalled
    refine ⟨?_, fun alarmed => stalled.2 (guards.reported alarmed)⟩
    cases blocked : (stateAfter call default before).blockedSince with
    | none =>
        rw [blocked] at stalled
        simp at stalled
    | some since =>
        obtain ⟨earlier, first, later, split, rfl, none⟩ := guards.extend without blocked
        rw [blocked, Option.getD_some] at stalled
        exact ⟨earlier, first, later, split, by omega, none⟩

/-- In time order, no call of the last sixty seconds obtained a token or saw the link down. -/
theorem stalled_recent {before : List (Nat × DriverCall)} {input : Nat × DriverCall}
    (stalled : (call (stateAfter call default before) input).2.stalled = true)
    (ordered : Ordered before input.1) {made : Nat × DriverCall} (member : made ∈ before ++ [input])
    (recent : input.1 < made.1 + 60000) : ¬made.2.progress := by
  obtain ⟨⟨earlier, first, later, split, start, none⟩, _⟩ := stalled_only stalled
  have times := (ordered_concat.mpr ⟨ordered, Nat.le_refl input.1⟩).pairwise
  rw [split] at times member
  obtain ⟨_, _, apart⟩ := List.pairwise_append.mp times
  rcases List.mem_append.mp member with early | late
  · have before := apart made early first List.mem_cons_self
    omega
  · exact none made late

/-- The event of the network that a call is. -/
def event : DriverCall → Network.Event
  | .receive token => .receive token
  | .transmit token => .transmit token
  | .linkState up token => .linkState up token

/-- The queue of the network is the health of its guard. -/
theorem after_queue (network : Network) (now : Nat) (made : DriverCall) :
    (network.after (now, event made)).queue = (call network.queue (now, made)).1 := by
  cases made with
  | receive token => cases token <;> rfl
  | transmit token => cases token <;> rfl
  | linkState up token => rfl

end GuardedDriver

/-! ### Alarms -/

/-- The two watches of the radio tell a sustained failure at every observation, the watch of
the queue tells it once, and the guard's callback runs only then. -/
theorem alarms_sustained :
    (∀ (before : List (Nat × LocalReading)) (observation : Nat × LocalReading),
      ((stateAfter LocalNetHealth.observe default before).observe observation).2 = true ↔
        Sustained LocalReading.bad 60000 (before ++ [observation]) observation.1) ∧
    (∀ (before : List (Nat × RadioReading)) (observation : Nat × RadioReading),
      ((stateAfter AssociatedHealth.observe default before).observe observation).2 = true ↔
        Sustained RadioReading.bad 60000 (before ++ [observation]) observation.1) ∧
    (∀ (before : List (Nat × QueueReading)) (observation : Nat × QueueReading),
      ((stateAfter QueueHealth.step default before).step observation).2 = true ↔
        Sustained QueueReading.bad 60000 (before ++ [observation]) observation.1 ∧
          ¬QueueHealth.Alarmed before) ∧
    ∀ (before : List (Nat × DriverCall)) (input : Nat × DriverCall),
      (GuardedDriver.call (stateAfter GuardedDriver.call default before) input).2.stalled = true →
        (∃ earlier first later, before ++ [input] = earlier ++ first :: later ∧
          first.1 + 60000 ≤ input.1 ∧ ∀ made ∈ first :: later, ¬made.2.progress) ∧
        (Ordered before input.1 → ∀ made ∈ before ++ [input], input.1 < made.1 + 60000 →
          ¬made.2.progress) ∧
        ¬Marked (fun entry => entry.2.stalled = true) (fun entry => entry.1.2.progress)
          (transcript GuardedDriver.call default before) := by
  refine ⟨LocalNetHealth.due_iff, AssociatedHealth.due_iff, QueueHealth.stalled_iff,
    fun before input stalled => ?_⟩
  obtain ⟨sustained, once⟩ := GuardedDriver.stalled_only stalled
  exact ⟨sustained, fun ordered made member recent =>
    GuardedDriver.stalled_recent stalled ordered member recent, once⟩

/-- Two probes of a blocked link, a minute apart. -/
theorem alarms_sustained_minute :
    ∃ earlier first later,
      [(0, DriverCall.linkState true false)] ++ [(60000, DriverCall.linkState true false)] =
          earlier ++ first :: later ∧
        first.1 + 60000 ≤ 60000 ∧ ∀ made ∈ first :: later, ¬made.2.progress :=
  (alarms_sustained.2.2.2 [(0, .linkState true false)] (60000, .linkState true false)
    (by decide)).1

end KeyRight.App
