import KeyRight.App.Bench
import KeyRight.App.Moves

/-!
Owns truthful acknowledgement: an acknowledged frame is the last thing done to
the output and succeeded, an unknown output was last sent a shutdown, and a fault
never coexists with an acknowledged frame.

Does not own durability or the choice of frames.
-/

namespace KeyRight.App

open KeyRight.Core

variable {K H : Type}

/-! ### The last mutating call -/

def Event.mutates : Event K H → Bool
  | .shutdown _ => true
  | .applyFrame _ _ _ _ => true
  | _ => false

def lastMutation (trace : List (Event K H)) : Option (Event K H) := trace.find? Event.mutates

/-- What the controller acknowledges is what the last mutating call did. -/
def Backed : Option OutputFrame → List (Event K H) → Prop
  | some frame, trace => ∃ kv held, lastMutation trace = some (.applyFrame kv held frame true)
  | none, trace => ∃ ok, lastMutation trace = some (.shutdown ok)

theorem Backed.cons {applied : Option OutputFrame} {event : Event K H} {trace : List (Event K H)}
    (harmless : event.mutates = false) (backed : Backed applied trace) :
    Backed applied (event :: trace) := by
  have same : lastMutation (event :: trace) = lastMutation trace := by
    rw [lastMutation, List.find?_cons_of_neg (by simp [harmless])]
    rfl
  cases applied with
  | none => simpa only [Backed, same] using backed
  | some frame => simpa only [Backed, same] using backed

/-! ### Invariant -/

/-- An acknowledged frame excludes every fault and a pending retry. -/
def Healthy (s : State H) : Prop :=
  s.fault = .none ∧ s.loadFault = none ∧ s.retryAt = 0

/-- What a phase owes about pending writes. -/
def CleanAt : Phase → State H → Prop
  | .called, s => s.controller.appliedFrame ≠ none → s.dirty = false
  | .returned, s => s.controller.appliedFrame ≠ none → s.dirty = false
  | .edited, _ => True
  | .failing, _ => True
  | .saved, s => s.dirty = false
  | .ready, s => s.dirty = false ∧ s.loadFault = none
  | .poised, s => s.dirty = false ∧ s.loadFault = none

structure Truthful (phase : Phase) (r : Runtime K H) : Prop where
  backed : phase ≠ .failing → Backed r.state.controller.appliedFrame r.trace
  healthy : phase ≠ .failing → r.state.controller.appliedFrame ≠ none → Healthy r.state
  clean : CleanAt phase r.state

theorem State.unknown_of_pending {s : State H} (healthy : s.controller.appliedFrame ≠ none → Healthy s)
    (pending : s.loadFault = some .storage) : s.controller.appliedFrame = none := by
  by_contra known
  have readable := (healthy known).2.1
  rw [pending] at readable
  cases readable

/-- A runtime whose saved intent could not be read knows no output. -/
theorem Truthful.unknown_of_pending {r : Runtime K H} (truthful : Truthful .called r)
    (pending : r.state.loadFault = some .storage) : r.state.controller.appliedFrame = none :=
  State.unknown_of_pending (truthful.healthy nofun) pending

theorem Truthful.move [KvBlobStore K] {operation : Operation} {phase next : Phase}
    {r t : Runtime K H} (move : Move operation (phase, r) (next, t))
    (truthful : Truthful phase r) : Truthful next t := by
  obtain ⟨backed, healthy, clean⟩ := truthful
  cases move with
  | clock _ now tick => exact ⟨backed, healthy, clean⟩
  | leave _ other _ _ => exact ⟨fun _ => backed nofun, fun _ => healthy nofun, clean⟩
  | resume _ tick running due => exact ⟨fun _ => backed nofun, fun _ => healthy nofun, trivial⟩
  | load _ saved tick running pending due found =>
      have unknown := State.unknown_of_pending (healthy nofun) pending
      have shutdown := backed nofun
      rw [unknown] at shutdown
      exact ⟨fun _ => shutdown.cons rfl, fun _ known => absurd rfl known, trivial⟩
  | loadFailed _ fault tick running pending found =>
      have unknown := State.unknown_of_pending (healthy nofun) pending
      exact ⟨fun _ => (backed nofun).cons rfl, fun _ known => absurd unknown known,
        fun known => absurd unknown known⟩
  | plan _ plan writable asks => exact ⟨fun _ => backed nofun, fun _ => healthy nofun, trivial⟩
  | localOff _ hardware ok off readable =>
      exact ⟨fun _ => ⟨ok, rfl⟩, fun _ known => absurd rfl known, trivial⟩
  | deferOff _ hardware ok off pending =>
      exact ⟨fun _ => ⟨ok, rfl⟩, fun _ known => absurd rfl known, fun known => absurd rfl known⟩
  | startup _ startup asked writable stored =>
      exact ⟨fun _ => (backed nofun).cons rfl, fun _ => healthy nofun, fun _ => rfl⟩
  | startupRefused _ startup code asked writable refused =>
      exact ⟨fun _ => (backed nofun).cons rfl, fun _ => healthy nofun, clean⟩
  | verified _ frame hardware check known =>
      exact ⟨fun _ => (backed nofun).cons rfl, fun _ => healthy nofun, clean⟩
  | refuted _ frame hardware check known =>
      exact ⟨fun wrong => absurd rfl wrong, fun wrong => absurd rfl wrong, trivial⟩
  | read _ hardware registers =>
      exact ⟨fun _ => (backed nofun).cons rfl, fun _ => healthy nofun, clean⟩
  | unread _ hardware registers =>
      exact ⟨fun wrong => absurd rfl wrong, fun wrong => absurd rfl wrong, trivial⟩
  | latch _ hardware ok reboot =>
      exact ⟨fun _ => ⟨ok, rfl⟩, fun _ known => absurd rfl known, fun known => absurd rfl known⟩
  | clean _ clean => exact ⟨fun _ => backed nofun, fun _ => healthy nofun, clean⟩
  | store _ dirty stored =>
      exact ⟨fun _ => (backed nofun).cons rfl, fun _ => healthy nofun, rfl⟩
  | storeFailed _ hardware ok code dirty refused =>
      exact ⟨fun _ => ⟨ok, rfl⟩, fun _ known => absurd rfl known, fun known => absurd rfl known⟩
  | proceed _ readable => exact ⟨fun _ => backed nofun, fun _ => healthy nofun, clean, readable⟩
  | repaired _ off =>
      exact ⟨fun _ => backed nofun, fun _ known => ⟨(healthy nofun known).1, rfl, (healthy nofun known).2.2⟩, clean, rfl⟩
  | unstopped _ off =>
      exact ⟨fun wrong => absurd rfl wrong, fun wrong => absurd rfl wrong, trivial⟩
  | known _ known => exact ⟨fun _ => backed nofun, fun _ => healthy nofun, clean⟩
  | ease _ hardware unknown =>
      refine ⟨fun _ => ?_, fun _ known => absurd unknown known, clean⟩
      change Backed r.state.controller.appliedFrame _
      rw [unknown]
      exact ⟨true, rfl⟩
  | unproven _ hardware unknown =>
      exact ⟨fun wrong => absurd rfl wrong, fun wrong => absurd rfl wrong, trivial⟩
  | rest _ tick same =>
      exact ⟨fun _ => backed nofun, fun _ => healthy nofun, fun _ => clean.1⟩
  | check _ hardware tick same =>
      exact ⟨fun _ => (backed nofun).cons rfl, fun _ => healthy nofun, fun _ => clean.1⟩
  | checkFailed _ hardware tick same =>
      exact ⟨fun wrong => absurd rfl wrong, fun wrong => absurd rfl wrong, trivial⟩
  | steady _ same =>
      exact ⟨fun _ => backed nofun, fun _ _ => ⟨rfl, clean.2, rfl⟩, fun _ => clean.1⟩
  | apply _ hardware differs =>
      exact ⟨fun _ => ⟨_, _, rfl⟩, fun _ _ => ⟨rfl, clean.2, rfl⟩, fun _ => clean.1⟩
  | applyFailed _ hardware differs =>
      exact ⟨fun wrong => absurd rfl wrong, fun wrong => absurd rfl wrong, trivial⟩
  | giveUp _ hardware ok =>
      exact ⟨fun _ => ⟨ok, rfl⟩, fun _ known => absurd rfl known, fun known => absurd rfl known⟩

/-- Only a tick of a runtime that is not up leaves without a look at the output. -/
theorem Runtime.known_leaves {operation : Operation} {r : Runtime K H}
    (truthful : Truthful .called r)
    (idle : operation.IsTick → ¬(r.Writable ∧ r.state.retryAt ≤ r.now))
    (known : r.state.controller.appliedFrame ≠ none) : ¬operation.IsTick := by
  obtain ⟨faultless, readable, prompt⟩ := truthful.healthy nofun known
  intro tick
  refine idle tick ⟨⟨?_, readable⟩, ?_⟩
  · rw [faultless]
    decide
  · rw [prompt]
    exact Nat.zero_le _

theorem Truthful.load [KvBlobStore K] [Hardware H] (kv : K) (hardware : H) :
    Truthful .called (Runtime.load kv hardware) :=
  ⟨fun _ => ⟨_, rfl⟩, fun _ known => absurd rfl known, fun known => absurd rfl known⟩

/-! ### Runs -/

theorem Truthful.again {r : Runtime K H} (truthful : Truthful .returned r) : Truthful .called r :=
  ⟨fun _ => truthful.backed nofun, fun _ => truthful.healthy nofun, truthful.clean⟩

/-- Acknowledgement is truthful between the operations of every run. -/
theorem Runtime.Reachable.truthful [KvBlobStore K] [Hardware H] {r : Runtime K H}
    (reachable : r.Reachable) : Truthful .called r :=
  reachable.phases Truthful Truthful.load Truthful.move fun _ => Truthful.again

/-- In every run, the acknowledged frame is the last thing done to the output, an
unknown output was last sent a shutdown, a fault excludes an acknowledged frame,
and a target is reported exactly while a frame is acknowledged. -/
theorem Runtime.run_acknowledgement [KvBlobStore K] [Hardware H] (kv : K) (hardware : H)
    (operations : List Operation) :
    let r := run (load kv hardware) operations
    (∀ frame, r.state.controller.appliedFrame = some frame →
      ∃ stored held, lastMutation r.trace = some (.applyFrame stored held frame true)) ∧
    (r.state.controller.appliedFrame = none → ∃ ok, lastMutation r.trace = some (.shutdown ok)) ∧
    (r.state.fault ≠ .none → r.state.controller.appliedFrame = none) ∧
    ((∃ target, r.reported = .ok target) ↔ r.state.controller.appliedFrame ≠ none) := by
  intro r
  have truthful : Truthful .called r := ((Reachable.load kv hardware).run operations).truthful
  have backed := truthful.backed nofun
  have healthy := truthful.healthy nofun
  refine ⟨fun frame known => ?_, fun unknown => ?_, fun faulty => ?_, ?_⟩
  · rw [known] at backed
    exact backed
  · rw [unknown] at backed
    exact backed
  · by_contra known
    exact faulty (healthy known).1
  · constructor
    · rintro ⟨target, reported⟩
      exact (reported_eq_ok.mp reported).2.1
    · intro known
      exact ⟨r.state.target, reported_eq_ok.mpr ⟨(healthy known).1, known, rfl⟩⟩

/-- A lamp that was switched on acknowledges the frame that it applied last. -/
theorem Runtime.run_acknowledgement_powered :
    let r := run (bench none) [.tick 0, .setPower true]
    ∃ stored held, lastMutation r.trace =
      some (.applyFrame stored held (r.state.controller.appliedFrame.get (by decide +kernel)) true) :=
  (run_acknowledgement _ _ [.tick 0, .setPower true]).1 _ (by decide +kernel)

end KeyRight.App
