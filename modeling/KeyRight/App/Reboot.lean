import KeyRight.App.Acknowledgement

/-!
Owns the reboot latch: what keeps a runtime that prepared a reboot dark and
refusing, and exactly which later operations break it.

Does not own the reset itself.
-/

namespace KeyRight.App

open KeyRight.Core KeyRight.Support

variable {K H : Type} [KvBlobStore K] [Hardware H]

/-- The commands of Matter and the console that change the target or the start-up
settings. -/
def Operation.IsCommand : Operation → Prop
  | .tick _ => False
  | .off => False
  | .verify => False
  | .registers => False
  | .prepareReboot => False
  | .watchdogTestReady => False
  | _ => True

namespace Runtime

open Program

/-- The operation keeps the latch: the runtime stays rebooting, applies nothing,
refuses a command without any effect, and leaves the store alone unless it is a
local Off. -/
structure LatchHeld (r : Runtime K H) (operation : Operation) : Prop where
  latched : (r.after operation).state.fault = .rebooting
  dark : ∀ event ∈ r.events operation, event.applies = false
  refused : operation.IsCommand →
    (∃ code, r.outcome operation = .error code) ∧ r.after operation = r
  unwritten : operation ≠ .off → (r.after operation).kv = r.kv

/-- A local Off comes only while the saved intent cannot be read, and a register
read succeeds. -/
def LatchKept (r : Runtime K H) : Operation → Prop
  | .off => r.state.loadFault = some .storage
  | .registers => (Hardware.registers r.state.hardware).1.isOk = true
  | _ => True

/-! ### Operations that keep the latch -/

/-- A call that returns an error and has no effect. -/
def Refuses {α : Type} (call : Call K H α) (r : Runtime K H) : Prop :=
  ∃ code, call.start r = (.error code, r)

omit [KvBlobStore K] [Hardware H] in
theorem Refuses.fail (code : ErrorCode) {α : Type} (r : Runtime K H) :
    Refuses (Program.fail code : Call K H α) r := ⟨code, rfl⟩

omit [KvBlobStore K] [Hardware H] in
theorem Refuses.bind {α β : Type} {first : Call K H α} {r : Runtime K H} (refuses : Refuses first r)
    (next : α → Call K H β) : Refuses (first >>= next) r := by
  obtain ⟨code, refused⟩ := refuses
  refine ⟨code, ?_⟩
  change ExceptT.bindCont next (first.start r).1 (first.start r).2 = _
  rw [refused]
  rfl

omit [KvBlobStore K] [Hardware H] in
theorem Refuses.read {α β : Type} {view : Runtime K H → α} {next : α → Call K H β}
    {r : Runtime K H} (refuses : Refuses (next (view r)) r) :
    Refuses (Program.read view >>= next) r := refuses

omit [KvBlobStore K] [Hardware H] in
theorem writable_refuses {r : Runtime K H} (latched : r.state.fault = .rebooting) :
    Refuses writable r := by
  refine ⟨.busy, ?_⟩
  have busy : Ends writable r fun result t => (result, t) = (.error .busy, r) := by
    simp only [writable, ends_bind, ends_read]
    rw [if_pos latched]
    rfl
  exact busy

theorem planned_refuses {r : Runtime K H} (latched : r.state.fault = .rebooting)
    (planner : State H → Nat → Except ErrorCode (Option Plan)) : Refuses (planned planner) r :=
  (writable_refuses latched).bind _

omit [Hardware H] in
theorem saveStartup_refuses {r : Runtime K H} (latched : r.state.fault = .rebooting)
    (startup : Startup) : Refuses (saveStartup startup) r :=
  (writable_refuses latched).bind _

theorem recallScene_refuses {r : Runtime K H} (latched : r.state.fault = .rebooting)
    (target : LightState) (durationMs : Nat) : Refuses (recallScene target durationMs) r := by
  unfold recallScene
  split
  · exact .fail _ r
  · exact planned_refuses latched _

theorem levelTransition_refuses {r : Runtime K H} (latched : r.state.fault = .rebooting)
    (level : UInt8) (withOnOff : Bool) (durationMs : Nat) (curve : Curve) :
    Refuses (levelTransition level withOnOff durationMs curve) r := by
  unfold levelTransition
  split
  · exact planned_refuses latched _
  · exact .fail _ r

theorem temperatureTransition_refuses {r : Runtime K H} (latched : r.state.fault = .rebooting)
    (temperature : ColorTemperature) (durationMs : Nat) (curve : Curve) :
    Refuses (temperatureTransition temperature durationMs curve) r := by
  unfold temperatureTransition
  split
  · exact .fail _ r
  · exact planned_refuses latched _

omit [Hardware H] in
theorem setStartup_refuses {r : Runtime K H} (latched : r.state.fault = .rebooting)
    (value : Option StartUpOnOff) : Refuses (setStartup value) r := by
  refine Refuses.read ?_
  rcases value with _ | policy
  · exact saveStartup_refuses latched _
  · cases policy with
    | off => exact saveStartup_refuses latched _
    | on => exact .fail _ r
    | toggle => exact .fail _ r

omit [Hardware H] in
theorem setStartupLevel_refuses {r : Runtime K H} (latched : r.state.fault = .rebooting)
    (value : Option UInt8) : Refuses (setStartupLevel value) r := by
  refine Refuses.read ?_
  split
  · exact saveStartup_refuses latched _
  · exact .fail _ r

omit [Hardware H] in
theorem setStartupTemperature_refuses {r : Runtime K H} (latched : r.state.fault = .rebooting)
    (value : Option ColorTemperature) : Refuses (setStartupTemperature value) r := by
  refine Refuses.read ?_
  exact saveStartup_refuses latched _

theorem command_refuses {r : Runtime K H} (latched : r.state.fault = .rebooting)
    {operation : Operation} (command : operation.IsCommand) : Refuses (perform operation) r := by
  cases operation with
  | request target => exact (recallScene_refuses latched target 0).bind _
  | recallScene target durationMs => exact (recallScene_refuses latched target durationMs).bind _
  | setPower on => exact (planned_refuses latched _).bind _
  | setLevel level withOnOff => exact (levelTransition_refuses latched _ _ _ _).bind _
  | setLevelTransition level withOnOff durationMs =>
      exact (levelTransition_refuses latched _ _ _ _).bind _
  | setLevelRate level withOnOff durationMs => exact (levelTransition_refuses latched _ _ _ _).bind _
  | setTemperature temperature =>
      rw [perform, setTemperature, setTemperatureTransition]
      exact (temperatureTransition_refuses latched _ _ _).bind _
  | setTemperatureTransition temperature durationMs =>
      rw [perform, setTemperatureTransition]
      exact (temperatureTransition_refuses latched _ _ _).bind _
  | setTemperatureRate temperature durationMs =>
      rw [perform, setTemperatureRate]
      exact (temperatureTransition_refuses latched _ _ _).bind _
  | offWithEffect effect => exact (planned_refuses latched _).bind _
  | stopLevelTransition => exact (planned_refuses latched _).bind _
  | stopTemperatureTransition => exact (planned_refuses latched _).bind _
  | setStartup value => exact (setStartup_refuses latched value).bind _
  | setStartupLevel value => exact (setStartupLevel_refuses latched value).bind _
  | setStartupTemperature value => exact (setStartupTemperature_refuses latched value).bind _
  | _ => exact command.elim

/-- What an operation needs to keep the latch, on the state and the trace it leaves. -/
def StaysLatched (r t : Runtime K H) : Prop :=
  t.state.fault = .rebooting ∧ t.kv = r.kv ∧
    ∃ added, t.trace = added ++ r.trace ∧ ∀ event ∈ added, event.applies = false

omit [KvBlobStore K] [Hardware H] in
theorem StaysLatched.refl {r : Runtime K H} (latched : r.state.fault = .rebooting) :
    StaysLatched r r := ⟨latched, rfl, [], rfl, by simp⟩

theorem LatchHeld.of_stays {r : Runtime K H} {operation : Operation}
    (stays : StaysLatched r (r.after operation))
    (refused : operation.IsCommand →
      (∃ code, r.outcome operation = .error code) ∧ r.after operation = r) :
    r.LatchHeld operation := by
  obtain ⟨latched, unwritten, added, logged, dark⟩ := stays
  have fresh : r.events operation = added := events_eq logged
  exact ⟨latched, fresh ▸ dark, refused, fun _ => unwritten⟩

theorem tick_stays {r : Runtime K H} (latched : r.state.fault = .rebooting) (now : Nat) :
    Ends (tick now) r fun _ t => StaysLatched r t := by
  simp only [tick, ends_bind, ends_update, ends_read, latched, true_or, if_true, ends_pure]
  exact ⟨latched, rfl, [], rfl, by simp⟩

theorem off_stays {r : Runtime K H} (latched : r.state.fault = .rebooting)
    (pending : r.state.loadFault = some .storage) :
    Ends off r fun _ t => StaysLatched r t := by
  simp only [off, ends_bind, ends_read]
  refine ends_shutdown fun hardware ok => ?_
  simp only [edit, ends_bind, ends_update, ends_ite]
  have stays : StaysLatched r ((r.touched hardware (.shutdown ok)).onState
      fun s => s.localOff.deferOff ok) :=
    ⟨latched, rfl, [.shutdown ok], rfl, by simp [Event.applies]⟩
  exact ⟨fun _ => ⟨fun _ => stays, fun _ => stays⟩, fun wrong => absurd pending wrong⟩

omit [KvBlobStore K] in
theorem verify_stays {r : Runtime K H} (latched : r.state.fault = .rebooting)
    (unknown : r.state.controller.appliedFrame = none) :
    Ends verify r fun _ t => StaysLatched r t := by
  simp only [verify, ends_bind, ends_read, unknown, ends_fail]
  exact .refl latched

omit [KvBlobStore K] in
theorem watchdogTestReady_stays {r : Runtime K H} (latched : r.state.fault = .rebooting) :
    Ends watchdogTestReady r fun _ t => StaysLatched r t := by
  simp only [watchdogTestReady, ends_bind, ends_read]
  rw [if_pos (.inr (.inl (by simp [latched])))]
  exact .refl latched

omit [KvBlobStore K] in
theorem registers_stays {r : Runtime K H} (latched : r.state.fault = .rebooting)
    (readable : (Hardware.registers r.state.hardware).1.isOk = true) :
    Ends registers r fun _ t => StaysLatched r t := by
  simp only [registers, readRegisters, ends_bind, ends_read, ends_primitive]
  cases answer : (Hardware.registers r.state.hardware).1 with
  | ok data =>
      exact ⟨latched, rfl, [.registers true], rfl, by simp [Event.applies]⟩
  | error code =>
      rw [answer] at readable
      cases readable

omit [KvBlobStore K] in
theorem prepareReboot_stays {r : Runtime K H} :
    Ends prepareReboot r fun _ t => StaysLatched r t := by
  simp only [prepareReboot, ends_bind]
  refine ends_shutdown fun hardware ok => ?_
  exact ⟨rfl, rfl, [.shutdown ok], rfl, by simp [Event.applies]⟩

/-! ### Operations that break the latch -/

omit [KvBlobStore K] in
theorem fail_unlatches {r : Runtime K H} {now : Nat} (code : ErrorCode) :
    Ends (do outputFailed now; Program.fail code : Call K H Unit) r
      fun _ t => t.state.fault ≠ .rebooting := by
  rw [ends_bind]
  exact ends_outputFailed fun _ _ => Fault.noConfusion

omit [KvBlobStore K] in
theorem drive_unlatches {r : Runtime K H} {now : Nat} :
    Ends (drive now) r fun _ t => t.state.fault ≠ .rebooting := by
  apply ends_drive
  · intro same
    exact Fault.noConfusion
  · intro differs hardware
    exact Fault.noConfusion
  · intro differs hardware left ok
    exact Fault.noConfusion

omit [KvBlobStore K] in
theorem reconcile_unlatches {r : Runtime K H} {now : Nat} :
    Ends (reconcile now) r fun _ t => t.state.fault ≠ .rebooting := by
  apply ends_reconcile
  · intro known
    exact drive_unlatches
  · intro unknown hardware
    exact drive_unlatches
  · intro unknown hardware left ok
    exact Fault.noConfusion

/-- A local Off with a readable intent ends in another fault or in none. -/
theorem off_unlatches {r : Runtime K H} (readable : r.state.loadFault ≠ some .storage) :
    Ends off r fun _ t => t.state.fault ≠ .rebooting := by
  simp only [off, ends_bind, ends_read]
  refine ends_shutdown fun hardware ok => ?_
  simp only [edit, ends_bind, ends_update, ends_ite]
  refine ⟨fun pending => absurd pending readable, fun _ => ?_⟩
  have unlatched : ∀ t : Runtime K H,
      Ends (if ok then reconcile r.now else do outputFailed r.now; Program.fail .failure)
        (t.onState State.clearLoadFault) fun _ t => t.state.fault ≠ .rebooting := by
    intro t
    cases ok with
    | true => exact reconcile_unlatches
    | false => exact fail_unlatches .failure
  simp only [ends_ite] at unlatched
  apply ends_saveIntent
  · intro clean
    exact unlatched _
  · intro dirty stored
    exact unlatched _
  · intro dirty code refused hardware ok
    exact Fault.noConfusion

omit [KvBlobStore K] in
theorem registers_unlatches {r : Runtime K H}
    (unreadable : ¬(Hardware.registers r.state.hardware).1.isOk = true) :
    Ends registers r fun _ t => t.state.fault ≠ .rebooting := by
  simp only [registers, readRegisters, ends_bind, ends_read, ends_primitive]
  cases answer : (Hardware.registers r.state.hardware).1 with
  | ok data =>
      rw [answer] at unreadable
      exact absurd rfl unreadable
  | error code => exact fail_unlatches .failure

/-! ### The exact condition -/

theorem command_held {r : Runtime K H} (latched : r.state.fault = .rebooting)
    {operation : Operation} (command : operation.IsCommand) : r.LatchHeld operation := by
  obtain ⟨code, refused⟩ := command_refuses latched command
  have same : r.after operation = r := congrArg Prod.snd refused
  refine .of_stays ?_ fun _ => ⟨⟨code, congrArg Prod.fst refused⟩, same⟩
  rw [same]
  exact .refl latched

theorem latchHeld_iff {r : Runtime K H} (latched : r.state.fault = .rebooting)
    (unknown : r.state.controller.appliedFrame = none) (operation : Operation) :
    r.LatchHeld operation ↔ r.LatchKept operation := by
  cases operation with
  | tick now =>
      exact ⟨fun _ => trivial,
        fun _ => .of_stays (ends_done (tick_stays latched now)) fun command => command.elim⟩
  | off =>
      constructor
      · intro held
        by_contra readable
        have unlatched : Ends (done off) r fun _ t => t.state.fault ≠ .rebooting :=
          ends_done (off_unlatches readable)
        exact unlatched held.latched
      · intro pending
        exact .of_stays (ends_done (off_stays latched pending)) fun command => command.elim
  | registers =>
      constructor
      · intro held
        by_contra unreadable
        have unlatched : Ends (perform .registers) r fun _ t => t.state.fault ≠ .rebooting := by
          simp only [perform, ends_bind]
          refine (registers_unlatches unreadable).mono fun result t broken => ?_
          cases result with
          | ok data => exact broken
          | error code => exact broken
        exact unlatched held.latched
      · intro readable
        refine .of_stays ?_ fun command => command.elim
        change Ends (perform .registers) r fun _ t => StaysLatched r t
        simp only [perform, ends_bind]
        refine (registers_stays latched readable).mono fun result t stays => ?_
        cases result with
        | ok data => exact stays
        | error code => exact stays
  | verify =>
      exact ⟨fun _ => trivial,
        fun _ => .of_stays (ends_done (verify_stays latched unknown)) fun command => command.elim⟩
  | watchdogTestReady =>
      exact ⟨fun _ => trivial,
        fun _ => .of_stays (ends_done (watchdogTestReady_stays latched)) fun command => command.elim⟩
  | prepareReboot =>
      refine ⟨fun _ => trivial, fun _ => .of_stays ?_ fun command => command.elim⟩
      change Ends (perform .prepareReboot) r fun _ t => StaysLatched r t
      simp only [perform, ends_bind]
      refine prepareReboot_stays.mono fun result t stays => ?_
      cases result with
      | ok stopped => exact stays
      | error code => exact stays
  | _ => exact ⟨fun _ => trivial, fun _ => command_held latched trivial⟩

/-- After a prepared reboot, a run keeps the latch at every step exactly when each
local Off comes while the saved intent cannot be read and each register read
succeeds. -/
theorem reboot_latch_iff {r : Runtime K H} (reachable : r.Reachable)
    (operations : List Operation) :
    Along after LatchHeld (r.after .prepareReboot) operations ↔
      Along after LatchKept (r.after .prepareReboot) operations := by
  have general : ∀ t : Runtime K H, t.Reachable → t.state.fault = .rebooting →
      (Along after LatchHeld t operations ↔ Along after LatchKept t operations) := by
    induction operations with
    | nil => exact fun _ _ _ => Iff.rfl
    | cons operation rest inductionHypothesis =>
        intro t reached latched
        have unknown : t.state.controller.appliedFrame = none := by
          by_contra known
          have faultless := (reached.truthful.healthy nofun known).1
          rw [latched] at faultless
          cases faultless
        have step := latchHeld_iff latched unknown operation
        constructor
        · rintro ⟨held, later⟩
          exact ⟨step.mp held, (inductionHypothesis _ (reached.after operation) held.latched).mp later⟩
        · rintro ⟨kept, later⟩
          have held := step.mpr kept
          exact ⟨held, (inductionHypothesis _ (reached.after operation) held.latched).mpr later⟩
  exact general _ (reachable.after .prepareReboot) rfl

/-- A bench image that prepared a reboot keeps its latch through a tick and a
refused command. -/
theorem reboot_latch_iff_bench :
    Along after LatchHeld ((bench none).after .prepareReboot) [.tick 20, .setPower true] :=
  (reboot_latch_iff (.load _ _) [.tick 20, .setPower true]).mpr ⟨trivial, trivial, trivial⟩

/-- A local Off after a prepared reboot clears the latch, and the lamp can be
switched on again before the reset. -/
theorem reboot_latch_broken :
    ¬ ∀ (r : Runtime MemoryStore SimulatedOutput) (operations : List Operation), r.Reachable →
      Along after LatchHeld (r.after .prepareReboot) operations := by
  intro always
  have held := (always (bench none) [.off, .setPower true] (.load _ _)).1
  have cleared : (((bench none).after .prepareReboot).after .off).state.fault = .none := by
    decide +kernel
  have latched := held.latched
  rw [cleared] at latched
  cases latched

end Runtime

end KeyRight.App
