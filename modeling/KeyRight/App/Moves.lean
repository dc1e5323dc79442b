import KeyRight.App.Operation
import Mathlib.Logic.Relation

/-!
Owns the abstract step relation of the light runtime: what a call does between
two outside calls, and in which order. A phase says how far a call has come: it has
been called, has edited the target, has saved it, is ready to drive the output, is
poised at a known output, is failing and owes a shutdown, or has returned.

Adapter results are arbitrary in this relation, store results are the store's own.
Every operation is a chain of moves from its call to its return, so a property that moves
preserve holds of every run.

Does not own any invariant.
-/

namespace KeyRight.App

open KeyRight.Core KeyRight.Support

inductive Phase where
  | called
  | edited
  | saved
  | ready
  | poised
  | failing
  | returned
deriving DecidableEq

/-- The call is an application. -/
def Event.applies {K H : Type} : Event K H → Bool
  | .applyFrame _ _ _ _ => true
  | _ => false

namespace Runtime

variable {K H : Type}

/-- The controller after an application that differs from the acknowledged frame. -/
def shown (r : Runtime K H) (frame : OutputFrame) (hardware : H) (ok : Bool) : Runtime K H :=
  { r with
    state :=
      { r.state with
        controller :=
          { r.state.controller with appliedFrame := if ok then some frame else none }
        hardware := hardware }
    trace := .applyFrame r.kv r.state frame ok :: r.trace }

@[simp] theorem shown_state (r : Runtime K H) (frame : OutputFrame) (hardware : H) (ok : Bool) :
    (r.shown frame hardware ok).state =
      { r.state with
        controller := { r.state.controller with appliedFrame := if ok then some frame else none }
        hardware := hardware } := rfl

@[simp] theorem shown_kv (r : Runtime K H) (frame : OutputFrame) (hardware : H) (ok : Bool) :
    (r.shown frame hardware ok).kv = r.kv := rfl

@[simp] theorem shown_now (r : Runtime K H) (frame : OutputFrame) (hardware : H) (ok : Bool) :
    (r.shown frame hardware ok).now = r.now := rfl

@[simp] theorem shown_trace (r : Runtime K H) (frame : OutputFrame) (hardware : H) (ok : Bool) :
    (r.shown frame hardware ok).trace = .applyFrame r.kv r.state frame ok :: r.trace := rfl

def Writable (r : Runtime K H) : Prop := r.state.fault ≠ .rebooting ∧ r.state.loadFault = none

end Runtime

/-! ### Plans as data -/

abbrev Planner (H : Type) : Type := State H → Nat → Except ErrorCode (Option Plan)

theorem level_ne_of_valid {level : UInt8} {durationMs : Nat}
    (valid : level ≠ 255 ∧ durationMs ≤ MAX_TRANSITION_MS) : level ≠ 255 := valid.1

/-- What a command plans, where its arguments are accepted. -/
def Operation.plan (H : Type) : Operation → Option (Planner H)
  | .request target => some (Runtime.always (State.recallScenePlan target 0))
  | .recallScene target durationMs =>
      if MAX_TRANSITION_MS < durationMs then none
      else some (Runtime.always (State.recallScenePlan target durationMs))
  | .setPower on => some (Runtime.always (State.setPowerPlan on))
  | .setLevel level withOnOff => levelPlan (UInt8.ofNat level.get) withOnOff (State.duration 0) .smooth
  | .setLevelTransition level withOnOff durationMs =>
      levelPlan level withOnOff (State.duration durationMs) .smooth
  | .setLevelRate level withOnOff durationMs => levelPlan level withOnOff durationMs .linear
  | .setTemperature temperature => temperaturePlan temperature (State.duration 0) .smooth
  | .setTemperatureTransition temperature durationMs =>
      temperaturePlan temperature (State.duration durationMs) .smooth
  | .setTemperatureRate temperature durationMs => temperaturePlan temperature durationMs .linear
  | .offWithEffect effect => some (Runtime.always (State.offWithEffectPlan effect))
  | .stopLevelTransition => some State.stopLevelPlan
  | .stopTemperatureTransition => some State.stopTemperaturePlan
  | _ => none
where
  levelPlan (level : UInt8) (withOnOff : Bool) (durationMs : Nat) (curve : Curve) :
      Option (Planner H) :=
    if valid : level ≠ 255 ∧ durationMs ≤ MAX_TRANSITION_MS then
      some (Runtime.always (State.levelTransitionPlan level (level_ne_of_valid valid) withOnOff durationMs curve))
    else none
  temperaturePlan (temperature : ColorTemperature) (durationMs : Nat) (curve : Curve) :
      Option (Planner H) :=
    if MAX_TRANSITION_MS < durationMs then none
    else some (Runtime.always (State.temperatureTransitionPlan temperature durationMs curve))

/-- The command, in this state, changes tracks and target as the plan says. -/
def Operation.Asks {K H : Type} (operation : Operation) (r : Runtime K H) (plan : Plan) : Prop :=
  ∃ planner, operation.plan H = some planner ∧ planner r.state r.now = .ok (some plan)

/-- The On/Off coupling of a level command. -/
def Operation.withOnOff : Operation → Option Bool
  | .setLevel _ withOnOff => some withOnOff
  | .setLevelTransition _ withOnOff _ => some withOnOff
  | .setLevelRate _ withOnOff _ => some withOnOff
  | _ => none

/-- The plans that commands can ask for, by the kind of the command. -/
inductive Asked {H : Type} (s : State H) (now : Nat) (operation : Operation) : Plan → Prop where
  | scene (target : LightState) (durationMs : Nat)
      (is : operation = .request target ∨ operation = .recallScene target durationMs) :
      Asked s now operation (State.recallScenePlan target durationMs s now)
  | power (on : Bool) (is : operation = .setPower on) :
      Asked s now operation (State.setPowerPlan on s now)
  | effect (effect : OffEffect) (is : operation = .offWithEffect effect) :
      Asked s now operation (State.offWithEffectPlan effect s now)
  | level (level : UInt8) (valid : level ≠ 255) (withOnOff : Bool) (durationMs : Nat)
      (curve : Curve) (is : operation.withOnOff = some withOnOff) :
      Asked s now operation (State.levelTransitionPlan level valid withOnOff durationMs curve s now)
  | temperature (temperature : ColorTemperature) (durationMs : Nat) (curve : Curve) :
      Asked s now operation (State.temperatureTransitionPlan temperature durationMs curve s now)
  | stopLevel (plan : Plan) (is : operation = .stopLevelTransition)
      (stops : State.stopLevelPlan s now = .ok (some plan)) : Asked s now operation plan
  | stopTemperature (plan : Plan) (is : operation = .stopTemperatureTransition)
      (stops : State.stopTemperaturePlan s now = .ok (some plan)) : Asked s now operation plan

section

variable {K H : Type} {operation : Operation} {r : Runtime K H} {planner : Planner H} {plan : Plan}

theorem Operation.plan.of_levelPlan {level : UInt8} {withOnOff : Bool} {durationMs : Nat} {curve : Curve}
    (planning : Operation.plan.levelPlan H level withOnOff durationMs curve = some planner) :
    ∃ valid : level ≠ 255 ∧ durationMs ≤ MAX_TRANSITION_MS, planner =
      Runtime.always (State.levelTransitionPlan level valid.1 withOnOff durationMs curve) := by
  unfold Operation.plan.levelPlan at planning
  by_cases valid : level ≠ 255 ∧ durationMs ≤ MAX_TRANSITION_MS
  · rw [dif_pos valid] at planning
    cases planning
    exact ⟨valid, rfl⟩
  · rw [dif_neg valid] at planning
    cases planning

theorem Operation.plan.of_temperaturePlan {temperature : ColorTemperature} {durationMs : Nat}
    {curve : Curve}
    (planning : Operation.plan.temperaturePlan H temperature durationMs curve = some planner) :
    durationMs ≤ MAX_TRANSITION_MS ∧
      planner = Runtime.always (State.temperatureTransitionPlan temperature durationMs curve) := by
  unfold Operation.plan.temperaturePlan at planning
  by_cases long : MAX_TRANSITION_MS < durationMs
  · rw [if_pos long] at planning
    cases planning
  · rw [if_neg long] at planning
    cases planning
    exact ⟨Nat.not_lt.mp long, rfl⟩

theorem Operation.plan.of_recallScene {target : LightState} {durationMs : Nat}
    (planning : (Operation.recallScene target durationMs).plan H = some planner) :
    durationMs ≤ MAX_TRANSITION_MS ∧
      planner = Runtime.always (State.recallScenePlan target durationMs) := by
  by_cases long : MAX_TRANSITION_MS < durationMs
  · rw [Operation.plan, if_pos long] at planning
    cases planning
  · rw [Operation.plan, if_neg long] at planning
    cases planning
    exact ⟨Nat.not_lt.mp long, rfl⟩

theorem Asked.of_levelPlan {level : UInt8} {withOnOff : Bool} {durationMs : Nat} {curve : Curve}
    (is : operation.withOnOff = some withOnOff)
    (planning : Operation.plan.levelPlan H level withOnOff durationMs curve = some planner)
    (answer : planner r.state r.now = .ok (some plan)) : Asked r.state r.now operation plan := by
  obtain ⟨valid, rfl⟩ := Operation.plan.of_levelPlan planning
  cases answer
  exact .level level valid.1 withOnOff durationMs curve is

theorem Asked.of_temperaturePlan {temperature : ColorTemperature} {durationMs : Nat}
    {curve : Curve}
    (planning : Operation.plan.temperaturePlan H temperature durationMs curve = some planner)
    (answer : planner r.state r.now = .ok (some plan)) : Asked r.state r.now operation plan := by
  obtain ⟨_, rfl⟩ := Operation.plan.of_temperaturePlan planning
  cases answer
  exact .temperature temperature durationMs curve

/-- Every plan of a command has one of these kinds. -/
theorem Operation.Asks.asked (asks : operation.Asks r plan) :
    Asked r.state r.now operation plan := by
  obtain ⟨planner, planning, answer⟩ := asks
  cases operation with
  | request target =>
      cases planning
      cases answer
      exact .scene target 0 (.inl rfl)
  | recallScene target durationMs =>
      obtain ⟨_, rfl⟩ := Operation.plan.of_recallScene planning
      cases answer
      exact .scene target durationMs (.inr rfl)
  | setPower on =>
      cases planning
      cases answer
      exact .power on rfl
  | setLevel level withOnOff => exact .of_levelPlan rfl planning answer
  | setLevelTransition level withOnOff durationMs => exact .of_levelPlan rfl planning answer
  | setLevelRate level withOnOff durationMs => exact .of_levelPlan rfl planning answer
  | setTemperature temperature => exact .of_temperaturePlan planning answer
  | setTemperatureTransition temperature durationMs => exact .of_temperaturePlan planning answer
  | setTemperatureRate temperature durationMs => exact .of_temperaturePlan planning answer
  | offWithEffect effect =>
      cases planning
      cases answer
      exact .effect effect rfl
  | stopLevelTransition =>
      cases planning
      exact .stopLevel plan rfl answer
  | stopTemperatureTransition =>
      cases planning
      exact .stopTemperature plan rfl answer
  | _ => cases planning

end

def Operation.IsStartup : Operation → Prop
  | .setStartup _ => True
  | .setStartupLevel _ => True
  | .setStartupTemperature _ => True
  | _ => False

def Operation.IsCheck : Operation → Prop
  | .verify => True
  | .watchdogTestReady => True
  | _ => False

def Operation.IsTick : Operation → Prop
  | .tick _ => True
  | _ => False

theorem Operation.IsStartup.ne_off {operation : Operation} (asked : operation.IsStartup) :
    operation ≠ .off := by
  rintro rfl
  exact asked

theorem Operation.IsCheck.ne_off {operation : Operation} (check : operation.IsCheck) :
    operation ≠ .off := by
  rintro rfl
  exact check

theorem Operation.IsTick.ne_off {operation : Operation} (tick : operation.IsTick) :
    operation ≠ .off := by
  rintro rfl
  exact tick

theorem Operation.IsTick.ne_registers {operation : Operation} (tick : operation.IsTick) :
    operation ≠ .registers := by
  rintro rfl
  exact tick

theorem Operation.IsTick.ne_prepareReboot {operation : Operation} (tick : operation.IsTick) :
    operation ≠ .prepareReboot := by
  rintro rfl
  exact tick

theorem Operation.ne_off_of_plan {H : Type} {operation : Operation} {planner : Planner H}
    (planning : operation.plan H = some planner) : operation ≠ .off := by
  rintro rfl
  cases planning

theorem Operation.not_tick_of_plan {H : Type} {operation : Operation} {planner : Planner H}
    (planning : operation.plan H = some planner) : ¬operation.IsTick := by
  intro tick
  cases operation with
  | tick now => cases planning
  | _ => exact tick

theorem Operation.Asks.not_tick {K H : Type} {operation : Operation} {r : Runtime K H} {plan : Plan}
    (asks : operation.Asks r plan) : ¬operation.IsTick := by
  obtain ⟨planner, planning, _⟩ := asks
  exact not_tick_of_plan planning

theorem Operation.not_asks_of_plan {K H : Type} {operation : Operation}
    (planless : operation.plan H = none) (r : Runtime K H) (plan : Plan) :
    operation.Asks r plan → ¬r.Writable := by
  rintro ⟨planner, planning, _⟩
  rw [planless] at planning
  cases planning

theorem Operation.IsStartup.plan {operation : Operation} (asked : operation.IsStartup) (H : Type) :
    operation.plan H = none := by
  cases operation with
  | setStartup value => rfl
  | setStartupLevel value => rfl
  | setStartupTemperature value => rfl
  | _ => exact asked.elim

theorem Operation.IsCheck.plan {operation : Operation} (check : operation.IsCheck) (H : Type) :
    operation.plan H = none := by
  cases operation with
  | verify => rfl
  | watchdogTestReady => rfl
  | _ => exact check.elim

theorem Operation.IsTick.plan {operation : Operation} (tick : operation.IsTick) (H : Type) :
    operation.plan H = none := by
  cases operation with
  | tick now => rfl
  | _ => exact tick.elim

theorem Operation.IsStartup.not_tick {operation : Operation} (asked : operation.IsStartup) :
    ¬operation.IsTick := by
  intro tick
  cases operation with
  | tick now => exact asked
  | _ => exact tick

theorem Operation.IsCheck.not_tick {operation : Operation} (check : operation.IsCheck) :
    ¬operation.IsTick := by
  intro tick
  cases operation with
  | tick now => exact check
  | _ => exact tick

/-! ### Moves -/

section

variable {K H : Type} [KvBlobStore K]

open KeyRight.App.Runtime

inductive Move (operation : Operation) : Phase × Runtime K H → Phase × Runtime K H → Prop where
  | clock (r : Runtime K H) (now : Nat) (tick : operation = .tick now) :
      Move operation (.called, r) (.called, { r with now := now })
  | leave (r : Runtime K H) (other : operation ≠ .off)
      (idle : operation.IsTick → ¬(r.Writable ∧ r.state.retryAt ≤ r.now))
      (unplanned : ∀ plan, operation.Asks r plan → ¬r.Writable) :
      Move operation (.called, r) (.returned, r)
  | resume (r : Runtime K H) (tick : operation.IsTick) (running : r.Writable)
      (due : r.state.retryAt ≤ r.now) :
      Move operation (.called, r) (.edited, r)
  | load (r : Runtime K H) (saved : SavedState) (tick : operation.IsTick)
      (running : r.state.fault ≠ .rebooting) (pending : r.state.loadFault = some .storage)
      (due : r.state.retryAt ≤ r.now)
      (found : savedState (KvBlobStore.load r.kv (INTENT_KEY K)).1 = .ok saved) :
      Move operation (.called, r)
        (.edited, (r.accessed (KvBlobStore.load r.kv (INTENT_KEY K)).2
          (.load (KvBlobStore.load r.kv (INTENT_KEY K)).1)).onState fun s => s.loaded saved)
  | loadFailed (r : Runtime K H) (fault : Fault) (tick : operation.IsTick)
      (running : r.state.fault ≠ .rebooting) (pending : r.state.loadFault = some .storage)
      (found : savedState (KvBlobStore.load r.kv (INTENT_KEY K)).1 = .error fault) :
      Move operation (.called, r)
        (.returned, (r.accessed (KvBlobStore.load r.kv (INTENT_KEY K)).2
          (.load (KvBlobStore.load r.kv (INTENT_KEY K)).1)).onState fun s => s.loadFailed fault r.now)
  | plan (r : Runtime K H) (plan : Plan) (writable : r.Writable) (asks : operation.Asks r plan) :
      Move operation (.called, r)
        (.edited, r.onState fun s => (s.setTracks plan).setTarget plan.target)
  | localOff (r : Runtime K H) (hardware : H) (ok : Bool) (off : operation = .off)
      (readable : r.state.loadFault ≠ some .storage) :
      Move operation (.called, r)
        (.edited, (r.touched hardware (.shutdown ok)).onState fun s => s.localOff.repairRecord)
  | deferOff (r : Runtime K H) (hardware : H) (ok : Bool) (off : operation = .off)
      (pending : r.state.loadFault = some .storage) :
      Move operation (.called, r)
        (.returned, (r.touched hardware (.shutdown ok)).onState fun s => s.localOff.deferOff ok)
  | startup (r : Runtime K H) (startup : Startup) (asked : operation.IsStartup)
      (writable : r.Writable)
      (stored : (KvBlobStore.store r.kv (INTENT_KEY K)
        (encodeRecord r.state.target startup)).1 = .ok ()) :
      Move operation (.called, r)
        (.returned, (r.accessed (KvBlobStore.store r.kv (INTENT_KEY K)
            (encodeRecord r.state.target startup)).2
          (.store (encodeRecord r.state.target startup) true)).onState fun s => s.setStartup startup)
  | startupRefused (r : Runtime K H) (startup : Startup) (code : ErrorCode)
      (asked : operation.IsStartup) (writable : r.Writable)
      (refused : (KvBlobStore.store r.kv (INTENT_KEY K)
        (encodeRecord r.state.target startup)).1 = .error code) :
      Move operation (.called, r)
        (.returned, (r.accessed (KvBlobStore.store r.kv (INTENT_KEY K)
            (encodeRecord r.state.target startup)).2
          (.store (encodeRecord r.state.target startup) false)).onState
            fun s => { s with storageFailures := saturatingSucc s.storageFailures })
  | verified (r : Runtime K H) (frame : OutputFrame) (hardware : H) (check : operation.IsCheck)
      (known : r.state.controller.appliedFrame = some frame) :
      Move operation (.called, r) (.returned, r.touched hardware (.verifyFrame frame true))
  | refuted (r : Runtime K H) (frame : OutputFrame) (hardware : H) (check : operation.IsCheck)
      (known : r.state.controller.appliedFrame = some frame) :
      Move operation (.called, r) (.failing, r.touched hardware (.verifyFrame frame false))
  | read (r : Runtime K H) (hardware : H) (registers : operation = .registers) :
      Move operation (.called, r) (.returned, r.touched hardware (.registers true))
  | unread (r : Runtime K H) (hardware : H) (registers : operation = .registers) :
      Move operation (.called, r) (.failing, r.touched hardware (.registers false))
  | latch (r : Runtime K H) (hardware : H) (ok : Bool) (reboot : operation = .prepareReboot) :
      Move operation (.called, r)
        (.returned, (r.touched hardware (.shutdown ok)).onState State.latch)
  | clean (r : Runtime K H) (clean : r.state.dirty = false) :
      Move operation (.edited, r) (.saved, r)
  | store (r : Runtime K H) (dirty : r.state.dirty = true)
      (stored : (KvBlobStore.store r.kv (INTENT_KEY K)
        (encodeRecord r.state.target r.state.startup)).1 = .ok ()) :
      Move operation (.edited, r)
        (.saved, (r.accessed (KvBlobStore.store r.kv (INTENT_KEY K)
            (encodeRecord r.state.target r.state.startup)).2
          (.store (encodeRecord r.state.target r.state.startup) true)).onState State.saved)
  | storeFailed (r : Runtime K H) (hardware : H) (ok : Bool) (code : ErrorCode)
      (dirty : r.state.dirty = true)
      (refused : (KvBlobStore.store r.kv (INTENT_KEY K)
        (encodeRecord r.state.target r.state.startup)).1 = .error code) :
      Move operation (.edited, r)
        (.returned, ((((r.accessed (KvBlobStore.store r.kv (INTENT_KEY K)
            (encodeRecord r.state.target r.state.startup)).2
          (.store (encodeRecord r.state.target r.state.startup) false)).onState
            State.storeFailed).touched hardware (.shutdown ok)).onState
              fun s => s.saveFailed ok r.now))
  | proceed (r : Runtime K H) (readable : r.state.loadFault = none) :
      Move operation (.saved, r) (.ready, r)
  | repaired (r : Runtime K H) (off : operation = .off) :
      Move operation (.saved, r) (.ready, r.onState State.clearLoadFault)
  | unstopped (r : Runtime K H) (off : operation = .off) :
      Move operation (.ready, r) (.failing, r)
  | known (r : Runtime K H) (known : r.state.controller.appliedFrame ≠ none) :
      Move operation (.ready, r) (.poised, r)
  | ease (r : Runtime K H) (hardware : H) (unknown : r.state.controller.appliedFrame = none) :
      Move operation (.ready, r)
        (.poised, (r.touched hardware (.shutdown true)).onState fun s => s.easeFromZero r.now)
  | unproven (r : Runtime K H) (hardware : H) (unknown : r.state.controller.appliedFrame = none) :
      Move operation (.ready, r) (.failing, r.touched hardware (.shutdown false))
  | rest (r : Runtime K H) (tick : operation.IsTick)
      (same : r.state.controller.appliedFrame = some (r.state.effective r.now)) :
      Move operation (.ready, r) (.returned, r.onState fun s => s.expire r.now)
  | check (r : Runtime K H) (hardware : H) (tick : operation.IsTick)
      (same : r.state.controller.appliedFrame = some (r.state.effective r.now)) :
      Move operation (.ready, r)
        (.returned, (r.onState fun s => { s.expire r.now with nextVerify := r.now + 5000 }).touched
          hardware (.verifyFrame (r.state.effective r.now) true))
  | checkFailed (r : Runtime K H) (hardware : H) (tick : operation.IsTick)
      (same : r.state.controller.appliedFrame = some (r.state.effective r.now)) :
      Move operation (.ready, r)
        (.failing, (r.onState fun s => { s.expire r.now with nextVerify := r.now + 5000 }).touched
          hardware (.verifyFrame (r.state.effective r.now) false))
  | steady (r : Runtime K H)
      (same : r.state.controller.appliedFrame = some (r.state.effective r.now)) :
      Move operation (.poised, r)
        (.returned, r.onState fun s =>
          (s.intend (s.effective r.now)).settled r.now r.state.controller.appliedFrame)
  | apply (r : Runtime K H) (hardware : H)
      (differs : r.state.controller.appliedFrame ≠ some (r.state.effective r.now)) :
      Move operation (.poised, r)
        (.returned, ((r.onState fun s => s.intend (s.effective r.now)).shown (r.state.effective r.now)
          hardware true).onState fun s => s.settled r.now r.state.controller.appliedFrame)
  | applyFailed (r : Runtime K H) (hardware : H)
      (differs : r.state.controller.appliedFrame ≠ some (r.state.effective r.now)) :
      Move operation (.poised, r)
        (.failing, (r.onState fun s => s.intend (s.effective r.now)).shown
          (r.state.effective r.now) hardware false)
  | giveUp (r : Runtime K H) (hardware : H) (ok : Bool) :
      Move operation (.failing, r)
        (.returned, (r.touched hardware (.shutdown ok)).onState fun s => s.outputFailed r.now)

/-- Some moves of an operation, one after the other. -/
abbrev Moves (operation : Operation) : Phase × Runtime K H → Phase × Runtime K H → Prop :=
  Relation.ReflTransGen (Move operation)

end

/-! ### Operations are chains of moves -/

section

variable {K H : Type}

/-- A property of all logged applications survives a call that is none. -/
theorem applied_cons {holds : State H → OutputFrame → List (Event K H) → Prop}
    {event : Event K H} {trace : List (Event K H)} (other : event.applies = false)
    (logged : ∀ stored held frame ok older,
      (Event.applyFrame stored held frame ok :: older) <:+ trace → holds held frame older) :
    ∀ stored held frame ok older,
      (Event.applyFrame stored held frame ok :: older) <:+ event :: trace →
        holds held frame older := by
  intro stored held frame ok older suffix
  rcases List.suffix_cons_iff.mp suffix with same | earlier
  · rw [← (List.cons.inj same).1] at other
    cases other
  · exact logged stored held frame ok older earlier

/-- A command that is refused before any work. -/
theorem Moves.refused [KvBlobStore K] {operation : Operation} {r : Runtime K H}
    (other : operation ≠ .off) (untimed : ¬operation.IsTick) (planless : operation.plan H = none) :
    Moves operation (.called, r) (.returned, r) :=
  .single (.leave r other (fun tick => absurd tick untimed) (Operation.not_asks_of_plan planless r))

/-- What every move preserves, a chain of moves preserves. -/
theorem Moves.preserve [KvBlobStore K] {operation : Operation}
    (holds : Phase → Runtime K H → Prop)
    (preserved : ∀ {phase next : Phase} {r t : Runtime K H},
      Move operation (phase, r) (next, t) → holds phase r → holds next t)
    {phase next : Phase} {r t : Runtime K H} (moves : Moves operation (phase, r) (next, t))
    (initially : holds phase r) : holds next t := by
  have general : ∀ last, Moves operation (phase, r) last → holds last.1 last.2 := by
    intro last moves
    induction moves with
    | refl => exact initially
    | tail _ move inductionHypothesis => exact preserved move inductionHypothesis
  exact general (next, t) moves

end

namespace Runtime

open Program

section

variable {K H : Type} [Hardware H]

theorem ends_shutdown {r : Runtime K H} {post : Except ErrorCode Bool → Runtime K H → Prop}
    (every : ∀ hardware ok, post (.ok ok) (r.touched hardware (.shutdown ok))) :
    Ends shutdown r post := every _ _

theorem ends_verifyFrame {r : Runtime K H} {frame : OutputFrame}
    {post : Except ErrorCode Bool → Runtime K H → Prop}
    (every : ∀ hardware ok, post (.ok ok) (r.touched hardware (.verifyFrame frame ok))) :
    Ends (verifyFrame frame) r post := every _ _

theorem ends_readRegisters {r : Runtime K H}
    {post : Except ErrorCode (Except OutputError (Vector UInt8 24)) → Runtime K H → Prop}
    (every : ∀ hardware result,
      post (.ok result) (r.touched hardware (.registers result.isOk))) :
    Ends readRegisters r post := every _ _

/-- An equal frame makes no outside call; another one is shown or forgotten. -/
theorem ends_reconcileFrame {r : Runtime K H} {frame : OutputFrame}
    {post : Except ErrorCode Bool → Runtime K H → Prop}
    (same : r.state.controller.appliedFrame = some frame → post (.ok true) r)
    (differs : r.state.controller.appliedFrame ≠ some frame →
      ∀ hardware ok, post (.ok ok) (r.shown frame hardware ok)) :
    Ends (reconcileFrame frame) r post := by
  by_cases equal : r.state.controller.appliedFrame = some frame
  · have ends := same equal
    simp only [reconcileFrame, ends_primitive, Controller.reconcileFrame, if_pos equal]
    exact ends
  · have ends := differs equal
    simp only [reconcileFrame, ends_primitive, Controller.reconcileFrame, if_neg equal]
    rcases LightOutput.applyFrame r.state.hardware frame with ⟨_ | _, hardware⟩
    · exact ends hardware false
    · exact ends hardware true

theorem ends_outputFailed {r : Runtime K H} {now : Nat}
    {post : Except ErrorCode Unit → Runtime K H → Prop}
    (every : ∀ hardware ok, post (.ok ())
      ((r.touched hardware (.shutdown ok)).onState fun s => s.outputFailed now)) :
    Ends (outputFailed now) r post := by
  simp only [outputFailed, ends_bind]
  exact ends_shutdown every

/-- The frame called for is acknowledged already, or applied, or the output ends unknown. -/
theorem ends_drive {r : Runtime K H} {now : Nat} {post : Except ErrorCode Unit → Runtime K H → Prop}
    (steady : r.state.controller.appliedFrame = some (r.state.effective now) →
      post (.ok ()) (r.onState fun s =>
        (s.intend (s.effective now)).settled now r.state.controller.appliedFrame))
    (applied : r.state.controller.appliedFrame ≠ some (r.state.effective now) → ∀ hardware,
      post (.ok ()) (((r.onState fun s => s.intend (s.effective now)).shown (r.state.effective now)
        hardware true).onState fun s => s.settled now r.state.controller.appliedFrame))
    (failed : r.state.controller.appliedFrame ≠ some (r.state.effective now) →
      ∀ hardware left ok, post (.error .failure)
        ((((r.onState fun s => s.intend (s.effective now)).shown (r.state.effective now)
          hardware false).touched left (.shutdown ok)).onState fun s => s.outputFailed now)) :
    Ends (drive now) r post := by
  simp only [drive, ends_bind, ends_read, edit, ends_update]
  refine ends_reconcileFrame steady fun differs hardware ok => ?_
  cases ok with
  | true => exact applied differs hardware
  | false =>
      simp only [Bool.false_eq_true, if_false, ends_bind]
      exact ends_outputFailed (failed differs hardware)

/-- An unknown output first proves zero. -/
theorem ends_reconcile {r : Runtime K H} {now : Nat}
    {post : Except ErrorCode Unit → Runtime K H → Prop}
    (known : r.state.controller.appliedFrame ≠ none → Ends (drive now) r post)
    (eased : r.state.controller.appliedFrame = none → ∀ hardware, Ends (drive now)
      ((r.touched hardware (.shutdown true)).onState fun s => s.easeFromZero now) post)
    (unproven : r.state.controller.appliedFrame = none → ∀ hardware left ok, post (.error .failure)
      (((r.touched hardware (.shutdown false)).touched left (.shutdown ok)).onState
        fun s => s.outputFailed now)) :
    Ends (reconcile now) r post := by
  simp only [reconcile, ends_bind, ends_read]
  cases acknowledged : r.state.controller.appliedFrame with
  | some frame => exact known (by simp [acknowledged])
  | none =>
      simp only [Option.isNone_none, if_true, ends_bind]
      refine ends_shutdown fun hardware ok => ?_
      cases ok with
      | true =>
          simp only [if_true, edit, ends_bind, ends_update]
          exact eased acknowledged hardware
      | false =>
          simp only [Bool.false_eq_true, if_false, ends_bind]
          exact ends_outputFailed (unproven acknowledged hardware)

/-- A frame that is called for already is checked when that is due. -/
theorem ends_rest {r : Runtime K H} {now : Nat} {frame : OutputFrame}
    {post : Except ErrorCode Unit → Runtime K H → Prop}
    (early : now < r.state.nextVerify → post (.ok ()) (r.onState fun s => s.expire now))
    (checked : ∀ hardware, post (.ok ())
      ((r.onState fun s => { s.expire now with nextVerify := now + 5000 }).touched hardware
        (.verifyFrame frame true)))
    (refuted : ∀ hardware left ok, post (.ok ())
      ((((r.onState fun s => { s.expire now with nextVerify := now + 5000 }).touched hardware
        (.verifyFrame frame false)).touched left (.shutdown ok)).onState
          fun s => s.outputFailed now)) :
    Ends (rest now frame) r post := by
  simp only [rest, edit, ends_bind, ends_update, ends_read, ends_ite, ends_pure]
  refine ⟨fun _ => ends_verifyFrame fun hardware ok => ?_, fun waits => early (Nat.lt_of_not_le waits)⟩
  cases ok with
  | true => exact ⟨fun _ => checked hardware, fun wrong => absurd rfl wrong⟩
  | false => exact ⟨fun wrong => Bool.noConfusion wrong, fun _ => ends_outputFailed (refuted hardware)⟩

end

section

variable {K H : Type}

/-- A failed `writable` changes nothing. -/
theorem ends_writable {r : Runtime K H} {post : Except ErrorCode Unit → Runtime K H → Prop}
    (accepted : r.Writable → post (.ok ()) r)
    (refused : ¬r.Writable → ∀ code, post (.error code) r) :
    Ends writable r post := by
  simp only [writable, ends_bind, ends_read, ends_ite, ends_fail, ends_pure]
  refine ⟨fun rebooting => refused (fun writable => writable.1 rebooting) _, fun running =>
    ⟨fun faulty => refused (fun writable => ?_) _, fun readable => accepted ⟨running, ?_⟩⟩⟩
  · rw [writable.2] at faulty
    cases faulty
  · simpa using readable

theorem ends_storeRecord [KvBlobStore K] {r : Runtime K H} {data : List UInt8}
    {post : Except ErrorCode (Except ErrorCode Unit) → Runtime K H → Prop}
    (stored : (KvBlobStore.store r.kv (INTENT_KEY K) data).1 = .ok () →
      post (.ok (.ok ()))
        (r.accessed (KvBlobStore.store r.kv (INTENT_KEY K) data).2 (.store data true)))
    (refused : ∀ code, (KvBlobStore.store r.kv (INTENT_KEY K) data).1 = .error code →
      post (.ok (.error code))
        (r.accessed (KvBlobStore.store r.kv (INTENT_KEY K) data).2 (.store data false))) :
    Ends (storeRecord data) r post := by
  simp only [storeRecord, ends_primitive]
  cases result : (KvBlobStore.store r.kv (INTENT_KEY K) data).1 with
  | ok value => exact stored result
  | error code => exact refused code result

/-- A pending intent is stored, or the output is shut down. -/
theorem ends_saveIntent [KvBlobStore K] [Hardware H] {r : Runtime K H}
    {post : Except ErrorCode Unit → Runtime K H → Prop}
    (clean : r.state.dirty = false → post (.ok ()) r)
    (stored : r.state.dirty = true →
      (KvBlobStore.store r.kv (INTENT_KEY K) (encodeRecord r.state.target r.state.startup)).1 = .ok () →
        post (.ok ()) ((r.accessed (KvBlobStore.store r.kv (INTENT_KEY K)
            (encodeRecord r.state.target r.state.startup)).2
          (.store (encodeRecord r.state.target r.state.startup) true)).onState State.saved))
    (refused : r.state.dirty = true → ∀ code,
      (KvBlobStore.store r.kv (INTENT_KEY K)
        (encodeRecord r.state.target r.state.startup)).1 = .error code →
          ∀ hardware ok, post (.error code) ((((r.accessed (KvBlobStore.store r.kv (INTENT_KEY K)
              (encodeRecord r.state.target r.state.startup)).2
            (.store (encodeRecord r.state.target r.state.startup) false)).onState
              State.storeFailed).touched hardware (.shutdown ok)).onState
                fun s => s.saveFailed ok r.now)) :
    Ends saveIntent r post := by
  simp only [saveIntent, ends_bind, ends_read]
  cases dirty : r.state.dirty with
  | false => exact clean dirty
  | true =>
      simp only [if_true, ends_bind]
      apply ends_storeRecord
      · intro accepted
        exact stored dirty accepted
      · intro code rejected
        simp only [ends_bind, edit, ends_update]
        exact ends_shutdown (refused dirty code rejected)

end

/-! ### Chains -/

variable {K H : Type} [KvBlobStore K] [Hardware H]
variable {operation : Operation} {start : Phase × Runtime K H}

theorem fail_moves {r : Runtime K H} {now : Nat} (current : r.now = now)
    (sofar : Moves operation start (.failing, r)) (code : ErrorCode) {α : Type} :
    Ends (do outputFailed now; Program.fail code : Call K H α) r
      fun _ t => Moves operation start (.returned, t) := by
  subst current
  rw [ends_bind]
  exact ends_outputFailed fun hardware ok => sofar.tail (.giveUp r hardware ok)

theorem drive_moves {r : Runtime K H} {now : Nat} (current : r.now = now)
    (sofar : Moves operation start (.poised, r)) :
    Ends (drive now) r fun _ t => Moves operation start (.returned, t) := by
  subst current
  apply ends_drive
  · intro same
    exact sofar.tail (.steady r same)
  · intro differs hardware
    exact sofar.tail (.apply r hardware differs)
  · intro differs hardware left ok
    exact (sofar.tail (.applyFailed r hardware differs)).tail (.giveUp _ left ok)

theorem reconcile_moves {r : Runtime K H} {now : Nat} (current : r.now = now)
    (sofar : Moves operation start (.ready, r)) :
    Ends (reconcile now) r fun _ t => Moves operation start (.returned, t) := by
  subst current
  apply ends_reconcile
  · intro known
    exact drive_moves rfl (sofar.tail (.known r known))
  · intro unknown hardware
    exact drive_moves rfl (sofar.tail (.ease r hardware unknown))
  · intro unknown hardware left ok
    exact (sofar.tail (.unproven r hardware unknown)).tail (.giveUp _ left ok)

/-- A save goes on from `saved` and leaves the clock and the load fault alone. -/
theorem saveIntent_moves {r : Runtime K H} (sofar : Moves operation start (.edited, r)) :
    Ends saveIntent r fun result t =>
      match result with
      | .ok () => Moves operation start (.saved, t) ∧ t.now = r.now ∧
          t.state.loadFault = r.state.loadFault
      | .error _ => Moves operation start (.returned, t) := by
  apply ends_saveIntent
  · intro clean
    exact ⟨sofar.tail (.clean r clean), rfl, rfl⟩
  · intro dirty stored
    exact ⟨sofar.tail (.store r dirty stored), rfl, rfl⟩
  · intro dirty code refused hardware ok
    exact sofar.tail (.storeFailed r hardware ok code dirty refused)

theorem planned_moves {r : Runtime K H}
    {planner : Planner H} (planning : operation.plan H = some planner) :
    Ends (planned planner) r fun _ t => Moves operation (.called, r) (.returned, t) := by
  have leaves : (∀ plan, operation.Asks r plan → ¬r.Writable) →
      Moves operation (.called, r) (.returned, r) := fun unplanned =>
    .single (.leave r (Operation.ne_off_of_plan planning)
      (fun tick => absurd tick (Operation.not_tick_of_plan planning)) unplanned)
  have unanswered : (∀ plan, planner r.state r.now ≠ .ok (some plan)) →
      ∀ plan, operation.Asks r plan → ¬r.Writable := by
    rintro other plan ⟨asked, planningAsked, answer⟩
    rw [planning] at planningAsked
    cases planningAsked
    exact absurd answer (other plan)
  simp only [planned, ends_bind, ends_read]
  apply ends_writable
  · intro writable
    cases answer : planner r.state r.now with
    | error code => exact leaves (unanswered (by simp [answer]))
    | ok answered =>
        cases answered with
        | none => exact leaves (unanswered (by simp [answer]))
        | some plan =>
            simp only [commit, ends_bind, ends_read, edit, ends_update]
            have asks : operation.Asks r plan := ⟨planner, planning, answer⟩
            refine (saveIntent_moves (.single (.plan r plan writable asks))).mono ?_
            intro result t saved
            cases result with
            | error code => exact saved
            | ok _ =>
                obtain ⟨moves, now, readable⟩ := saved
                exact reconcile_moves now
                  (moves.tail (.proceed t (readable.trans writable.2)))
  · intro unwritable code
    exact leaves fun _ _ => unwritable

omit [Hardware H] in
theorem saveStartup_moves {r : Runtime K H} {startup : Startup} (asked : operation.IsStartup) :
    Ends (saveStartup startup) r fun _ t => Moves operation (.called, r) (.returned, t) := by
  have leaves : Moves operation (.called, r) (.returned, r) :=
    .refused asked.ne_off asked.not_tick (asked.plan H)
  simp only [saveStartup, ends_bind, ends_read]
  apply ends_writable
  · intro writable
    simp only [ends_ite, ends_pure, ends_bind]
    refine ⟨fun _ => leaves, fun _ => ends_storeRecord ?_ ?_⟩
    · intro stored
      exact .single (.startup r startup asked writable stored)
    · intro code refused
      exact .single (.startupRefused r startup code asked writable refused)
  · intro _ code
    exact leaves

theorem verify_moves {r : Runtime K H} (check : operation.IsCheck) :
    Ends verify r fun _ t => Moves operation (.called, r) (.returned, t) := by
  have leaves : Moves operation (.called, r) (.returned, r) :=
    .refused check.ne_off check.not_tick (check.plan H)
  simp only [verify, ends_bind, ends_read]
  cases known : r.state.controller.appliedFrame with
  | none => exact leaves
  | some frame =>
      simp only [ends_bind]
      refine ends_verifyFrame fun hardware ok => ?_
      cases ok with
      | true => exact .single (.verified r frame hardware check known)
      | false => exact fail_moves rfl (.single (.refuted r frame hardware check known)) .failure

theorem registers_moves {r : Runtime K H} :
    Ends registers r fun _ t => Moves .registers (.called, r) (.returned, t) := by
  simp only [registers, ends_bind, ends_read]
  refine ends_readRegisters fun hardware result => ?_
  cases result with
  | ok data => exact .single (.read r hardware rfl)
  | error code => exact fail_moves rfl (.single (.unread r hardware rfl)) .failure

theorem off_moves {r : Runtime K H} :
    Ends off r fun _ t => Moves .off (.called, r) (.returned, t) := by
  simp only [off, ends_bind, ends_read]
  refine ends_shutdown fun hardware ok => ?_
  simp only [edit, ends_bind, ends_update, ends_ite]
  refine ⟨fun pending => ?_, fun readable => ?_⟩
  · have deferred : Moves .off (.called, r) (.returned, _) := .single (.deferOff r hardware ok rfl pending)
    exact ⟨fun _ => deferred, fun _ => deferred⟩
  · refine (saveIntent_moves (.single (.localOff r hardware ok rfl readable))).mono ?_
    intro result t saved
    cases result with
    | error code => exact saved
    | ok _ =>
        obtain ⟨moves, now, _⟩ := saved
        have repaired := moves.tail (.repaired t rfl)
        have failing := repaired.tail (.unstopped (t.onState State.clearLoadFault) rfl)
        refine ⟨fun _ => ?_, fun _ => ?_⟩
        · exact reconcile_moves (show (t.onState State.clearLoadFault).now = r.now from now) repaired
        · exact fail_moves (show (t.onState State.clearLoadFault).now = r.now from now) failing
            .failure

theorem rest_moves {r : Runtime K H} {now : Nat} {applied : OutputFrame} (current : r.now = now)
    (tick : operation.IsTick) (same : r.state.controller.appliedFrame = some applied)
    (shows : applied = r.state.effective now) (sofar : Moves operation start (.ready, r)) :
    Ends (rest now applied) r fun _ t => Moves operation start (.returned, t) := by
  subst current shows
  apply ends_rest
  · intro early
    exact sofar.tail (.rest r tick same)
  · intro hardware
    exact sofar.tail (.check r hardware tick same)
  · intro hardware left ok
    exact (sofar.tail (.checkFailed r hardware tick same)).tail (.giveUp _ left ok)

theorem tickOutput_moves {r : Runtime K H} {now : Nat} (current : r.now = now)
    (tick : operation.IsTick) (sofar : Moves operation start (.ready, r)) :
    Ends (tickOutput now) r fun _ t => Moves operation start (.returned, t) := by
  simp only [tickOutput, ends_bind, ends_read]
  by_cases same : r.state.controller.appliedFrame = some (r.state.effective now)
  · rw [dif_pos same]
    exact rest_moves current tick (by simp) (by simp [same]) sofar
  · rw [dif_neg same]
    simp only [ends_bind, ends_attempt]
    exact (reconcile_moves current sofar).mono fun _ _ moves => moves

theorem tickLoaded_moves {r : Runtime K H} {now : Nat} (current : r.now = now)
    (tick : operation.IsTick)
    (sofar : r.state.loadFault = none → Moves operation start (.edited, r))
    (resting : r.state.loadFault ≠ none → Moves operation start (.called, r)) :
    Ends (tickLoaded now) r fun _ t => Moves operation start (.returned, t) := by
  simp only [tickLoaded, ends_bind, ends_read]
  cases readable : r.state.loadFault with
  | some fault =>
      have unwritable : ¬(r.Writable ∧ r.state.retryAt ≤ r.now) := by
        rintro ⟨writable, _⟩
        rw [writable.2] at readable
        cases readable
      exact (resting (by simp [readable])).tail (.leave r tick.ne_off (fun _ => unwritable)
        (Operation.not_asks_of_plan (tick.plan H) r))
  | none =>
      simp only [Option.isSome_none, Bool.false_eq_true, if_false, ends_bind, ends_attempt]
      refine (saveIntent_moves (sofar readable)).mono ?_
      intro result t saved
      cases result with
      | error code => exact saved
      | ok _ =>
          obtain ⟨moves, sameNow, sameFault⟩ := saved
          exact tickOutput_moves (sameNow.trans current) tick
            (moves.tail (.proceed t (sameFault.trans readable)))

theorem tick_moves {r : Runtime K H} {now : Nat} :
    Ends (tick now) r fun _ t => Moves (.tick now) (.called, r) (.returned, t) := by
  have clock : Moves (.tick now) (.called, r) (.called, { r with now := now }) :=
    .single (.clock r now rfl)
  simp only [tick, ends_bind, ends_update, ends_read, ends_ite, ends_pure]
  refine ⟨fun early => ?_, fun due => ⟨fun pending => ?_, fun _ => ?_⟩⟩
  · refine clock.tail (.leave _ (by simp) ?_ (Operation.not_asks_of_plan rfl _))
    rintro _ ⟨⟨running, _⟩, due⟩
    rcases early with rebooting | early
    · exact running rebooting
    · exact absurd early (Nat.not_lt.mpr due)
  · simp only [loadRecord, ends_primitive]
    have running : r.state.fault ≠ .rebooting := fun rebooting => due (.inl rebooting)
    cases found : savedState (KvBlobStore.load r.kv (INTENT_KEY K)).1 with
    | ok saved =>
        have tick : (Operation.tick now).IsTick := trivial
        have ready : r.state.retryAt ≤ now := Nat.not_lt.mp fun early => due (.inr early)
        have loaded :=
          clock.tail (.load { r with now := now } saved tick running pending ready found)
        exact tickLoaded_moves rfl tick (fun _ => loaded) fun faulty => absurd rfl faulty
    | error fault =>
        exact clock.tail (.loadFailed { r with now := now } fault trivial running pending found)
  · refine tickLoaded_moves rfl trivial (fun readable => ?_) fun _ => clock
    have running : r.state.fault ≠ .rebooting := fun rebooting => due (.inl rebooting)
    have due : r.state.retryAt ≤ now := Nat.not_lt.mp fun early => due (.inr early)
    exact clock.tail (.resume { r with now := now } trivial ⟨running, readable⟩ due)

omit [KvBlobStore K] [Hardware H] in
theorem ends_done {call : Call K H Unit} {r : Runtime K H} {holds : Runtime K H → Prop}
    (ends : Ends call r fun _ t => holds t) : Ends (done call) r fun _ t => holds t := by
  simp only [done, ends_bind]
  refine ends.mono fun result t reached => ?_
  cases result with
  | ok _ => exact reached
  | error _ => exact reached

theorem levelTransition_moves {r : Runtime K H} {level : UInt8} {withOnOff : Bool}
    {durationMs : Nat} {curve : Curve} (other : operation ≠ .off)
    (untimed : ¬operation.IsTick)
    (planning : operation.plan H = Operation.plan.levelPlan H level withOnOff durationMs curve) :
    Ends (levelTransition level withOnOff durationMs curve) r
      fun _ t => Moves operation (.called, r) (.returned, t) := by
  unfold Operation.plan.levelPlan at planning
  unfold levelTransition
  by_cases valid : level ≠ 255 ∧ durationMs ≤ MAX_TRANSITION_MS
  · rw [dif_pos valid] at planning ⊢
    exact planned_moves planning
  · rw [dif_neg valid] at planning ⊢
    exact .refused other untimed planning

theorem temperatureTransition_moves {r : Runtime K H} {temperature : ColorTemperature}
    {durationMs : Nat} {curve : Curve} (other : operation ≠ .off)
    (untimed : ¬operation.IsTick)
    (planning : operation.plan H = Operation.plan.temperaturePlan H temperature durationMs curve) :
    Ends (temperatureTransition temperature durationMs curve) r
      fun _ t => Moves operation (.called, r) (.returned, t) := by
  unfold Operation.plan.temperaturePlan at planning
  unfold temperatureTransition
  by_cases long : MAX_TRANSITION_MS < durationMs
  · rw [if_pos long] at planning ⊢
    exact .refused other untimed planning
  · rw [if_neg long] at planning ⊢
    exact planned_moves planning

theorem recallScene_moves {r : Runtime K H} {target : LightState} {durationMs : Nat} :
    Ends (recallScene target durationMs) r
      fun _ t => Moves (.recallScene target durationMs) (.called, r) (.returned, t) := by
  unfold recallScene
  by_cases long : MAX_TRANSITION_MS < durationMs
  · have refused : (Operation.recallScene target durationMs).plan H = none := if_pos long
    rw [if_pos long]
    exact .refused (by simp) id refused
  · rw [if_neg long]
    exact planned_moves (if_neg long)

omit [Hardware H] in
theorem setStartup_moves {r : Runtime K H} {value : Option StartUpOnOff} :
    Ends (setStartup value) r fun _ t => Moves (.setStartup value) (.called, r) (.returned, t) := by
  simp only [setStartup, ends_bind, ends_read]
  rcases value with _ | policy
  · exact saveStartup_moves trivial
  · cases policy with
    | off => exact saveStartup_moves trivial
    | on => exact .refused (by simp) id rfl
    | toggle => exact .refused (by simp) id rfl

omit [Hardware H] in
theorem setStartupLevel_moves {r : Runtime K H} {value : Option UInt8} :
    Ends (setStartupLevel value) r
      fun _ t => Moves (.setStartupLevel value) (.called, r) (.returned, t) := by
  simp only [setStartupLevel, ends_bind, ends_read]
  by_cases valid : value ≠ some 255
  · rw [dif_pos valid]
    exact saveStartup_moves trivial
  · rw [dif_neg valid]
    exact .refused (by simp) id rfl

omit [Hardware H] in
theorem setStartupTemperature_moves {r : Runtime K H} {value : Option ColorTemperature} :
    Ends (setStartupTemperature value) r
      fun _ t => Moves (.setStartupTemperature value) (.called, r) (.returned, t) := by
  simp only [setStartupTemperature, ends_bind, ends_read]
  exact saveStartup_moves trivial

theorem prepareReboot_moves {r : Runtime K H} :
    Ends prepareReboot r fun _ t => Moves .prepareReboot (.called, r) (.returned, t) := by
  simp only [prepareReboot, ends_bind]
  refine ends_shutdown fun hardware ok => ?_
  exact .single (.latch r hardware ok rfl)

theorem watchdogTestReady_moves {r : Runtime K H} :
    Ends watchdogTestReady r fun _ t => Moves .watchdogTestReady (.called, r) (.returned, t) := by
  simp only [watchdogTestReady, ends_bind, ends_read, ends_ite, ends_fail]
  refine ⟨fun _ => ?_, fun _ => verify_moves trivial⟩
  exact .refused (by simp) id rfl

/-- Every operation is a chain of moves from its call to its return. -/
theorem after_moves (r : Runtime K H) (operation : Operation) :
    Moves operation (.called, r) (.returned, r.after operation) := by
  change Ends (perform operation) r fun _ t => Moves operation (.called, r) (.returned, t)
  cases operation with
  | tick now => exact ends_done tick_moves
  | request target =>
      rw [perform, request, recallScene, if_neg (by decide)]
      exact ends_done (planned_moves rfl)
  | recallScene target durationMs => exact ends_done recallScene_moves
  | setPower on => exact ends_done (planned_moves rfl)
  | setLevel level withOnOff =>
      rw [perform, setLevel, setLevelTransition]
      exact ends_done (levelTransition_moves nofun id rfl)
  | setLevelTransition level withOnOff durationMs =>
      rw [perform, setLevelTransition]
      exact ends_done (levelTransition_moves nofun id rfl)
  | setLevelRate level withOnOff durationMs =>
      rw [perform, setLevelRate]
      exact ends_done (levelTransition_moves nofun id rfl)
  | setTemperature temperature =>
      rw [perform, setTemperature, setTemperatureTransition]
      exact ends_done (temperatureTransition_moves nofun id rfl)
  | setTemperatureTransition temperature durationMs =>
      rw [perform, setTemperatureTransition]
      exact ends_done (temperatureTransition_moves nofun id rfl)
  | setTemperatureRate temperature durationMs =>
      rw [perform, setTemperatureRate]
      exact ends_done (temperatureTransition_moves nofun id rfl)
  | offWithEffect effect => exact ends_done (planned_moves rfl)
  | stopLevelTransition => exact ends_done (planned_moves rfl)
  | stopTemperatureTransition => exact ends_done (planned_moves rfl)
  | setStartup value => exact ends_done setStartup_moves
  | setStartupLevel value => exact ends_done setStartupLevel_moves
  | setStartupTemperature value => exact ends_done setStartupTemperature_moves
  | off => exact ends_done off_moves
  | verify => exact ends_done (verify_moves trivial)
  | registers =>
      simp only [perform, ends_bind]
      refine registers_moves.mono fun result t moves => ?_
      cases result with
      | ok data => exact moves
      | error code => exact moves
  | prepareReboot =>
      simp only [perform, ends_bind]
      refine prepareReboot_moves.mono fun result t moves => ?_
      cases result with
      | ok stopped => exact moves
      | error code => exact moves
  | watchdogTestReady => exact ends_done watchdogTestReady_moves

/-- An invariant of phases that boots establish and moves preserve holds before
every operation of every run. -/
theorem Reachable.phases {r : Runtime K H} (reachable : r.Reachable)
    (holds : Phase → Runtime K H → Prop)
    (boot : ∀ kv hardware, holds .called (Runtime.load kv hardware))
    (preserved : ∀ {operation : Operation} {phase next : Phase} {r t : Runtime K H},
      Move operation (phase, r) (next, t) → holds phase r → holds next t)
    (again : ∀ r, holds .returned r → holds .called r) : holds .called r := by
  refine reachable.invariant boot fun r operation before => again _ ?_
  exact (after_moves r operation).preserve holds preserved before

end Runtime

end KeyRight.App
