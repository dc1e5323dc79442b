import KeyRight.App.Boot
import KeyRight.App.Tracks

/-!
Owns what outlives the power: a light is cut off at any moment, in the middle of a call too, and
boots again, any number of times, with storage and output failing as they like. What was
reported comes back, and Off stays Off until somebody asks for On.

Of one life the next one finds the stored intent and nothing else. Does not own what happens
while the power is off.
-/

namespace KeyRight.App

open KeyRight.Core KeyRight.Support

variable {K H : Type}

/-! ### Lives -/

/-- One boot and what was asked of it. The power is cut after the operations, or somewhere in a
last one. -/
structure Life (K H : Type) where
  kv : K
  hardware : H
  operations : List Operation
  last : Option Operation

namespace Life

variable [LawfulKvBlobStore K] [Hardware H]

def boot (life : Life K H) : Runtime K H := Runtime.load life.kv life.hardware

/-- Before the last operation. -/
def before (life : Life K H) : Runtime K H := life.boot.run life.operations

/-- With all that the last operation does. -/
def whole (life : Life K H) : Runtime K H := life.before.run life.last.toList

/-- What the cut may leave in the store: an operation stores at most once. -/
def Leaves (life : Life K H) (bytes : Option (List UInt8)) : Prop :=
  bytes = life.before.record ∨ bytes = life.whole.record

/-- These lives follow each other, the first of them over `bytes`. -/
def Follow : Option (List UInt8) → List (Life K H) → Prop
  | _, [] => True
  | bytes, life :: rest =>
      LawfulKvBlobStore.contents life.kv (INTENT_KEY K) = bytes ∧
        ∃ left, life.Leaves left ∧ Follow left rest

/-- What every life makes of good bytes, if it leaves good bytes, every life of a row does. -/
theorem Follow.all (good : Option (List UInt8) → Prop) (fine : Life K H → Prop)
    {asks : Life K H → Prop}
    (each : ∀ life : Life K H, asks life → good (LawfulKvBlobStore.contents life.kv (INTENT_KEY K)) →
      fine life ∧ ∀ left, life.Leaves left → good left)
    {bytes : Option (List UInt8)} (initially : good bytes) {lives : List (Life K H)}
    (asked : ∀ life ∈ lives, asks life) (follow : Follow bytes lives) :
    ∀ life ∈ lives, fine life := by
  induction lives generalizing bytes with
  | nil => nofun
  | cons life rest inductionHypothesis =>
      obtain ⟨found, left, leaves, next⟩ := follow
      obtain ⟨here, after⟩ := each life (asked life List.mem_cons_self) (found ▸ initially)
      have later := inductionHypothesis (after left leaves)
        (fun other member => asked other (List.mem_cons_of_mem _ member)) next
      exact List.forall_mem_cons.mpr ⟨here, later⟩

/-- What every allowed operation keeps holds before and after the last one. -/
theorem keeps {life : Life K H} {holds : Runtime K H → Prop} {allowed : Operation → Prop}
    (step : ∀ r operation, allowed operation → holds r → holds (r.after operation))
    (initially : holds life.boot)
    (asked : ∀ operation ∈ life.operations ++ life.last.toList, allowed operation) :
    holds life.before ∧ holds life.whole := by
  have run : ∀ {operations : List Operation} {r : Runtime K H}, holds r →
      (∀ operation ∈ operations, allowed operation) → holds (r.run operations) := by
    intro operations r start fine
    have along : Along Runtime.after (fun _ operation => allowed operation) r operations :=
      Along.of_inputs (fun _ operation member => fine operation member) r
    exact along.invariant step start
  have first := run initially fun operation member => asked operation (List.mem_append_left _ member)
  exact ⟨first, run first fun operation member => asked operation (List.mem_append_right _ member)⟩

end Life

/-! ### Stores -/

namespace Runtime

variable [LawfulKvBlobStore K] {r t : Runtime K H}

theorem record_load (loaded : t.kv = (KvBlobStore.load r.kv (INTENT_KEY K)).2) :
    t.record = r.record := by
  rw [record, record, loaded, LawfulKvBlobStore.load_contents]

/-- A load that succeeds finds what is stored. -/
theorem savedState_contents {kv : K} {saved : SavedState}
    (found : savedState (KvBlobStore.load kv (INTENT_KEY K)).1 = .ok saved) :
    savedState (.ok (LawfulKvBlobStore.contents kv (INTENT_KEY K))) = .ok saved := by
  cases answer : (KvBlobStore.load kv (INTENT_KEY K)).1 with
  | error code =>
      rw [answer] at found
      cases found
  | ok bytes =>
      rw [answer, LawfulKvBlobStore.load_ok _ _ _ answer] at found
      exact found

theorem record_store {data : List UInt8}
    (stored : (KvBlobStore.store r.kv (INTENT_KEY K) data).1 = .ok ())
    (kept : t.kv = (KvBlobStore.store r.kv (INTENT_KEY K) data).2) : t.record = some data := by
  rw [record, kept, LawfulKvBlobStore.store_ok _ _ _ stored]

theorem record_refused {data : List UInt8} {code : ErrorCode}
    (refused : (KvBlobStore.store r.kv (INTENT_KEY K) data).1 = .error code)
    (kept : t.kv = (KvBlobStore.store r.kv (INTENT_KEY K) data).2) : t.record = r.record := by
  rw [record, record, kept, LawfulKvBlobStore.store_error _ _ _ code refused]

end Runtime

/-! ### Lives that nobody attends -/

section

variable [LawfulKvBlobStore K] [Hardware H] {intent : LightState} {startup : Startup}

/-- The bytes hold this intent, or what a boot makes of it. -/
def Holds (intent : LightState) (startup : Startup) (bytes : Option (List UInt8)) : Prop :=
  ∃ saved, Runtime.savedState (.ok bytes) = .ok saved ∧
    (saved.intended = intent ∨ saved.intended = startupIntent intent startup) ∧
    saved.startup = startup

/-- A boot over such bytes has not read them yet, or has restored the intent. -/
structure Unforgotten (intent : LightState) (startup : Startup) (r : Runtime K H) : Prop where
  held : Holds intent startup r.record
  undisturbed : r.state.offAfterLoad = false
  restored : r.state.loadFault = none →
    r.state.target = startupIntent intent startup ∧ r.state.startup = startup

omit [LawfulKvBlobStore K] [Hardware H] in
theorem Holds.restores {saved : SavedState}
    (intended : saved.intended = intent ∨ saved.intended = startupIntent intent startup)
    (settings : saved.startup = startup) :
    startupIntent saved.intended saved.startup = startupIntent intent startup := by
  rw [settings]
  rcases intended with same | again
  · rw [same]
  · rw [again, startupIntent_startupIntent]

/-- In the middle of a tick, an edited state has been read. -/
def UnforgottenAt (intent : LightState) (startup : Startup) (phase : Phase) (r : Runtime K H) :
    Prop :=
  Unforgotten intent startup r ∧ (phase = .edited → r.state.loadFault = none)

omit [Hardware H] in
theorem Unforgotten.keep {r t : Runtime K H} (unforgotten : Unforgotten intent startup r)
    (record : t.record = r.record) (fault : t.state.loadFault = none → r.state.loadFault = none)
    (off : t.state.offAfterLoad = r.state.offAfterLoad) (target : t.state.target = r.state.target)
    (settings : t.state.startup = r.state.startup) : Unforgotten intent startup t := by
  obtain ⟨held, undisturbed, restored⟩ := unforgotten
  refine ⟨?_, off.trans undisturbed, fun readable => ?_⟩
  · rw [record]
    exact held
  · rw [target, settings]
    exact restored (fault readable)

omit [Hardware H] in
theorem UnforgottenAt.move {now : Nat} {phase next : Phase} {r t : Runtime K H}
    (move : Move (.tick now) (phase, r) (next, t))
    (unforgotten : UnforgottenAt intent startup phase r) :
    UnforgottenAt intent startup next t := by
  obtain ⟨kept, read⟩ := unforgotten
  cases move with
  | resume _ tick running due => exact ⟨kept, fun _ => running.2⟩
  | load _ saved tick running pending due found =>
      obtain ⟨held, decoded, intended, settings⟩ := kept.held
      have same : saved = held :=
        Except.ok.inj ((Runtime.savedState_contents found).symm.trans decoded)
      subst same
      refine ⟨⟨?_, kept.undisturbed, fun _ => ⟨?_, settings⟩⟩, fun _ => rfl⟩
      · rw [Runtime.record_load rfl]
        exact kept.held
      · simp only [Runtime.onState_state, Runtime.accessed_state, State.loaded, kept.undisturbed,
          Bool.false_eq_true, if_false]
        exact Holds.restores intended settings
  | loadFailed _ fault tick running pending found =>
      refine ⟨⟨?_, kept.undisturbed, fun read => ?_⟩, fun edited => absurd edited (by decide)⟩
      · rw [Runtime.record_load rfl]
        exact kept.held
      · cases read
  | store _ dirty stored =>
      obtain ⟨target, settings⟩ := kept.restored (read rfl)
      refine ⟨⟨?_, kept.undisturbed, kept.restored⟩, fun edited => absurd edited (by decide)⟩
      refine ⟨⟨r.state.target, r.state.startup, false⟩, ?_, .inr target, settings⟩
      rw [Runtime.record_store stored rfl]
      exact decodeRecord_encodeRecord _ _
  | storeFailed _ hardware ok code dirty refused =>
      exact ⟨kept.keep (Runtime.record_refused refused rfl) id rfl rfl rfl,
        fun edited => absurd edited (by decide)⟩
  | plan _ plan writable asks => exact absurd trivial asks.not_tick
  | localOff _ hardware ok off readable => cases off
  | deferOff _ hardware ok off pending => cases off
  | startup _ _ asked writable stored => exact absurd trivial asked.not_tick
  | startupRefused _ _ code asked writable refused => exact absurd trivial asked.not_tick
  | latch _ hardware ok reboot => cases reboot
  | repaired _ off => cases off
  | _ => exact ⟨kept.keep rfl id rfl rfl rfl, fun edited => absurd edited (by decide)⟩

omit [Hardware H] in
theorem Holds.of_stored {kv : K} (stored : Stored kv intent startup) :
    Holds intent startup (LawfulKvBlobStore.contents kv (INTENT_KEY K)) := by
  unfold Stored at stored
  cases found : LawfulKvBlobStore.contents kv (INTENT_KEY K) with
  | none =>
      simp only [found] at stored
      exact ⟨default, rfl, .inl stored.1.symm, stored.2.symm⟩
  | some bytes =>
      simp only [found] at stored
      exact ⟨⟨intent, startup, false⟩, stored, .inl rfl, rfl⟩

/-- A boot over such bytes reads them, or still has to. -/
theorem Unforgotten.boot {life : Life K H}
    (held : Holds intent startup (LawfulKvBlobStore.contents life.kv (INTENT_KEY K))) :
    Unforgotten intent startup life.boot := by
  refine ⟨?_, rfl, fun readable => ?_⟩
  · change Holds intent startup
      (LawfulKvBlobStore.contents (KvBlobStore.load life.kv (INTENT_KEY K)).2 (INTENT_KEY K))
    rw [LawfulKvBlobStore.load_contents]
    exact held
  · obtain ⟨saved, decoded, intended, settings⟩ := held
    have found : Runtime.savedState (KvBlobStore.load life.kv (INTENT_KEY K)).1 = .ok saved := by
      cases answer : (KvBlobStore.load life.kv (INTENT_KEY K)).1 with
      | error code =>
          simp only [Life.boot, Runtime.load, answer, Runtime.savedState] at readable
          cases readable
      | ok bytes =>
          rw [LawfulKvBlobStore.load_ok _ _ _ answer]
          exact decoded
    simp only [Life.boot, Runtime.load, found, Except.toOption, Option.getD_some]
    exact ⟨Holds.restores intended settings, settings⟩

theorem Unforgotten.after {r : Runtime K H} (unforgotten : Unforgotten intent startup r)
    {operation : Operation} (tick : operation.IsTick) :
    Unforgotten intent startup (r.after operation) := by
  cases operation with
  | tick now =>
      exact ((Runtime.after_moves r (.tick now)).preserve (UnforgottenAt intent startup)
        UnforgottenAt.move
        ⟨unforgotten, fun edited => absurd edited (by decide)⟩).1
  | _ => exact tick.elim

/-- A light with nothing to save or to read. -/
structure Kept (bytes : Option (List UInt8)) (r : Runtime K H) : Prop where
  clean : r.state.dirty = false
  readable : r.state.loadFault = none
  held : r.record = bytes

omit [Hardware H] in
/-- Ticks of such a light store nothing. -/
theorem Kept.move {bytes : Option (List UInt8)} {now : Nat} {phase next : Phase} {r t : Runtime K H}
    (move : Move (.tick now) (phase, r) (next, t)) (kept : Kept bytes r) : Kept bytes t := by
  obtain ⟨clean, readable, held⟩ := kept
  cases move with
  | load _ saved tick running pending due found =>
      rw [readable] at pending
      cases pending
  | loadFailed _ fault tick running pending found =>
      rw [readable] at pending
      cases pending
  | store _ dirty stored =>
      rw [clean] at dirty
      cases dirty
  | storeFailed _ hardware ok code dirty refused =>
      rw [clean] at dirty
      cases dirty
  | plan _ plan writable asks => exact absurd trivial asks.not_tick
  | localOff _ hardware ok off readable => cases off
  | deferOff _ hardware ok off pending => cases off
  | startup _ _ asked writable stored => exact absurd trivial asked.not_tick
  | startupRefused _ _ code asked writable refused => exact absurd trivial asked.not_tick
  | latch _ hardware ok reboot => cases reboot
  | repaired _ off => cases off
  | _ => exact ⟨clean, readable, held⟩

theorem Kept.run {bytes : Option (List UInt8)} {r : Runtime K H} (kept : Kept bytes r)
    (times : List Nat) : Kept bytes (r.run (times.map .tick)) := by
  induction times generalizing r with
  | nil => exact kept
  | cons now rest inductionHypothesis =>
      exact inductionHypothesis
        ((Runtime.after_moves r (.tick now)).preserve (fun _ => Kept bytes) Kept.move kept)

theorem Life.reachable (life : Life K H) : life.before.Reachable ∧ life.whole.Reachable := by
  have before : life.before.Reachable := (Runtime.Reachable.load _ _).run life.operations
  exact ⟨before, before.run _⟩

/-- What was reported once comes back after any number of boots that nobody attends, cut off
wherever they are, with storage and output failing as they like: a boot that has read its record
aims at the reported target under its start-up settings, and reports nothing else. -/
theorem Runtime.reported_outlives_power (kv : K) (hardware : H) (operations : List Operation)
    {target : LightState} (reported : (run (load kv hardware) operations).reported = .ok target)
    (times : List Nat) {lives : List (Life K H)} :
    let r := run (load kv hardware) operations
    Life.Follow (r.run (times.map .tick)).record lives →
    (∀ life ∈ lives, ∀ operation ∈ life.operations ++ life.last.toList, operation.IsTick) →
      ∀ life ∈ lives, ∀ t, t = life.before ∨ t = life.whole →
        (t.state.loadFault = none → t.state.target = startupIntent target r.state.startup ∧
          t.state.startup = r.state.startup) ∧
        ∀ shown, t.reported = .ok shown → shown = startupIntent target r.state.startup := by
  intro r follow unattended
  have reachable : r.Reachable := (Reachable.load kv hardware).run operations
  obtain ⟨_, known, rfl⟩ := reported_eq_ok.mp reported
  have written := reachable.durable.written reachable.truthful known
  have kept : Kept r.record (r.run (times.map .tick)) :=
    Kept.run ⟨written.clean, written.readable, rfl⟩ times
  rw [kept.held] at follow
  have every := Life.Follow.all (Holds r.state.target r.state.startup)
    (fun life => Unforgotten r.state.target r.state.startup life.before ∧
      Unforgotten r.state.target r.state.startup life.whole)
    (fun life asked held => by
      have both := Life.keeps (fun _ _ tick kept => kept.after tick) (Unforgotten.boot held) asked
      refine ⟨both, fun left leaves => ?_⟩
      rcases leaves with rfl | rfl
      · exact both.1.held
      · exact both.2.held)
    (Holds.of_stored written.stored) unattended follow
  intro life member t is
  have unforgotten : Unforgotten r.state.target r.state.startup t ∧ t.Reachable := by
    rcases is with rfl | rfl
    · exact ⟨(every life member).1, life.reachable.1⟩
    · exact ⟨(every life member).2, life.reachable.2⟩
  obtain ⟨unforgotten, reaches⟩ := unforgotten
  refine ⟨unforgotten.restored, fun shown reports => ?_⟩
  obtain ⟨_, acknowledged, rfl⟩ := reported_eq_ok.mp reports
  exact (unforgotten.restored (reaches.truthful.healthy nofun acknowledged).2.1).1

/-- A boot that cannot read the record at first still comes back to it. -/
theorem Runtime.reported_outlives_power_flaky :
    let r := run (load (FlakyStore.holding none 0) (default : SimulatedOutput))
      [.tick 0, .setPower true]
    let life : Life FlakyStore SimulatedOutput :=
      ⟨{ r.kv with faults := 1 }, default, [.tick 0], some (.tick 5000)⟩
    life.whole.state.target = startupIntent r.state.target r.state.startup := by
  intro r life
  have follow : Life.Follow (r.run ([].map .tick)).record [life] := ⟨rfl, _, .inl rfl, trivial⟩
  have unattended : ∀ life_ ∈ [life],
      ∀ operation ∈ life_.operations ++ life_.last.toList, operation.IsTick := by
    intro life_ member operation asked
    obtain rfl := List.mem_singleton.mp member
    have ticks : operation = .tick 0 ∨ operation = .tick 5000 := by simpa [life] using asked
    rcases ticks with rfl | rfl <;> trivial
  have back := reported_outlives_power (FlakyStore.holding none 0) (default : SimulatedOutput)
    [.tick 0, .setPower true] rfl [] follow unattended life List.mem_cons_self life.whole
    (.inr rfl)
  exact (back.1 (by decide +kernel)).1

end

/-! ### Lives in which nobody asks for light -/

/-- Operations that leave an Off light Off. -/
def Operation.Dark : Operation → Prop
  | .request target => target.on = false
  | .recallScene target _ => target.on = false
  | .setPower on => on = false
  | .setLevel level withOnOff => withOnOff = true → level.get ≤ Level.MIN.get
  | .setLevelTransition level withOnOff _ => withOnOff = true → level.toNat ≤ Level.MIN.get
  | .setLevelRate level withOnOff _ => withOnOff = true → level.toNat ≤ Level.MIN.get
  | .stopLevelTransition => False
  | _ => True

theorem Operation.Dark.target {operation : Operation} (dark : operation.Dark) {r : Runtime K H}
    {plan : Plan} (asks : operation.Asks r plan) (off : r.state.target.on = false) :
    plan.target.on = false := by
  obtain ⟨planner, planning, answer⟩ := asks
  have levels : ∀ {level withOnOff durationMs curve},
      Operation.plan.levelPlan H level withOnOff durationMs curve = some planner →
        (withOnOff = true → level.toNat ≤ Level.MIN.get) → plan.target.on = false := by
    intro level withOnOff durationMs curve planning low
    obtain ⟨valid, rfl⟩ := Operation.plan.of_levelPlan planning
    cases answer
    rw [State.levelTransitionPlan_target]
    cases withOnOff with
    | false => exact off
    | true => exact decide_eq_false (Nat.not_lt.mpr (low rfl))
  have temperatures : ∀ {temperature durationMs curve},
      Operation.plan.temperaturePlan H temperature durationMs curve = some planner →
        plan.target.on = false := by
    intro temperature durationMs curve planning
    obtain ⟨short, rfl⟩ := Operation.plan.of_temperaturePlan planning
    cases answer
    exact off
  cases operation with
  | request target =>
      cases planning
      cases answer
      rw [State.recallScenePlan_target]
      exact dark
  | recallScene target durationMs =>
      obtain ⟨short, rfl⟩ := Operation.plan.of_recallScene planning
      cases answer
      rw [State.recallScenePlan_target]
      exact dark
  | setPower on =>
      cases planning
      cases answer
      rw [State.setPowerPlan_target]
      exact dark
  | setLevel level withOnOff =>
      refine levels planning fun coupled => ?_
      rw [UInt8.toNat_ofNat_of_lt' (Nat.lt_of_le_of_lt level.le_max (by decide))]
      exact dark coupled
  | setLevelTransition level withOnOff durationMs => exact levels planning dark
  | setLevelRate level withOnOff durationMs => exact levels planning dark
  | setTemperature temperature => exact temperatures planning
  | setTemperatureTransition temperature durationMs => exact temperatures planning
  | setTemperatureRate temperature durationMs => exact temperatures planning
  | offWithEffect effect =>
      cases planning
      cases answer
      rfl
  | stopLevelTransition => exact dark.elim
  | stopTemperatureTransition =>
      cases planning
      obtain ⟨_, _, _, _, rfl⟩ := State.stopTemperaturePlan_cases answer
      exact off
  | _ => cases planning

/-- While the light is out, a plan that leaves it Off starts no fade. -/
theorem Asked.level_none {s : State H} {now : Nat} {operation : Operation} {plan : Plan}
    (asked : Asked s now operation plan) (off : s.target.on = false) (planOff : plan.target.on = false)
    (level : s.levelTransition = none) (dark : s.currentFrame.brightness = OutputBrightness.ZERO) :
    plan.levelTransition = none := by
  cases asked with
  | scene target durationMs is =>
      rw [State.recallScenePlan_target] at planOff
      unfold State.recallScenePlan
      split
      · exact level
      · simp [dark, planOff]
  | power on is =>
      rw [State.setPowerPlan_target] at planOff
      rw [State.setPowerPlan, if_pos (planOff.trans off.symm)]
      exact level
  | effect effect is => simp [State.offWithEffectPlan, dark]
  | level level_ valid withOnOff durationMs curve is =>
      rcases State.levelTransitionPlan_cases level_ valid withOnOff durationMs curve s now with
        ⟨_, kept⟩ | ⟨_, target, fades, _⟩
      · rw [kept]
        exact level
      · rw [target] at planOff
        rw [fades, if_neg]
        simp [dark, planOff]
  | temperature temperature durationMs curve => exact level
  | stopLevel _ is stops =>
      obtain ⟨_, _, _, _, rfl⟩ := State.stopLevelPlan_cases stops
      rfl
  | stopTemperature _ is stops =>
      obtain ⟨_, _, _, _, rfl⟩ := State.stopTemperaturePlan_cases stops
      exact level

theorem startupIntent_off {restored : LightState} (off : restored.on = false) (startup : Startup) :
    (startupIntent restored startup).on = false := by
  rw [startupIntent, off]
  rfl

/-- Bytes that do not ask for light. -/
def OffRecord (bytes : Option (List UInt8)) : Prop :=
  ∀ saved, Runtime.savedState (.ok bytes) = .ok saved → saved.intended.on = false

theorem OffRecord.encode {target : LightState} (off : target.on = false) (startup : Startup) :
    OffRecord (some (encodeRecord target startup)) := by
  intro saved decoded
  rw [show Runtime.savedState (.ok (some (encodeRecord target startup))) = _ from
    decodeRecord_encodeRecord target startup] at decoded
  cases decoded
  exact off

theorem OffRecord.loaded {saved : SavedState} (off : saved.intended.on = false) (s : State H) :
    (s.loaded saved).target.on = false := by
  simp only [State.loaded]
  split
  · rfl
  · exact startupIntent_off off saved.startup

section

variable [LawfulKvBlobStore K]

/-- The light is intended Off, and so says the store. -/
structure OffKept (r : Runtime K H) : Prop where
  off : r.state.target.on = false
  record : OffRecord r.record

theorem OffKept.keep {r t : Runtime K H} (kept : OffKept r)
    (target : t.state.target = r.state.target) (record : t.record = r.record) : OffKept t := by
  constructor
  · rw [target]
    exact kept.off
  · rw [record]
    exact kept.record

theorem OffKept.move {operation : Operation} (dark : operation.Dark) {phase next : Phase}
    {r t : Runtime K H} (move : Move operation (phase, r) (next, t)) (kept : OffKept r) :
    OffKept t := by
  cases move with
  | load _ saved tick running pending due found =>
      refine ⟨OffRecord.loaded (kept.record saved (Runtime.savedState_contents found)) r.state, ?_⟩
      rw [Runtime.record_load rfl]
      exact kept.record
  | loadFailed _ fault tick running pending found => exact kept.keep rfl (Runtime.record_load rfl)
  | plan _ plan writable asks => exact ⟨dark.target asks kept.off, kept.record⟩
  | localOff _ hardware ok off readable => exact ⟨rfl, kept.record⟩
  | deferOff _ hardware ok off pending => exact ⟨rfl, kept.record⟩
  | startup _ startup asked writable stored =>
      refine ⟨kept.off, ?_⟩
      rw [Runtime.record_store stored rfl]
      exact OffRecord.encode kept.off startup
  | startupRefused _ startup code asked writable refused =>
      exact kept.keep rfl (Runtime.record_refused refused rfl)
  | store _ dirty stored =>
      refine ⟨kept.off, ?_⟩
      rw [Runtime.record_store stored rfl]
      exact OffRecord.encode kept.off r.state.startup
  | storeFailed _ hardware ok code dirty refused =>
      exact kept.keep rfl (Runtime.record_refused refused rfl)
  | _ => exact kept.keep rfl rfl

/-- The light is Off, and nothing has lit it since it booted. -/
structure Extinct (r : Runtime K H) : Prop where
  kept : OffKept r
  level : r.state.levelTransition = none
  shown : ∀ frame ∈ r.state.controller.appliedFrame, frame.brightness = OutputBrightness.ZERO
  logged : ∀ stored held frame ok, Event.applyFrame stored held frame ok ∈ r.trace →
    frame.brightness = OutputBrightness.ZERO

omit [LawfulKvBlobStore K] in
/-- An Off target without a track calls for darkness. -/
theorem effective_dark {s : State H} (off : s.target.on = false) (level : s.levelTransition = none)
    (now : Nat) : (s.effective now).brightness = OutputBrightness.ZERO := by
  rw [State.effective_brightness_of_none level]
  exact OutputFrame.fromState_brightness_of_off off

omit [LawfulKvBlobStore K] in
theorem currentFrame_dark {s : State H}
    (shown : ∀ frame ∈ s.controller.appliedFrame, frame.brightness = OutputBrightness.ZERO) :
    s.currentFrame.brightness = OutputBrightness.ZERO := by
  unfold State.currentFrame
  cases known : s.controller.appliedFrame with
  | none => exact OutputFrame.fromState_brightness_of_off rfl
  | some frame => exact shown frame known

/-- A call other than an application that touches neither the level track nor the frame. -/
theorem Extinct.keep {r t : Runtime K H} (extinct : Extinct r) (kept : OffKept t)
    (level : t.state.levelTransition ≠ none → r.state.levelTransition ≠ none)
    (shown : t.state.controller.appliedFrame = r.state.controller.appliedFrame ∨
      t.state.controller.appliedFrame = none)
    (events : List (Event K H)) (trace : t.trace = events ++ r.trace)
    (other : events.any Event.applies = false) : Extinct t := by
  refine ⟨kept, ?_, ?_, ?_⟩
  · by_contra active
    exact level active extinct.level
  · rcases shown with same | gone
    · rw [same]
      exact extinct.shown
    · rw [gone]
      nofun
  · intro stored held frame ok member
    rw [trace] at member
    rcases List.mem_append.mp member with fresh | past
    · have applies : events.any Event.applies = true := List.any_eq_true.mpr ⟨_, fresh, rfl⟩
      rw [other] at applies
      cases applies
    · exact extinct.logged stored held frame ok past

/-- An application of what a dark state calls for. -/
theorem Extinct.apply {r t : Runtime K H} (extinct : Extinct r) (kept : OffKept t)
    (level : t.state.levelTransition ≠ none → r.state.levelTransition ≠ none) {event : Event K H}
    (trace : t.trace = event :: r.trace)
    (shown : ∀ frame ∈ t.state.controller.appliedFrame, frame = r.state.effective r.now)
    (applied : ∀ stored held frame ok, event = .applyFrame stored held frame ok →
      frame = r.state.effective r.now) : Extinct t := by
  have dark := effective_dark extinct.kept.off extinct.level r.now
  refine ⟨kept, ?_, ?_, ?_⟩
  · by_contra active
    exact level active extinct.level
  · intro frame known
    rw [shown frame known]
    exact dark
  · intro stored held frame ok member
    rw [trace] at member
    rcases List.mem_cons.mp member with fresh | past
    · rw [applied stored held frame ok fresh.symm]
      exact dark
    · exact extinct.logged stored held frame ok past

theorem Extinct.move {operation : Operation} (dark : operation.Dark) {phase next : Phase}
    {r t : Runtime K H} (move : Move operation (phase, r) (next, t)) (extinct : Extinct r) :
    Extinct t := by
  have kept := extinct.kept.move dark move
  cases move with
  | plan _ plan writable asks =>
      refine ⟨kept, ?_, extinct.shown, extinct.logged⟩
      exact asks.asked.level_none extinct.kept.off kept.off extinct.level
        (currentFrame_dark extinct.shown)
  | load _ saved tick running pending due found =>
      exact extinct.keep kept id (.inr rfl) [_] rfl rfl
  | loadFailed _ fault tick running pending found =>
      exact extinct.keep kept id (.inl rfl) [_] rfl rfl
  | localOff _ hardware ok off readable =>
      exact extinct.keep kept (absurd rfl) (.inr rfl) [_] rfl rfl
  | deferOff _ hardware ok off pending =>
      exact extinct.keep kept (absurd rfl) (.inr rfl) [_] rfl rfl
  | startup _ startup asked writable stored =>
      exact extinct.keep kept id (.inl rfl) [_] rfl rfl
  | startupRefused _ startup code asked writable refused =>
      exact extinct.keep kept id (.inl rfl) [_] rfl rfl
  | verified _ frame hardware check known =>
      exact extinct.keep kept id (.inl rfl) [_] rfl rfl
  | refuted _ frame hardware check known =>
      exact extinct.keep kept id (.inl rfl) [_] rfl rfl
  | read _ hardware registers =>
      exact extinct.keep kept id (.inl rfl) [_] rfl rfl
  | unread _ hardware registers =>
      exact extinct.keep kept id (.inl rfl) [_] rfl rfl
  | latch _ hardware ok reboot =>
      exact extinct.keep kept id (.inr rfl) [_] rfl rfl
  | store _ dirty stored => exact extinct.keep kept id (.inl rfl) [_] rfl rfl
  | storeFailed _ hardware ok code dirty refused =>
      exact extinct.keep kept id (.inr rfl) [_, _] rfl rfl
  | ease _ hardware unknown =>
      refine extinct.keep kept (fun active => ?_) (.inl rfl) [_] rfl rfl
      simp [State.easeFromZero, extinct.kept.off] at active
  | unproven _ hardware unknown =>
      exact extinct.keep kept id (.inl rfl) [_] rfl rfl
  | rest _ tick same => exact extinct.keep kept State.expire_level (.inl rfl) [] rfl rfl
  | check _ hardware tick same =>
      exact extinct.keep kept State.expire_level (.inl rfl) [_] rfl rfl
  | checkFailed _ hardware tick same =>
      exact extinct.keep kept State.expire_level (.inl rfl) [_] rfl rfl
  | steady _ same => exact extinct.keep kept State.expire_level (.inl rfl) [] rfl rfl
  | apply _ hardware differs =>
      exact extinct.apply kept State.expire_level rfl (by rintro frame ⟨⟩; rfl) (by
        rintro stored held frame ok ⟨⟩
        rfl)
  | applyFailed _ hardware differs =>
      exact extinct.apply kept id rfl nofun (by
        rintro stored held frame ok ⟨⟩
        rfl)
  | giveUp _ hardware ok => exact extinct.keep kept id (.inr rfl) [_] rfl rfl
  | _ => exact extinct.keep kept id (.inl rfl) [] rfl rfl

variable [Hardware H]

theorem OffKept.after {r : Runtime K H} (kept : OffKept r) {operation : Operation}
    (dark : operation.Dark) : OffKept (r.after operation) :=
  (Runtime.after_moves r operation).preserve (fun _ => OffKept) (OffKept.move dark) kept

theorem Extinct.after {r : Runtime K H} (extinct : Extinct r) {operation : Operation}
    (dark : operation.Dark) : Extinct (r.after operation) :=
  (Runtime.after_moves r operation).preserve (fun _ => Extinct) (Extinct.move dark) extinct

/-- A boot over bytes that do not ask for light is dark. -/
theorem Extinct.boot {life : Life K H}
    (record : OffRecord (LawfulKvBlobStore.contents life.kv (INTENT_KEY K))) :
    Extinct life.boot := by
  refine ⟨⟨?_, ?_⟩, rfl, nofun, ?_⟩
  · cases found : Runtime.savedState (KvBlobStore.load life.kv (INTENT_KEY K)).1 with
    | error fault =>
        simp only [Life.boot, Runtime.load, found, Except.toOption, Option.getD_none]
        rfl
    | ok saved =>
        have off := record saved (Runtime.savedState_contents found)
        simp only [Life.boot, Runtime.load, found, Except.toOption, Option.getD_some]
        exact startupIntent_off off saved.startup
  · change OffRecord
      (LawfulKvBlobStore.contents (KvBlobStore.load life.kv (INTENT_KEY K)).2 (INTENT_KEY K))
    rw [LawfulKvBlobStore.load_contents]
    exact record
  · intro stored held frame ok member
    simp [Life.boot, Runtime.load] at member

/-- Off outlives the power. Once the light was reported Off, and as long as nobody asks for
light, every later boot stays dark: no frame with brightness is ever handed to the output, however
often the power is cut, wherever a call is cut off, and whatever fails in between. -/
theorem Runtime.off_outlives_power (kv : K) (hardware : H) (operations : List Operation)
    {target : LightState} (reported : (run (load kv hardware) operations).reported = .ok target)
    (off : target.on = false) {rest : List Operation} {lives : List (Life K H)} :
    let r := run (load kv hardware) operations
    (∀ operation ∈ rest, operation.Dark) → Life.Follow (r.run rest).record lives →
    (∀ life ∈ lives, ∀ operation ∈ life.operations ++ life.last.toList, operation.Dark) →
      ∀ life ∈ lives, life.whole.state.target.on = false ∧
        ∀ stored held frame ok, Event.applyFrame stored held frame ok ∈ life.whole.trace →
          frame.brightness = OutputBrightness.ZERO := by
  intro r dark follow darkness
  have reachable : r.Reachable := (Reachable.load kv hardware).run operations
  obtain ⟨_, known, rfl⟩ := reported_eq_ok.mp reported
  have written := reachable.durable.written reachable.truthful known
  have here : OffKept r := by
    refine ⟨off, fun saved decoded => ?_⟩
    obtain ⟨found, decodes, intended, settings⟩ := Holds.of_stored written.stored
    have same : saved = found := Except.ok.inj (decoded.symm.trans decodes)
    rw [same]
    rcases intended with same | again
    · rw [same]
      exact off
    · rw [again]
      exact startupIntent_off off r.state.startup
  have along : Along Runtime.after (fun _ operation => operation.Dark) r rest :=
    Along.of_inputs (fun _ operation member => dark operation member) r
  have kept : OffKept (r.run rest) := along.invariant (fun _ _ dark kept => kept.after dark) here
  have every := Life.Follow.all OffRecord (fun life => Extinct life.whole)
    (fun life asked record => by
      have both := Life.keeps (fun _ _ dark extinct => extinct.after dark) (Extinct.boot record) asked
      refine ⟨both.2, fun left leaves => ?_⟩
      rcases leaves with rfl | rfl
      · exact both.1.kept.record
      · exact both.2.kept.record)
    kept.record darkness follow
  intro life member
  exact ⟨(every life member).kept.off, (every life member).logged⟩

end

/-- Two boots after an Off, the first of them cut off while it remembers another level. -/
theorem Runtime.off_outlives_power_twice :
    let r := run (load (default : MemoryStore) (default : SimulatedOutput))
      [.tick 0, .setPower true, .tick 400, .setPower false]
    let first : Life MemoryStore SimulatedOutput :=
      ⟨r.kv, default, [.tick 0], some (.setLevel Level.MAX false)⟩
    let second : Life MemoryStore SimulatedOutput :=
      ⟨first.whole.kv, default, [.tick 0, .setTemperature ⟨200, by decide, by decide⟩], none⟩
    second.whole.state.target.on = false := by
  intro r first second
  have follow : Life.Follow (r.run []).record [first, second] :=
    ⟨rfl, _, .inr rfl, rfl, _, .inl rfl, trivial⟩
  have dark : ∀ life ∈ [first, second],
      ∀ operation ∈ life.operations ++ life.last.toList, operation.Dark := by
    simp [first, second, Operation.Dark]
  have reported : r.reported = .ok r.state.target := by decide +kernel
  have unlit : r.state.target.on = false := by decide +kernel
  have quiet : ∀ operation ∈ ([] : List Operation), operation.Dark := by simp
  have stays := off_outlives_power (default : MemoryStore) (default : SimulatedOutput)
    [.tick 0, .setPower true, .tick 400, .setPower false] reported unlit quiet follow dark second
    (by simp)
  exact stays.1

end KeyRight.App
