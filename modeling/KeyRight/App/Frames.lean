import KeyRight.App.Moves
import KeyRight.Core.Ceiling

/-!
Owns the frames of reachable runtimes: every frame called for, acknowledged or sent to
the output agrees with its brightness and stays under the stock ceiling. Owns as well
the ranges that the checked constructors and the fixed-point interpolation rely on.

Does not own when a frame is applied.
-/

namespace KeyRight.App

open KeyRight.Core KeyRight.Support

variable {K H : Type}

/-! ### Frames called for -/

theorem State.effective_wellFormed (s : State H) (now : Nat) : (s.effective now).WellFormed := by
  have leveled : ∀ track : LevelTransition, OutputFrame.WellFormed
      { state :=
          { on := track.brightness now ≠ OutputBrightness.ZERO
            level := (track.brightness now).toLevelClamped
            temperature := track.offTemperature.getD s.target.temperature }
        brightness := track.brightness now } := fun track =>
    ⟨decide_eq_true_iff, (track.brightness now).le_max, fun _ => rfl⟩
  have settled := OutputFrame.fromState_wellFormed s.target
  unfold effective
  cases s.levelTransition with
  | none =>
      cases s.temperatureTransition with
      | none => exact settled
      | some fade => exact settled.recolor _
  | some track =>
      cases s.temperatureTransition with
      | none =>
          simp only
          split
          · exact settled
          · exact leveled track
      | some fade =>
          simp only
          split
          · exact settled.recolor _
          · exact (leveled track).recolor _

/-! ### Checked constructors -/

/-- `effective` with the checked constructors of the source, which fail where it panics. -/
def State.checkedEffective (s : State H) (now : Nat) : Option OutputFrame := do
  let leveled ←
    match s.levelTransition with
    | none => pure (OutputFrame.fromState s.target)
    | some track =>
        if track.remaining now = 0 then pure (OutputFrame.fromState s.target)
        else do
          let brightness ← OutputBrightness.new (track.value now)
          pure
            { state :=
                { on := brightness ≠ OutputBrightness.ZERO
                  level := brightness.toLevelClamped
                  temperature := track.offTemperature.getD s.target.temperature }
              brightness := brightness }
  match s.temperatureTransition with
  | none => pure leveled
  | some track => do
      let temperature ← ColorTemperature.new (track.ramp.value now)
      pure { leveled with state := { leveled.state with temperature := temperature } }

theorem State.checkedEffective_eq (s : State H) (now : Nat) :
    s.checkedEffective now = some (s.effective now) := by
  have bright : ∀ track : LevelTransition,
      OutputBrightness.new (track.value now) = some (track.brightness now) := fun track =>
    (Option.some_get (track.new_value_isSome now)).symm
  have colored : ∀ track : TemperatureTransition,
      ColorTemperature.new (track.ramp.value now) = some (track.temperature now) := fun track =>
    (Option.some_get (track.new_value_isSome now)).symm
  unfold checkedEffective effective
  cases s.levelTransition with
  | none =>
      cases s.temperatureTransition with
      | none => rfl
      | some fade => simp [colored]
  | some track =>
      by_cases ended : track.remaining now = 0
      · cases s.temperatureTransition with
        | none => simp [ended]
        | some fade => simp [ended, colored]
      · cases s.temperatureTransition with
        | none => simp [ended, bright]
        | some fade => simp [ended, bright, colored]

/-- `startup_intent` with the checked constructor of the source. -/
def checkedStartupIntent (restored : LightState) (startup : Startup) : Option LightState := do
  let level ←
    match startup.level with
    | some value => Level.new (max value.toNat 1)
    | none => pure restored.level
  pure
    { on := restored.on && startup.power != 1
      level := level
      temperature := startup.temperature.getD restored.temperature }

theorem new_raisedLevel {value : UInt8} (valid : value ≠ 255) :
    Level.new (max value.toNat 1) = some (raisedLevel value valid) :=
  (Option.some_get _).symm

theorem checkedStartupIntent_eq (restored : LightState) (startup : Startup) :
    checkedStartupIntent restored startup = some (startupIntent restored startup) := by
  obtain ⟨power, level, temperature, _, valid⟩ := startup
  cases level with
  | none => rfl
  | some value =>
      have present : value ≠ 255 := fun same => valid (congrArg some same)
      simp only [checkedStartupIntent, new_raisedLevel present]
      rfl

/-! ### Durations -/

/-- The source computes the interpolation in 64 bits. There it agrees with exact
arithmetic as long as no ramp is longer than the longest command. -/
def Transition.Bounded (ramp : Transition) : Prop := ramp.duration ≤ MAX_TRANSITION_MS

/-- The products of the interpolation fit into 64 bits, signed for the signed one, and
the sum fits into the 16 bits it is cast to. -/
structure Transition.Fits (ramp : Transition) (now : Nat) : Prop where
  scaled : min (now - ramp.start) ramp.duration * Transition.ONE < 2 ^ 64
  cubed : ∀ x ≤ Transition.ONE, x * x * (3 * Transition.ONE - 2 * x) < 2 ^ 64
  moved : ∀ x ≤ Transition.ONE,
    (((ramp.toValue : Int) - ramp.fromValue) * (Transition.fraction ramp.curve x : Int)).natAbs
      < 2 ^ 63
  narrow : ramp.value now < 2 ^ 16

theorem Transition.Bounded.fits {ramp : Transition} (bounded : ramp.Bounded) {high : Nat}
    (small : high < 65536) (within : ramp.Within 0 high) (now : Nat) : ramp.Fits now := by
  refine ⟨?_, fun x bound => ?_, fun x bound => ?_, ?_⟩
  · have elapsed : min (now - ramp.start) ramp.duration ≤ 60000000 :=
      Nat.le_trans (Nat.min_le_right _ _) bounded
    unfold ONE
    omega
  · have square : x * x ≤ ONE * ONE := Nat.mul_le_mul bound bound
    have cube : x * x * (3 * ONE - 2 * x) ≤ ONE * ONE * (3 * ONE) :=
      Nat.mul_le_mul square (Nat.sub_le _ _)
    exact Nat.lt_of_le_of_lt cube (by decide)
  · have share := fraction_le_one ramp.curve bound
    have way : ((ramp.toValue : Int) - ramp.fromValue).natAbs ≤ 65536 := by
      have bounds := within
      unfold Within at bounds
      omega
    rw [Int.natAbs_mul, Int.natAbs_natCast]
    exact Nat.lt_of_le_of_lt (Nat.mul_le_mul way share) (by decide)
  · have range := value_within small within now
    omega

/-- No ramp of the two tracks is longer than the longest command. -/
structure Brief (level : Option LevelTransition) (temperature : Option TemperatureTransition) :
    Prop where
  level : ∀ track, level = some track →
    track.ramp.Bounded ∧ ∀ next, track.thenRamp = some next → next.Bounded
  temperature : ∀ fade, temperature = some fade → fade.ramp.Bounded

section

variable {level : Option LevelTransition} {temperature : Option TemperatureTransition}

theorem Brief.expire (brief : Brief level temperature) (keepsLevel : LevelTransition → Bool)
    (keepsTemperature : TemperatureTransition → Bool) :
    Brief (level.filter keepsLevel) (temperature.filter keepsTemperature) :=
  ⟨fun track active => brief.level track (Option.filter_eq_some_iff.mp active).1,
    fun fade active => brief.temperature fade (Option.filter_eq_some_iff.mp active).1⟩

theorem Brief.idle : Brief none none := ⟨nofun, nofun⟩

theorem default_bounded : DEFAULT_TRANSITION_MS ≤ MAX_TRANSITION_MS := by decide

theorem duration_bounded {requested : Nat} (bounded : requested ≤ MAX_TRANSITION_MS) :
    State.duration requested ≤ MAX_TRANSITION_MS := by
  unfold State.duration
  split
  · exact default_bounded
  · exact bounded

/-- A single ramp, where it is installed at all. -/
theorem Brief.single {condition : Prop} [Decidable condition] {current target : OutputBrightness}
    {start duration : Nat} {curve : Curve} {frozen : Option ColorTemperature}
    (bounded : duration ≤ MAX_TRANSITION_MS)
    (fades : ∀ fade, temperature = some fade → fade.ramp.Bounded) :
    Brief (if condition then some (.single current target start duration curve frozen) else none)
      temperature := by
  refine ⟨fun track active => ?_, fades⟩
  split at active
  · cases active
    exact ⟨bounded, nofun⟩
  · cases active

/-- A fade of the temperature, where there is one, is bounded like the old one. -/
theorem fade_bounded {condition : Prop} [Decidable condition] {current target : ColorTemperature}
    {start duration : Nat} {curve : Curve} (bounded : duration ≤ MAX_TRANSITION_MS)
    (fades : ∀ fade, temperature = some fade → fade.ramp.Bounded) :
    ∀ fade, (if condition then some (.single current target start duration curve) else temperature) =
      some fade → fade.ramp.Bounded := by
  intro fade active
  split at active
  · cases active
    exact bounded
  · exact fades fade active

variable {s : State H} {now : Nat}

theorem Brief.scene (brief : Brief s.levelTransition s.temperatureTransition) (target : LightState)
    {durationMs : Nat} (bounded : durationMs ≤ MAX_TRANSITION_MS) :
    let plan := State.recallScenePlan target durationMs s now
    Brief plan.levelTransition plan.temperatureTransition := by
  intro plan
  by_cases unchanged : target = s.target
  · rw [show plan = s.keep target from if_pos unchanged]
    exact brief
  · rw [show plan = _ from if_neg unchanged]
    exact .single (duration_bounded bounded) (fade_bounded (duration_bounded bounded) nofun)

theorem Brief.power (brief : Brief s.levelTransition s.temperatureTransition) (on : Bool) :
    let plan := State.setPowerPlan on s now
    Brief plan.levelTransition plan.temperatureTransition := by
  intro plan
  by_cases unchanged : on = s.target.on
  · rw [show plan = s.keep _ from if_pos unchanged]
    exact brief
  · rw [show plan = _ from if_neg unchanged]
    refine ⟨fun track active => ?_, fun fade active => ?_⟩
    · cases active
      exact ⟨default_bounded, nofun⟩
    · dsimp only at active
      split at active
      · cases active
      · exact fade_bounded default_bounded brief.temperature fade active

theorem Brief.effect (effect : OffEffect) :
    let plan := State.offWithEffectPlan effect s now
    Brief plan.levelTransition plan.temperatureTransition := by
  have phases : ∀ middle first last, first ≤ MAX_TRANSITION_MS → last ≤ MAX_TRANSITION_MS →
      Brief (if s.currentFrame.brightness ≠ OutputBrightness.ZERO ∧ first ≠ 0 then
        some (State.effectFade s.currentFrame now middle first last) else none) none := by
    intro middle first last firstBounded lastBounded
    refine ⟨fun track active => ?_, nofun⟩
    split at active
    · cases active
      refine ⟨firstBounded, fun next following => ?_⟩
      simp only [State.effectFade] at following
      split at following
      · cases following
        exact lastBounded
      · cases following
    · cases active
  cases effect with
  | fastFade => exact phases _ _ _ (by decide) (by decide)
  | noFade => exact phases _ _ _ (by decide) (by decide)
  | slowFade => exact phases _ _ _ (by decide) (by decide)
  | dyingLight => exact phases _ _ _ (by decide) (by decide)

theorem Brief.levelCommand (brief : Brief s.levelTransition s.temperatureTransition) (value : UInt8)
    (valid : value ≠ 255) (withOnOff : Bool) {durationMs : Nat}
    (bounded : durationMs ≤ MAX_TRANSITION_MS) (curve : Curve) :
    let plan := State.levelTransitionPlan value valid withOnOff durationMs curve s now
    Brief plan.levelTransition plan.temperatureTransition := by
  intro plan
  rcases State.levelTransitionPlan_cases value valid withOnOff durationMs curve s now with
    ⟨_, keeps⟩ | ⟨_, _, fades, colors⟩
  · rw [show plan = s.keep _ from keeps]
    exact brief
  · rw [show plan.levelTransition = _ from fades]
    refine .single bounded fun fade active => ?_
    rw [show plan.temperatureTransition = _ from colors] at active
    split at active
    · cases active
    · exact fade_bounded bounded brief.temperature fade active

theorem Brief.temperatureCommand (brief : Brief s.levelTransition s.temperatureTransition)
    (value : ColorTemperature) {durationMs : Nat} (bounded : durationMs ≤ MAX_TRANSITION_MS)
    (curve : Curve) :
    let plan := State.temperatureTransitionPlan value durationMs curve s now
    Brief plan.levelTransition plan.temperatureTransition := by
  refine ⟨brief.level, fun fade active => ?_⟩
  dsimp only [State.temperatureTransitionPlan] at active
  split at active
  · exact fade_bounded bounded (by rintro _ ⟨⟩) fade active
  · exact brief.temperature fade active

/-- Commands plan no ramp that is longer than they may be. -/
theorem Brief.plan {K : Type} {r : Runtime K H} {operation : Operation} {plan : Plan}
    (brief : Brief r.state.levelTransition r.state.temperatureTransition)
    (asks : operation.Asks r plan) : Brief plan.levelTransition plan.temperatureTransition := by
  obtain ⟨planner, planning, answer⟩ := asks
  have level : ∀ value withOnOff durationMs curve,
      Operation.plan.levelPlan H value withOnOff durationMs curve = some planner →
      Brief plan.levelTransition plan.temperatureTransition := by
    intro value withOnOff durationMs curve planning
    obtain ⟨valid, rfl⟩ := Operation.plan.of_levelPlan planning
    cases answer
    exact brief.levelCommand value valid.1 withOnOff valid.2 curve
  have temperature : ∀ value durationMs curve,
      Operation.plan.temperaturePlan H value durationMs curve = some planner →
      Brief plan.levelTransition plan.temperatureTransition := by
    intro value durationMs curve planning
    obtain ⟨short, rfl⟩ := Operation.plan.of_temperaturePlan planning
    cases answer
    exact brief.temperatureCommand value short curve
  cases operation with
  | request target =>
      cases planning
      cases answer
      exact brief.scene target (Nat.zero_le _)
  | recallScene target durationMs =>
      obtain ⟨short, rfl⟩ := Operation.plan.of_recallScene planning
      cases answer
      exact brief.scene target short
  | setPower on =>
      cases planning
      cases answer
      exact brief.power on
  | setLevel value withOnOff => exact level _ _ _ _ planning
  | setLevelTransition value withOnOff durationMs => exact level _ _ _ _ planning
  | setLevelRate value withOnOff durationMs => exact level _ _ _ _ planning
  | setTemperature value => exact temperature _ _ _ planning
  | setTemperatureTransition value durationMs => exact temperature _ _ _ planning
  | setTemperatureRate value durationMs => exact temperature _ _ _ planning
  | offWithEffect effect =>
      cases planning
      cases answer
      exact .effect effect
  | stopLevelTransition =>
      cases planning
      obtain ⟨_, _, _, _, rfl⟩ := State.stopLevelPlan_cases answer
      refine ⟨?_, brief.temperature⟩
      intro track absent
      cases absent
  | stopTemperatureTransition =>
      cases planning
      obtain ⟨_, _, _, _, rfl⟩ := State.stopTemperaturePlan_cases answer
      refine ⟨brief.level, ?_⟩
      intro track absent
      cases absent
  | _ => cases planning

theorem Brief.move [KvBlobStore K] {operation : Operation} {phase next : Phase} {r t : Runtime K H}
    (move : Move operation (phase, r) (next, t))
    (brief : Brief r.state.levelTransition r.state.temperatureTransition) :
    Brief t.state.levelTransition t.state.temperatureTransition := by
  cases move with
  | plan _ plan writable asks => exact brief.plan asks
  | localOff => exact .idle
  | deferOff => exact .idle
  | ease => exact .single default_bounded nofun
  | rest => exact brief.expire _ _
  | check => exact brief.expire _ _
  | checkFailed => exact brief.expire _ _
  | steady => exact brief.expire _ _
  | apply => exact brief.expire _ _
  | _ => exact brief

end

/-! ### Frames shown -/

/-- Every frame that is acknowledged or was ever sent to the output is well formed. -/
structure Shapely (r : Runtime K H) : Prop where
  acknowledged : ∀ frame, r.state.controller.appliedFrame = some frame → frame.WellFormed
  sent : ∀ stored held frame ok, Event.applyFrame stored held frame ok ∈ r.trace → frame.WellFormed

/-- A call other than an application, that acknowledges nothing new. -/
theorem Shapely.cons {r t : Runtime K H} (shapely : Shapely r) {event : Event K H}
    (other : event.applies = false) (trace : t.trace = event :: r.trace)
    (known : ∀ frame, t.state.controller.appliedFrame = some frame →
      r.state.controller.appliedFrame = some frame) : Shapely t := by
  refine ⟨fun frame acknowledged => shapely.acknowledged frame (known frame acknowledged), ?_⟩
  intro stored held frame ok member
  rw [trace] at member
  rcases List.mem_cons.mp member with same | earlier
  · rw [← same] at other
    cases other
  · exact shapely.sent stored held frame ok earlier

/-- Sending the frame called for. -/
theorem Shapely.shown {r : Runtime K H} (shapely : Shapely r) (hardware : H) (ok : Bool) :
    Shapely ((r.onState fun s => s.intend (s.effective r.now)).shown (r.state.effective r.now)
      hardware ok) := by
  have called := r.state.effective_wellFormed r.now
  refine ⟨fun frame acknowledged => ?_, fun stored held frame ok member => ?_⟩
  · cases ok with
    | true =>
        cases acknowledged
        exact called
    | false => cases acknowledged
  · rcases List.mem_cons.mp member with same | earlier
    · cases same
      exact called
    · exact shapely.sent stored held frame ok earlier

theorem Shapely.move [KvBlobStore K] {operation : Operation} {phase next : Phase} {r t : Runtime K H}
    (move : Move operation (phase, r) (next, t)) (shapely : Shapely r) : Shapely t := by
  cases move with
  | load => exact shapely.cons rfl rfl nofun
  | loadFailed => exact shapely.cons rfl rfl fun _ known => known
  | localOff => exact shapely.cons rfl rfl nofun
  | deferOff => exact shapely.cons rfl rfl nofun
  | startup => exact shapely.cons rfl rfl fun _ known => known
  | startupRefused => exact shapely.cons rfl rfl fun _ known => known
  | verified => exact shapely.cons rfl rfl fun _ known => known
  | refuted => exact shapely.cons rfl rfl fun _ known => known
  | read => exact shapely.cons rfl rfl fun _ known => known
  | unread => exact shapely.cons rfl rfl fun _ known => known
  | latch => exact shapely.cons rfl rfl nofun
  | store => exact shapely.cons rfl rfl fun _ known => known
  | storeFailed _ hardware ok code dirty refused =>
      have stored : Shapely (r.accessed (KvBlobStore.store r.kv (INTENT_KEY K)
          (encodeRecord r.state.target r.state.startup)).2
          (.store (encodeRecord r.state.target r.state.startup) false)) :=
        shapely.cons rfl rfl fun _ known => known
      exact stored.cons rfl rfl nofun
  | ease => exact shapely.cons rfl rfl fun _ known => known
  | unproven => exact shapely.cons rfl rfl fun _ known => known
  | check => exact shapely.cons rfl rfl fun _ known => known
  | checkFailed => exact shapely.cons rfl rfl fun _ known => known
  | apply _ hardware differs =>
      have shown := shapely.shown hardware true
      exact ⟨shown.acknowledged, shown.sent⟩
  | applyFailed _ hardware differs => exact shapely.shown hardware false
  | giveUp => exact shapely.cons rfl rfl nofun
  | _ => exact ⟨shapely.acknowledged, shapely.sent⟩

theorem Shapely.load [KvBlobStore K] [Hardware H] (kv : K) (hardware : H) :
    Shapely (Runtime.load kv hardware) := by
  refine ⟨nofun, fun stored held frame ok member => ?_⟩
  rcases List.mem_cons.mp member with wrong | member
  · cases wrong
  · rcases List.mem_cons.mp member with wrong | member
    · cases wrong
    · cases member

theorem Runtime.Reachable.shapely [KvBlobStore K] [Hardware H] {r : Runtime K H}
    (reachable : r.Reachable) : Shapely r :=
  reachable.phases (fun _ t => Shapely t) Shapely.load Shapely.move fun _ same => same

theorem Runtime.Reachable.brief [KvBlobStore K] [Hardware H] {r : Runtime K H}
    (reachable : r.Reachable) : Brief r.state.levelTransition r.state.temperatureTransition :=
  reachable.phases (fun _ t => Brief t.state.levelTransition t.state.temperatureTransition)
    (fun _ _ => .idle) Brief.move fun _ same => same

/-- In every run no checked constructor fails: not on the tracks, whose interpolation stays
in its integer types, nor on a start-up setting, a decoded level or the level of a command. The
two expectations left, on the track that a Stop takes and on the frame that a tick verifies,
are on values just compared: `stopLevelPlan` matches on the one, `tickOutput` carries the proof
of the other. Every frame called for, acknowledged or sent agrees with its brightness, and
what is sent stays under the stock ceiling. -/
theorem Runtime.run_frames [KvBlobStore K] [Hardware H] (kv : K) (hardware : H)
    (operations : List Operation) :
    let r := run (load kv hardware) operations
    (∀ now, r.state.checkedEffective now = some (r.state.effective now)) ∧
    (∀ track, r.state.levelTransition = some track → ∀ now, (track.phase now).Fits now) ∧
    (∀ fade, r.state.temperatureTransition = some fade → ∀ now, fade.ramp.Fits now) ∧
    (∀ restored startup,
      checkedStartupIntent restored startup = some (startupIntent restored startup)) ∧
    (∀ level : UInt8, level ≠ 255 → (Level.new (max level.toNat 1)).isSome) ∧
    (∀ level : UInt8, 1 ≤ level → level ≤ 254 → (Level.new level.toNat).isSome) ∧
    (∀ now, (r.state.effective now).WellFormed) ∧
    (∀ frame, r.state.controller.appliedFrame = some frame → frame.WellFormed) ∧
    ∀ stored held frame ok, Event.applyFrame stored held frame ok ∈ r.trace →
      frame.WellFormed ∧ Capped (outputFrame frame) := by
  intro r
  have reachable : r.Reachable := (Reachable.load kv hardware).run operations
  have brief := reachable.brief
  refine ⟨r.state.checkedEffective_eq, fun track active now => ?_, fun fade active now => ?_,
    checkedStartupIntent_eq, fun level valid => ?_, fun level low high => ?_,
    r.state.effective_wellFormed, reachable.shapely.acknowledged, ?_⟩
  · obtain ⟨ramp, following⟩ := brief.level track active
    have bounded : (track.phase now).Bounded := by
      unfold LevelTransition.phase
      cases next : track.thenRamp.filter fun next => decide (next.start ≤ now) with
      | none => exact ramp
      | some second => exact following second (Option.filter_eq_some_iff.mp next).1
    exact bounded.fits (by decide) (track.phase_within now) now
  · have wider : fade.ramp.Within 0 344 :=
      ⟨⟨Nat.zero_le _, fade.ramp_within.1.2⟩, Nat.zero_le _, fade.ramp_within.2.2⟩
    exact (brief.temperature fade active).fits (by decide) wider now
  · rw [new_raisedLevel valid]
    rfl
  · rw [UInt8.le_iff_toNat_le] at low high
    rw [Level.new_of_range low high]
    rfl
  · intro stored held frame ok sent
    exact ⟨reachable.shapely.sent stored held frame ok sent, outputFrame_capped frame⟩

end KeyRight.App
