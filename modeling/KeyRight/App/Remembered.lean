import KeyRight.App.Bench
import KeyRight.App.Command

/-!
Owns settings that are remembered while the light is intended Off: two runs with the same
ticks, one of them with any such settings between the ticks, show the same light.

Does not own settings of an On light.
-/

namespace KeyRight.App

open KeyRight.Core KeyRight.Support

variable {K H : Type}

instance (operation : Operation) : Decidable operation.IsTick :=
  match operation with
  | .tick _ => isTrue trivial
  | .request _ | .recallScene _ _ | .setPower _ | .setLevel _ _ | .setLevelTransition _ _ _
  | .setLevelRate _ _ _ | .setTemperature _ | .setTemperatureTransition _ _
  | .setTemperatureRate _ _ | .offWithEffect _ | .stopLevelTransition | .stopTemperatureTransition
  | .setStartup _ | .setStartupLevel _ | .setStartupTemperature _ | .off | .verify | .registers
  | .prepareReboot | .watchdogTestReady => isFalse id

/-- Level commands without On/Off, temperature commands of either curve, and writes of the
start-up settings. -/
def Operation.IsRemembered : Operation → Prop
  | .setLevel _ withOnOff => withOnOff = false
  | .setLevelTransition _ withOnOff _ => withOnOff = false
  | .setLevelRate _ withOnOff _ => withOnOff = false
  | .setTemperature _ => True
  | .setTemperatureTransition _ _ => True
  | .setTemperatureRate _ _ => True
  | .setStartup _ => True
  | .setStartupLevel _ => True
  | .setStartupTemperature _ => True
  | _ => False

/-! ### The light of an Off target -/

section

variable {s t : State H} {now : Nat}

/-- Only the level track lights an Off target: what is remembered does not show. -/
theorem State.effective_of_off (level : t.levelTransition = s.levelTransition)
    (dark : s.target.on = false) (darkAfter : t.target.on = false)
    (aligned : LevelAligned s.levelTransition s.target)
    (alone : FadesAlone s.levelTransition s.temperatureTransition s.target)
    (aloneAfter : FadesAlone t.levelTransition t.temperatureTransition t.target) :
    (t.effective now).brightness = (s.effective now).brightness ∧
      outputFrame (t.effective now) = outputFrame (s.effective now) := by
  have brightness : (t.effective now).brightness = (s.effective now).brightness := by
    cases active : s.levelTransition with
    | none =>
        rw [effective_brightness_of_none (level.trans active), effective_brightness_of_none active]
        exact fromState_brightness_off darkAfter dark
    | some track =>
        by_cases ended : track.remaining now = 0
        · rw [effective_brightness_of_ended (level.trans active) ended,
            effective_brightness_of_ended active ended]
          exact fromState_brightness_off darkAfter dark
        · rw [effective_brightness_of_running (level.trans active) ended,
            effective_brightness_of_running active ended]
  refine ⟨brightness, outputFrame_congr ?_ brightness fun on => ?_⟩
  · rw [effective_on, effective_on, brightness]
  · rw [effective_on, decide_eq_true_eq] at on
    obtain ⟨track, active, running⟩ := running_of_lit dark on
    have still : s.temperatureTransition = none := alone dark (by simp [active])
    have stillAfter : t.temperatureTransition = none := aloneAfter darkAfter (by simp [level, active])
    have freezes := (aligned track active).freezes
    rw [dark, Bool.not_false, Option.isSome_iff_exists] at freezes
    obtain ⟨frozen, freezes⟩ := freezes
    rw [effective_temperature_of_running stillAfter (level.trans active) running,
      effective_temperature_of_running still active running, freezes]
    rfl

end

/-! ### Remembered operations -/

theorem Operation.IsRemembered.not_tick {operation : Operation}
    (remembered : operation.IsRemembered) : ¬operation.IsTick := by
  intro tick
  cases operation with
  | tick now => exact remembered
  | _ => exact tick

theorem Operation.IsRemembered.not_check {operation : Operation}
    (remembered : operation.IsRemembered) : ¬operation.IsCheck := by
  intro check
  cases operation with
  | verify => exact remembered
  | watchdogTestReady => exact remembered
  | _ => exact check

namespace Runtime

/-- What of a runtime decides its light while the target is Off. -/
structure LeftAlone (r t : Runtime K H) : Prop where
  now : t.now = r.now
  on : t.state.target.on = r.state.target.on
  level : t.state.levelTransition = r.state.levelTransition

variable [KvBlobStore K] [Hardware H] {r : Runtime K H} {operation : Operation}

/-- A refused command or a start-up write leaves the light alone. -/
theorem after_planless (remembered : operation.IsRemembered) (planless : operation.plan H = none) :
    r.LeftAlone (r.after operation) ∧
      (r.after operation).state.controller = r.state.controller := by
  refine ((after_moves r operation).preserve
    (fun phase t => (phase = .called ∨ phase = .returned) ∧ r.LeftAlone t ∧
      t.state.controller = r.state.controller) ?_ ⟨.inl rfl, ⟨rfl, rfl, rfl⟩, rfl⟩).2
  intro phase next t u move sofar
  obtain ⟨idle, ⟨now, on, level⟩, controller⟩ := sofar
  cases move with
  | leave => exact ⟨.inr rfl, ⟨now, on, level⟩, controller⟩
  | startup => exact ⟨.inr rfl, ⟨now, on, level⟩, controller⟩
  | startupRefused => exact ⟨.inr rfl, ⟨now, on, level⟩, controller⟩
  | clock _ now tick => exact absurd (tick ▸ trivial) remembered.not_tick
  | resume _ tick => exact absurd tick remembered.not_tick
  | load _ saved tick => exact absurd tick remembered.not_tick
  | loadFailed _ fault tick => exact absurd tick remembered.not_tick
  | plan _ plan writable asks => exact absurd writable (Operation.not_asks_of_plan planless t plan asks)
  | localOff _ hardware ok off =>
      subst off
      exact remembered.elim
  | deferOff _ hardware ok off =>
      subst off
      exact remembered.elim
  | verified _ frame hardware check => exact absurd check remembered.not_check
  | refuted _ frame hardware check => exact absurd check remembered.not_check
  | read _ hardware registers =>
      subst registers
      exact remembered.elim
  | unread _ hardware registers =>
      subst registers
      exact remembered.elim
  | latch _ hardware ok reboot =>
      subst reboot
      exact remembered.elim
  | _ => simp at idle

omit [KvBlobStore K] [Hardware H] in
/-- What a remembered command plans for an Off target keeps the target Off and the level track. -/
theorem remembered_plan (remembered : operation.IsRemembered) (dark : r.state.target.on = false)
    {planner : Planner H} (planning : operation.plan H = some planner) :
    ∃ plan, operation.Asks r plan ∧ plan.target.on = false ∧
      plan.levelTransition = r.state.levelTransition := by
  have level : ∀ {level withOnOff durationMs curve}, withOnOff = false →
      Operation.plan.levelPlan H level withOnOff durationMs curve = some planner →
        ∃ plan, planner r.state r.now = .ok (some plan) ∧ plan.target.on = false ∧
          plan.levelTransition = r.state.levelTransition := by
    intro level withOnOff durationMs curve uncoupled planning
    subst uncoupled
    obtain ⟨valid, rfl⟩ := Operation.plan.of_levelPlan planning
    refine ⟨_, rfl, ?_⟩
    rw [State.levelTransitionPlan, if_pos (.inr (by simp [State.levelTarget, dark]))]
    exact ⟨dark, rfl⟩
  have temperature : ∀ {temperature durationMs curve},
      Operation.plan.temperaturePlan H temperature durationMs curve = some planner →
        ∃ plan, planner r.state r.now = .ok (some plan) ∧ plan.target.on = false ∧
          plan.levelTransition = r.state.levelTransition := by
    intro temperature durationMs curve planning
    obtain ⟨_, rfl⟩ := Operation.plan.of_temperaturePlan planning
    exact ⟨_, rfl, dark, rfl⟩
  have planned : ∃ plan, planner r.state r.now = .ok (some plan) ∧ plan.target.on = false ∧
      plan.levelTransition = r.state.levelTransition := by
    cases operation with
    | setLevel value withOnOff => exact level remembered planning
    | setLevelTransition value withOnOff durationMs => exact level remembered planning
    | setLevelRate value withOnOff durationMs => exact level remembered planning
    | setTemperature value => exact temperature planning
    | setTemperatureTransition value durationMs => exact temperature planning
    | setTemperatureRate value durationMs => exact temperature planning
    | setStartup value => cases planning
    | setStartupLevel value => cases planning
    | setStartupTemperature value => cases planning
    | _ => exact remembered.elim
  obtain ⟨plan, answer, rest⟩ := planned
  exact ⟨plan, ⟨planner, planning, answer⟩, rest⟩

/-- With working storage and hardware, a remembered operation on an Off target leaves its
light alone. -/
theorem after_remembered (reachable : r.Reachable)
    (known : r.state.controller.appliedFrame ≠ none) (dark : r.state.target.on = false)
    (remembered : operation.IsRemembered) (quiet : r.Quiet operation) :
    r.LeftAlone (r.after operation) ∧
      (r.after operation).state.controller.appliedFrame ≠ none := by
  cases planning : operation.plan H with
  | none =>
      obtain ⟨alone, controller⟩ := after_planless (r := r) remembered planning
      exact ⟨alone, by rw [controller]; exact known⟩
  | some planner =>
      obtain ⟨plan, asks, darkAfter, level⟩ := remembered_plan remembered dark planning
      have glided := (after_glides (reachable.settled known) asks quiet).2
      refine ⟨⟨glided.time, ?_, ?_⟩, by simp [glided.shows]⟩
      · rw [glided.target, dark]
        exact darkAfter
      · rw [glided.level, State.expire]
        change plan.levelTransition.filter _ = _
        rw [level]
        exact (reachable.composed.live known).expire_level

/-! ### Two runs -/

/-- Two runtimes with the same fade to Off at the same time. -/
structure Alike (full bare : Runtime K H) : Prop where
  reachable : full.Reachable ∧ bare.Reachable
  known : full.state.controller.appliedFrame ≠ none ∧ bare.state.controller.appliedFrame ≠ none
  dark : full.state.target.on = false ∧ bare.state.target.on = false
  now : full.now = bare.now
  level : full.state.levelTransition = bare.state.levelTransition

variable {full bare : Runtime K H}

theorem Alike.remembered (alike : Alike full bare) (remembered : operation.IsRemembered)
    (quiet : full.Quiet operation) : Alike (full.after operation) bare := by
  obtain ⟨alone, known⟩ :=
    after_remembered alike.reachable.1 alike.known.1 alike.dark.1 remembered quiet
  exact ⟨⟨alike.reachable.1.after operation, alike.reachable.2⟩, ⟨known, alike.known.2⟩,
    ⟨alone.on.trans alike.dark.1, alike.dark.2⟩, alone.now.trans alike.now,
    alone.level.trans alike.level⟩

theorem Alike.tick (alike : Alike full bare) {now : Nat} (quietFull : full.Quiet (.tick now))
    (quietBare : bare.Quiet (.tick now)) :
    Alike (full.after (.tick now)) (bare.after (.tick now)) := by
  have first := after_tick_glides (alike.reachable.1.settled alike.known.1) quietFull
  have second := after_tick_glides (alike.reachable.2.settled alike.known.2) quietBare
  refine ⟨⟨alike.reachable.1.after _, alike.reachable.2.after _⟩,
    ⟨by simp [first.shows], by simp [second.shows]⟩,
    ⟨by rw [first.target, alike.dark.1], by rw [second.target, alike.dark.2]⟩,
    first.time.trans second.time.symm, ?_⟩
  rw [first.level, second.level, State.expire, State.expire, alike.level]

/-- At a tick both show the same light. -/
theorem Alike.shows (alike : Alike full bare) {now : Nat} (quietFull : full.Quiet (.tick now))
    (quietBare : bare.Quiet (.tick now)) :
    ∃ frame other, (full.after (.tick now)).state.controller.appliedFrame = some frame ∧
      (bare.after (.tick now)).state.controller.appliedFrame = some other ∧
      frame.brightness = other.brightness ∧ outputFrame frame = outputFrame other := by
  have first := after_tick_glides (alike.reachable.1.settled alike.known.1) quietFull
  have second := after_tick_glides (alike.reachable.2.settled alike.known.2) quietBare
  refine ⟨_, _, first.shows, second.shows, ?_⟩
  exact State.effective_of_off alike.level alike.dark.2 alike.dark.1
    alike.reachable.2.tracked.level alike.reachable.2.composed.alone alike.reachable.1.composed.alone

theorem Alike.run (alike : Alike full bare) {settings : List Operation}
    (only : ∀ operation ∈ settings, operation.IsTick ∨ operation.IsRemembered)
    (quietFull : Along Runtime.after Quiet full settings)
    (quietBare : Along Runtime.after Quiet bare (settings.filter (·.IsTick))) :
    Alike (full.run settings) (bare.run (settings.filter (·.IsTick))) := by
  induction settings generalizing full bare with
  | nil => exact alike
  | cons operation rest inductionHypothesis =>
      have onlyRest : ∀ operation ∈ rest, operation.IsTick ∨ operation.IsRemembered :=
        fun operation member => only operation (List.mem_cons_of_mem _ member)
      rcases only operation List.mem_cons_self with tick | remembered
      · rw [List.filter_cons_of_pos (by simpa using tick)] at quietBare ⊢
        cases operation with
        | tick now =>
            exact inductionHypothesis (alike.tick quietFull.1 quietBare.1) onlyRest quietFull.2
              quietBare.2
        | _ => exact tick.elim
      · rw [List.filter_cons_of_neg (by simpa using remembered.not_tick)] at quietBare ⊢
        exact inductionHypothesis (alike.remembered remembered quietFull.1) onlyRest quietFull.2
          quietBare

/-- From every reachable healthy runtime with an Off target, take a run of ticks with any
remembered settings between them, and the run of the same ticks alone. With working
storage and hardware, every tick finds both at the same brightness and register image. -/
theorem run_remembered (kv : K) (hardware : H) (operations : List Operation) :
    let r := run (load kv hardware) operations
    ∀ settings now, r.state.fault = .none → r.state.controller.appliedFrame ≠ none →
      r.state.target.on = false →
      (∀ operation ∈ settings, operation.IsTick ∨ operation.IsRemembered) →
      let ticks := settings.filter (·.IsTick)
      Along Runtime.after Quiet r (settings ++ [.tick now]) →
      Along Runtime.after Quiet r (ticks ++ [.tick now]) →
      ∃ frame other, (r.run (settings ++ [.tick now])).state.controller.appliedFrame = some frame ∧
        (r.run (ticks ++ [.tick now])).state.controller.appliedFrame = some other ∧
        frame.brightness = other.brightness ∧ outputFrame frame = outputFrame other := by
  intro r settings now _ known dark only ticks quietFull quietBare
  have reachable : r.Reachable := (Reachable.load kv hardware).run operations
  obtain ⟨quietFull, lastFull, _⟩ := Along.append.mp quietFull
  obtain ⟨quietBare, lastBare, _⟩ := Along.append.mp quietBare
  have alike : Alike r r := ⟨⟨reachable, reachable⟩, ⟨known, known⟩, ⟨dark, dark⟩, rfl, rfl⟩
  rw [run, run, runAll_append, runAll_append]
  exact (alike.run only quietFull quietBare).shows lastFull lastBare

end Runtime

/-- A level, a temperature and a start-up policy set in the middle of a fade to Off. -/
theorem Runtime.run_remembered_fading :
    let r := (bench none).run [.tick 0, .setPower true, .tick 400, .setPower false]
    let ticks : List Operation := [.tick 500]
    let settings : List Operation := [.setLevelTransition 9 false 0, .tick 500,
      .setTemperature ⟨200, by decide, by decide⟩, .setStartupLevel (some 9)]
    ∃ frame other, (r.run (settings ++ [.tick 600])).state.controller.appliedFrame = some frame ∧
      (r.run (ticks ++ [.tick 600])).state.controller.appliedFrame = some other ∧
      frame.brightness = other.brightness ∧ outputFrame frame = outputFrame other :=
  run_remembered _ _ [.tick 0, .setPower true, .tick 400, .setPower false] _ 600 (by decide +kernel)
    (by decide +kernel) (by decide +kernel)
    (by simp [Operation.IsTick, Operation.IsRemembered]) (by decide +kernel) (by decide +kernel)

end KeyRight.App
