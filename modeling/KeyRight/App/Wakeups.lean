import KeyRight.App.Bench
import KeyRight.App.Command
import KeyRight.App.Dormancy

/-!
Owns that nobody but the output sees when the maintenance loop wakes: two runs with the same
commands at the same times, one of them with any further ticks between the commands, answer
alike and leave the light alike.

The commands are those of Matter; each follows a tick at its time, as a command acts at the
time of the last tick. Does not own runs in which something fails.
-/

namespace KeyRight.App

open KeyRight.Core KeyRight.Support

variable {K H : Type}

/-! ### What a command sees -/

/-- Two states with the same target, the same tracks and the same acknowledged frame. -/
structure State.Like (s u : State H) : Prop where
  target : u.target = s.target
  level : u.levelTransition = s.levelTransition
  temperature : u.temperatureTransition = s.temperatureTransition
  frame : u.controller.appliedFrame = s.controller.appliedFrame

theorem State.Like.eq {s u : State H} (like : s.Like u) :
    u = { u with
      target := s.target
      levelTransition := s.levelTransition
      temperatureTransition := s.temperatureTransition
      controller := { u.controller with appliedFrame := s.controller.appliedFrame } } := by
  rw [← like.target, ← like.level, ← like.temperature, ← like.frame]

/-- A planner reads nothing else. -/
theorem Operation.plan_congr {s u : State H} (like : s.Like u) {operation : Operation}
    {planner : Planner H} (planning : operation.plan H = some planner) (now : Nat) :
    planner u now = planner s now := by
  have levels : ∀ {level withOnOff durationMs curve},
      Operation.plan.levelPlan H level withOnOff durationMs curve = some planner →
        planner u now = planner s now := by
    intro level withOnOff durationMs curve planning
    obtain ⟨valid, rfl⟩ := Operation.plan.of_levelPlan planning
    rw [like.eq]
    rfl
  have temperatures : ∀ {temperature durationMs curve},
      Operation.plan.temperaturePlan H temperature durationMs curve = some planner →
        planner u now = planner s now := by
    intro temperature durationMs curve planning
    obtain ⟨short, rfl⟩ := Operation.plan.of_temperaturePlan planning
    rw [like.eq]
    rfl
  cases operation with
  | recallScene target durationMs =>
      obtain ⟨short, rfl⟩ := Operation.plan.of_recallScene planning
      rw [like.eq]
      rfl
  | setLevel level withOnOff => exact levels planning
  | setLevelTransition level withOnOff durationMs => exact levels planning
  | setLevelRate level withOnOff durationMs => exact levels planning
  | setTemperature temperature => exact temperatures planning
  | setTemperatureTransition temperature durationMs => exact temperatures planning
  | setTemperatureRate temperature durationMs => exact temperatures planning
  | _ =>
      cases planning <;>
      · rw [like.eq]
        rfl

/-- A command of Matter on the light. -/
def Operation.isCommand : Operation → Bool
  | .tick _ | .setStartup _ | .setStartupLevel _ | .setStartupTemperature _ => false
  | .off | .verify | .registers | .prepareReboot | .watchdogTestReady => false
  | _ => true

namespace Runtime

open Program

section

variable [KvBlobStore K] [Hardware H]

/-- A command without a plan is refused for its arguments. -/
theorem perform_planless {operation : Operation} (command : operation.isCommand = true)
    (planless : operation.plan H = none) :
    (perform operation : Call K H Reply) = done (Program.fail .constraintError) := by
  have level : ∀ {level withOnOff durationMs curve},
      Operation.plan.levelPlan H level withOnOff durationMs curve = none →
        (levelTransition level withOnOff durationMs curve : Call K H Unit) =
          Program.fail .constraintError := by
    intro level withOnOff durationMs curve planless
    rw [levelTransition, dif_neg]
    intro valid
    simp [Operation.plan.levelPlan, valid] at planless
  have temperature : ∀ {temperature durationMs curve},
      Operation.plan.temperaturePlan H temperature durationMs curve = none →
        (temperatureTransition temperature durationMs curve : Call K H Unit) =
          Program.fail .constraintError := by
    intro temperature durationMs curve planless
    rw [temperatureTransition, if_pos]
    by_contra short
    simp [Operation.plan.temperaturePlan, short] at planless
  cases operation with
  | recallScene target durationMs =>
      rw [perform, recallScene, if_pos]
      by_contra short
      simp [Operation.plan, short] at planless
  | setLevel value withOnOff => exact congrArg done (level planless)
  | setLevelTransition value withOnOff durationMs => exact congrArg done (level planless)
  | setLevelRate value withOnOff durationMs => exact congrArg done (level planless)
  | setTemperature value => exact congrArg done (temperature planless)
  | setTemperatureTransition value durationMs => exact congrArg done (temperature planless)
  | setTemperatureRate value durationMs => exact congrArg done (temperature planless)
  | request target => cases planless
  | setPower on => cases planless
  | offWithEffect effect => cases planless
  | stopLevelTransition => cases planless
  | stopTemperatureTransition => cases planless
  | _ => cases command

/-- What a command answers that changes nothing. -/
def Idles (r : Runtime K H) (operation : Operation) (answer : Except ErrorCode Reply) : Prop :=
  r.outcome operation = answer ∧ r.after operation = r

theorem idles_of_planless {r : Runtime K H} {operation : Operation}
    (command : operation.isCommand = true) (planless : operation.plan H = none) :
    r.Idles operation (.error .constraintError) := by
  have ends : Ends (perform operation) r fun result t => result = .error .constraintError ∧ t = r := by
    rw [perform_planless command planless]
    exact ⟨rfl, rfl⟩
  exact ends

/-- A planner that plans nothing leaves a settled runtime as it is. -/
theorem idles_of_unplanned {r : Runtime K H} (settled : Settled r.state) {operation : Operation}
    {planner : Planner H} (planning : operation.plan H = some planner)
    {answer : Except ErrorCode Reply}
    (unplanned : (planner r.state r.now = .ok none ∧ answer = .ok .done) ∨
      ∃ code, planner r.state r.now = .error code ∧ answer = .error code) :
    r.Idles operation answer := by
  have ends : Ends (perform operation) r fun result t => result = answer ∧ t = r := by
    rw [perform_planned planning]
    simp only [done, planned, writable, ends_bind, ends_read]
    rw [if_neg (by simp [settled.healthy.1]), if_neg (by simp [settled.healthy.2.1])]
    rcases unplanned with ⟨declined, rfl⟩ | ⟨code, refused, rfl⟩
    · simp [declined]
    · simp [refused]
  exact ends

/-! ### One command -/

/-- Two calm runtimes at the same time whose lights are the same. -/
structure Matched (r t : Runtime K H) : Prop where
  calm : Calm r ∧ Calm t
  settled : Settled r.state ∧ Settled t.state
  time : t.now = r.now
  target : t.state.target = r.state.target
  level : t.state.levelTransition = r.state.levelTransition
  temperature : t.state.temperatureTransition = r.state.temperatureTransition

omit [KvBlobStore K] [Hardware H] in
/-- A calm runtime that knows its output acknowledges what the tracks call for. -/
theorem calm_frame {r : Runtime K H} (calm : Calm r) (settled : Settled r.state) :
    r.state.controller.appliedFrame = some (r.state.effective r.now) := by
  obtain ⟨frame, known⟩ := Option.ne_none_iff_exists'.mp settled.known
  rw [known, calm.shows frame known]

omit [KvBlobStore K] [Hardware H] in
theorem Matched.like {r t : Runtime K H} (matched : Matched r t) : r.state.Like t.state := by
  refine ⟨matched.target, matched.level, matched.temperature, ?_⟩
  rw [calm_frame matched.calm.1 matched.settled.1, calm_frame matched.calm.2 matched.settled.2,
    matched.time, State.effective_congr matched.target matched.level matched.temperature]

omit [KvBlobStore K] [Hardware H] in
theorem Matched.stopsLit {r t : Runtime K H} (matched : Matched r t) {operation : Operation}
    (lit : r.StopsLit operation) : t.StopsLit operation := by
  cases operation with
  | stopLevelTransition =>
      unfold StopsLit at lit ⊢
      rw [matched.level, matched.temperature, matched.like.frame]
      exact lit
  | _ => trivial

/-- Matched runtimes answer a command alike, and stay matched. -/
theorem Matched.command {r t : Runtime K H} (matched : Matched r t) {operation : Operation}
    (command : operation.isCommand = true) (lit : r.StopsLit operation)
    (quiet : r.Quiet operation ∧ t.Quiet operation) :
    t.outcome operation = r.outcome operation ∧ Matched (r.after operation) (t.after operation) := by
  have calm := And.intro (matched.calm.1.after lit) (matched.calm.2.after (matched.stopsLit lit))
  have idle : ∀ answer, r.Idles operation answer → t.Idles operation answer →
      t.outcome operation = r.outcome operation ∧
        Matched (r.after operation) (t.after operation) := by
    rintro answer ⟨answered, kept⟩ ⟨answers, keeps⟩
    rw [answered, answers, kept, keeps]
    exact ⟨rfl, matched⟩
  cases planning : operation.plan H with
  | none => exact idle _ (idles_of_planless command planning) (idles_of_planless command planning)
  | some planner =>
      have same : planner t.state t.now = planner r.state r.now := by
        rw [matched.time]
        exact Operation.plan_congr matched.like planning r.now
      cases answer : planner r.state r.now with
      | error code =>
          exact idle (.error code)
            (idles_of_unplanned matched.settled.1 planning (.inr ⟨code, answer, rfl⟩))
            (idles_of_unplanned matched.settled.2 planning (.inr ⟨code, same.trans answer, rfl⟩))
      | ok planned =>
          cases planned with
          | none =>
              exact idle (.ok .done)
                (idles_of_unplanned matched.settled.1 planning (.inl ⟨answer, rfl⟩))
                (idles_of_unplanned matched.settled.2 planning (.inl ⟨same.trans answer, rfl⟩))
          | some plan =>
              obtain ⟨answered, glided⟩ :=
                after_glides matched.settled.1 ⟨planner, planning, answer⟩ quiet.1
              obtain ⟨answers, glides⟩ :=
                after_glides matched.settled.2 ⟨planner, planning, same.trans answer⟩ quiet.2
              have level := glides.level
              have temperature := glides.temperature
              rw [matched.time] at level temperature
              exact ⟨answers.trans answered.symm, calm, ⟨glided.settled, glides.settled⟩,
                glides.time.trans (matched.time.trans glided.time.symm),
                glides.target.trans glided.target.symm, level.trans glided.level.symm,
                temperature.trans glided.temperature.symm⟩

/-! ### Ticks -/

omit [KvBlobStore K] [Hardware H] in
theorem filter_filter_ended {α : Type} (track : Option α) {early late : α → Nat}
    (ends : ∀ value, early value = 0 → late value = 0) :
    (track.filter fun value => early value ≠ 0).filter (fun value => late value ≠ 0) =
      track.filter fun value => late value ≠ 0 := by
  cases track with
  | none => rfl
  | some value =>
      by_cases ended : early value = 0
      · simp [Option.filter, ended, ends value ended]
      · simp [Option.filter, ended]

omit [KvBlobStore K] [Hardware H] in
/-- What has ended at a time has ended later. -/
theorem expire_expire (s : State H) {now later : Nat} (passed : now ≤ later) :
    ((s.expire now).expire later).levelTransition = (s.expire later).levelTransition ∧
      ((s.expire now).expire later).temperatureTransition =
        (s.expire later).temperatureTransition := by
  constructor
  · refine filter_filter_ended s.levelTransition fun track ended => ?_
    rw [LevelTransition.remaining_eq_zero] at ended ⊢
    omega
  · refine filter_filter_ended s.temperatureTransition fun track ended => ?_
    rw [TemperatureTransition.remaining, Transition.remaining_eq_zero] at ended ⊢
    omega

/-- Ticks that end at `now`, however many, leave what the tracks come to at that time. -/
structure Expired (r : Runtime K H) (now : Nat) (t : Runtime K H) : Prop where
  settled : Settled t.state
  time : t.now = now
  target : t.state.target = r.state.target
  level : t.state.levelTransition = (r.state.expire now).levelTransition
  temperature : t.state.temperatureTransition = (r.state.expire now).temperatureTransition

theorem run_ticks_expire {r : Runtime K H} (settled : Settled r.state) {idle : List Nat} {now : Nat}
    (before : ∀ time ∈ idle, time ≤ now)
    (quiet : Along Runtime.after Quiet r ((idle ++ [now]).map .tick)) :
    Expired r now (run r ((idle ++ [now]).map .tick)) := by
  induction idle generalizing r with
  | nil =>
      have glided := after_tick_glides settled quiet.1
      exact ⟨glided.settled, glided.time, glided.target, glided.level, glided.temperature⟩
  | cons time rest inductionHypothesis =>
      have glided := after_tick_glides settled quiet.1
      have expired := inductionHypothesis glided.settled
        (fun moment member => before moment (List.mem_cons_of_mem _ member)) quiet.2
      have ended := expire_expire r.state (before time List.mem_cons_self)
      refine ⟨expired.settled, expired.time, expired.target.trans glided.target, ?_, ?_⟩
      · refine expired.level.trans (Eq.trans ?_ ended.1)
        rw [State.expire, State.expire, glided.level]
      · refine expired.temperature.trans (Eq.trans ?_ ended.2)
        rw [State.expire, State.expire, glided.temperature]

end

end Runtime

/-! ### Schedules -/

/-- Some commands at a time, after a tick at that time and any earlier ticks. -/
structure Visit where
  idle : List Nat
  time : Nat
  commands : List Operation

namespace Visit

def operations (visit : Visit) : List Operation :=
  (visit.idle ++ [visit.time]).map .tick ++ visit.commands

/-- The visit without its earlier ticks. -/
def prompt (visit : Visit) : Visit := { visit with idle := [] }

/-- The earlier ticks are earlier, and the commands are commands. -/
structure Sound (visit : Visit) : Prop where
  before : ∀ time ∈ visit.idle, time ≤ visit.time
  commands : ∀ operation ∈ visit.commands, operation.isCommand = true

instance (visit : Visit) : Decidable visit.Sound :=
  decidable_of_iff
    ((∀ time ∈ visit.idle, time ≤ visit.time) ∧
      ∀ operation ∈ visit.commands, operation.isCommand = true)
    ⟨fun both => ⟨both.1, both.2⟩, fun sound => ⟨sound.before, sound.commands⟩⟩

end Visit

def schedule (visits : List Visit) : List Operation := visits.flatMap Visit.operations

namespace Runtime

variable [KvBlobStore K] [Hardware H]

/-- The commands of a run with their answers. -/
def answers : Runtime K H → List Operation → List (Operation × Except ErrorCode Reply)
  | _, [] => []
  | r, operation :: rest =>
      if operation.isCommand then
        (operation, r.outcome operation) :: answers (r.after operation) rest
      else answers (r.after operation) rest

theorem run_append (r : Runtime K H) (first second : List Operation) :
    r.run (first ++ second) = (r.run first).run second := runAll_append _ _ _ _

theorem answers_append (r : Runtime K H) (first second : List Operation) :
    r.answers (first ++ second) = r.answers first ++ (r.run first).answers second := by
  induction first generalizing r with
  | nil => rfl
  | cons operation rest inductionHypothesis =>
      simp only [List.cons_append, answers, inductionHypothesis, run, runAll_cons]
      split
      · rfl
      · rfl

theorem answers_ticks (r : Runtime K H) (times : List Nat) : r.answers (times.map .tick) = [] := by
  induction times generalizing r with
  | nil => rfl
  | cons now rest inductionHypothesis => exact inductionHypothesis (r.after (.tick now))

/-- Matched runtimes answer commands alike, and stay matched. -/
theorem Matched.commands {r t : Runtime K H} (matched : Matched r t) {operations : List Operation}
    (commands : ∀ operation ∈ operations, operation.isCommand = true)
    (lit : Along Runtime.after StopsLit r operations)
    (quiet : Along Runtime.after Quiet r operations ∧ Along Runtime.after Quiet t operations) :
    t.answers operations = r.answers operations ∧ Matched (r.run operations) (t.run operations) := by
  induction operations generalizing r t with
  | nil => exact ⟨rfl, matched⟩
  | cons operation rest inductionHypothesis =>
      have command := commands operation List.mem_cons_self
      obtain ⟨answered, next⟩ := matched.command command lit.1 ⟨quiet.1.1, quiet.2.1⟩
      obtain ⟨answers_, last⟩ := inductionHypothesis next
        (fun other member => commands other (List.mem_cons_of_mem _ member)) lit.2
        ⟨quiet.1.2, quiet.2.2⟩
      refine ⟨?_, last⟩
      rw [answers, answers, if_pos command, if_pos command, answered, answers_]

/-- Ticks between the commands leave no mark. -/
theorem Matched.ticks {r t : Runtime K H} (matched : Matched r t) {idle : List Nat} {now : Nat}
    (before : ∀ time ∈ idle, time ≤ now)
    (quiet : Along Runtime.after Quiet r ((idle ++ [now]).map .tick))
    (prompt : Along Runtime.after Quiet t ([now].map .tick)) :
    Matched (r.run ((idle ++ [now]).map .tick)) (t.run ([now].map .tick)) := by
  have lit : ∀ (u : Runtime K H) (times : List Nat),
      Along Runtime.after StopsLit u (times.map .tick) := by
    intro u times
    refine Along.of_inputs (fun state operation member => ?_) u
    obtain ⟨time, _, rfl⟩ := List.mem_map.mp member
    trivial
  have expired := run_ticks_expire matched.settled.1 before quiet
  have expires := run_ticks_expire matched.settled.2
    (show ∀ time ∈ ([] : List Nat), time ≤ now from nofun) prompt
  refine ⟨⟨matched.calm.1.run (lit r _), matched.calm.2.run (lit t _)⟩,
    ⟨expired.settled, expires.settled⟩, expires.time.trans expired.time.symm, ?_, ?_, ?_⟩
  · exact expires.target.trans (matched.target.trans expired.target.symm)
  · refine expires.level.trans (Eq.trans ?_ expired.level.symm)
    rw [State.expire, State.expire, matched.level]
  · refine expires.temperature.trans (Eq.trans ?_ expired.temperature.symm)
    rw [State.expire, State.expire, matched.temperature]

theorem Matched.visit {r t : Runtime K H} (matched : Matched r t) {visit : Visit} (sound : visit.Sound)
    (lit : Along Runtime.after StopsLit r visit.operations)
    (quiet : Along Runtime.after Quiet r visit.operations ∧
      Along Runtime.after Quiet t visit.prompt.operations) :
    t.answers visit.prompt.operations = r.answers visit.operations ∧
      Matched (r.run visit.operations) (t.run visit.prompt.operations) := by
  obtain ⟨quiet, prompt⟩ := quiet
  obtain ⟨quietTicks, quietCommands⟩ := Along.append.mp quiet
  obtain ⟨promptTick, promptCommands⟩ := Along.append.mp prompt
  have ticked := matched.ticks sound.before quietTicks promptTick
  have next := ticked.commands sound.commands (Along.append.mp lit).2
    ⟨quietCommands, promptCommands⟩
  unfold Visit.operations
  rw [answers_append, answers_append, answers_ticks, answers_ticks, run_append, run_append]
  exact next

theorem Matched.visits {r t : Runtime K H} (matched : Matched r t) {visits : List Visit}
    (sound : ∀ visit ∈ visits, visit.Sound)
    (lit : Along Runtime.after StopsLit r (schedule visits))
    (quiet : Along Runtime.after Quiet r (schedule visits) ∧
      Along Runtime.after Quiet t (schedule (visits.map Visit.prompt))) :
    t.answers (schedule (visits.map Visit.prompt)) = r.answers (schedule visits) ∧
      Matched (r.run (schedule visits)) (t.run (schedule (visits.map Visit.prompt))) := by
  induction visits generalizing r t with
  | nil => exact ⟨rfl, matched⟩
  | cons visit rest inductionHypothesis =>
      simp only [schedule, List.map_cons, List.flatMap_cons] at lit quiet ⊢
      obtain ⟨litVisit, litRest⟩ := Along.append.mp lit
      obtain ⟨quietVisit, quietRest⟩ := Along.append.mp quiet.1
      obtain ⟨promptVisit, promptRest⟩ := Along.append.mp quiet.2
      obtain ⟨answered, next⟩ :=
        matched.visit (sound visit List.mem_cons_self) litVisit ⟨quietVisit, promptVisit⟩
      obtain ⟨answeredRest, last⟩ := inductionHypothesis next
        (fun other member => sound other (List.mem_cons_of_mem _ member)) litRest
        ⟨quietRest, promptRest⟩
      rw [answers_append, answers_append, run_append, run_append, answered]
      exact ⟨congrArg _ answeredRest, last⟩

end Runtime

end KeyRight.App
