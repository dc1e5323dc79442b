import KeyRight.App.Bench
import KeyRight.App.Console
import KeyRight.App.Intent
import KeyRight.App.Target

/-!
Owns the task that reads the USB console while the other tasks of the image run: it takes the
bytes of one read after the other, and between two bytes any other task may call the runtime
or change the network. So may they while the reply of a line is on its way to the host: no
byte is taken then, and only when the reply is out, or its time is over, is the controller
reset or the executor stalled.

The main results say that the task handles the lines of what it has read, each once and in
order, and that the runtime is where a run of the operations leads that the lines and the
other tasks ask for. Does not own what a line asks for, or the queue of its replies.
-/

namespace KeyRight.App

open KeyRight.Core KeyRight.Support

/-- A finished line that the task has handled. -/
structure HandledLine where
  line : Option ConsoleLine
  answer : ConsoleAnswer

/-- The operation of the runtime that a line asks for. -/
def ConsoleLine.operation (line : ConsoleLine) : Option Operation :=
  (ConsoleRequest.parse line.chars).operation

def HandledLine.operation (handled : HandledLine) : Option Operation :=
  handled.line.bind ConsoleLine.operation

/-- Where the task stands. -/
inductive ConsolePhase where
  | reading
  /-- It waits for its call of `response` or `response_and_flush`. -/
  | replying (answer : ConsoleAnswer)
  /-- The controller was reset, or the task never yields again: no task runs any more. -/
  | halted

/-- The answer whose reply is on its way. -/
def ConsolePhase.waiting : ConsolePhase → List ConsoleAnswer
  | replying answer => [answer]
  | _ => []

/-- Where the task stands once the reply is out. -/
def ConsoleAnswer.replied : ConsoleAnswer → ConsolePhase
  | .resets _ => .halted
  | .stalls _ => .halted
  | _ => .reading

structure UsbConsole (K H : Type) where
  /-- The rest of the bytes of the last read. -/
  unread : List UInt8
  pending : PendingLine
  shared : Console K H
  phase : ConsolePhase

namespace UsbConsole

variable {K H : Type}

def start (shared : Console K H) : UsbConsole K H := ⟨[], default, shared, .reading⟩

inductive Event where
  | read (bytes : List UInt8)
  /-- The next byte is taken. -/
  | next (context : ConsoleContext)
  /-- The call that sends the reply returns. -/
  | replied
  | operation (operation : Operation)
  | network (now : Nat) (event : Network.Event)

/-- What an event did. -/
inductive Effect where
  | nothing
  | received (bytes : List UInt8)
  | handled (line : HandledLine)
  | replied (answer : ConsoleAnswer)
  | performed (operation : Operation)

variable [KvBlobStore K] [Hardware H]

/-- The end of a line. The source clears the line once the reply is out; no byte is taken before
that. -/
def handle (texts : ConsoleTexts) (context : ConsoleContext) (rest : List UInt8)
    (u : UsbConsole K H) : UsbConsole K H × Effect :=
  let line := u.pending.finish
  let (shared, answer) := u.shared.handle texts context line
  (⟨rest, default, shared, .replying answer⟩, .handled ⟨line, answer⟩)

/-- What the task does with the next byte. -/
def take (texts : ConsoleTexts) (context : ConsoleContext) (u : UsbConsole K H) :
    UsbConsole K H × Effect :=
  match u.unread with
  | [] => (u, .nothing)
  | byte :: rest =>
      if byte = NEWLINE then u.handle texts context rest
      else ({ u with unread := rest, pending := u.pending.push byte }, .nothing)

def step (texts : ConsoleTexts) (u : UsbConsole K H) (event : Event) : UsbConsole K H × Effect :=
  match u.phase, event with
  | .halted, _ => (u, .nothing)
  | .reading, .read bytes =>
      if u.unread = [] then ({ u with unread := bytes }, .received bytes) else (u, .nothing)
  | .reading, .next context => u.take texts context
  | .replying answer, .replied => ({ u with phase := answer.replied }, .replied answer)
  | _, .operation operation =>
      ({ u with shared := u.shared.operated operation }, .performed operation)
  | _, .network now event =>
      ({ u with shared := { u.shared with network := u.shared.network.after (now, event) } },
        .nothing)
  | _, _ => (u, .nothing)

/-! ### What a run did -/

def Effect.bytes : Effect → List UInt8
  | .received bytes => bytes
  | _ => []

def Effect.line : Effect → Option HandledLine
  | .handled line => some line
  | _ => none

def Effect.reply : Effect → Option ConsoleAnswer
  | .replied answer => some answer
  | _ => none

def Effect.operation : Effect → Option Operation
  | .handled line => line.operation
  | .performed operation => some operation
  | _ => none

variable (texts : ConsoleTexts) (u : UsbConsole K H)

/-- The effects of a run, in order. -/
def effects (events : List Event) : List Effect := (transcript (step texts) u events).map Prod.snd

/-- All that was read. -/
def received (events : List Event) : List UInt8 := (u.effects texts events).flatMap Effect.bytes

def handledLines (events : List Event) : List HandledLine :=
  (u.effects texts events).filterMap Effect.line

/-- The answers whose replies are out. -/
def replies (events : List Event) : List ConsoleAnswer :=
  (u.effects texts events).filterMap Effect.reply

/-- The operations that the lines and the other tasks made, in the order in which they ran. -/
def operations (events : List Event) : List Operation :=
  (u.effects texts events).filterMap Effect.operation

variable {texts u}

theorem effects_concat (events : List Event) (event : Event) :
    u.effects texts (events ++ [event]) =
      u.effects texts events ++ [(step texts (stateAfter (step texts) u events) event).2] := by
  rw [effects, transcript_concat, List.map_append]
  rfl

theorem received_concat (events : List Event) (event : Event) :
    u.received texts (events ++ [event]) = u.received texts events ++
      (step texts (stateAfter (step texts) u events) event).2.bytes := by
  rw [received, effects_concat, List.flatMap_append, List.flatMap_singleton, received]

theorem handledLines_concat (events : List Event) (event : Event) :
    u.handledLines texts (events ++ [event]) = u.handledLines texts events ++
      (step texts (stateAfter (step texts) u events) event).2.line.toList := by
  rw [handledLines, effects_concat, List.filterMap_append]
  rfl

theorem replies_concat (events : List Event) (event : Event) :
    u.replies texts (events ++ [event]) = u.replies texts events ++
      (step texts (stateAfter (step texts) u events) event).2.reply.toList := by
  rw [replies, effects_concat, List.filterMap_append]
  rfl

theorem operations_concat (events : List Event) (event : Event) :
    u.operations texts (events ++ [event]) = u.operations texts events ++
      (step texts (stateAfter (step texts) u events) event).2.operation.toList := by
  rw [operations, effects_concat, List.filterMap_append]
  rfl

end UsbConsole

/-! ### One line -/

namespace Console

variable {K H : Type} [KvBlobStore K] [Hardware H] {texts : ConsoleTexts} {context : ConsoleContext}

/-- A request reaches the runtime by its operation only. -/
theorem answer_runtime (c : Console K H) (request : ConsoleRequest) :
    (c.answer texts context request).1.runtime =
      request.operation.elim c.runtime c.runtime.after := by
  cases request with
  | testWifi =>
      simp only [answer]
      split
      · rfl
      · split <;> rfl
  | testNetwork =>
      simp only [answer]
      split <;> rfl
  | testWatchdog =>
      simp only [answer]
      split <;> rfl
  | level value => cases value <;> rfl
  | temperature value => cases value <;> rfl
  | _ => rfl

theorem handle_runtime (c : Console K H) (line : Option ConsoleLine) :
    (c.handle texts context line).1.runtime =
      (line.bind ConsoleLine.operation).elim c.runtime c.runtime.after := by
  cases line with
  | none => rfl
  | some line => exact c.answer_runtime _

end Console

/-! ### Asking for On -/

/-- The words of the lines that ask for On. -/
def ON_WORDS : List (List String) := [["on"], ["on", "1"], ["on", "2"], ["on1"], ["on2"]]

namespace ConsoleRequest

theorem words_of_on {words : List String} (asks : ofWords words = .on ∨ ∃ which, ofWords words = .preset which) :
    words ∈ ON_WORDS := by
  unfold ofWords at asks
  split at asks <;> simp_all [ON_WORDS]

/-- The first words of a line decide nothing once it is not a test or a reboot. -/
theorem words_of_parse {text : List Char} (asks : parse text = .on ∨ ∃ which, parse text = .preset which) :
    splitWords text ∈ ON_WORDS := by
  unfold parse at asks
  split at asks
  · simp at asks
  split at asks
  · simp at asks
  split at asks
  · simp at asks
  split at asks
  · simp at asks
  · exact words_of_on asks

/-- No other request lights a light that is intended Off. -/
theorem asks_of_lit {K H : Type} [KvBlobStore K] [Hardware H] {r : Runtime K H}
    {request : ConsoleRequest} {operation : Operation} (asks : request.operation = some operation)
    (dark : r.state.target.on = false) (lit : (r.after operation).state.target.on = true) :
    request = .on ∨ ∃ which, request = .preset which := by
  rw [Runtime.after_target] at lit
  have planless : operation.plan H = none → ¬operation.IsTick → operation ≠ .off → False := by
    intro planless untimed other
    rw [Runtime.nextTarget_eq untimed other, Runtime.plannedTarget_of_planless planless, dark] at lit
    cases lit
  have unlit : operation.Unlit → ¬operation.IsTick → operation ≠ .off → False := by
    intro unlit untimed other
    rw [Runtime.nextTarget_eq untimed other] at lit
    rcases r.plannedTarget_cases operation with same | ⟨plan, _, asked, planned⟩
    · rw [same, dark] at lit
      cases lit
    · rw [planned, (unlit.plan asked.asked).1, dark] at lit
      cases lit
  cases request with
  | on => exact .inl rfl
  | preset which => exact .inr ⟨which, rfl⟩
  | level value =>
      cases value with
      | none => cases asks
      | some value =>
          cases asks
          exact (unlit rfl nofun nofun).elim
  | temperature value =>
      cases value with
      | none => cases asks
      | some value =>
          cases asks
          exact (unlit trivial nofun nofun).elim
  | off =>
      cases asks
      cases lit
  | verify =>
      cases asks
      exact (planless rfl nofun nofun).elim
  | registers =>
      cases asks
      exact (planless rfl nofun nofun).elim
  | reboot =>
      cases asks
      exact (planless rfl nofun nofun).elim
  | testWatchdog =>
      cases asks
      exact (planless rfl nofun nofun).elim
  | _ => cases asks

end ConsoleRequest

namespace UsbConsole

variable {K H : Type} [KvBlobStore K] [Hardware H] {texts : ConsoleTexts} {u : UsbConsole K H}

/-! ### One step -/

/-- What a step can do. -/
inductive StepCases (texts : ConsoleTexts) (u : UsbConsole K H) (event : Event) : Prop where
  | quiet (pending : (step texts u event).1.pending = u.pending)
      (runtime : (step texts u event).1.shared.runtime = u.shared.runtime)
      (unread : (step texts u event).1.unread = u.unread ++ (step texts u event).2.bytes)
      (line : (step texts u event).2.line = none)
      (operation : (step texts u event).2.operation = none)
  | performed (operation : Operation) (asked : event = .operation operation)
      (steps : step texts u event =
        ({ u with shared := u.shared.operated operation }, .performed operation))
  | pushed (byte : UInt8) (rest : List UInt8) (unread : u.unread = byte :: rest)
      (inside : byte ≠ NEWLINE)
      (steps : step texts u event =
        ({ u with unread := rest, pending := u.pending.push byte }, .nothing))
  | handled (context : ConsoleContext) (rest : List UInt8) (unread : u.unread = NEWLINE :: rest)
      (steps : step texts u event = u.handle texts context rest)

theorem StepCases.still {event : Event} (steps : step texts u event = (u, .nothing)) :
    StepCases texts u event := by
  refine .quiet ?_ ?_ ?_ ?_ ?_ <;> rw [steps]
  · exact (List.append_nil _).symm
  · rfl
  · rfl

theorem step_cases (texts : ConsoleTexts) (u : UsbConsole K H) (event : Event) :
    StepCases texts u event := by
  cases phase : u.phase with
  | halted => exact .still (by simp only [step, phase])
  | reading =>
      cases event with
      | read bytes =>
          by_cases drained : u.unread = []
          · have steps : step texts u (.read bytes) = ({ u with unread := bytes }, .received bytes) := by
              simp only [step, phase, drained, if_true]
            refine .quiet ?_ ?_ ?_ ?_ ?_ <;> rw [steps]
            · rw [drained]
              rfl
            · rfl
            · rfl
          · exact .still (by simp only [step, phase, drained, if_false])
      | next context =>
          have steps : step texts u (.next context) = u.take texts context := by
            simp only [step, phase]
          cases rest : u.unread with
          | nil => exact .still (by rw [steps, take, rest])
          | cons byte others =>
              by_cases newline : byte = NEWLINE
              · subst newline
                refine .handled context others rest ?_
                rw [steps, take, rest]
                rfl
              · refine .pushed byte others rest newline ?_
                rw [steps, take, rest]
                exact if_neg newline
      | replied => exact .still (by simp only [step, phase])
      | operation operation => exact .performed operation rfl (by simp only [step, phase])
      | network now event =>
          refine .quiet ?_ ?_ ?_ ?_ ?_ <;> simp [step, phase, Effect.bytes, Effect.line, Effect.operation]
  | replying answer =>
      cases event with
      | replied =>
          refine .quiet ?_ ?_ ?_ ?_ ?_ <;> simp [step, phase, Effect.bytes, Effect.line, Effect.operation]
      | operation operation => exact .performed operation rfl (by simp only [step, phase])
      | network now event =>
          refine .quiet ?_ ?_ ?_ ?_ ?_ <;> simp [step, phase, Effect.bytes, Effect.line, Effect.operation]
      | read bytes => exact .still (by simp only [step, phase])
      | next context => exact .still (by simp only [step, phase])

/-! ### Lines in order -/

/-- These bytes of what it read are what the task has handled and holds. -/
structure Consumed (texts : ConsoleTexts) (u : UsbConsole K H) (events : List Event)
    (bytes : List UInt8) : Prop where
  received : u.received texts events = bytes ++ (stateAfter (step texts) u events).unread
  fed : consoleReader.feed NEWLINE default bytes =
    ((stateAfter (step texts) u events).pending,
      (u.handledLines texts events).map HandledLine.line)

theorem Consumed.concat {events : List Event} {bytes : List UInt8}
    (consumed : Consumed texts u events bytes) (event : Event) :
    ∃ more, Consumed texts u (events ++ [event]) more := by
  obtain ⟨received, fed⟩ := consumed
  generalize state : stateAfter (step texts) u events = before at received fed
  have stepped : stateAfter (step texts) u (events ++ [event]) = (step texts before event).1 := by
    rw [stateAfter_concat, state]
  have reads : u.received texts (events ++ [event]) =
      u.received texts events ++ (step texts before event).2.bytes := by
    rw [received_concat, state]
  have handles : u.handledLines texts (events ++ [event]) =
      u.handledLines texts events ++ (step texts before event).2.line.toList := by
    rw [handledLines_concat, state]
  -- A step that takes no byte leaves what the task has handled and holds.
  have idle : (step texts before event).2.line = none →
      (step texts before event).1.pending = before.pending →
      (step texts before event).1.unread = before.unread ++ (step texts before event).2.bytes →
      Consumed texts u (events ++ [event]) bytes := by
    intro quiet held rest
    refine ⟨?_, ?_⟩
    · rw [reads, received, List.append_assoc, stepped, rest]
    · rw [stepped, held, handles, quiet, fed]
      simp only [Option.toList_none, List.append_nil]
  rcases step_cases texts before event with
    ⟨pending, _, unread, line, _⟩ | ⟨operation, _, steps⟩ | ⟨byte, rest, unread, inside, steps⟩ |
      ⟨context, rest, unread, steps⟩
  · exact ⟨bytes, idle line pending unread⟩
  · refine ⟨bytes, idle ?_ ?_ ?_⟩ <;> rw [steps]
    · rfl
    · exact (List.append_nil _).symm
  · refine ⟨bytes ++ [byte], ?_, ?_⟩
    · rw [reads, received, stepped, steps, unread]
      simp [Effect.bytes]
    · rw [LineReader.feed_append, fed, stepped, handles, steps]
      simp [Effect.line, LineReader.feed, consoleReader, inside]
  · refine ⟨bytes ++ [NEWLINE], ?_, ?_⟩
    · rw [reads, received, stepped, steps, unread]
      simp [UsbConsole.handle, Effect.bytes]
    · rw [LineReader.feed_append, fed, stepped, handles, steps]
      simp [UsbConsole.handle, Effect.line, LineReader.feed, consoleReader]

variable (texts u)

theorem exists_consumed (shared : Console K H) (events : List Event) :
    ∃ bytes, Consumed texts (start shared) events bytes := by
  induction events using List.reverseRecOn with
  | nil => exact ⟨[], rfl, rfl⟩
  | append_singleton events event inductionHypothesis =>
      obtain ⟨bytes, consumed⟩ := inductionHypothesis
      exact consumed.concat event

/-! ### One run of the runtime -/

theorem step_runtime (event : Event) :
    (step texts u event).1.shared.runtime =
      (step texts u event).2.operation.elim u.shared.runtime u.shared.runtime.after := by
  rcases step_cases texts u event with
    ⟨_, runtime, _, _, operation⟩ | ⟨operation, _, steps⟩ | ⟨byte, rest, _, _, steps⟩ |
      ⟨context, rest, _, steps⟩
  · rw [runtime, operation]
    rfl
  · rw [steps]
    rfl
  · rw [steps]
    rfl
  · rw [steps]
    exact u.shared.handle_runtime _

/-- Whatever the tasks do in turn, the runtime is where one run of their operations leads. -/
theorem runtime_eq (events : List Event) :
    (stateAfter (step texts) u events).shared.runtime =
      u.shared.runtime.run (u.operations texts events) := by
  induction events using List.reverseRecOn with
  | nil => rfl
  | append_singleton events event inductionHypothesis =>
      rw [stateAfter_concat, step_runtime, inductionHypothesis, operations_concat, Runtime.run,
        Runtime.run, runAll_append]
      cases (step texts (stateAfter (step texts) u events) event).2.operation <;> rfl

variable {u}

theorem step_waiting (event : Event) :
    u.phase.waiting ++ (step texts u event).2.line.toList.map HandledLine.answer =
      (step texts u event).2.reply.toList ++ (step texts u event).1.phase.waiting := by
  cases phase : u.phase with
  | halted => simp [step, phase, ConsolePhase.waiting, Effect.line, Effect.reply]
  | reading =>
      cases event with
      | read bytes =>
          simp only [step, phase]
          split <;> simp [phase, ConsolePhase.waiting, Effect.line, Effect.reply]
      | next context =>
          simp only [step, phase, take]
          split
          · simp [phase, ConsolePhase.waiting, Effect.line, Effect.reply]
          · split
            · simp [handle, ConsolePhase.waiting, Effect.line, Effect.reply]
            · simp [ConsolePhase.waiting, Effect.line, Effect.reply]
      | _ => simp [step, phase, ConsolePhase.waiting, Effect.line, Effect.reply]
  | replying answer =>
      cases event with
      | replied => cases answer <;>
          simp [step, phase, ConsoleAnswer.replied, ConsolePhase.waiting, Effect.line, Effect.reply]
      | _ => simp [step, phase, ConsolePhase.waiting, Effect.line, Effect.reply]

/-- The reply to a line is out before the next line is handled. -/
theorem replies_in_turn (shared : Console K H) (events : List Event) :
    ((start shared).handledLines texts events).map HandledLine.answer =
      (start shared).replies texts events ++
        (stateAfter (step texts) (start shared) events).phase.waiting := by
  induction events using List.reverseRecOn with
  | nil => rfl
  | append_singleton events event inductionHypothesis =>
      have turn := step_waiting texts (u := stateAfter (step texts) (start shared) events) event
      rw [handledLines_concat, List.map_append, inductionHypothesis, replies_concat,
        stateAfter_concat, List.append_assoc, turn, List.append_assoc]

/-- The task handles exactly the lines of the bytes that it has taken, each once and in order,
and each after the reply to the one before is out; it holds the unfinished one; and the runtime
is where a run of the operations of the lines and the other tasks leads. -/
theorem handles_each_line_once (shared : Console K H) (events : List Event) :
    (∃ taken,
      (start shared).received texts events =
        taken ++ (stateAfter (step texts) (start shared) events).unread ∧
      ((start shared).handledLines texts events).map HandledLine.line =
        (lines NEWLINE taken).map ConsoleLine.ofBytes ∧
      (stateAfter (step texts) (start shared) events).pending.finish =
        ConsoleLine.ofBytes (unfinished NEWLINE taken)) ∧
    ((start shared).handledLines texts events).map HandledLine.answer =
      (start shared).replies texts events ++
        (stateAfter (step texts) (start shared) events).phase.waiting ∧
    (stateAfter (step texts) (start shared) events).shared.runtime =
      shared.runtime.run ((start shared).operations texts events) := by
  refine ⟨?_, replies_in_turn texts shared events, runtime_eq texts (start shared) events⟩
  obtain ⟨taken, received, fed⟩ := exists_consumed texts shared events
  have read : _ = _ := (consoleReader.feed_eq taken).symm.trans fed
  obtain ⟨pending, handled⟩ := Prod.mk.inj read
  refine ⟨taken, received, ?_, ?_⟩
  · rw [← handled]
    exact List.map_congr_left fun line _ => PendingLine.finish_foldl line
  · rw [← pending]
    exact PendingLine.finish_foldl _

/-! ### Waking -/

variable {texts} in
theorem performed_of_step {event : Event} {operation : Operation}
    (performed : (step texts u event).2 = .performed operation) : event = .operation operation := by
  rcases step_cases texts u event with
    ⟨_, _, _, _, quiet⟩ | ⟨other, asked, steps⟩ | ⟨byte, rest, _, _, steps⟩ | ⟨context, rest, _, steps⟩
  · rw [performed] at quiet
    cases quiet
  · rw [steps] at performed
    cases performed
    exact asked
  · rw [steps] at performed
    cases performed
  · rw [steps] at performed
    cases performed

/-- Where a run that starts with the light intended Off finds it intended On, some step turned
it on: an operation of another task, or a line whose words ask for On. -/
theorem lit_by_a_line_or_a_task (dark : u.shared.runtime.state.target.on = false)
    {events : List Event}
    (lit : (stateAfter (step texts) u events).shared.runtime.state.target.on = true) :
    ∃ earlier event, earlier ++ [event] <+: events ∧
      (stateAfter (step texts) u earlier).shared.runtime.state.target.on = false ∧
      (stateAfter (step texts) u (earlier ++ [event])).shared.runtime.state.target.on = true ∧
      ((∃ operation, event = .operation operation) ∨
        ∃ line answer, (step texts (stateAfter (step texts) u earlier) event).2 =
          .handled ⟨some line, answer⟩ ∧ splitWords line.chars ∈ ON_WORDS) := by
  induction events using List.reverseRecOn with
  | nil => exact absurd (dark.symm.trans lit) Bool.false_ne_true
  | append_singleton events event inductionHypothesis =>
      cases before : (stateAfter (step texts) u events).shared.runtime.state.target.on with
      | true =>
          obtain ⟨earlier, first, part, rest⟩ := inductionHypothesis before
          exact ⟨earlier, first, part.trans (List.prefix_append _ _), rest⟩
      | false =>
          refine ⟨events, event, List.prefix_refl _, before, lit, ?_⟩
          rw [stateAfter_concat, step_runtime] at lit
          generalize stateAfter (step texts) u events = state at before lit
          have operated : (step texts state event).2.operation ≠ none := by
            intro none
            rw [none] at lit
            exact absurd (before.symm.trans lit) Bool.false_ne_true
          cases effect : (step texts state event).2 with
          | performed operation => exact .inl ⟨operation, performed_of_step effect⟩
          | handled handled =>
              obtain ⟨line, answer⟩ := handled
              rw [effect] at operated lit
              cases line with
              | none => exact (operated rfl).elim
              | some line =>
                  refine .inr ⟨line, answer, rfl, ConsoleRequest.words_of_parse ?_⟩
                  cases asks : line.operation with
                  | none => exact (operated asks).elim
                  | some operation =>
                      simp only [Effect.operation, HandledLine.operation, Option.bind_some, asks,
                        Option.elim_some] at lit
                      exact ConsoleRequest.asks_of_lit asks before lit
          | _ =>
              rw [effect] at operated
              exact (operated rfl).elim

/-- A console of the bench image, which names nothing. -/
def bench : UsbConsole MemoryStore SimulatedOutput := start ⟨Runtime.bench none, Network.boot⟩

def benchTexts : ConsoleTexts := ⟨"", fun _ => "", fun _ _ _ _ => "", "", ""⟩

/-- The line `on`, read at once and taken byte by byte. -/
def benchEvents : List Event :=
  .read [0x6f, 0x6e, CARRIAGE_RETURN, NEWLINE] :: List.replicate 4 (.next ⟨false, .ok ()⟩)

theorem lit_on_the_bench :
    ∃ earlier event, earlier ++ [event] <+: benchEvents ∧
      (stateAfter (step benchTexts) bench earlier).shared.runtime.state.target.on = false ∧
      (stateAfter (step benchTexts) bench (earlier ++ [event])).shared.runtime.state.target.on = true ∧
      ((∃ operation, event = .operation operation) ∨
        ∃ line answer, (step benchTexts (stateAfter (step benchTexts) bench earlier) event).2 =
          .handled ⟨some line, answer⟩ ∧ splitWords line.chars ∈ ON_WORDS) :=
  lit_by_a_line_or_a_task benchTexts (by decide +kernel) (by decide +kernel)

end UsbConsole

end KeyRight.App
