import KeyRight.Support.Channel
import Mathlib.Algebra.BigOperators.Group.List.Basic
import Mathlib.Data.UInt

/-!
Owns the queue between the tasks of the image and the host on USB: any task logs without
waiting, the console task sends its replies, and one task writes to the host what is queued.

The main results say that what is queued reaches the host whole, once and in order, and that
every refused log is announced. Does not own what the tasks log, or the texts of the replies.
-/

namespace KeyRight.App

open KeyRight.Support

namespace UsbOutput

/-! ### Texts -/

def utf8 (text : String) : List UInt8 := text.toByteArray.data.toList

/-- A text of at most so many bytes. -/
structure Text (capacity : Nat) where
  bytes : List UInt8
  bounded : bytes.length ≤ capacity
  deriving DecidableEq

namespace Text

variable {capacity : Nat}

def empty : Text capacity := ⟨[], Nat.zero_le _⟩

/-- A piece goes in whole or not at all. -/
def pushStr (text : Text capacity) (piece : List UInt8) : Option (Text capacity) :=
  if room : text.bytes.length + piece.length ≤ capacity then
    some ⟨text.bytes ++ piece, by
      rw [List.length_append]
      exact room⟩
  else none

/-- The pieces of a formatted text, up to the first that does not fit. -/
def write (text : Text capacity) : List (List UInt8) → Text capacity
  | [] => text
  | piece :: rest =>
      match text.pushStr piece with
      | some extended => extended.write rest
      | none => text

theorem write_of_room {text : Text capacity} {pieces : List (List UInt8)}
    (room : text.bytes.length + pieces.flatten.length ≤ capacity) :
    (text.write pieces).bytes = text.bytes ++ pieces.flatten := by
  induction pieces generalizing text with
  | nil => exact (List.append_nil _).symm
  | cons piece rest inductionHypothesis =>
      rw [List.flatten_cons, List.length_append] at room
      have fits : text.bytes.length + piece.length ≤ capacity := by omega
      simp only [write, pushStr, fits, dif_pos]
      rw [inductionHypothesis (by rw [List.length_append]; omega), List.flatten_cons,
        List.append_assoc]

end Text

abbrev Line : Type := Text 1024

structure Record where
  line : Line
  flush : Bool

def NEWLINE : UInt8 := 10

/-- How many milliseconds a flushed reply waits for the host. -/
def FLUSH_TIMEOUT_MS : Nat := 1000

/-! ### Logging -/

inductive LogLevel where
  | error | warn | info | debug | trace
  deriving DecidableEq

namespace LogLevel

def text : LogLevel → String
  | error => "ERROR"
  | warn => "WARN"
  | info => "INFO"
  | debug => "DEBUG"
  | trace => "TRACE"

/-- The more verbose the greater. -/
def verbosity : LogLevel → Nat
  | error => 1
  | warn => 2
  | info => 3
  | debug => 4
  | trace => 5

end LogLevel

def enabled (level : LogLevel) (target : String) : Bool :=
  level.verbosity ≤ LogLevel.info.verbosity && target != "rs_matter"

/-- The line of a log whose arguments format as these pieces. -/
def logLine (level : LogLevel) (arguments : List (List UInt8)) : Line :=
  Text.empty.write (utf8 "[" :: utf8 level.text :: utf8 "] " :: arguments)

/-- What the writer puts before a line when logs were refused since the last one. -/
def notice (dropped : UInt32) : List UInt8 :=
  if dropped = 0 then []
  else
    (Text.empty.write [utf8 "[WARN] USB logs dropped: ", utf8 dropped.toNat.repr, [NEWLINE]] :
      Text 64).bytes

theorem length_utf8_repr {number size : Nat} (positive : 0 < size) (small : number < 10 ^ size) :
    (utf8 number.repr).length ≤ size := by
  have digits : ∀ c ∈ Nat.toDigits 10 number, (String.utf8EncodeChar c).length = 1 := by
    intro c member
    have digit : c.isDigit := Nat.isDigit_of_mem_toDigits (by decide) (Nat.le_refl 10) member
    simp only [Char.isDigit, Bool.and_eq_true, decide_eq_true_eq] at digit
    rw [String.length_utf8EncodeChar, Char.utf8Size_eq_one_iff]
    exact UInt32.le_trans digit.2 (by decide)
  have bytes : (utf8 number.repr).length = (Nat.toDigits 10 number).length := by
    rw [utf8, Nat.repr_eq_ofList_toDigits, String.toByteArray_ofList, List.utf8Encode,
      List.data_toByteArray, List.length_flatMap, List.map_congr_left digits, List.map_const',
      List.sum_replicate_nat, Nat.mul_one]
  rw [bytes]
  exact (Nat.length_toDigits_le_iff (by decide) positive).mpr small

/-- A notice is never cut. -/
theorem notice_of_dropped {dropped : UInt32} (some : dropped ≠ 0) :
    notice dropped =
      utf8 "[WARN] USB logs dropped: " ++ utf8 dropped.toNat.repr ++ [NEWLINE] := by
  have digits : (utf8 dropped.toNat.repr).length ≤ 10 :=
    length_utf8_repr (by decide) (Nat.lt_trans dropped.toNat_lt (by decide))
  have label : (utf8 "[WARN] USB logs dropped: ").length = 25 := by decide +kernel
  rw [notice, if_neg some, Text.write_of_room]
  · simp only [Text.empty, List.flatten_cons, List.flatten_nil, List.append_nil, List.nil_append,
      List.append_assoc]
  · simp only [Text.empty, List.length_nil, List.flatten_cons, List.flatten_nil, List.length_append,
      label, List.length_cons]
    omega

/-! ### The tasks -/

/-- Where the writer stands in its loop. -/
inductive Writer where
  | receiving
  /-- The count of refused logs is not yet read. -/
  | received (record : Record)
  /-- The bytes that are not yet written. -/
  | writing (rest : List UInt8) (record : Record)
  /-- The line of a record that asks to be flushed. -/
  | flushing (line : Line)

/-- Where the one task that sends replies stands. -/
inductive PendingCall where
  | idle
  | response (line : Line)
  /-- A flushed reply that waits for room. -/
  | sending (line : Line) (deadline : Nat)
  | flushing (deadline : Nat)
  deriving DecidableEq

/-- How a call ended. -/
inductive Return where
  | sent
  | flushed
  | timedOut
  deriving DecidableEq

end UsbOutput

structure UsbOutput where
  lines : Channel UsbOutput.Record 16
  dropped : UInt32
  totalDropped : UInt32
  flushed : Bool
  writer : UsbOutput.Writer
  call : UsbOutput.PendingCall

namespace UsbOutput

def boot : UsbOutput := ⟨Channel.empty, 0, 0, false, .receiving, .idle⟩

inductive Event where
  /-- Any task logs. -/
  | log (level : LogLevel) (target : String) (arguments : List (List UInt8))
  | response (now : Nat) (line : Line)
  | responseAndFlush (now : Nat) (line : Line)
  /-- The task that sends replies looks whether its call has ended. -/
  | poll (now : Nat)
  /-- The writer goes on; where it writes, the host takes at most so many bytes. -/
  | writer (count : Nat)

/-- What an event did. -/
structure Effects where
  accepted : List Record := []
  refused : List Record := []
  /-- The records that the writer began, each with the count of refused logs that it read. -/
  begun : List (Record × UInt32) := []
  written : List UInt8 := []
  /-- The records that the writer is done with. -/
  transmitted : List Record := []
  returned : List Return := []

variable (u : UsbOutput)

def log (level : LogLevel) (target : String) (arguments : List (List UInt8)) : UsbOutput × Effects :=
  if enabled level target then
    let record : Record := ⟨logLine level arguments, false⟩
    match u.lines.trySend record with
    | some lines => ({ u with lines }, { accepted := [record] })
    | none =>
        ({ u with dropped := u.dropped + 1, totalDropped := u.totalDropped + 1 },
          { refused := [record] })
  else (u, {})

/-- The end of the call of a flushed reply: the signal is looked at before the time. -/
def awaitFlushed (now deadline : Nat) : UsbOutput × Effects :=
  if u.flushed then ({ u with flushed := false, call := .idle }, { returned := [.flushed] })
  else if deadline ≤ now then ({ u with call := .idle }, { returned := [.timedOut] })
  else ({ u with call := .flushing deadline }, {})

def poll (now : Nat) : UsbOutput × Effects :=
  match u.call with
  | .idle => (u, {})
  | .response line =>
      match u.lines.trySend ⟨line, false⟩ with
      | some lines =>
          ({ u with lines, call := .idle }, { accepted := [⟨line, false⟩], returned := [.sent] })
      | none => (u, {})
  | .sending line deadline =>
      match u.lines.trySend ⟨line, true⟩ with
      | some lines =>
          let ended := awaitFlushed { u with lines } now deadline
          (ended.1, { ended.2 with accepted := [⟨line, true⟩] })
      | none =>
          if deadline ≤ now then ({ u with call := .idle }, { returned := [.timedOut] }) else (u, {})
  | .flushing deadline => u.awaitFlushed now deadline

/-- The task calls only when its last call has ended. -/
def response (now : Nat) (line : Line) : UsbOutput × Effects :=
  match u.call with
  | .idle => poll { u with call := .response line } now
  | _ => (u, {})

def responseAndFlush (now : Nat) (line : Line) : UsbOutput × Effects :=
  match u.call with
  | .idle => poll { u with flushed := false, call := .sending line (now + FLUSH_TIMEOUT_MS) } now
  | _ => (u, {})

def writerTask (count : Nat) : UsbOutput × Effects :=
  match u.writer with
  | .receiving =>
      match u.lines.tryReceive with
      | some (record, lines) => ({ u with lines, writer := .received record }, {})
      | none => (u, {})
  | .received record =>
      ({ u with
          dropped := 0
          writer := .writing (notice u.dropped ++ record.line.bytes ++ [NEWLINE]) record },
        { begun := [(record, u.dropped)] })
  | .writing rest record =>
      match rest.drop count with
      | [] =>
          if record.flush then ({ u with writer := .flushing record.line }, { written := rest })
          else ({ u with writer := .receiving }, { written := rest, transmitted := [record] })
      | byte :: others =>
          ({ u with writer := .writing (byte :: others) record }, { written := rest.take count })
  | .flushing line =>
      ({ u with flushed := true, writer := .receiving }, { transmitted := [⟨line, true⟩] })

def step : Event → UsbOutput × Effects
  | .log level target arguments => u.log level target arguments
  | .response now line => u.response now line
  | .responseAndFlush now line => u.responseAndFlush now line
  | .poll now => u.poll now
  | .writer count => u.writerTask count

/-! ### The senders -/

/-- What a step of any task but the writer does: it may put records behind those that are
queued, and it counts what it could not put there. -/
structure Sends (result : UsbOutput × Effects) : Prop where
  writer : result.1.writer = u.writer
  lines : result.1.lines.items = u.lines.items ++ result.2.accepted
  dropped : result.1.dropped = u.dropped + UInt32.ofNat result.2.refused.length
  totalDropped : result.1.totalDropped = u.totalDropped + UInt32.ofNat result.2.refused.length
  begun : result.2.begun = []
  written : result.2.written = []
  transmitted : result.2.transmitted = []

variable {u}

theorem Sends.quiet {result : UsbOutput × Effects} (writer : result.1.writer = u.writer)
    (lines : result.1.lines.items = u.lines.items ++ result.2.accepted)
    (dropped : result.1.dropped = u.dropped) (totalDropped : result.1.totalDropped = u.totalDropped)
    (refused : result.2.refused = []) (begun : result.2.begun = [])
    (written : result.2.written = []) (transmitted : result.2.transmitted = []) :
    u.Sends result where
  writer := writer
  lines := lines
  dropped := by rw [dropped, refused]; exact (UInt32.add_zero _).symm
  totalDropped := by rw [totalDropped, refused]; exact (UInt32.add_zero _).symm
  begun := begun
  written := written
  transmitted := transmitted

theorem sends_log (level : LogLevel) (target : String) (arguments : List (List UInt8)) :
    u.Sends (u.log level target arguments) := by
  unfold log
  split
  · dsimp only
    split
    · next lines sent => exact .quiet rfl (Channel.items_of_trySend sent) rfl rfl rfl rfl rfl rfl
    · exact ⟨rfl, (List.append_nil _).symm, rfl, rfl, rfl, rfl, rfl⟩
  · exact .quiet rfl (List.append_nil _).symm rfl rfl rfl rfl rfl rfl

theorem sends_awaitFlushed (now deadline : Nat) : u.Sends (u.awaitFlushed now deadline) := by
  unfold awaitFlushed
  split
  · exact .quiet rfl (List.append_nil _).symm rfl rfl rfl rfl rfl rfl
  · split <;> exact .quiet rfl (List.append_nil _).symm rfl rfl rfl rfl rfl rfl

theorem sends_poll (now : Nat) : u.Sends (u.poll now) := by
  unfold poll
  split
  · exact .quiet rfl (List.append_nil _).symm rfl rfl rfl rfl rfl rfl
  · split
    · next lines sent => exact .quiet rfl (Channel.items_of_trySend sent) rfl rfl rfl rfl rfl rfl
    · exact .quiet rfl (List.append_nil _).symm rfl rfl rfl rfl rfl rfl
  · split
    · next line deadline _ _ lines sent =>
        have queued : lines.items = u.lines.items ++ [⟨line, true⟩] := Channel.items_of_trySend sent
        unfold awaitFlushed
        split
        · exact .quiet rfl queued rfl rfl rfl rfl rfl rfl
        · split <;> exact .quiet rfl queued rfl rfl rfl rfl rfl rfl
    · split <;> exact .quiet rfl (List.append_nil _).symm rfl rfl rfl rfl rfl rfl
  · exact sends_awaitFlushed _ _

theorem sends_response (now : Nat) (line : Line) : u.Sends (u.response now line) := by
  unfold response
  split
  · obtain ⟨writer, lines, dropped, totalDropped, begun, written, transmitted⟩ :=
      sends_poll now (u := { u with call := .response line })
    exact ⟨writer, lines, dropped, totalDropped, begun, written, transmitted⟩
  · exact .quiet rfl (List.append_nil _).symm rfl rfl rfl rfl rfl rfl

theorem sends_responseAndFlush (now : Nat) (line : Line) : u.Sends (u.responseAndFlush now line) := by
  unfold responseAndFlush
  split
  · obtain ⟨writer, lines, dropped, totalDropped, begun, written, transmitted⟩ :=
      sends_poll now
        (u := { u with flushed := false, call := .sending line (now + FLUSH_TIMEOUT_MS) })
    exact ⟨writer, lines, dropped, totalDropped, begun, written, transmitted⟩
  · exact .quiet rfl (List.append_nil _).symm rfl rfl rfl rfl rfl rfl

/-- Every step is one of the writer's or a sender's. -/
theorem step_cases (event : Event) :
    (∃ count, event = .writer count) ∨ u.Sends (u.step event) := by
  cases event with
  | log level target arguments => exact .inr (sends_log level target arguments)
  | response now line => exact .inr (sends_response now line)
  | responseAndFlush now line => exact .inr (sends_responseAndFlush now line)
  | poll now => exact .inr (sends_poll now)
  | writer count => exact .inl ⟨count, rfl⟩

/-! ### In order -/

/-- The record that the writer has taken from the queue and is not done with. -/
def Writer.held : Writer → List Record
  | receiving => []
  | received record => [record]
  | writing _ record => [record]
  | flushing line => [⟨line, true⟩]

theorem Writer.receiving_of_held {writer : Writer} (free : writer.held = []) :
    writer = .receiving := by
  cases writer with
  | receiving => rfl
  | received record => cases free
  | writing rest record => cases free
  | flushing line => cases free

/-- The part of it that the writer has begun. -/
def Writer.begun : Writer → List Record
  | writing _ record => [record]
  | flushing line => [⟨line, true⟩]
  | _ => []

def Writer.unwritten : Writer → List UInt8
  | writing rest _ => rest
  | _ => []

/-- What is queued or with the writer, the oldest first. -/
def outstanding (u : UsbOutput) : List Record := u.writer.held ++ u.lines.items

/-- What the host reads for a record. -/
def rendered (entry : Record × UInt32) : List UInt8 :=
  notice entry.2 ++ entry.1.line.bytes ++ [NEWLINE]

theorem Record.eta_of_flush {record : Record} (flush : record.flush = true) :
    ⟨record.line, true⟩ = record := by
  rw [← flush]

theorem step_hands_records_on : HandsOn step outstanding Effects.accepted Effects.transmitted := by
  intro u event
  rcases step_cases (u := u) event with ⟨count, rfl⟩ | sends
  · simp only [step, writerTask, outstanding]
    split
    · split
      · next writer _ record lines received =>
          simp [Writer.held, writer, Channel.items_of_tryReceive received]
      · simp
    · next writer => simp [Writer.held, writer]
    · next rest record writer =>
        split
        · split
          · next flush => simp [Writer.held, writer, Record.eta_of_flush flush]
          · simp [Writer.held, writer]
        · simp [Writer.held, writer]
    · next writer => simp [Writer.held, writer]
  · simp [outstanding, sends.writer, sends.lines, sends.transmitted]

/-- The host has read, in order, the records that the writer is done with, and a part of the
one that it has begun. -/
structure Wrote (u : UsbOutput) (begun : List (Record × UInt32)) (transmitted : List Record)
    (written : List UInt8) : Prop where
  split : ∃ done current part, begun = done ++ current ∧
    done.map Prod.fst = transmitted ∧ current.map Prod.fst = u.writer.begun ∧
    written = done.flatMap rendered ++ part ∧
    part ++ u.writer.unwritten = current.flatMap rendered

theorem Wrote.step {begun : List (Record × UInt32)} {transmitted : List Record}
    {written : List UInt8} (wrote : u.Wrote begun transmitted written) (event : Event) :
    (u.step event).1.Wrote (begun ++ (u.step event).2.begun)
      (transmitted ++ (u.step event).2.transmitted) (written ++ (u.step event).2.written) := by
  rcases step_cases (u := u) event with ⟨count, rfl⟩ | sends
  · obtain ⟨done, current, part, begunEq, doneEq, currentEq, writtenEq, partEq⟩ := wrote
    simp only [UsbOutput.step, writerTask]
    split
    · next writer =>
        simp only [writer, Writer.begun, Writer.unwritten] at currentEq partEq
        split <;> refine ⟨done, current, part, ?_, ?_, ?_, ?_, ?_⟩ <;>
          simp_all [Writer.begun, Writer.unwritten]
    · next record writer =>
        simp only [writer, Writer.begun, Writer.unwritten, List.map_eq_nil_iff] at currentEq partEq
        subst currentEq
        refine ⟨done, [(record, u.dropped)], [], ?_, ?_, ?_, ?_, ?_⟩ <;>
          simp_all [Writer.begun, Writer.unwritten, rendered]
    · next rest record writer =>
        simp only [writer, Writer.begun, Writer.unwritten] at currentEq partEq
        split
        · split
          · next flush =>
              refine ⟨done, current, part ++ rest, ?_, ?_, ?_, ?_, ?_⟩ <;>
                simp_all [Writer.begun, Writer.unwritten, Record.eta_of_flush flush]
          · refine ⟨done ++ current, [], [], ?_, ?_, ?_, ?_, ?_⟩ <;>
              simp_all [Writer.begun, Writer.unwritten]
        · next byte others left =>
            refine ⟨done, current, part ++ rest.take count, ?_, ?_, ?_, ?_, ?_⟩ <;>
              simp_all [Writer.begun, Writer.unwritten]
            rw [← left, List.take_append_drop]
            exact partEq
    · next line writer =>
        simp only [writer, Writer.begun, Writer.unwritten] at currentEq partEq
        refine ⟨done ++ current, [], [], ?_, ?_, ?_, ?_, ?_⟩ <;>
          simp_all [Writer.begun, Writer.unwritten]
  · rw [sends.begun, sends.transmitted, sends.written, List.append_nil, List.append_nil,
      List.append_nil]
    obtain ⟨split⟩ := wrote
    exact ⟨by rw [sends.writer]; exact split⟩

/-! ### What was refused -/

/-- Every refused log is counted, and either announced or still to be. -/
structure Counts (u : UsbOutput) (refused : List Record) (begun : List (Record × UInt32)) : Prop where
  total : u.totalDropped = UInt32.ofNat refused.length
  announced : (begun.map Prod.snd).sum + u.dropped = u.totalDropped

theorem Counts.step {refused : List Record} {begun : List (Record × UInt32)}
    (counts : u.Counts refused begun) (event : Event) :
    (u.step event).1.Counts (refused ++ (u.step event).2.refused)
      (begun ++ (u.step event).2.begun) := by
  obtain ⟨total, announced⟩ := counts
  rcases step_cases (u := u) event with ⟨count, rfl⟩ | sends
  · simp only [UsbOutput.step, writerTask]
    split
    · split <;> exact ⟨by simpa using total, by simpa using announced⟩
    · next writer =>
        refine ⟨by simpa using total, ?_⟩
        simpa [List.sum_append] using announced
    · split
      · split <;> exact ⟨by simpa using total, by simpa using announced⟩
      · exact ⟨by simpa using total, by simpa using announced⟩
    · exact ⟨by simpa using total, by simpa using announced⟩
  · refine ⟨?_, ?_⟩
    · rw [sends.totalDropped, total, List.length_append, UInt32.ofNat_add]
    · rw [sends.begun, List.append_nil, sends.dropped, sends.totalDropped, ← announced,
        UInt32.add_assoc]

/-! ### Whole runs -/

theorem run_wrote (events : List Event) :
    (stateAfter step boot events).Wrote (yielded step Effects.begun boot events)
      (yielded step Effects.transmitted boot events) (yielded step Effects.written boot events) := by
  induction events using List.reverseRecOn with
  | nil => exact ⟨[], [], [], rfl, rfl, rfl, rfl, rfl⟩
  | append_singleton events event inductionHypothesis =>
      simp only [yielded_concat, stateAfter_concat]
      exact inductionHypothesis.step event

theorem run_counts (events : List Event) :
    (stateAfter step boot events).Counts (yielded step Effects.refused boot events)
      (yielded step Effects.begun boot events) := by
  induction events using List.reverseRecOn with
  | nil => exact ⟨rfl, rfl⟩
  | append_singleton events event inductionHypothesis =>
      simp only [yielded_concat, stateAfter_concat]
      exact inductionHypothesis.step event

/-- An enabled log is queued, or refused by a full queue. -/
theorem log_of_enabled {level : LogLevel} {target : String} (on : enabled level target = true)
    (arguments : List (List UInt8)) :
    (u.log level target arguments).2.accepted = [⟨logLine level arguments, false⟩] ∨
      (u.log level target arguments).2.refused = [⟨logLine level arguments, false⟩] ∧
        u.lines.items.length = 16 := by
  simp only [log, on, if_true]
  split
  · exact .inl rfl
  · next refused => exact .inr ⟨rfl, Channel.full_of_trySend refused⟩

/-- However the tasks interleave, what the queue accepts is transmitted in the order in which it
was accepted, each record once; the host has read exactly the transmitted records, each whole,
and a part of the next; every enabled log is accepted, or refused by a full queue; and every
refused log is counted, and announced with the next record that is begun. -/
theorem delivers_in_order (events : List Event) :
    yielded step Effects.accepted boot events =
      yielded step Effects.transmitted boot events ++ (stateAfter step boot events).outstanding ∧
    (stateAfter step boot events).Wrote (yielded step Effects.begun boot events)
      (yielded step Effects.transmitted boot events) (yielded step Effects.written boot events) ∧
    (stateAfter step boot events).Counts (yielded step Effects.refused boot events)
      (yielded step Effects.begun boot events) ∧
    ∀ level target arguments, enabled level target = true →
      ((stateAfter step boot events).log level target arguments).2.accepted =
        [⟨logLine level arguments, false⟩] ∨
      ((stateAfter step boot events).log level target arguments).2.refused =
        [⟨logLine level arguments, false⟩] ∧ (stateAfter step boot events).lines.items.length = 16 :=
  ⟨step_hands_records_on.run_of_empty rfl events, run_wrote events, run_counts events,
    fun _ _ arguments on => log_of_enabled on arguments⟩

end UsbOutput

end KeyRight.App
