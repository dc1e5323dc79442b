import KeyRight.App.UsbOutput

/-!
Owns what the queue promises to those that wait for the host on USB: the call of a flushed
reply, which ends by the signal of the writer or by its time, and the writer left alone.

The main results say that a reply that is answered by the signal has reached the host, and that
the writer alone brings all that is queued to the host and answers the call.
-/

namespace KeyRight.App.UsbOutput

open KeyRight.Support

variable {u : UsbOutput}

/-! ### Flushed replies -/

/-- The records that ask to be flushed. -/
def flushes (records : List Record) : List Record := records.filter Record.flush

/-- A step leaves the call, but for those of the task that makes it. -/
theorem call_of_log (level : LogLevel) (target : String) (arguments : List (List UInt8)) :
    (u.log level target arguments).1.call = u.call ∧
      (u.log level target arguments).1.flushed = u.flushed ∧
      (u.log level target arguments).2.returned = [] ∧
      flushes (u.log level target arguments).2.accepted = [] := by
  unfold log
  split
  · dsimp only
    split <;> exact ⟨rfl, rfl, rfl, rfl⟩
  · exact ⟨rfl, rfl, rfl, rfl⟩

theorem response_of_active (active : u.call ≠ .idle) (now : Nat) (line : Line) :
    u.response now line = (u, {}) := by
  unfold response
  split
  · next idle => exact absurd idle active
  · rfl

theorem responseAndFlush_of_active (active : u.call ≠ .idle) (now : Nat) (line : Line) :
    u.responseAndFlush now line = (u, {}) := by
  unfold responseAndFlush
  split
  · next idle => exact absurd idle active
  · rfl

theorem writer_signals (count : Nat) :
    (u.writerTask count).1.call = u.call ∧ (u.writerTask count).2.accepted = [] ∧
      (u.writerTask count).2.returned = [] ∧
      (u.writerTask count).1.flushed =
        (u.flushed || (u.writerTask count).2.transmitted.any Record.flush) := by
  unfold writerTask
  split
  · split <;> simp
  · simp
  · split
    · split
      · simp
      · next flush => simp [flush]
    · simp
  · simp

theorem any_flush_of_flushes {records : List Record} (none : flushes records = []) :
    records.any Record.flush = false := by
  rw [List.any_eq_false]
  exact fun record member => List.filter_eq_nil_iff.mp none record member

theorem any_flush_of_mem {records : List Record} {line : Line}
    (member : ⟨line, true⟩ ∈ flushes records) : records.any Record.flush = true :=
  List.any_eq_true.mpr ⟨_, List.mem_of_mem_filter member, rfl⟩

/-- The flushed records are handed on in order too. -/
theorem step_hands_flushes_on (event : Event) :
    flushes u.outstanding ++ flushes (u.step event).2.accepted =
      flushes (u.step event).2.transmitted ++ flushes (u.step event).1.outstanding := by
  simp only [flushes, ← List.filter_append]
  exact congrArg _ (step_hands_records_on u event)

theorem flushes_log (level : LogLevel) (target : String) (arguments : List (List UInt8)) :
    flushes (u.log level target arguments).1.outstanding = flushes u.outstanding := by
  have handed := step_hands_flushes_on (u := u) (.log level target arguments)
  obtain ⟨_, _, _, accepted⟩ := call_of_log (u := u) level target arguments
  have kept : (u.log level target arguments).2.transmitted = [] :=
    (sends_log level target arguments).transmitted
  simp only [step, accepted, kept, List.append_nil] at handed
  exact handed.symm

/-- Where the call of a flushed reply stands, before which no other was outstanding, once these
records were transmitted. -/
inductive Underway (line : Line) (u : UsbOutput) (transmitted : List Record) : Prop where
  | sending (deadline : Nat) (call : u.call = .sending line deadline)
      (unsignalled : u.flushed = false) (none : flushes u.outstanding = [])
  | queued (deadline : Nat) (call : u.call = .flushing deadline)
      (unsignalled : u.flushed = false) (one : flushes u.outstanding = [⟨line, true⟩])
  | signalled (deadline : Nat) (call : u.call = .flushing deadline)
      (signal : u.flushed = true) (none : flushes u.outstanding = [])
      (reached : ⟨line, true⟩ ∈ transmitted)

namespace Underway

variable {line : Line} {transmitted : List Record}

theorem active (underway : Underway line u transmitted) : u.call ≠ .idle := by
  intro idle
  cases underway with
  | sending deadline call => rw [idle] at call; cases call
  | queued deadline call => rw [idle] at call; cases call
  | signalled deadline call => rw [idle] at call; cases call

theorem logged (underway : Underway line u transmitted) (level : LogLevel) (target : String)
    (arguments : List (List UInt8)) :
    Underway line (u.step (.log level target arguments)).1 transmitted := by
  obtain ⟨callEq, flushedEq, _⟩ := call_of_log (u := u) level target arguments
  have same : flushes (u.step (.log level target arguments)).1.outstanding = flushes u.outstanding :=
    flushes_log level target arguments
  cases underway with
  | sending deadline call unsignalled none =>
      exact .sending deadline (callEq.trans call) (flushedEq.trans unsignalled) (same.trans none)
  | queued deadline call unsignalled one =>
      exact .queued deadline (callEq.trans call) (flushedEq.trans unsignalled) (same.trans one)
  | signalled deadline call signal none reached =>
      exact .signalled deadline (callEq.trans call) (flushedEq.trans signal) (same.trans none)
        reached

theorem written (underway : Underway line u transmitted) (count : Nat) :
    Underway line (u.step (.writer count)).1
      (transmitted ++ (u.step (.writer count)).2.transmitted) := by
  obtain ⟨callEq, accepted, _, flushedEq⟩ := writer_signals (u := u) count
  have handed := step_hands_flushes_on (u := u) (.writer count)
  have split : flushes u.outstanding = flushes (u.writerTask count).2.transmitted ++
      flushes (u.writerTask count).1.outstanding := by
    have quiet : flushes (u.step (.writer count)).2.accepted = [] := by
      rw [show (u.step (.writer count)).2.accepted = [] from accepted]
      rfl
    rw [quiet, List.append_nil] at handed
    exact handed
  cases underway with
  | sending deadline call unsignalled none =>
      obtain ⟨quiet, none⟩ := List.append_eq_nil_iff.mp (split.symm.trans none)
      refine .sending deadline (callEq.trans call) (flushedEq.trans ?_) none
      rw [unsignalled, any_flush_of_flushes quiet, Bool.or_false]
  | queued deadline call unsignalled one =>
      -- The record is still outstanding, or the writer is done with it and signals.
      rcases List.append_eq_singleton_iff.mp (split.symm.trans one) with
        ⟨quiet, one⟩ | ⟨done, none⟩
      · refine .queued deadline (callEq.trans call) (flushedEq.trans ?_) one
        rw [unsignalled, any_flush_of_flushes quiet, Bool.or_false]
      · have member : ⟨line, true⟩ ∈ flushes (u.writerTask count).2.transmitted := by
          rw [done]
          exact List.mem_singleton_self _
        refine .signalled deadline (callEq.trans call) (flushedEq.trans ?_) none
          (List.mem_append_right _ (List.mem_of_mem_filter member))
        rw [any_flush_of_mem member, Bool.or_true]
  | signalled deadline call signal none reached =>
      obtain ⟨_, none⟩ := List.append_eq_nil_iff.mp (split.symm.trans none)
      refine .signalled deadline (callEq.trans call) (flushedEq.trans ?_) none
        (List.mem_append_left _ reached)
      rw [signal, Bool.true_or]

/-- A look at the call leaves it, or ends it; the signal ends it only once the record was
transmitted. -/
theorem polled (underway : Underway line u transmitted) (now : Nat) :
    (Underway line (u.poll now).1 transmitted ∧ (u.poll now).2.returned = []) ∨
      (u.poll now).1.call = .idle ∧
        ((u.poll now).2.returned = [.flushed] → ⟨line, true⟩ ∈ transmitted) := by
  cases underway with
  | sending deadline call unsignalled none =>
      simp only [poll, call]
      split
      · next lines sent =>
          simp only [awaitFlushed, unsignalled, Bool.false_eq_true, if_false]
          split
          · exact .inr ⟨rfl, fun flushed => by cases flushed⟩
          · refine .inl ⟨.queued deadline rfl rfl ?_, rfl⟩
            simp only [outstanding, Channel.items_of_trySend sent]
            rw [← List.append_assoc, flushes, List.filter_append]
            exact (congrArg (· ++ [(⟨line, true⟩ : Record)]) none).trans (List.nil_append _)
      · split
        · exact .inr ⟨rfl, fun flushed => by cases flushed⟩
        · exact .inl ⟨.sending deadline call unsignalled none, rfl⟩
  | queued deadline call unsignalled one =>
      simp only [poll, call, awaitFlushed, unsignalled, Bool.false_eq_true, if_false]
      split
      · exact .inr ⟨rfl, fun flushed => by cases flushed⟩
      · exact .inl ⟨.queued deadline rfl rfl one, rfl⟩
  | signalled deadline call signal none reached =>
      simp only [poll, call, awaitFlushed, signal, if_true]
      exact .inr ⟨trivial, fun _ => reached⟩

theorem after (underway : Underway line u transmitted) (event : Event) :
    (Underway line (u.step event).1 (transmitted ++ (u.step event).2.transmitted) ∧
        (u.step event).2.returned = []) ∨
      (u.step event).1.call = .idle ∧ ((u.step event).2.returned = [.flushed] →
        ⟨line, true⟩ ∈ transmitted ++ (u.step event).2.transmitted) := by
  cases event with
  | log level target arguments =>
      have quiet : (u.step (.log level target arguments)).2.transmitted = [] :=
        (sends_log level target arguments).transmitted
      rw [quiet, List.append_nil]
      exact .inl ⟨underway.logged level target arguments, (call_of_log level target arguments).2.2.1⟩
  | response now other =>
      simp only [step, response_of_active underway.active, List.append_nil]
      exact .inl ⟨underway, trivial⟩
  | responseAndFlush now other =>
      simp only [step, responseAndFlush_of_active underway.active, List.append_nil]
      exact .inl ⟨underway, trivial⟩
  | poll now =>
      have quiet : (u.step (.poll now)).2.transmitted = [] := (sends_poll now).transmitted
      rw [quiet, List.append_nil]
      exact underway.polled now
  | writer count => exact .inl ⟨underway.written count, (writer_signals count).2.2.1⟩

end Underway

theorem underway_of_call (idle : u.call = .idle) (settled : flushes u.outstanding = [])
    (now : Nat) (line : Line) (active : (u.step (.responseAndFlush now line)).1.call ≠ .idle) :
    Underway line (u.step (.responseAndFlush now line)).1 [] := by
  simp only [step, responseAndFlush, idle] at active ⊢
  let called : UsbOutput :=
    { u with flushed := false, call := .sending line (now + FLUSH_TIMEOUT_MS) }
  have underway : Underway line called [] := .sending _ rfl rfl settled
  rcases underway.polled now with ⟨after, _⟩ | ⟨ended, _⟩
  · exact after
  · exact absurd ended active

/-- The call is not idle in any state of a run in which an event happens. -/
abbrev Calling (u : UsbOutput) (events : List Event) : Prop :=
  Along (fun state event => (step state event).1) (fun state _ => state.call ≠ .idle) u events

theorem Underway.along {line : Line} (underway : Underway line u []) {events : List Event}
    {next : Event} (calling : u.Calling (events ++ [next])) :
    Underway line (stateAfter step u events) (yielded step Effects.transmitted u events) := by
  induction events using List.reverseRecOn generalizing next with
  | nil => exact underway
  | append_singleton events event inductionHypothesis =>
      obtain ⟨before, still, _⟩ := Along.append.mp calling
      rw [stateAfter_concat, yielded_concat]
      rcases (inductionHypothesis before).after event with ⟨after, _⟩ | ⟨ended, _⟩
      · exact after
      · refine absurd ?_ still
        change (stateAfter step u (events ++ [event])).call = .idle
        rw [stateAfter_concat]
        exact ended

/-- A flushed reply that is answered by the signal, and not by the time, has reached the host,
whatever the other tasks did meanwhile, provided that no earlier one was outstanding when its
call began. -/
theorem flushed_reply_reached (idle : u.call = .idle)
    (settled : ∀ record ∈ u.outstanding, record.flush = false) (now : Nat) (line : Line)
    {events : List Event} {event : Event}
    (calling : Calling (u.step (.responseAndFlush now line)).1 (events ++ [event]))
    (answered : ((stateAfter step (u.step (.responseAndFlush now line)).1 events).step
      event).2.returned = [.flushed]) :
    ⟨line, true⟩ ∈ yielded step Effects.transmitted (u.step (.responseAndFlush now line)).1
      (events ++ [event]) := by
  have none : flushes u.outstanding = [] :=
    List.filter_eq_nil_iff.mpr fun record member => by rw [settled record member]; exact Bool.false_ne_true
  have active : (u.step (.responseAndFlush now line)).1.call ≠ .idle := by
    cases events with
    | nil => exact calling.1
    | cons first rest => exact calling.1
  have underway := (underway_of_call idle none now line active).along calling
  rw [yielded_concat]
  rcases underway.after event with ⟨_, unanswered⟩ | ⟨_, reached⟩
  · rw [answered] at unanswered
    cases unanswered
  · exact reached answered

/-- A reply that the host reads while another task logs. -/
theorem flushed_reply_on_the_bench :
    (⟨⟨[75, 82], by decide⟩, true⟩ : Record) ∈ yielded step Effects.transmitted
      (boot.step (.responseAndFlush 0 ⟨[75, 82], by decide⟩)).1
      ([.writer 1, .log .info "app" [[111]], .writer 1, .writer 2, .poll 999, .writer 2,
        .writer 1] ++ [.poll 2000]) :=
  flushed_reply_reached rfl (by decide) 0 ⟨[75, 82], by decide⟩ (by decide +kernel)
    (by decide +kernel)

/-! ### The writer alone -/

/-- A bound on the steps that the writer needs for what is outstanding, when nobody sends more. -/
def workload (u : UsbOutput) : Nat :=
  (match u.writer with
    | .receiving => 0
    | .received record => record.line.bytes.length + 4
    | .writing rest _ => rest.length + 2
    | .flushing _ => 1) +
  (u.lines.items.map fun record => record.line.bytes.length + 5).sum + (notice u.dropped).length

theorem settled_of_receiving (settled : u.outstanding = []) (count : Nat) :
    u.writerTask count = (u, {}) := by
  obtain ⟨free, drained⟩ := List.append_eq_nil_iff.mp settled
  simp only [writerTask, Writer.receiving_of_held free]
  split
  · next record lines received =>
      rw [Channel.items_of_tryReceive received] at drained
      cases drained
  · rfl

/-- While something is outstanding, a step in which the host takes a byte brings it nearer. -/
theorem workload_writerTask (waiting : u.outstanding ≠ []) {count : Nat} (moves : 0 < count) :
    (u.writerTask count).1.workload < u.workload := by
  unfold writerTask
  split
  · next writer =>
      split
      · next record lines received =>
          simp only [workload, writer, Channel.items_of_tryReceive received, List.map_cons,
            List.sum_cons]
          omega
      · next idle =>
          refine absurd ?_ waiting
          rw [outstanding, writer, Channel.empty_of_tryReceive idle]
          rfl
  · next record writer =>
      have quiet : notice 0 = [] := rfl
      simp only [workload, writer, quiet, List.length_append, List.length_cons, List.length_nil]
      omega
  · next rest record writer =>
      split
      · split <;> simp only [workload, writer] <;> omega
      · next byte others left =>
          have shorter : (byte :: others).length < rest.length := by
            rw [← left, List.length_drop]
            have longer : 0 < (rest.drop count).length := by
              rw [left]
              exact Nat.succ_pos _
            rw [List.length_drop] at longer
            omega
          simp only [workload, writer]
          omega
  · next line writer =>
      simp only [workload, writer]
      omega

/-- The writer's steps alone, in which the host takes this many bytes one after the other. -/
def draining (counts : List Nat) : List Event := counts.map .writer

theorem stays_settled (settled : u.outstanding = []) (counts : List Nat) :
    stateAfter step u (draining counts) = u := by
  induction counts with
  | nil => rfl
  | cons count rest inductionHypothesis =>
      change stateAfter step (u.writerTask count).1 (draining rest) = u
      rw [settled_of_receiving settled]
      exact inductionHypothesis

theorem drained_of_workload {counts : List Nat} (moves : ∀ count ∈ counts, 0 < count)
    (enough : u.workload ≤ counts.length) :
    (stateAfter step u (draining counts)).outstanding = [] := by
  induction counts generalizing u with
  | nil =>
      by_cases settled : u.outstanding = []
      · exact settled
      · have nearer := workload_writerTask settled Nat.one_pos
        exact absurd (Nat.le_trans nearer enough) (Nat.not_lt_zero _)
  | cons count rest inductionHypothesis =>
      by_cases settled : u.outstanding = []
      · rw [stays_settled settled]
        exact settled
      · obtain ⟨first, others⟩ := List.forall_mem_cons.mp moves
        have nearer := workload_writerTask settled first
        rw [List.length_cons] at enough
        change (stateAfter step (u.writerTask count).1 (draining rest)).outstanding = []
        exact inductionHypothesis others (by omega)

/-- A call that waits for the host has its signal, or a record for which the writer will give it. -/
def Answerable (u : UsbOutput) : Prop :=
  ∀ deadline, u.call = .flushing deadline → u.flushed = true ∨ flushes u.outstanding ≠ []

theorem Answerable.writerTask (answerable : u.Answerable) (count : Nat) :
    (u.writerTask count).1.Answerable := by
  intro deadline call
  obtain ⟨callEq, accepted, _, flushedEq⟩ := writer_signals (u := u) count
  have handed := step_hands_flushes_on (u := u) (.writer count)
  simp only [step, accepted, flushes, List.filter_nil, List.append_nil] at handed
  rw [flushedEq]
  rcases answerable deadline (callEq.symm.trans call) with signal | waiting
  · exact .inl (by rw [signal, Bool.true_or])
  · by_cases quiet : flushes (u.writerTask count).2.transmitted = []
    · refine .inr fun none => waiting ?_
      rw [flushes, handed]
      exact List.append_eq_nil_iff.mpr ⟨quiet, none⟩
    · obtain ⟨record, member⟩ := List.exists_mem_of_ne_nil _ quiet
      obtain ⟨transmitted, flush⟩ := List.mem_filter.mp member
      refine .inl ?_
      rw [List.any_eq_true.mpr ⟨record, transmitted, flush⟩, Bool.or_true]

theorem answerable_awaitFlushed (answerable : u.flushed = true ∨ flushes u.outstanding ≠ [])
    (now deadline : Nat) : (u.awaitFlushed now deadline).1.Answerable := by
  unfold awaitFlushed
  split
  · intro later call
    cases call
  · split
    · intro later call
      cases call
    · exact fun _ _ => answerable

theorem answerable_poll (answerable : u.Answerable) (now : Nat) : (u.poll now).1.Answerable := by
  unfold poll
  split
  · exact answerable
  · split
    · intro later call
      cases call
    · exact answerable
  · split
    · next lines sent =>
        refine answerable_awaitFlushed (.inr fun none => ?_) now _
        have member : _ ∈ flushes (u.writer.held ++ lines.items) :=
          List.mem_filter.mpr ⟨List.mem_append_right _ (by
            rw [Channel.items_of_trySend sent]
            exact List.mem_append_right _ (List.mem_singleton_self _)), rfl⟩
        rw [show flushes (u.writer.held ++ lines.items) = [] from none] at member
        cases member
    · split
      · intro later call
        cases call
      · exact answerable
  · next deadline call => exact answerable_awaitFlushed (answerable deadline call) now deadline

theorem Answerable.step (answerable : u.Answerable) (event : Event) :
    (u.step event).1.Answerable := by
  cases event with
  | log level target arguments =>
      obtain ⟨callEq, flushedEq, _⟩ := call_of_log (u := u) level target arguments
      intro deadline call
      simp only [UsbOutput.step, flushes_log, flushedEq]
      exact answerable deadline (callEq.symm.trans call)
  | response now line =>
      simp only [UsbOutput.step, response]
      split
      · refine answerable_poll (fun deadline call => ?_) now
        cases call
      · exact answerable
  | responseAndFlush now line =>
      simp only [UsbOutput.step, responseAndFlush]
      split
      · refine answerable_poll (fun deadline call => ?_) now
        cases call
      · exact answerable
  | poll now => exact answerable_poll answerable now
  | writer count => exact answerable.writerTask count

theorem yielded_accepted_draining (counts : List Nat) :
    yielded step Effects.accepted u (draining counts) = [] := by
  induction counts generalizing u with
  | nil => rfl
  | cons count rest inductionHypothesis =>
      change (u.writerTask count).2.accepted ++
        yielded step Effects.accepted (u.writerTask count).1 (draining rest) = []
      rw [inductionHypothesis, List.append_nil]
      exact (writer_signals count).2.1

theorem call_draining (counts : List Nat) :
    (stateAfter step u (draining counts)).call = u.call := by
  induction counts generalizing u with
  | nil => rfl
  | cons count rest inductionHypothesis =>
      change (stateAfter step (u.writerTask count).1 (draining rest)).call = u.call
      rw [inductionHypothesis]
      exact (writer_signals count).1

/-- From every state that the image reaches, the writer alone brings all that was accepted to
the host, within as many steps as the workload, and a flushed reply that waits is answered. -/
theorem drains (events : List Event) {counts : List Nat} (moves : ∀ count ∈ counts, 0 < count)
    (enough : (stateAfter step boot events).workload ≤ counts.length) :
    yielded step Effects.transmitted boot (events ++ draining counts) =
      yielded step Effects.accepted boot events ∧
    (∃ begun : List (Record × UInt32), begun.map Prod.fst = yielded step Effects.accepted boot events ∧
      yielded step Effects.written boot (events ++ draining counts) = begun.flatMap rendered) ∧
    ∀ deadline now, (stateAfter step boot events).call = .flushing deadline →
      ((stateAfter step boot (events ++ draining counts)).poll now).2.returned = [.flushed] := by
  have settled : (stateAfter step boot (events ++ draining counts)).outstanding = [] := by
    rw [stateAfter_append]
    exact drained_of_workload moves enough
  have accepted : yielded step Effects.accepted boot (events ++ draining counts) =
      yielded step Effects.accepted boot events := by
    rw [yielded_append, yielded_accepted_draining, List.append_nil]
  have transmitted : yielded step Effects.transmitted boot (events ++ draining counts) =
      yielded step Effects.accepted boot events := by
    rw [← accepted, step_hands_records_on.run_of_empty rfl, settled, List.append_nil]
  refine ⟨transmitted, ?_, ?_⟩
  · obtain ⟨done, current, part, _, doneEq, currentEq, writtenEq, partEq⟩ :=
      run_wrote (events ++ draining counts)
    have idle := Writer.receiving_of_held (List.append_eq_nil_iff.mp settled).1
    rw [idle] at currentEq partEq
    obtain rfl := List.map_eq_nil_iff.mp currentEq
    obtain ⟨rfl, _⟩ := List.append_eq_nil_iff.mp partEq
    refine ⟨done, doneEq.trans transmitted, ?_⟩
    rw [writtenEq, List.append_nil]
  · intro deadline now call
    have answerable : (stateAfter step boot (events ++ draining counts)).Answerable :=
      stateAfter_invariant step Answerable (fun _ event kept => kept.step event)
        (fun _ call => by cases call) _
    have still : (stateAfter step boot (events ++ draining counts)).call = .flushing deadline := by
      rw [stateAfter_append, call_draining, call]
    rcases answerable deadline still with signal | waiting
    · simp only [poll, still, awaitFlushed, signal, if_true]
    · rw [settled] at waiting
      exact absurd rfl waiting

/-- A flushed reply and a log behind it, written two bytes at a time. -/
theorem drains_on_the_bench :
    yielded step Effects.transmitted boot
        ([.responseAndFlush 0 ⟨[75, 82], by decide⟩, .log .info "app" [[111]]] ++
          draining (List.replicate 40 2)) =
      yielded step Effects.accepted boot
        [.responseAndFlush 0 ⟨[75, 82], by decide⟩, .log .info "app" [[111]]] ∧
    (∃ begun : List (Record × UInt32),
      begun.map Prod.fst = yielded step Effects.accepted boot
        [.responseAndFlush 0 ⟨[75, 82], by decide⟩, .log .info "app" [[111]]] ∧
      yielded step Effects.written boot
        ([.responseAndFlush 0 ⟨[75, 82], by decide⟩, .log .info "app" [[111]]] ++
          draining (List.replicate 40 2)) = begun.flatMap rendered) ∧
    ∀ deadline now,
      (stateAfter step boot
        [.responseAndFlush 0 ⟨[75, 82], by decide⟩, .log .info "app" [[111]]]).call =
          .flushing deadline →
      ((stateAfter step boot
        ([.responseAndFlush 0 ⟨[75, 82], by decide⟩, .log .info "app" [[111]]] ++
          draining (List.replicate 40 2))).poll now).2.returned = [.flushed] :=
  drains [.responseAndFlush 0 ⟨[75, 82], by decide⟩, .log .info "app" [[111]]]
    (by decide) (by decide +kernel)

end KeyRight.App.UsbOutput
