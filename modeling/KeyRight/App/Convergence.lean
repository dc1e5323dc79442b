import KeyRight.App.Boot
import KeyRight.App.Command
import Mathlib.Data.List.Induction

/-!
Owns what becomes of a runtime once nothing fails any more. Whatever was asked and whatever
failed before, ticks alone bring the light to its durable intent: an output that is not known
is driven again at most five seconds later, and every fade ends.

A pending reset and a malformed record are waited out by nobody: the one ends with the reset,
the other with a local Off. Does not own what a reset or a repair leaves.
-/

namespace KeyRight.App

open KeyRight.Core KeyRight.Support

variable {K H : Type}

/-! ### The next attempt -/

/-- Nothing that has happened by `limit` puts the next attempt off for more than five seconds. -/
structure RetriesBy (limit : Nat) (r : Runtime K H) : Prop where
  retry : r.state.retryAt ≤ limit + 5000
  time : r.now ≤ limit

theorem RetriesBy.keep {limit : Nat} {r t : Runtime K H} (retries : RetriesBy limit r)
    (retry : t.state.retryAt = r.state.retryAt) (time : t.now = r.now) : RetriesBy limit t := by
  constructor
  · rw [retry]
    exact retries.retry
  · rw [time]
    exact retries.time

theorem RetriesBy.failed {limit : Nat} {r t : Runtime K H} (retries : RetriesBy limit r)
    (retry : t.state.retryAt = r.now + 5000) (time : t.now = r.now) : RetriesBy limit t := by
  have passed := retries.time
  constructor
  · omega
  · omega

theorem RetriesBy.move [KvBlobStore K] {limit : Nat} {operation : Operation}
    (past : ∀ now, operation = .tick now → now ≤ limit) {phase next : Phase} {r t : Runtime K H}
    (move : Move operation (phase, r) (next, t)) (retries : RetriesBy limit r) :
    RetriesBy limit t := by
  cases move with
  | clock _ now tick => exact ⟨retries.retry, past now tick⟩
  | loadFailed _ fault tick running pending found => exact retries.failed rfl rfl
  | storeFailed _ hardware ok code dirty refused => exact retries.failed rfl rfl
  | giveUp _ hardware ok => exact retries.failed rfl rfl
  | steady _ same => exact ⟨Nat.zero_le _, retries.time⟩
  | apply _ hardware differs => exact ⟨Nat.zero_le _, retries.time⟩
  | _ => exact retries.keep rfl rfl

namespace Runtime

/-- No run puts its next attempt off for more than five seconds after its latest tick. -/
theorem retriesBy_run [KvBlobStore K] [Hardware H] (kv : K) (hardware : H) {limit : Nat}
    {operations : List Operation} (past : ∀ now, .tick now ∈ operations → now ≤ limit) :
    RetriesBy limit (run (load kv hardware) operations) := by
  induction operations using List.reverseRecOn with
  | nil =>
      have soon : ∀ late : Bool, (if late then 5000 else 0) ≤ limit + 5000 := by
        intro late
        cases late with
        | false => exact Nat.zero_le _
        | true => exact Nat.le_add_left 5000 limit
      exact ⟨soon _, Nat.zero_le _⟩
  | append_singleton operations operation inductionHypothesis =>
      have before := inductionHypothesis fun now member => past now (List.mem_append_left _ member)
      rw [run, runAll_append]
      refine (after_moves _ operation).preserve (fun _ => RetriesBy limit) (RetriesBy.move ?_) before
      rintro now rfl
      exact past now (List.mem_append_right _ (List.mem_singleton_self _))

end Runtime

/-! ### Coming back -/

/-- The calls before `past` may be left out. -/
theorem GlidesUnless.since {s : State H} {past : List (Event K H)} {event : Event K H} {now : Nat}
    {t : Runtime K H} (glides : GlidesUnless s (event :: past) now t) :
    GlidesUnless s past now t := by
  obtain ⟨added, logged, failed | glided⟩ := glides
  · obtain ⟨failure, member, failed⟩ := failed
    exact ⟨added ++ [event], by simp [logged],
      .inl ⟨failure, List.mem_append_left _ member, failed⟩⟩
  · exact ⟨added ++ [event], by simp [logged], .inr glided⟩

namespace Runtime

open Program

variable [LawfulKvBlobStore K]

/-- Nothing but time keeps the runtime from its output: no reset is pending, and the saved
intent was read or can be read. -/
structure Recoverable (r : Runtime K H) : Prop where
  running : r.state.fault ≠ .rebooting
  repaired : r.state.loadFault ≠ some .invalidRecord
  readable : r.state.loadFault = some .storage →
    ∃ saved, savedState (.ok r.record) = .ok saved

/-- The state with the saved intent, if that is still to be read. -/
def restored (r : Runtime K H) : State H :=
  match r.state.loadFault with
  | none => r.state
  | some _ =>
      match savedState (.ok r.record) with
      | .ok saved => r.state.loaded saved
      | .error _ => r.state

omit [LawfulKvBlobStore K] in
/-- Zero is proven, and the output eases in from it. -/
theorem reconcile_revives [Hardware H] {r : Runtime K H} {now : Nat} (current : r.now = now)
    (unknown : r.state.controller.appliedFrame = none) (readable : r.state.loadFault = none)
    (clean : r.state.dirty = false) :
    Ends (reconcile now) r fun result t =>
      SucceedsUnless (r.state.easeFromZero now) r.trace now result t := by
  apply ends_reconcile
  · intro known
    exact absurd unknown known
  · intro _ hardware
    apply ends_drive
    · intro same
      cases unknown.symm.trans same
    · intro _ left
      exact ⟨[_, _], rfl, .inr ⟨rfl, current, rfl, rfl, rfl, rfl, ⟨rfl, readable, rfl⟩, clean⟩⟩
    · intro _ left last ok
      exact ⟨[_, _, _], rfl, .inl ⟨_, List.mem_cons_of_mem _ List.mem_cons_self, rfl⟩⟩
  · intro _ hardware left ok
    exact .of_failed rfl rfl

omit [LawfulKvBlobStore K] in
theorem tickOutput_revives [Hardware H] {r : Runtime K H} {now : Nat} (current : r.now = now)
    (unknown : r.state.controller.appliedFrame = none) (readable : r.state.loadFault = none)
    (clean : r.state.dirty = false) :
    Ends (tickOutput now) r fun result t =>
      SucceedsUnless (r.state.easeFromZero now) r.trace now result t := by
  have differs : r.state.controller.appliedFrame ≠ some (r.state.effective now) := by
    rw [unknown]
    nofun
  simp only [tickOutput, ends_bind, ends_read]
  rw [dif_neg differs]
  simp only [ends_bind, ends_attempt, ends_pure]
  refine (reconcile_revives current unknown readable clean).mono fun result t succeeds => ?_
  obtain ⟨added, logged, failed | ⟨_, glided⟩⟩ := succeeds
  · exact ⟨added, logged, .inl failed⟩
  · exact ⟨added, logged, .inr ⟨rfl, glided⟩⟩

theorem tickLoaded_revives [Hardware H] {r : Runtime K H} {now : Nat} (current : r.now = now)
    (unknown : r.state.controller.appliedFrame = none) (readable : r.state.loadFault = none) :
    Ends (tickLoaded now) r fun _ t =>
      GlidesUnless (r.state.easeFromZero now) r.trace now t := by
  simp only [tickLoaded, ends_bind, ends_read, readable, Option.isSome_none, Bool.false_eq_true,
    if_false, ends_attempt]
  apply ends_saveIntent
  · intro clean
    refine (tickOutput_revives current unknown readable clean).mono fun result t succeeds => ?_
    exact succeeds.glides
  · intro dirty stored
    refine (tickOutput_revives (by exact current) (by exact unknown) (by exact readable)
      rfl).mono fun result t succeeds => ?_
    have eased : SucceedsUnless (r.state.easeFromZero now) r.trace now result t :=
      succeeds.since.congr rfl rfl rfl
    exact eased.glides
  · intro dirty code refused hardware ok
    exact .of_failed rfl rfl

/-- The first tick that is not too early brings an unknown output back, and the saved intent
with it. -/
theorem tick_revives [Hardware H] {r : Runtime K H} (recoverable : r.Recoverable)
    (unknown : r.state.controller.appliedFrame = none)
    (faults : r.state.loadFault = none ∨ r.state.loadFault = some .storage) {now : Nat}
    (due : r.state.retryAt ≤ now) :
    Ends (tick now) r fun _ t => GlidesUnless (r.restored.easeFromZero now) r.trace now t := by
  have runs : ¬(r.state.fault = .rebooting ∨ now < r.state.retryAt) := by
    rintro (rebooting | early)
    · exact recoverable.running rebooting
    · exact absurd due (Nat.not_le_of_lt early)
  simp only [tick, ends_bind, ends_update, ends_read]
  rw [if_neg runs]
  rcases faults with readable | pending
  · rw [if_neg (by simp [readable])]
    have same : r.restored = r.state := by
      rw [restored, readable]
    rw [same]
    exact tickLoaded_revives (r := { r with now := now }) rfl unknown readable
  · obtain ⟨saved, found⟩ := recoverable.readable pending
    have loads : r.restored = r.state.loaded saved := by
      rw [restored, pending, found]
    rw [if_pos pending, loads]
    simp only [loadRecord, ends_bind, ends_primitive]
    cases answer : (KvBlobStore.load r.kv (INTENT_KEY K)).1 with
    | error code =>
        exact ⟨[.load (.error code)], rfl, .inl ⟨_, List.mem_singleton_self _, rfl⟩⟩
    | ok bytes =>
        have held : savedState (.ok bytes) = .ok saved := by
          rw [LawfulKvBlobStore.load_ok _ _ _ answer]
          exact found
        rw [held]
        simp only [edit, ends_bind, ends_update]
        refine (tickLoaded_revives (by rfl) (by rfl) (by rfl)).mono fun result t glides => ?_
        exact GlidesUnless.since glides

variable [Hardware H]

/-- A tick that is too early only moves the clock. -/
theorem after_tick_early {r : Runtime K H} {now : Nat} (early : now < r.state.retryAt) :
    r.after (.tick now) = { r with now := now } := by
  have ends : Ends (done (tick now)) r fun _ t => t = { r with now := now } := by
    simp only [tick, done, ends_bind, ends_update, ends_read]
    rw [if_pos (.inr early)]
    rfl
  exact ends

/-- What a first tick without a failure makes of an unknown output that is due. -/
theorem after_tick_revives {r : Runtime K H} (recoverable : r.Recoverable)
    (unknown : r.state.controller.appliedFrame = none)
    (faults : r.state.loadFault = none ∨ r.state.loadFault = some .storage) {now : Nat}
    (due : r.state.retryAt ≤ now) (quiet : r.Quiet (.tick now)) :
    Glided (r.restored.easeFromZero now) now (r.after (.tick now)) := by
  have ends : Ends (done (tick now)) r fun _ t =>
      GlidesUnless (r.restored.easeFromZero now) r.trace now t :=
    ends_done (tick_revives recoverable unknown faults due)
  obtain ⟨added, logged, failed | glided⟩ := ends
  · exact absurd failed (quiet.refutes logged)
  · exact glided

/-- Ticks bring an unknown output back, at the latest with the first one that is due. -/
theorem run_ticks_revive {r : Runtime K H} (recoverable : r.Recoverable)
    (unknown : r.state.controller.appliedFrame = none)
    (faults : r.state.loadFault = none ∨ r.state.loadFault = some .storage) {times : List Nat}
    (later : times.Pairwise (· ≤ ·)) {due : Nat} (member : due ∈ times)
    (retry : r.state.retryAt ≤ due) (quiet : Along after Quiet r (times.map .tick)) :
    ∃ before now rest, times = before ++ now :: rest ∧ now ≤ due ∧
      Glided (r.restored.easeFromZero now) now (run r ((before ++ [now]).map .tick)) := by
  induction times generalizing r with
  | nil => cases member
  | cons now rest inductionHypothesis =>
      obtain ⟨first, restLater⟩ := List.pairwise_cons.mp later
      by_cases early : now < r.state.retryAt
      · have stays := after_tick_early early
        have waits : due ∈ rest := by
          rcases List.mem_cons.mp member with rfl | waits
          · exact absurd retry (Nat.not_le_of_lt early)
          · exact waits
        have quietRest := quiet.2
        rw [stays] at quietRest
        obtain ⟨before, revival, more, rfl, soon, glided⟩ := inductionHypothesis
          (r := { r with now := now }) ⟨recoverable.running, recoverable.repaired, recoverable.readable⟩
          unknown faults restLater waits retry quietRest
        refine ⟨now :: before, revival, more, rfl, soon, ?_⟩
        rw [List.cons_append, List.map_cons, run, runAll_cons, stays]
        exact glided
      · refine ⟨[], now, rest, rfl, ?_, ?_⟩
        · rcases List.mem_cons.mp member with rfl | waits
          · exact Nat.le_refl _
          · exact first due waits
        · exact after_tick_revives recoverable unknown faults (Nat.le_of_not_lt early) quiet.1

/-! ### Coming to rest -/

/-- Ticks keep the target of a settled runtime and start no track. -/
structure Wanes (r t : Runtime K H) : Prop where
  settled : Settled t.state
  target : t.state.target = r.state.target
  level : t.state.levelTransition = r.state.levelTransition ∨ t.state.levelTransition = none
  temperature : t.state.temperatureTransition = r.state.temperatureTransition ∨
    t.state.temperatureTransition = none

omit [LawfulKvBlobStore K] [Hardware H] in
theorem option_filter_cases {α : Type} (track : Option α) (keeps : α → Bool) :
    track.filter keeps = track ∨ track.filter keeps = none := by
  cases track with
  | none => exact .inr rfl
  | some value =>
      by_cases kept : keeps value
      · exact .inl (by simp [kept])
      · exact .inr (by simp [kept])

theorem run_ticks_wane {r : Runtime K H} (settled : Settled r.state) {times : List Nat}
    (quiet : Along after Quiet r (times.map .tick)) : Wanes r (run r (times.map .tick)) := by
  induction times generalizing r with
  | nil => exact ⟨settled, rfl, .inl rfl, .inl rfl⟩
  | cons now rest inductionHypothesis =>
      have glided := after_tick_glides settled quiet.1
      have later := inductionHypothesis glided.settled quiet.2
      refine ⟨later.settled, later.target.trans glided.target, ?_, ?_⟩
      · rcases later.level with same | gone
        · rw [List.map_cons, run, runAll_cons, show runAll after _ _ = run _ _ from rfl, same,
            glided.level]
          exact option_filter_cases _ _
        · exact .inr gone
      · rcases later.temperature with same | gone
        · rw [List.map_cons, run, runAll_cons, show runAll after _ _ = run _ _ from rfl, same,
            glided.temperature]
          exact option_filter_cases _ _
        · exact .inr gone

/-- The light shows its destination, and nothing is left to do for it. -/
structure Arrived (destination : LightState) (s : State H) : Prop where
  settled : Settled s
  target : s.target = destination
  level : s.levelTransition = none
  temperature : s.temperatureTransition = none
  shows : s.controller.appliedFrame = some (OutputFrame.fromState destination)

/-- A tick that finds both tracks ended drops them. -/
theorem after_tick_ends {r : Runtime K H} (settled : Settled r.state) {now : Nat}
    (quiet : r.Quiet (.tick now)) (level : r.state.levelRemaining now = 0)
    (temperature : r.state.temperatureRemaining now = 0) :
    (r.after (.tick now)).state.levelTransition = none ∧
      (r.after (.tick now)).state.temperatureTransition = none := by
  have glided := after_tick_glides settled quiet
  rw [glided.level, glided.temperature, State.expire]
  constructor
  · cases active : r.state.levelTransition with
    | none => rfl
    | some track =>
        rw [State.levelRemaining, active] at level
        simp only [Option.elim_some] at level
        simp [level]
  · cases active : r.state.temperatureTransition with
    | none => rfl
    | some track =>
        rw [State.temperatureRemaining, active] at temperature
        simp only [Option.elim_some] at temperature
        simp [temperature]

/-- Without tracks, every tick shows the target. -/
theorem run_ticks_arrive {r : Runtime K H} (settled : Settled r.state)
    (level : r.state.levelTransition = none) (temperature : r.state.temperatureTransition = none)
    {times : List Nat} (some_ : times ≠ []) (quiet : Along after Quiet r (times.map .tick)) :
    Arrived r.state.target (run r (times.map .tick)).state := by
  induction times generalizing r with
  | nil => exact absurd rfl some_
  | cons now rest inductionHypothesis =>
      have glided := after_tick_glides settled quiet.1
      have still : (r.after (.tick now)).state.levelTransition = none ∧
          (r.after (.tick now)).state.temperatureTransition = none := by
        rw [glided.level, glided.temperature, State.expire, level, temperature]
        exact ⟨rfl, rfl⟩
      by_cases last : rest = []
      · subst last
        refine ⟨glided.settled, glided.target, still.1, still.2, ?_⟩
        have plain : r.state.effective now = OutputFrame.fromState r.state.target := by
          unfold State.effective
          rw [level, temperature]
        exact glided.shows.trans (congrArg some plain)
      · have later := inductionHypothesis glided.settled still.1 still.2 last quiet.2
        rw [glided.target] at later
        exact later

/-- Once both tracks have ended, the ticks after the next one show the target. -/
theorem run_ticks_settle {r : Runtime K H} (settled : Settled r.state) {before after : List Nat}
    {rest : Nat} (more : after ≠ []) (level : r.state.levelRemaining rest = 0)
    (temperature : r.state.temperatureRemaining rest = 0)
    (quiet : Along Runtime.after Quiet r ((before ++ rest :: after).map .tick)) :
    Arrived r.state.target (run r ((before ++ rest :: after).map .tick)).state := by
  rw [List.map_append, List.map_cons] at quiet ⊢
  obtain ⟨quietBefore, quietRest, quietAfter⟩ := Along.append.mp quiet
  have wanes := run_ticks_wane settled quietBefore
  have ends := after_tick_ends wanes.settled quietRest
    (by
      rw [State.levelRemaining]
      rcases wanes.level with same | gone
      · rw [same]
        exact level
      · rw [gone]
        rfl)
    (by
      rw [State.temperatureRemaining]
      rcases wanes.temperature with same | gone
      · rw [same]
        exact temperature
      · rw [gone]
        rfl)
  have glided := after_tick_glides wanes.settled quietRest
  have arrives := run_ticks_arrive glided.settled ends.1 ends.2 more quietAfter
  rw [glided.target, wanes.target] at arrives
  rw [run, runAll_append, runAll_cons]
  exact arrives

omit [LawfulKvBlobStore K] [Hardware H] in
/-- The ease from zero is over after its four hundred milliseconds. -/
theorem eased_ended {s : State H} {now later : Nat} (passed : now + DEFAULT_TRANSITION_MS ≤ later)
    {t : Runtime K H} (glided : Glided (s.easeFromZero now) now t) :
    t.state.levelRemaining later = 0 ∧ t.state.temperatureRemaining later = 0 := by
  have still : t.state.temperatureTransition = none := glided.temperature
  constructor
  · rw [State.levelRemaining]
    cases active : t.state.levelTransition with
    | none => rfl
    | some track =>
        have eases := glided.level.symm.trans active
        rw [State.expire, State.easeFromZero] at eases
        have started := (Option.filter_eq_some_iff.mp eases).1
        split at started
        · cases started
          exact LevelTransition.remaining_eq_zero.mpr passed
        · cases started
  · rw [State.temperatureRemaining, still]
    rfl

/-- From any boot, whatever was asked and whatever failed, once nothing fails any more ticks
alone bring a recoverable runtime to its durable intent. After a tick five seconds past the
latest one, and after one at `rest`, four hundred milliseconds later and past the fades under
way, every tick shows exactly the target, and the store holds it. -/
theorem converges (kv : K) (hardware : H) (operations : List Operation) (start : Nat)
    (past : ∀ now, .tick now ∈ operations → now ≤ start) :
    let r := run (load kv hardware) operations
    r.Recoverable → ∀ (before after : List Nat) (revival rest : Nat),
      (start :: (before ++ rest :: after)).Pairwise (· ≤ ·) → revival ∈ before → after ≠ [] →
      start + 5000 ≤ revival → revival + DEFAULT_TRANSITION_MS ≤ rest →
      r.state.levelRemaining rest = 0 → r.state.temperatureRemaining rest = 0 →
      Along Runtime.after Quiet r ((before ++ rest :: after).map .tick) →
        let t := run r ((before ++ rest :: after).map .tick)
        Arrived r.restored.target t.state ∧ t.reported = .ok r.restored.target ∧
          Stored t.kv r.restored.target t.state.startup := by
  intro r recoverable before after revival rest ordered revives more due eases level temperature
    quiet t
  have reachable : r.Reachable := (Reachable.load kv hardware).run operations
  have retries : RetriesBy start r := retriesBy_run kv hardware past
  have arrived : Arrived r.restored.target t.state := by
    cases known : r.state.controller.appliedFrame with
    | some frame =>
        have settled := reachable.settled (Option.ne_none_iff_exists'.mpr ⟨frame, known⟩)
        have plain : r.restored = r.state := by
          rw [restored, settled.healthy.2.1]
        rw [plain]
        exact run_ticks_settle settled more level temperature quiet
    | none =>
        have faults : r.state.loadFault = none ∨ r.state.loadFault = some .storage := by
          rcases reachable.durable.loadFaults with readable | pending | malformed
          · exact .inl readable
          · exact .inr pending
          · exact absurd malformed recoverable.repaired
        have sorted := (List.pairwise_append.mp (List.pairwise_cons.mp ordered).2).1
        rw [List.map_append] at quiet
        obtain ⟨early, now, middle, rfl, soon, glided⟩ := run_ticks_revive recoverable known faults
          sorted revives (Nat.le_trans retries.retry due) (Along.append.mp quiet).1
        have ended := eased_ended (by omega : now + DEFAULT_TRANSITION_MS ≤ rest) glided
        have split : (early ++ now :: middle) ++ rest :: after =
            (early ++ [now]) ++ (middle ++ rest :: after) := by
          simp
        rw [← List.map_append, split, List.map_append] at quiet
        have settles := run_ticks_settle glided.settled more ended.1 ended.2
          (Along.append.mp quiet).2
        rw [glided.target] at settles
        change Arrived _ (run r (((early ++ now :: middle) ++ rest :: after).map .tick)).state
        rw [split, List.map_append, run, runAll_append]
        exact settles
  have known : t.state.controller.appliedFrame ≠ none := by
    simp [arrived.shows]
  have ended := reachable.run ((before ++ rest :: after).map .tick)
  have written := ended.durable.written ended.truthful known
  refine ⟨arrived, ?_, ?_⟩
  · rw [reported_eq_ok]
    exact ⟨arrived.settled.healthy.1, known, arrived.target⟩
  · rw [← arrived.target]
    exact written.stored

omit [LawfulKvBlobStore K] [Hardware H] in
/-- A boot that cannot read its record at first comes to what the record says. -/
theorem converges_delayed :
    let saved : LightState := { (default : LightState) with on := true }
    let r : Runtime FlakyStore SimulatedOutput :=
      run (load (FlakyStore.holding (some (encodeRecord saved default)) 1) default) [.tick 0]
    (run r ([20, 5000, 5400, 5420].map .tick)).reported = .ok saved := by
  intro saved r
  have arrives := (converges (FlakyStore.holding (some (encodeRecord saved default)) 1)
    (default : SimulatedOutput) [.tick 0] 0 (by simp)
    ⟨by decide +kernel, by decide +kernel, fun _ => ⟨⟨saved, default, false⟩, by decide +kernel⟩⟩
    [20, 5000] [5420] 5000 5400 (by decide) (by decide) (by decide) (by decide) (by decide)
    (by decide +kernel) (by decide +kernel) (by decide +kernel)).2.1
  have saves : r.restored.target = saved := by
    decide +kernel
  exact arrives.trans (congrArg Except.ok saves)

end Runtime

end KeyRight.App
