import KeyRight.App.Operation
import KeyRight.Support.Lockstep

/-!
Owns two runtimes that run side by side over their own adapters. Where the calls on the
adapters succeed and fail together, the runtimes answer alike and agree on the store, the
time and every field of the state but the adapter and the revision counter: no call reads
the revision.

Does not own any concrete adapter.
-/

namespace KeyRight.App

open KeyRight.Core KeyRight.Support

variable {K H A : Type}

/-! ### Two runtimes -/

/-- The same state over another adapter, at another revision. -/
def State.beside (s : State H) (hardware : A) (revision : UInt32) : State A :=
  { s with hardware := hardware, revision := revision }

/-- Revisions that stay related when both move. -/
def Counting (counts : UInt32 → UInt32 → Prop) : Prop :=
  ∀ left right, counts left right → counts (left + 1) (right + 1)

/-- Adapters whose calls succeed and fail together while they are related. Register
contents are related by `reads`. -/
structure Corresponding [Hardware H] [Hardware A] (counts : UInt32 → UInt32 → Prop)
    (related : H → A → Prop) (reads : Vector UInt8 24 → Vector UInt8 24 → Prop) : Prop where
  revisions : Counting counts
  shutdown : ∀ left right, related left right →
    (Hardware.shutdown left).1.isOk = (Hardware.shutdown right).1.isOk ∧
      related (Hardware.shutdown left).2 (Hardware.shutdown right).2
  applyFrame : ∀ left right frame, related left right →
    (LightOutput.applyFrame left frame).1.isOk = (LightOutput.applyFrame right frame).1.isOk ∧
      related (LightOutput.applyFrame left frame).2 (LightOutput.applyFrame right frame).2
  verifyFrame : ∀ left right frame, related left right →
    (Hardware.verifyFrame left frame).1.isOk = (Hardware.verifyFrame right frame).1.isOk ∧
      related (Hardware.verifyFrame left frame).2 (Hardware.verifyFrame right frame).2
  registers : ∀ left right, related left right →
    Answers reads (Hardware.registers left).1 (Hardware.registers right).1 ∧
      related (Hardware.registers left).2 (Hardware.registers right).2

/-- An adapter corresponds to itself. -/
theorem Corresponding.refl [Hardware H] {counts : UInt32 → UInt32 → Prop}
    (revisions : Counting counts) : Corresponding counts (Eq : H → H → Prop) Eq where
  revisions := revisions
  shutdown := by
    rintro left _ rfl
    exact ⟨rfl, rfl⟩
  applyFrame := by
    rintro left _ frame rfl
    exact ⟨rfl, rfl⟩
  verifyFrame := by
    rintro left _ frame rfl
    exact ⟨rfl, rfl⟩
  registers := by
    rintro left _ rfl
    exact ⟨.refl _, rfl⟩

/-- The runtimes agree but for their adapters, their revisions and their traces. -/
structure Synchronous (counts : UInt32 → UInt32 → Prop) (related : H → A → Prop)
    (r : Runtime K H) (t : Runtime K A) : Prop where
  kv : t.kv = r.kv
  now : t.now = r.now
  state : t.state = r.state.beside t.state.hardware t.state.revision
  counted : counts r.state.revision t.state.revision
  adapters : related r.state.hardware t.state.hardware

/-- Replies are equal, but for the registers that they report. -/
inductive Reply.Alike (reads : Vector UInt8 24 → Vector UInt8 24 → Prop) : Reply → Reply → Prop where
  | done : Alike reads .done .done
  | registers {data other : Vector UInt8 24} (read : reads data other) :
      Alike reads (.registers data) (.registers other)
  | verified (stopped : Bool) : Alike reads (.verified stopped) (.verified stopped)

namespace Runtime

variable {counts : UInt32 → UInt32 → Prop} {related : H → A → Prop}
  {reads : Vector UInt8 24 → Vector UInt8 24 → Prop}

/-! ### Reading and editing -/

theorem lockstep_onState {α β : Type} {alike : α → β → Prop} {next : State H → Call K H α}
    {follow : State A → Call K A β}
    (rest : ∀ s hardware revision,
      Lockstep (Synchronous counts related) alike (next s) (follow (s.beside hardware revision))) :
    Lockstep (Synchronous counts related) alike (Program.read Runtime.state >>= next)
      (Program.read Runtime.state >>= follow) := by
  have beside : Lockstep (Synchronous counts related)
      (fun s t => ∃ (hardware : A) (revision : UInt32), t = State.beside s hardware revision)
      (Program.read Runtime.state : Call K H (State H))
      (Program.read Runtime.state : Call K A (State A)) :=
    .read fun _ _ together => ⟨_, _, together.state⟩
  refine beside.bind ?_
  rintro s _ ⟨hardware, revision, rfl⟩
  exact rest s hardware revision

theorem lockstep_now :
    Lockstep (Synchronous counts related) Eq (Program.read Runtime.now : Call K H Nat)
      (Program.read Runtime.now : Call K A Nat) :=
  .read fun _ _ together => together.now.symm

/-- An edit that neither reads nor moves the adapter, and does not read the revision. -/
theorem lockstep_change {change : State H → State H} {other : State A → State A}
    (still : ∀ s, (change s).hardware = s.hardware)
    (commutes : ∀ s (hardware : A) revision, counts s.revision revision →
      ∃ next, counts (change s).revision next ∧
        other (s.beside hardware revision) = (change s).beside hardware next) :
    Lockstep (Synchronous counts related) Eq (edit change : Call K H Unit)
      (edit other : Call K A Unit) := by
  refine .update fun r t together => ?_
  obtain ⟨next, counted, edited⟩ := commutes r.state t.state.hardware t.state.revision together.counted
  rw [← together.state] at edited
  refine ⟨together.kv, together.now, ?_, ?_, ?_⟩
  · simp only [onState_state, edited]
    rfl
  · simp only [onState_state, edited]
    exact counted
  · simp only [onState_state, edited, still]
    exact together.adapters

/-- An edit that keeps the revision. -/
theorem lockstep_edit {change : State H → State H} {other : State A → State A}
    (still : ∀ s, (change s).hardware = s.hardware ∧ (change s).revision = s.revision)
    (commutes : ∀ s (hardware : A) revision,
      other (s.beside hardware revision) = (change s).beside hardware revision) :
    Lockstep (Synchronous counts related) Eq (edit change : Call K H Unit)
      (edit other : Call K A Unit) :=
  lockstep_change (fun s => (still s).1) fun s hardware revision counted =>
    ⟨revision, (still s).2 ▸ counted, commutes s hardware revision⟩

/-- An edit that moves the revision. -/
theorem lockstep_advance (counting : Counting counts) {change : State H → State H}
    {other : State A → State A}
    (still : ∀ s, (change s).hardware = s.hardware ∧ (change s).revision = s.revision + 1)
    (commutes : ∀ s (hardware : A) revision,
      other (s.beside hardware revision) = (change s).beside hardware (revision + 1)) :
    Lockstep (Synchronous counts related) Eq (edit change : Call K H Unit)
      (edit other : Call K A Unit) :=
  lockstep_change (fun s => (still s).1) fun s hardware revision counted =>
    ⟨revision + 1, (still s).2 ▸ counting _ _ counted, commutes s hardware revision⟩

/-- The end of a reconciliation moves the revision when the output becomes known. -/
theorem lockstep_settled (counting : Counting counts) (now : Nat) (previous : Option OutputFrame) :
    Lockstep (Synchronous counts related) Eq
      (edit fun s => s.settled now previous : Call K H Unit)
      (edit fun s => s.settled now previous : Call K A Unit) := by
  refine lockstep_change (fun _ => rfl) fun s hardware revision counted => ?_
  refine ⟨if previous ≠ s.controller.appliedFrame ∧ previous = none then revision + 1 else revision,
    ?_, rfl⟩
  change counts (if previous ≠ s.controller.appliedFrame ∧ previous = none then s.revision + 1
    else s.revision) _
  by_cases appears : previous ≠ s.controller.appliedFrame ∧ previous = none
  · rw [if_pos appears, if_pos appears]
    exact counting _ _ counted
  · rw [if_neg appears, if_neg appears]
    exact counted

/-- A call that returns nothing. -/
theorem lockstep_done {call : Call K H Unit} {other : Call K A Unit}
    (calls : Lockstep (Synchronous counts related) Eq call other) :
    Lockstep (Synchronous counts related) (Reply.Alike reads) (done call) (done other) :=
  .seq calls fun _ => .pure .done

/-! ### Outside calls -/

/-- A call on the adapter alone. -/
theorem synchronous_touched {r : Runtime K H} {t : Runtime K A}
    (together : Synchronous counts related r t) {left : H} {right : A} (adapters : related left right) (event : Event K H)
    (other : Event K A) : Synchronous counts related (r.touched left event) (t.touched right other) := by
  refine ⟨together.kv, together.now, ?_, together.counted, adapters⟩
  rw [touched_state, together.state]
  rfl

/-- A call on the store alone. -/
theorem synchronous_accessed {r : Runtime K H} {t : Runtime K A}
    (together : Synchronous counts related r t) (kv : K) (event : Event K H) (other : Event K A) :
    Synchronous counts related (r.accessed kv event) (t.accessed kv other) :=
  ⟨rfl, together.now, together.state, together.counted, together.adapters⟩

section

variable [KvBlobStore K]

theorem lockstep_loadRecord :
    Lockstep (Synchronous counts related) Eq (loadRecord : Call K H (Except Fault SavedState))
      (loadRecord : Call K A (Except Fault SavedState)) := by
  refine .primitive fun r t together => ?_
  rw [together.kv]
  exact ⟨rfl, synchronous_accessed together _ _ _⟩

theorem lockstep_storeRecord (data : List UInt8) :
    Lockstep (Synchronous counts related) Eq (storeRecord data : Call K H (Except ErrorCode Unit))
      (storeRecord data : Call K A (Except ErrorCode Unit)) := by
  refine .primitive fun r t together => ?_
  rw [together.kv]
  exact ⟨rfl, synchronous_accessed together _ _ _⟩

end

section

variable [Hardware H] [Hardware A] (same : Corresponding counts related reads)
include same

theorem lockstep_shutdown :
    Lockstep (Synchronous counts related) Eq (shutdown : Call K H Bool) (shutdown : Call K A Bool) := by
  refine .primitive fun r t together => ?_
  obtain ⟨agree, adapters⟩ := same.shutdown r.state.hardware t.state.hardware together.adapters
  exact ⟨agree, synchronous_touched together adapters _ _⟩

theorem lockstep_verifyFrame (frame : OutputFrame) :
    Lockstep (Synchronous counts related) Eq (verifyFrame frame : Call K H Bool)
      (verifyFrame frame : Call K A Bool) := by
  refine .primitive fun r t together => ?_
  obtain ⟨agree, adapters⟩ :=
    same.verifyFrame r.state.hardware t.state.hardware frame together.adapters
  exact ⟨agree, synchronous_touched together adapters _ _⟩

theorem lockstep_readRegisters :
    Lockstep (Synchronous counts related) (Answers reads)
      (readRegisters : Call K H (Except OutputError (Vector UInt8 24)))
      (readRegisters : Call K A (Except OutputError (Vector UInt8 24))) := by
  refine .primitive fun r t together => ?_
  obtain ⟨answers, adapters⟩ :=
    same.registers r.state.hardware t.state.hardware together.adapters
  exact ⟨answers, synchronous_touched together adapters _ _⟩

theorem lockstep_reconcileFrame (frame : OutputFrame) :
    Lockstep (Synchronous counts related) Eq (reconcileFrame frame : Call K H Bool)
      (reconcileFrame frame : Call K A Bool) := by
  refine .primitive fun r t together => ?_
  have controllers : t.state.controller = r.state.controller := by
    rw [together.state]
    rfl
  unfold Controller.reconcileFrame
  rw [controllers]
  by_cases shown : r.state.controller.appliedFrame = some frame
  · simp only [if_pos shown]
    refine ⟨trivial, together.kv, together.now, ?_, together.counted, together.adapters⟩
    rw [together.state]
    rfl
  · simp only [if_neg shown]
    obtain ⟨agree, adapters⟩ :=
      same.applyFrame r.state.hardware t.state.hardware frame together.adapters
    generalize LightOutput.applyFrame r.state.hardware frame = left at agree adapters ⊢
    generalize LightOutput.applyFrame t.state.hardware frame = right at agree adapters ⊢
    obtain ⟨_ | _, left⟩ := left
    all_goals obtain ⟨_ | _, right⟩ := right
    · refine ⟨rfl, together.kv, together.now, ?_, together.counted, adapters⟩
      simp only
      rw [together.state]
      rfl
    · cases agree
    · cases agree
    · refine ⟨rfl, together.kv, together.now, ?_, together.counted, adapters⟩
      simp only
      rw [together.state]
      rfl

/-! ### Calls on the output -/

theorem lockstep_outputFailed (now : Nat) :
    Lockstep (Synchronous counts related) Eq (outputFailed now : Call K H Unit)
      (outputFailed now : Call K A Unit) :=
  .seq (lockstep_shutdown same) fun _ => lockstep_advance same.revisions (fun _ => ⟨rfl, rfl⟩) fun _ _ _ => rfl

theorem lockstep_drive (now : Nat) :
    Lockstep (Synchronous counts related) Eq (drive now : Call K H Unit) (drive now : Call K A Unit) := by
  refine lockstep_onState fun s hardware revision => ?_
  refine .seq (lockstep_edit (fun _ => ⟨rfl, rfl⟩) fun _ _ _ => rfl) fun _ => ?_
  refine .seq (lockstep_reconcileFrame same _) fun acknowledged => ?_
  refine .ite Iff.rfl (fun _ => ?_) fun _ => ?_
  · exact lockstep_settled same.revisions now s.controller.appliedFrame
  · exact .seq (lockstep_outputFailed same now) fun _ => .fail _

theorem lockstep_reconcile (now : Nat) :
    Lockstep (Synchronous counts related) Eq (reconcile now : Call K H Unit)
      (reconcile now : Call K A Unit) := by
  refine lockstep_onState fun s hardware revision => ?_
  refine .ite Iff.rfl (fun _ => ?_) fun _ => lockstep_drive same now
  refine .seq (lockstep_shutdown same) fun stopped => ?_
  refine .ite Iff.rfl (fun _ => ?_) fun _ => ?_
  · refine .seq (lockstep_edit (fun _ => ⟨rfl, rfl⟩) fun _ _ _ => rfl) fun _ => ?_
    exact lockstep_drive same now
  · exact .seq (lockstep_outputFailed same now) fun _ => .fail _

theorem lockstep_verify :
    Lockstep (Synchronous counts related) Eq (verify : Call K H Unit) (verify : Call K A Unit) := by
  refine lockstep_onState fun s hardware revision => ?_
  refine .seq lockstep_now fun now => ?_
  dsimp only [State.beside]
  cases s.controller.appliedFrame with
  | none => exact .fail _
  | some applied =>
      refine .seq (lockstep_verifyFrame same applied) fun established => ?_
      refine .ite Iff.rfl (fun _ => .pure rfl) fun _ => ?_
      exact .seq (lockstep_outputFailed same now) fun _ => .fail _

theorem lockstep_registers :
    Lockstep (Synchronous counts related) reads (registers : Call K H (Vector UInt8 24))
      (registers : Call K A (Vector UInt8 24)) := by
  refine .seq lockstep_now fun now => ?_
  refine .bind (lockstep_readRegisters same) fun result other answers => ?_
  cases answers with
  | ok read => exact .pure read
  | error code => exact .seq (lockstep_outputFailed same now) fun _ => .fail _

theorem lockstep_prepareReboot :
    Lockstep (Synchronous counts related) Eq (prepareReboot : Call K H Bool)
      (prepareReboot : Call K A Bool) := by
  refine .seq (lockstep_shutdown same) fun verified => ?_
  exact .seq (lockstep_advance same.revisions (fun _ => ⟨rfl, rfl⟩) fun _ _ _ => rfl) fun _ => .pure rfl

theorem lockstep_watchdogTestReady :
    Lockstep (Synchronous counts related) Eq (watchdogTestReady : Call K H Unit)
      (watchdogTestReady : Call K A Unit) := by
  refine lockstep_onState fun s hardware revision => ?_
  exact .ite Iff.rfl (fun _ => .fail _) fun _ => lockstep_verify same

theorem lockstep_rest (now : Nat) (applied : OutputFrame) :
    Lockstep (Synchronous counts related) Eq (rest now applied : Call K H Unit)
      (rest now applied : Call K A Unit) := by
  refine .seq (lockstep_edit (fun _ => ⟨rfl, rfl⟩) fun _ _ _ => rfl) fun _ => ?_
  refine lockstep_onState fun s hardware revision => ?_
  refine .ite Iff.rfl (fun _ => ?_) fun _ => .pure rfl
  refine .seq (lockstep_edit (fun _ => ⟨rfl, rfl⟩) fun _ _ _ => rfl) fun _ => ?_
  refine .seq (lockstep_verifyFrame same applied) fun established => ?_
  exact .ite Iff.rfl (fun _ => .pure rfl) fun _ => lockstep_outputFailed same now

theorem lockstep_tickOutput (now : Nat) :
    Lockstep (Synchronous counts related) Eq (tickOutput now : Call K H Unit)
      (tickOutput now : Call K A Unit) := by
  refine lockstep_onState fun s hardware revision => ?_
  refine .dite Iff.rfl (fun _ _ => lockstep_rest same now _) fun _ => ?_
  exact .bind (lockstep_reconcile same now).attempt fun _ _ _ => .pure rfl

end

/-! ### Start-up settings -/

theorem lockstep_writable :
    Lockstep (Synchronous counts related) Eq (writable : Call K H Unit) (writable : Call K A Unit) := by
  refine lockstep_onState fun s hardware revision => ?_
  refine .ite Iff.rfl (fun _ => .fail _) fun _ => ?_
  exact .ite Iff.rfl (fun _ => .fail _) fun _ => .pure rfl

section

variable [KvBlobStore K]

theorem lockstep_saveStartup (counting : Counting counts) (startup : Startup) :
    Lockstep (Synchronous counts related) Eq (saveStartup startup : Call K H Unit)
      (saveStartup startup : Call K A Unit) := by
  refine .seq lockstep_writable fun _ => ?_
  refine lockstep_onState fun s hardware revision => ?_
  refine .ite Iff.rfl (fun _ => .pure rfl) fun _ => ?_
  refine .seq (lockstep_storeRecord _) fun result => ?_
  cases result with
  | ok => exact lockstep_advance counting (fun _ => ⟨rfl, rfl⟩) fun _ _ _ => rfl
  | error code => exact .seq (lockstep_edit (fun _ => ⟨rfl, rfl⟩) fun _ _ _ => rfl) fun _ => .fail code

theorem lockstep_setStartup (counting : Counting counts) (value : Option StartUpOnOff) :
    Lockstep (Synchronous counts related) Eq (setStartup value : Call K H Unit)
      (setStartup value : Call K A Unit) := by
  refine lockstep_onState fun s hardware revision => ?_
  cases value with
  | none => exact lockstep_saveStartup counting _
  | some policy =>
      cases policy with
      | off => exact lockstep_saveStartup counting _
      | on => exact .fail _
      | toggle => exact .fail _

theorem lockstep_setStartupLevel (counting : Counting counts) (value : Option UInt8) :
    Lockstep (Synchronous counts related) Eq (setStartupLevel value : Call K H Unit)
      (setStartupLevel value : Call K A Unit) := by
  refine lockstep_onState fun s hardware revision => ?_
  exact .dite Iff.rfl (fun _ _ => lockstep_saveStartup counting _) fun _ => .fail _

theorem lockstep_setStartupTemperature (counting : Counting counts) (value : Option ColorTemperature) :
    Lockstep (Synchronous counts related) Eq (setStartupTemperature value : Call K H Unit)
      (setStartupTemperature value : Call K A Unit) := by
  refine lockstep_onState fun s hardware revision => ?_
  exact lockstep_saveStartup counting _

/-! ### Calls on both -/

variable [Hardware H] [Hardware A] (same : Corresponding counts related reads)
include same

theorem lockstep_saveIntent :
    Lockstep (Synchronous counts related) Eq (saveIntent : Call K H Unit) (saveIntent : Call K A Unit) := by
  refine lockstep_onState fun s hardware revision => ?_
  refine .seq lockstep_now fun now => ?_
  refine .ite Iff.rfl (fun _ => ?_) fun _ => .pure rfl
  refine .seq (lockstep_storeRecord _) fun result => ?_
  cases result with
  | ok => exact lockstep_edit (fun _ => ⟨rfl, rfl⟩) fun _ _ _ => rfl
  | error code =>
      refine .seq (lockstep_edit (fun _ => ⟨rfl, rfl⟩) fun _ _ _ => rfl) fun _ => ?_
      refine .seq (lockstep_shutdown same) fun stopped => ?_
      refine .seq (lockstep_advance same.revisions (fun _ => ⟨rfl, rfl⟩) fun _ _ _ => rfl) fun _ => ?_
      exact .fail code

theorem lockstep_commit (target : LightState) :
    Lockstep (Synchronous counts related) Eq (commit target : Call K H Unit)
      (commit target : Call K A Unit) := by
  refine .seq lockstep_now fun now => ?_
  refine .seq (lockstep_advance same.revisions (fun _ => ⟨rfl, rfl⟩) fun _ _ _ => rfl) fun _ => ?_
  exact .seq (lockstep_saveIntent same) fun _ => lockstep_reconcile same now

/-- Commands whose plan does not depend on the adapter. -/
theorem lockstep_planned {plan : State H → Nat → Except ErrorCode (Option Plan)}
    {other : State A → Nat → Except ErrorCode (Option Plan)}
    (blind : ∀ s now (hardware : A) revision, other (s.beside hardware revision) now = plan s now) :
    Lockstep (Synchronous counts related) Eq (planned plan : Call K H Unit)
      (planned other : Call K A Unit) := by
  refine .seq lockstep_writable fun _ => ?_
  refine lockstep_onState fun s hardware revision => ?_
  refine .seq lockstep_now fun now => ?_
  rw [blind]
  cases plan s now with
  | error code => exact .fail code
  | ok asked =>
      cases asked with
      | none => exact .pure rfl
      | some plan =>
          refine .seq (lockstep_edit (fun _ => ⟨rfl, rfl⟩) fun _ _ _ => rfl) fun _ => ?_
          exact lockstep_commit same plan.target

theorem lockstep_recallScene (target : LightState) (durationMs : Nat) :
    Lockstep (Synchronous counts related) Eq (recallScene target durationMs : Call K H Unit)
      (recallScene target durationMs : Call K A Unit) :=
  .ite Iff.rfl (fun _ => .fail _) fun _ => lockstep_planned same fun _ _ _ _ => rfl

theorem lockstep_levelTransition (level : UInt8) (withOnOff : Bool) (durationMs : Nat)
    (curve : Curve) :
    Lockstep (Synchronous counts related) Eq (levelTransition level withOnOff durationMs curve : Call K H Unit)
      (levelTransition level withOnOff durationMs curve : Call K A Unit) :=
  .dite Iff.rfl (fun _ _ => lockstep_planned same fun _ _ _ _ => rfl) fun _ => .fail _

theorem lockstep_temperatureTransition (temperature : ColorTemperature) (durationMs : Nat)
    (curve : Curve) :
    Lockstep (Synchronous counts related) Eq
      (temperatureTransition temperature durationMs curve : Call K H Unit)
      (temperatureTransition temperature durationMs curve : Call K A Unit) :=
  .ite Iff.rfl (fun _ => .fail _) fun _ => lockstep_planned same fun _ _ _ _ => rfl

theorem lockstep_off :
    Lockstep (Synchronous counts related) Eq (off : Call K H Unit) (off : Call K A Unit) := by
  refine .seq lockstep_now fun now => ?_
  refine .seq (lockstep_shutdown same) fun stopped => ?_
  refine .seq (lockstep_edit (fun _ => ⟨rfl, rfl⟩) fun _ _ _ => rfl) fun _ => ?_
  refine lockstep_onState fun s hardware revision => ?_
  refine .ite Iff.rfl (fun _ => ?_) fun _ => ?_
  · refine .seq (lockstep_edit (fun _ => ⟨rfl, rfl⟩) fun _ _ _ => rfl) fun _ => ?_
    exact .ite Iff.rfl (fun _ => .pure rfl) fun _ => .fail _
  · refine .seq (lockstep_edit (fun _ => ⟨rfl, rfl⟩) fun _ _ _ => rfl) fun _ => ?_
    refine .seq (lockstep_saveIntent same) fun _ => ?_
    refine .seq (lockstep_advance same.revisions (fun _ => ⟨rfl, rfl⟩) fun _ _ _ => rfl) fun _ => ?_
    refine .ite Iff.rfl (fun _ => lockstep_reconcile same now) fun _ => ?_
    exact .seq (lockstep_outputFailed same now) fun _ => .fail _

theorem lockstep_tickLoaded (now : Nat) :
    Lockstep (Synchronous counts related) Eq (tickLoaded now : Call K H Unit)
      (tickLoaded now : Call K A Unit) := by
  refine lockstep_onState fun s hardware revision => ?_
  refine .ite Iff.rfl (fun _ => .pure rfl) fun _ => ?_
  refine .bind (lockstep_saveIntent same).attempt fun result other answers => ?_
  cases answers with
  | ok _ => exact lockstep_tickOutput same now
  | error code => exact .pure rfl

theorem lockstep_tick (now : Nat) :
    Lockstep (Synchronous counts related) Eq (tick now : Call K H Unit) (tick now : Call K A Unit) := by
  have clocked : Lockstep (Synchronous counts related) Eq
      (Program.update fun r : Runtime K H => { r with now := now } : Call K H Unit)
      (Program.update fun r : Runtime K A => { r with now := now } : Call K A Unit) :=
    .update fun _ _ together => ⟨together.kv, rfl, together.state, together.counted, together.adapters⟩
  refine .bind clocked fun _ _ _ => ?_
  refine lockstep_onState fun s hardware revision => ?_
  refine .ite Iff.rfl (fun _ => .pure rfl) fun _ => ?_
  refine .ite Iff.rfl (fun _ => ?_) fun _ => lockstep_tickLoaded same now
  refine .seq lockstep_loadRecord fun found => ?_
  cases found with
  | ok saved =>
      refine .seq (lockstep_advance same.revisions (fun _ => ⟨rfl, rfl⟩) fun _ _ _ => rfl) fun _ => ?_
      exact lockstep_tickLoaded same now
  | error fault => exact lockstep_edit (fun _ => ⟨rfl, rfl⟩) fun _ _ _ => rfl

/-! ### Operations -/

theorem lockstep_perform (operation : Operation) :
    Lockstep (Synchronous counts related) (Reply.Alike reads) (perform operation : Call K H Reply)
      (perform operation : Call K A Reply) := by
  cases operation with
  | tick now => exact lockstep_done (lockstep_tick same now)
  | request target => exact lockstep_done (lockstep_recallScene same target 0)
  | recallScene target durationMs => exact lockstep_done (lockstep_recallScene same target durationMs)
  | setPower on => exact lockstep_done (lockstep_planned same fun _ _ _ _ => rfl)
  | setLevel level withOnOff => exact lockstep_done (lockstep_levelTransition same _ _ _ _)
  | setLevelTransition level withOnOff durationMs =>
      exact lockstep_done (lockstep_levelTransition same _ _ _ _)
  | setLevelRate level withOnOff durationMs =>
      exact lockstep_done (lockstep_levelTransition same _ _ _ _)
  | setTemperature temperature => exact lockstep_done (lockstep_temperatureTransition same _ _ _)
  | setTemperatureTransition temperature durationMs =>
      exact lockstep_done (lockstep_temperatureTransition same _ _ _)
  | setTemperatureRate temperature durationMs =>
      exact lockstep_done (lockstep_temperatureTransition same _ _ _)
  | offWithEffect effect => exact lockstep_done (lockstep_planned same fun _ _ _ _ => rfl)
  | stopLevelTransition => exact lockstep_done (lockstep_planned same fun _ _ _ _ => rfl)
  | stopTemperatureTransition => exact lockstep_done (lockstep_planned same fun _ _ _ _ => rfl)
  | setStartup value => exact lockstep_done (lockstep_setStartup same.revisions value)
  | setStartupLevel value => exact lockstep_done (lockstep_setStartupLevel same.revisions value)
  | setStartupTemperature value => exact lockstep_done (lockstep_setStartupTemperature same.revisions value)
  | off => exact lockstep_done (lockstep_off same)
  | verify => exact lockstep_done (lockstep_verify same)
  | registers => exact .bind (lockstep_registers same) fun _ _ read => .pure (.registers read)
  | prepareReboot => exact .seq (lockstep_prepareReboot same) fun stopped => .pure (.verified stopped)
  | watchdogTestReady => exact lockstep_done (lockstep_watchdogTestReady same)

end

end Runtime

end KeyRight.App
