import KeyRight.App.Bench
import KeyRight.App.Durability
import KeyRight.App.Glide
import KeyRight.App.RecordFormat

/-!
Owns boots that no command disturbs: what the stored bytes make of the target, the
start-up settings and the store itself, however often the record cannot be read
first, and that a second boot finds what the first one left.

Does not own the output that a boot drives.
-/

namespace KeyRight.App

open KeyRight.Core KeyRight.Support

variable {K H : Type}

/-! ### Start-up settings -/

/-- Start-up settings that were applied once change nothing more. -/
theorem startupIntent_startupIntent (restored : LightState) (startup : Startup) :
    startupIntent (startupIntent restored startup) startup = startupIntent restored startup := by
  obtain ⟨power, level, temperature, _, _⟩ := startup
  have on : ((restored.on && power != 1) && power != 1) = (restored.on && power != 1) := by
    rw [Bool.and_assoc, Bool.and_self]
  have remembered : temperature.getD (temperature.getD restored.temperature) =
      temperature.getD restored.temperature := by
    cases temperature with
    | none => rfl
    | some value => rfl
  cases level with
  | none => simp only [startupIntent, on, remembered]
  | some value => simp only [startupIntent, on, remembered]

/-- The restored intent differs from the record, or the record has an old format. -/
def SavedState.stale (saved : SavedState) : Bool :=
  saved.migrated || startupIntent saved.intended saved.startup ≠ saved.intended

/-- What the store holds after a boot that read `saved` from `bytes`. -/
def SavedState.rewritten (saved : SavedState) (bytes : Option (List UInt8)) : Option (List UInt8) :=
  if saved.stale then some (encodeRecord (startupIntent saved.intended saved.startup) saved.startup)
  else bytes

theorem SavedState.stale_eq_false {saved : SavedState} :
    saved.stale = false ↔
      saved.migrated = false ∧ startupIntent saved.intended saved.startup = saved.intended := by
  simp [stale]

/-- A boot leaves a version 3 record of the restored intent, or no record of the defaults. -/
theorem SavedState.rewritten_cases {saved : SavedState} {bytes : Option (List UInt8)}
    (decoded : Runtime.savedState (.ok bytes) = .ok saved) :
    saved.rewritten bytes =
        some (encodeRecord (startupIntent saved.intended saved.startup) saved.startup) ∨
      saved.rewritten bytes = none ∧ saved = default := by
  cases stale : saved.stale with
  | true => exact .inl (by simp [rewritten, stale])
  | false =>
      obtain ⟨current, unchanged⟩ := stale_eq_false.mp stale
      cases bytes with
      | none =>
          cases decoded
          exact .inr ⟨by simp [rewritten, stale], rfl⟩
      | some bytes =>
          have same := encodeRecord_decodeRecord decoded current
          exact .inl (by simp [rewritten, stale, unchanged, same])

/-- What a boot wrote back is read again as the same values and is not stale. -/
theorem SavedState.rewritten_decodes {saved : SavedState} {bytes : Option (List UInt8)}
    (decoded : Runtime.savedState (.ok bytes) = .ok saved) :
    Runtime.savedState (.ok (saved.rewritten bytes)) =
      .ok ⟨startupIntent saved.intended saved.startup, saved.startup, false⟩ := by
  rcases rewritten_cases decoded with written | ⟨blank, fresh⟩
  · rw [written]
    exact decodeRecord_encodeRecord _ _
  · rw [blank, fresh]
    rfl

theorem SavedState.settled_not_stale (saved : SavedState) :
    SavedState.stale ⟨startupIntent saved.intended saved.startup, saved.startup, false⟩ = false :=
  stale_eq_false.mpr ⟨rfl, startupIntent_startupIntent saved.intended saved.startup⟩

/-! ### What a boot has come to -/

section

variable [LawfulKvBlobStore K]

/-- The bytes stored as the intent. -/
def Runtime.record (r : Runtime K H) : Option (List UInt8) :=
  LawfulKvBlobStore.contents r.kv (INTENT_KEY K)

/-- The part of a state that a boot restores. -/
def State.intent (s : State H) : LightState × Startup × Bool × Option Fault × Bool :=
  (s.target, s.startup, s.dirty, s.loadFault, s.offAfterLoad)

/-- A boot over these bytes has not read them, has refused them, or has restored what
they hold and perhaps still owes its own record. -/
inductive Booting (bytes : Option (List UInt8)) (r : Runtime K H) : Prop where
  | waiting (pending : r.state.loadFault = some .storage) (target : r.state.target = default)
      (startup : r.state.startup = default) (clean : r.state.dirty = false)
      (undisturbed : r.state.offAfterLoad = false) (held : r.record = bytes)
  | refused (undecodable : Runtime.savedState (.ok bytes) = .error .invalidRecord)
      (faulty : r.state.loadFault = some .invalidRecord) (target : r.state.target = default)
      (startup : r.state.startup = default) (clean : r.state.dirty = false)
      (held : r.record = bytes)
  | restored (saved : SavedState) (decoded : Runtime.savedState (.ok bytes) = .ok saved)
      (readable : r.state.loadFault = none)
      (target : r.state.target = startupIntent saved.intended saved.startup)
      (startup : r.state.startup = saved.startup)
      (owed : r.state.dirty = true → saved.stale = true ∧ r.record = bytes)
      (paid : r.state.dirty = false → r.record = saved.rewritten bytes)

theorem Booting.congr {bytes : Option (List UInt8)} {r t : Runtime K H} (booting : Booting bytes r)
    (record : t.record = r.record) (same : t.state.intent = r.state.intent) : Booting bytes t := by
  simp only [State.intent, Prod.mk.injEq] at same
  obtain ⟨target, startup, dirty, loadFault, offAfterLoad⟩ := same
  cases booting with
  | waiting pending isTarget isStartup clean undisturbed held =>
      exact .waiting (loadFault.trans pending) (target.trans isTarget) (startup.trans isStartup)
        (dirty.trans clean) (offAfterLoad.trans undisturbed) (record.trans held)
  | refused undecodable faulty isTarget isStartup clean held =>
      exact .refused undecodable (loadFault.trans faulty) (target.trans isTarget)
        (startup.trans isStartup) (dirty.trans clean) (record.trans held)
  | restored saved decoded readable isTarget isStartup owed paid =>
      refine .restored saved decoded (loadFault.trans readable) (target.trans isTarget)
        (startup.trans isStartup) ?_ ?_
      · rw [dirty, record]
        exact owed
      · rw [dirty, record]
        exact paid

/-- A read answers with the stored bytes or fails. -/
theorem Runtime.savedState_load {kv : K} {bytes : Option (List UInt8)}
    (held : LawfulKvBlobStore.contents kv (INTENT_KEY K) = bytes) :
    savedState (KvBlobStore.load kv (INTENT_KEY K)).1 = .error .storage ∨
      savedState (KvBlobStore.load kv (INTENT_KEY K)).1 = savedState (.ok bytes) := by
  cases answer : (KvBlobStore.load kv (INTENT_KEY K)).1 with
  | error code => exact .inl rfl
  | ok found =>
      rw [LawfulKvBlobStore.load_ok kv (INTENT_KEY K) found answer, held]
      exact .inr rfl

theorem Runtime.savedState_ok_error {bytes : Option (List UInt8)} {fault : Fault}
    (failed : savedState (.ok bytes) = .error fault) : fault = .invalidRecord := by
  cases bytes with
  | none => cases failed
  | some bytes => exact decodeRecord_error failed

/-- A run of ticks since a boot over these bytes: it writes only a record that is stale. -/
structure Unattended (bytes : Option (List UInt8)) (r : Runtime K H) : Prop where
  booting : Booting bytes r
  running : r.state.fault ≠ .rebooting
  writes : ∀ data ok, Event.store data ok ∈ r.trace →
    ∃ saved, Runtime.savedState (.ok bytes) = .ok saved ∧ saved.stale = true

variable {bytes : Option (List UInt8)} {operation : Operation} {r t : Runtime K H}

/-- A step that leaves the intent alone and makes no store call. -/
theorem Unattended.keep (unattended : Unattended bytes r) (added : List (Event K H))
    (trace : t.trace = added ++ r.trace) (unwritten : ∀ data ok, Event.store data ok ∉ added)
    (running : t.state.fault ≠ .rebooting) (booting : Booting bytes t) : Unattended bytes t := by
  refine ⟨booting, running, fun data ok member => ?_⟩
  rw [trace, List.mem_append] at member
  rcases member with fresh | earlier
  · exact absurd fresh (unwritten data ok)
  · exact unattended.writes data ok earlier

theorem Booting.owed (booting : Booting bytes r) (dirty : r.state.dirty = true) :
    ∃ saved, Runtime.savedState (.ok bytes) = .ok saved ∧ saved.stale = true ∧
      r.state.loadFault = none ∧ r.state.target = startupIntent saved.intended saved.startup ∧
      r.state.startup = saved.startup ∧ r.record = bytes := by
  cases booting with
  | waiting pending target startup clean undisturbed held =>
      rw [dirty] at clean
      cases clean
  | refused undecodable faulty target startup clean held =>
      rw [dirty] at clean
      cases clean
  | restored saved decoded readable target startup owed paid =>
      obtain ⟨stale, held⟩ := owed dirty
      exact ⟨saved, decoded, stale, readable, target, startup, held⟩

theorem Booting.pending (booting : Booting bytes r) (pending : r.state.loadFault = some .storage) :
    r.state.target = default ∧ r.state.startup = default ∧ r.state.dirty = false ∧
      r.state.offAfterLoad = false ∧ r.record = bytes := by
  cases booting with
  | waiting _ target startup clean undisturbed held =>
      exact ⟨target, startup, clean, undisturbed, held⟩
  | refused undecodable faulty target startup clean held =>
      rw [pending] at faulty
      cases faulty
  | restored saved decoded readable target startup owed paid =>
      rw [pending] at readable
      cases readable

/-- A retried read restores what the bytes hold. -/
theorem Booting.loaded (booting : Booting bytes r) (pending : r.state.loadFault = some .storage)
    {saved : SavedState}
    (found : Runtime.savedState (KvBlobStore.load r.kv (INTENT_KEY K)).1 = .ok saved)
    (event : Event K H) :
    Booting bytes ((r.accessed (KvBlobStore.load r.kv (INTENT_KEY K)).2 event).onState
      fun s => s.loaded saved) := by
  obtain ⟨_, _, _, undisturbed, held⟩ := booting.pending pending
  have decoded : Runtime.savedState (.ok bytes) = .ok saved := by
    rcases Runtime.savedState_load held with failed | answered
    · rw [failed] at found
      cases found
    · rw [← answered, found]
  have kept : LawfulKvBlobStore.contents (KvBlobStore.load r.kv (INTENT_KEY K)).2 (INTENT_KEY K) =
      bytes := by
    rw [LawfulKvBlobStore.load_contents]
    exact held
  refine .restored saved decoded rfl ?_ rfl ?_ ?_
  · simp [State.loaded, undisturbed]
  · intro dirty
    exact ⟨by simpa [State.loaded, undisturbed, SavedState.stale] using dirty, kept⟩
  · intro clean
    have current : saved.stale = false := by
      simpa [State.loaded, undisturbed, SavedState.stale] using clean
    rw [SavedState.rewritten, current, if_neg Bool.false_ne_true]
    exact kept

/-- A retried read that fails leaves the boot waiting, or refuses the bytes. -/
theorem Booting.loadFailed (booting : Booting bytes r)
    (pending : r.state.loadFault = some .storage) {fault : Fault}
    (found : Runtime.savedState (KvBlobStore.load r.kv (INTENT_KEY K)).1 = .error fault)
    (event : Event K H) :
    Booting bytes ((r.accessed (KvBlobStore.load r.kv (INTENT_KEY K)).2 event).onState
      fun s => s.loadFailed fault r.now) := by
  obtain ⟨target, startup, clean, undisturbed, held⟩ := booting.pending pending
  have kept : LawfulKvBlobStore.contents (KvBlobStore.load r.kv (INTENT_KEY K)).2 (INTENT_KEY K) =
      bytes := by
    rw [LawfulKvBlobStore.load_contents]
    exact held
  rcases Runtime.savedState_load held with failed | answered
  · rw [failed] at found
    cases found
    exact .waiting rfl target startup clean undisturbed kept
  · rw [answered] at found
    have refused := Runtime.savedState_ok_error found
    subst refused
    exact .refused found rfl target startup clean kept

/-- A step that leaves the intent and the store alone. -/
theorem Unattended.same (unattended : Unattended bytes r) (added : List (Event K H))
    (trace : t.trace = added ++ r.trace) (unwritten : ∀ data ok, Event.store data ok ∉ added)
    (running : t.state.fault ≠ .rebooting) (record : t.record = r.record)
    (intent : t.state.intent = r.state.intent) : Unattended bytes t :=
  unattended.keep added trace unwritten running (unattended.booting.congr record intent)

/-- The restored record is written back. -/
theorem Booting.stored (booting : Booting bytes r) (dirty : r.state.dirty = true)
    (stored : (KvBlobStore.store r.kv (INTENT_KEY K)
      (encodeRecord r.state.target r.state.startup)).1 = .ok ()) (event : Event K H) :
    Booting bytes ((r.accessed (KvBlobStore.store r.kv (INTENT_KEY K)
      (encodeRecord r.state.target r.state.startup)).2 event).onState State.saved) := by
  obtain ⟨saved, decoded, stale, readable, target, startup, _⟩ := booting.owed dirty
  refine .restored saved decoded readable target startup ?_ ?_
  · intro wrong
    cases wrong
  · intro _
    rw [SavedState.rewritten, if_pos stale, ← target, ← startup]
    exact LawfulKvBlobStore.store_ok r.kv (INTENT_KEY K) _ stored

/-- A write that is refused leaves the bytes and is owed on. -/
theorem Booting.storeFailed (booting : Booting bytes r) {data : List UInt8} {code : ErrorCode}
    (refused : (KvBlobStore.store r.kv (INTENT_KEY K) data).1 = .error code)
    (kv : t.kv = (KvBlobStore.store r.kv (INTENT_KEY K) data).2)
    (intent : t.state.intent = r.state.intent) : Booting bytes t := by
  have record : t.record = r.record := by
    rw [Runtime.record, kv, LawfulKvBlobStore.store_error r.kv (INTENT_KEY K) data code refused]
    rfl
  exact booting.congr record intent

/-- A write is made only of a stale record. -/
theorem Unattended.written (unattended : Unattended bytes r) (dirty : r.state.dirty = true)
    (added : List (Event K H)) (trace : t.trace = added ++ r.trace)
    (running : t.state.fault ≠ .rebooting) (booting : Booting bytes t) : Unattended bytes t := by
  refine ⟨booting, running, fun data ok member => ?_⟩
  rw [trace, List.mem_append] at member
  rcases member with fresh | earlier
  · obtain ⟨saved, decoded, stale, _⟩ := unattended.booting.owed dirty
    exact ⟨saved, decoded, stale⟩
  · exact unattended.writes data ok earlier

theorem Unattended.move {phase next : Phase} (unattended : Unattended bytes r)
    (tick : operation.IsTick) (move : Move operation (phase, r) (next, t)) :
    Unattended bytes t := by
  have running := unattended.running
  cases move with
  | clock _ now _ => exact unattended.same [] rfl (by simp) running rfl rfl
  | leave _ other _ _ => exact unattended
  | resume _ _ running due => exact unattended
  | load _ saved _ running pending due found =>
      exact unattended.keep [_] rfl (by simp) nofun (unattended.booting.loaded pending found _)
  | loadFailed _ fault _ running pending found =>
      have faulty : fault ≠ .rebooting := by
        rcases savedState_error found with rfl | rfl
        · decide
        · decide
      exact unattended.keep [_] rfl (by simp) faulty
        (unattended.booting.loadFailed pending found _)
  | plan _ plan writable asks => exact absurd tick asks.not_tick
  | localOff _ hardware ok off readable => exact absurd off tick.ne_off
  | deferOff _ hardware ok off pending => exact absurd off tick.ne_off
  | startup _ startup asked writable stored => exact absurd tick asked.not_tick
  | startupRefused _ startup code asked writable refused => exact absurd tick asked.not_tick
  | verified _ frame hardware check known => exact absurd tick check.not_tick
  | refuted _ frame hardware check known => exact absurd tick check.not_tick
  | read _ hardware registers => exact absurd registers tick.ne_registers
  | unread _ hardware registers => exact absurd registers tick.ne_registers
  | latch _ hardware ok reboot => exact absurd reboot tick.ne_prepareReboot
  | clean _ clean => exact unattended
  | store _ dirty stored =>
      exact unattended.written dirty [_] rfl running (unattended.booting.stored dirty stored _)
  | storeFailed _ hardware ok code dirty refused =>
      exact unattended.written dirty [_, _] rfl nofun (unattended.booting.storeFailed refused rfl rfl)
  | proceed _ readable => exact unattended
  | repaired _ off => exact absurd off tick.ne_off
  | unstopped _ off => exact absurd off tick.ne_off
  | known _ known => exact unattended
  | ease _ hardware unknown => exact unattended.same [_] rfl (by simp) running rfl rfl
  | unproven _ hardware unknown => exact unattended.same [_] rfl (by simp) running rfl rfl
  | rest _ _ same => exact unattended.same [] rfl (by simp) running rfl rfl
  | check _ hardware _ same => exact unattended.same [_] rfl (by simp) running rfl rfl
  | checkFailed _ hardware _ same => exact unattended.same [_] rfl (by simp) running rfl rfl
  | steady _ same => exact unattended.same [] rfl (by simp) nofun rfl rfl
  | apply _ hardware differs => exact unattended.same [_] rfl (by simp) nofun rfl rfl
  | applyFailed _ hardware differs => exact unattended.same [_] rfl (by simp) running rfl rfl
  | giveUp _ hardware ok => exact unattended.same [_] rfl (by simp) nofun rfl rfl

/-! ### One tick -/

/-- A record that was read stays read. -/
theorem Move.answered {phase next : Phase} (move : Move operation (phase, r) (next, t))
    (answered : r.state.loadFault ≠ some .storage) : t.state.loadFault ≠ some .storage := by
  cases move with
  | load _ saved tick running pending due found => exact absurd pending answered
  | loadFailed _ fault tick running pending found => exact absurd pending answered
  | repaired _ off => simp [State.clearLoadFault]
  | _ => exact answered

/-- The record was read, and is written back if it could be decoded. -/
def State.UpToDate (s : State H) : Prop :=
  s.loadFault ≠ some .storage ∧ (s.loadFault = none → s.dirty = false)

theorem State.UpToDate.of_clean {s : State H} (readable : s.loadFault = none)
    (clean : s.dirty = false) : s.UpToDate := by
  refine ⟨?_, fun _ => clean⟩
  rw [readable]
  simp

/-- How far a tick since `r` has brought the intent: it has done nothing yet, has found
or written the record, or has failed. -/
def CaughtUp (r : Runtime K H) (phase : Phase) (t : Runtime K H) : Prop :=
  ∃ added, t.trace = added ++ r.trace ∧
    match phase with
    | .called => added = [] ∧ t.state = r.state
    | .edited => t.state.loadFault = none
    | .returned =>
        (∃ event ∈ added, event.failed = true) ∨
          t.state.UpToDate ∨
          added = [] ∧ t.state = r.state ∧ ¬(t.Writable ∧ t.state.retryAt = 0)
    | _ => t.state.loadFault = none ∧ t.state.dirty = false

theorem CaughtUp.move {phase next : Phase} {s t : Runtime K H} (tick : operation.IsTick)
    (move : Move operation (phase, s) (next, t)) (caughtUp : CaughtUp r phase s) :
    CaughtUp r next t := by
  obtain ⟨added, trace, reached⟩ := caughtUp
  have since : ∀ event, event :: s.trace = (event :: added) ++ r.trace := fun event => by
    rw [trace]
    rfl
  cases move with
  | clock _ now _ => exact ⟨added, trace, reached⟩
  | leave _ other idle _ =>
      refine ⟨added, trace, .inr (.inr ⟨reached.1, reached.2, ?_⟩)⟩
      rintro ⟨writable, prompt⟩
      exact idle tick ⟨writable, by omega⟩
  | resume _ _ running due => exact ⟨added, trace, running.2⟩
  | load _ saved _ running pending due found => exact ⟨_, since _, rfl⟩
  | loadFailed _ fault _ running pending found =>
      refine ⟨_, since _, ?_⟩
      rcases answer : (KvBlobStore.load s.kv (INTENT_KEY K)).1 with code | bytes
      · exact .inl ⟨_, List.mem_cons_self, rfl⟩
      · rw [answer] at found
        have refused := Runtime.savedState_ok_error found
        subst refused
        exact .inr (.inl ⟨by simp [State.loadFailed], by simp [State.loadFailed]⟩)
  | plan _ plan writable asks => exact absurd tick asks.not_tick
  | localOff _ hardware ok off readable => exact absurd off tick.ne_off
  | deferOff _ hardware ok off pending => exact absurd off tick.ne_off
  | startup _ startup asked writable stored => exact absurd tick asked.not_tick
  | startupRefused _ startup code asked writable refused => exact absurd tick asked.not_tick
  | verified _ frame hardware check known => exact absurd tick check.not_tick
  | refuted _ frame hardware check known => exact absurd tick check.not_tick
  | read _ hardware registers => exact absurd registers tick.ne_registers
  | unread _ hardware registers => exact absurd registers tick.ne_registers
  | latch _ hardware ok reboot => exact absurd reboot tick.ne_prepareReboot
  | clean _ clean => exact ⟨added, trace, reached, clean⟩
  | store _ dirty stored => exact ⟨_, since _, reached, rfl⟩
  | storeFailed _ hardware ok code dirty refused =>
      exact ⟨.shutdown ok :: .store (encodeRecord s.state.target s.state.startup) false :: added,
        congrArg (_ :: ·) (since _), .inl ⟨.store _ false, List.mem_cons_of_mem _ List.mem_cons_self, rfl⟩⟩
  | proceed _ readable => exact ⟨added, trace, reached⟩
  | repaired _ off => exact absurd off tick.ne_off
  | unstopped _ off => exact absurd off tick.ne_off
  | known _ known => exact ⟨added, trace, reached⟩
  | ease _ hardware unknown => exact ⟨_, since _, reached⟩
  | unproven _ hardware unknown => exact ⟨_, since _, reached⟩
  | rest _ _ same => exact ⟨added, trace, .inr (.inl (.of_clean reached.1 reached.2))⟩
  | check _ hardware _ same => exact ⟨_, since _, .inr (.inl (.of_clean reached.1 reached.2))⟩
  | checkFailed _ hardware _ same => exact ⟨_, since _, reached⟩
  | steady _ same => exact ⟨added, trace, .inr (.inl (.of_clean reached.1 reached.2))⟩
  | apply _ hardware differs => exact ⟨_, since _, .inr (.inl (.of_clean reached.1 reached.2))⟩
  | applyFailed _ hardware differs => exact ⟨_, since _, reached⟩
  | giveUp _ hardware ok => exact ⟨_, since _, .inr (.inl (.of_clean reached.1 reached.2))⟩

/-! ### Runs of ticks -/

section

variable [Hardware H]

open KeyRight.App.Runtime

theorem load_intent_error {kv : K} (hardware : H) {fault : Fault}
    (failed : savedState (KvBlobStore.load kv (INTENT_KEY K)).1 = .error fault) :
    (Runtime.load kv hardware).state.intent = (default, default, false, some fault, false) := by
  simp only [Runtime.load, failed]
  rfl

theorem load_intent_ok {kv : K} (hardware : H) {saved : SavedState}
    (answered : savedState (KvBlobStore.load kv (INTENT_KEY K)).1 = .ok saved) :
    (Runtime.load kv hardware).state.intent =
      (startupIntent saved.intended saved.startup, saved.startup, saved.stale, none, false) := by
  simp only [Runtime.load, answered]
  rfl

theorem Booting.load (kv : K) (hardware : H) :
    Booting (LawfulKvBlobStore.contents kv (INTENT_KEY K)) (Runtime.load kv hardware) := by
  have kept : (Runtime.load kv hardware).record =
      LawfulKvBlobStore.contents kv (INTENT_KEY K) := by
    change LawfulKvBlobStore.contents (KvBlobStore.load kv (INTENT_KEY K)).2 (INTENT_KEY K) = _
    rw [LawfulKvBlobStore.load_contents]
  rcases savedState_load (rfl : LawfulKvBlobStore.contents kv (INTENT_KEY K) = _) with failed | answered
  · have intent := load_intent_error hardware failed
    simp only [State.intent, Prod.mk.injEq] at intent
    obtain ⟨target, startup, clean, pending, undisturbed⟩ := intent
    exact .waiting pending target startup clean undisturbed kept
  · cases decoded : savedState (.ok (LawfulKvBlobStore.contents kv (INTENT_KEY K))) with
    | ok saved =>
        have intent := load_intent_ok hardware (answered.trans decoded)
        simp only [State.intent, Prod.mk.injEq] at intent
        obtain ⟨target, startup, dirty, readable, _⟩ := intent
        refine .restored saved decoded readable target startup ?_ ?_
        · intro owed
          exact ⟨dirty ▸ owed, kept⟩
        · intro clean
          rw [SavedState.rewritten, ← dirty, clean, if_neg Bool.false_ne_true]
          exact kept
    | error fault =>
        have refused := savedState_ok_error decoded
        subst refused
        have intent := load_intent_error hardware (answered.trans decoded)
        simp only [State.intent, Prod.mk.injEq] at intent
        obtain ⟨target, startup, clean, faulty, _⟩ := intent
        exact .refused decoded faulty target startup clean kept

theorem Unattended.load (kv : K) (hardware : H) :
    Unattended (LawfulKvBlobStore.contents kv (INTENT_KEY K)) (Runtime.load kv hardware) := by
  refine ⟨.load kv hardware, ?_, ?_⟩
  · intro rebooting
    simp only [Runtime.load] at rebooting
    cases found : savedState (KvBlobStore.load kv (INTENT_KEY K)).1 with
    | ok saved =>
        simp only [found, Option.getD_none] at rebooting
        split at rebooting
        · cases rebooting
        · cases rebooting
    | error fault =>
        simp only [found, Option.getD_some] at rebooting
        subst rebooting
        rcases savedState_error found with wrong | wrong
        · cases wrong
        · cases wrong
  · intro data ok member
    simp [Runtime.load] at member

theorem Unattended.after_tick (unattended : Unattended bytes r) (now : Nat) :
    Unattended bytes (r.after (.tick now)) :=
  (after_moves r (.tick now)).preserve (fun _ => Unattended bytes)
    (fun move before => before.move (show (Operation.tick now).IsTick from trivial) move) unattended

theorem Unattended.run_ticks (unattended : Unattended bytes r) (times : List Nat) :
    Unattended bytes (run r (times.map .tick)) := by
  induction times generalizing r with
  | nil => exact unattended
  | cons now rest inductionHypothesis => exact inductionHypothesis (unattended.after_tick now)

/-- The call read the record. -/
def Event.reads : Event K H → Bool
  | .load (.ok _) => true
  | _ => false

/-- A quiet tick that finds the record read, or reads it, leaves nothing to write. -/
theorem Unattended.upToDate (unattended : Unattended bytes r) {now : Nat}
    (quiet : r.Quiet (.tick now))
    (acts : (r.state.loadFault ≠ some .storage ∧ r.state.retryAt = 0) ∨
      ∃ event ∈ r.events (.tick now), event.reads = true) :
    (r.after (.tick now)).state.UpToDate := by
  have caughtUp : CaughtUp r .returned (r.after (.tick now)) :=
    (after_moves r (.tick now)).preserve (CaughtUp r)
      (fun move before => before.move (show (Operation.tick now).IsTick from trivial) move)
      ⟨[], rfl, rfl, rfl⟩
  obtain ⟨added, logged, failed | upToDate | ⟨idle, same, resting⟩⟩ := caughtUp
  · exact absurd failed (quiet.refutes logged)
  · exact upToDate
  · rw [same]
    rcases acts with ⟨answered, prompt⟩ | ⟨event, member, _⟩
    · refine ⟨answered, fun readable => absurd ?_ resting⟩
      rw [Writable, same]
      exact ⟨⟨unattended.running, readable⟩, prompt⟩
    · rw [events_eq logged, idle] at member
      cases member

/-! ### Boots agree -/

/-- A boot over these bytes that has finished the first tick with the record at hand:
the boot read it, or a tick did after any number of reads that failed. -/
inductive Booted (bytes : Option (List UInt8)) : Runtime K H → Prop where
  | prompt {kv : K} {hardware : H} {now : Nat}
      (held : LawfulKvBlobStore.contents kv (INTENT_KEY K) = bytes)
      (works : ∀ event ∈ (Runtime.load kv hardware).trace, event.failed = false)
      (quiet : (Runtime.load kv hardware).Quiet (.tick now)) :
      Booted bytes ((Runtime.load kv hardware).after (.tick now))
  | delayed {kv : K} {hardware : H} {retries : List Nat} {now : Nat}
      (held : LawfulKvBlobStore.contents kv (INTENT_KEY K) = bytes)
      (unread : (run (Runtime.load kv hardware) (retries.map .tick)).state.loadFault = some .storage)
      (reads : ∃ event ∈ (run (Runtime.load kv hardware) (retries.map .tick)).events (.tick now),
        event.reads = true)
      (quiet : (run (Runtime.load kv hardware) (retries.map .tick)).Quiet (.tick now)) :
      Booted bytes ((run (Runtime.load kv hardware) (retries.map .tick)).after (.tick now))

/-- Target, start-up settings, load fault, pending write and stored bytes after a boot. -/
def bootOutcome (bytes : Option (List UInt8)) :
    LightState × Startup × Option Fault × Bool × Option (List UInt8) :=
  match savedState (.ok bytes) with
  | .ok saved =>
      (startupIntent saved.intended saved.startup, saved.startup, none, false, saved.rewritten bytes)
  | .error fault => (default, default, some fault, false, bytes)

omit [Hardware H] in
theorem Booting.outcome (booting : Booting bytes r) (upToDate : r.state.UpToDate) :
    (r.state.target, r.state.startup, r.state.loadFault, r.state.dirty, r.record) =
      bootOutcome bytes := by
  cases booting with
  | waiting pending target startup clean undisturbed held => exact absurd pending upToDate.1
  | refused undecodable faulty target startup clean held =>
      simp only [bootOutcome, undecodable, target, startup, faulty, clean, held]
  | restored saved decoded readable target startup owed paid =>
      have clean := upToDate.2 readable
      simp only [bootOutcome, decoded, target, startup, readable, clean, paid clean]

/-- A boot whose calls work has read the record and is not held back. -/
theorem load_works {kv : K} {hardware : H}
    (works : ∀ event ∈ (Runtime.load kv hardware).trace, event.failed = false) :
    (Runtime.load kv hardware).state.loadFault ≠ some .storage ∧
      (Runtime.load kv hardware).state.retryAt = 0 := by
  have read := works (.load (KvBlobStore.load kv (INTENT_KEY K)).1) (by simp [Runtime.load])
  have stopped := works (.shutdown (Hardware.shutdown hardware).1.isOk) (by simp [Runtime.load])
  have answered : (Runtime.load kv hardware).state.loadFault ≠ some .storage := by
    cases answer : (KvBlobStore.load kv (INTENT_KEY K)).1 with
    | error code =>
        rw [answer] at read
        cases read
    | ok bytes =>
        simp only [Runtime.load, answer]
        cases decoded : savedState (.ok bytes) with
        | ok saved => simp
        | error fault => simp [savedState_ok_error decoded]
  refine ⟨answered, ?_⟩
  have prompt : (Runtime.load kv hardware).state.retryAt =
      if !(Hardware.shutdown hardware).1.isOk ∨
        (Runtime.load kv hardware).state.loadFault = some .storage then 5000 else 0 := by
    simp [Runtime.load]
  simpa [prompt, Event.failed, answered] using stopped

theorem run_answered (answered : r.state.loadFault ≠ some .storage) (operations : List Operation) :
    (run r operations).state.loadFault ≠ some .storage :=
  runAll_invariant (fun r operation before =>
    (after_moves r operation).preserve (fun _ t => t.state.loadFault ≠ some .storage)
      (fun move => move.answered) before) answered operations

theorem Booted.settled (booted : Booted bytes r) : Unattended bytes r ∧ r.state.UpToDate := by
  cases booted with
  | @prompt kv hardware now held works quiet =>
      have started := Unattended.load kv hardware
      rw [held] at started
      exact ⟨started.after_tick now, started.upToDate quiet (.inl (load_works works))⟩
  | @delayed kv hardware retries now held unread reads quiet =>
      have started := (Unattended.load kv hardware).run_ticks retries
      rw [held] at started
      exact ⟨started.after_tick now, started.upToDate quiet (.inr reads)⟩

omit [Hardware H] in
/-- A run of ticks over what a boot left writes nothing, keeps the bytes, and has the
same target and start-up settings once it has read them. -/
theorem Unattended.again {saved : SavedState} (decoded : savedState (.ok bytes) = .ok saved)
    (unattended : Unattended (saved.rewritten bytes) r) :
    (∀ data ok, Event.store data ok ∉ r.trace) ∧ r.record = saved.rewritten bytes ∧
      (r.state.loadFault ≠ some .storage → r.state.loadFault = none ∧ r.state.dirty = false ∧
        r.state.target = startupIntent saved.intended saved.startup ∧
        r.state.startup = saved.startup) := by
  have decodes := SavedState.rewritten_decodes decoded
  have settled := SavedState.settled_not_stale saved
  have fresh : ∀ {other : SavedState},
      savedState (.ok (saved.rewritten bytes)) = .ok other → other.stale = false := by
    intro other reads
    rw [decodes] at reads
    cases reads
    exact settled
  refine ⟨?_, ?_⟩
  · intro data ok member
    obtain ⟨other, reads, stale⟩ := unattended.writes data ok member
    rw [fresh reads] at stale
    cases stale
  · cases unattended.booting with
    | waiting pending target startup clean undisturbed held =>
        exact ⟨held, fun answered => absurd pending answered⟩
    | refused undecodable faulty target startup clean held =>
        rw [decodes] at undecodable
        cases undecodable
    | restored other reads readable target startup owed paid =>
        have clean : r.state.dirty = false := by
          cases dirty : r.state.dirty with
          | false => rfl
          | true =>
              have stale := (owed dirty).1
              rw [fresh reads] at stale
              cases stale
        have record := paid clean
        rw [SavedState.rewritten, fresh reads, if_neg Bool.false_ne_true] at record
        refine ⟨record, fun _ => ⟨readable, clean, ?_, ?_⟩⟩
        · rw [decodes] at reads
          cases reads
          rw [target, startupIntent_startupIntent]
        · rw [decodes] at reads
          cases reads
          exact startup

/-- Boots over the same bytes agree, whether the record was read at once or by a retry:
target, start-up settings, load fault, pending write and stored bytes are the same. After a
load that succeeded, the store holds a version 3 record of exactly the target and the
start-up settings, or nothing while both are defaults; and every later boot over it writes
nothing, keeps the bytes and restores the same values as soon as it has read them. -/
theorem boots_agree (bytes : Option (List UInt8)) :
    (∀ first second : Runtime K H, Booted bytes first → Booted bytes second →
      first.state.target = second.state.target ∧ first.state.startup = second.state.startup ∧
        first.state.loadFault = second.state.loadFault ∧
        first.state.dirty = second.state.dirty ∧ first.record = second.record) ∧
    ∀ r : Runtime K H, Booted bytes r → r.state.loadFault = none →
      (r.record = some (encodeRecord r.state.target r.state.startup) ∨
        r.record = none ∧ r.state.target = default ∧ r.state.startup = default) ∧
      ∀ (kv : K) (hardware : H) (times : List Nat),
        LawfulKvBlobStore.contents kv (INTENT_KEY K) = r.record →
        let second := run (Runtime.load kv hardware) (times.map .tick)
        (∀ data ok, Event.store data ok ∉ second.trace) ∧ second.record = r.record ∧
          ((∀ event ∈ (Runtime.load kv hardware).trace, event.failed = false) →
            second.state.loadFault ≠ some .storage) ∧
          (second.state.loadFault ≠ some .storage →
            second.state.loadFault = none ∧ second.state.dirty = false ∧
              second.state.target = r.state.target ∧ second.state.startup = r.state.startup) := by
  constructor
  · intro first second booted again
    have same := (booted.settled.1.booting.outcome booted.settled.2).trans
      (again.settled.1.booting.outcome again.settled.2).symm
    simpa only [Prod.mk.injEq] using same
  · intro r booted readable
    obtain ⟨unattended, upToDate⟩ := booted.settled
    cases unattended.booting with
    | waiting pending target startup clean undisturbed held => exact absurd pending upToDate.1
    | refused undecodable faulty target startup clean held =>
        rw [readable] at faulty
        cases faulty
    | restored saved decoded _ target startup owed paid =>
        have record := paid (upToDate.2 readable)
        rw [record, target, startup]
        refine ⟨?_, ?_⟩
        · rcases SavedState.rewritten_cases decoded with written | ⟨blank, fresh⟩
          · exact .inl written
          · refine .inr ⟨blank, ?_, ?_⟩
            · rw [fresh]
              rfl
            · rw [fresh]
              rfl
        · intro kv hardware times held second
          have started := Unattended.load kv hardware
          rw [held] at started
          obtain ⟨silent, kept, restores⟩ := Unattended.again decoded (started.run_ticks times)
          exact ⟨silent, kept, fun works => run_answered (load_works works).1 _, restores⟩

/-- A version 2 record that is read at once, and one that is read by the second retry. -/
theorem boots_agree_migrated :
    let record := some [2, 1, 0, 0, 0]
    let prompt : Runtime FlakyStore SimulatedOutput :=
      (Runtime.load (.holding record 0) default).after (.tick 0)
    let delayed : Runtime FlakyStore SimulatedOutput :=
      (run (Runtime.load (.holding record 2) default) ([5000].map .tick)).after (.tick 10000)
    (prompt.state.target = delayed.state.target ∧ prompt.record = delayed.record) ∧
      ∀ data ok, Event.store data ok ∉
        (run (Runtime.load delayed.kv delayed.state.hardware) ([0, 500].map .tick)).trace := by
  intro record prompt delayed
  have first : Booted record prompt :=
    .prompt (by decide +kernel) (by decide +kernel) (by decide +kernel)
  have second : Booted record delayed :=
    .delayed (by decide +kernel) (by decide +kernel) (by decide +kernel) (by decide +kernel)
  have agree := (boots_agree record).1 prompt delayed first second
  have restarts := ((boots_agree record).2 delayed second (by decide +kernel)).2
  exact ⟨⟨agree.1, agree.2.2.2.2⟩, (restarts delayed.kv delayed.state.hardware [0, 500] rfl).1⟩

end

end

end KeyRight.App
