import KeyRight.App.Acknowledgement

/-!
Owns write-ahead durability: a frame is applied, and a target is reported, only
while the store holds exactly the target and the start-up settings in force.

Does not own acknowledgement or the choice of frames.
-/

namespace KeyRight.App

open KeyRight.Core

variable {K H : Type} [LawfulKvBlobStore K]

/-- The stored record decodes to exactly these values, or there is none and both
are the defaults. -/
def Stored (kv : K) (target : LightState) (startup : Startup) : Prop :=
  match LawfulKvBlobStore.contents kv (INTENT_KEY K) with
  | none => target = default ∧ startup = default
  | some bytes => decodeRecord bytes = .ok ⟨target, startup, false⟩

/-- Nothing waits to be saved, nothing failed to load, and the store agrees. -/
structure Written (kv : K) (s : State H) : Prop where
  clean : s.dirty = false
  readable : s.loadFault = none
  stored : Stored kv s.target s.startup

/-- An application is made only in a written state. -/
def Event.Durable : Event K H → Prop
  | .applyFrame kv held _ _ => Written kv held
  | _ => True

/-- A state that claims to be clean and readable agrees with the store. -/
def Agrees (r : Runtime K H) : Prop :=
  r.state.loadFault = none → r.state.dirty = false → Stored r.kv r.state.target r.state.startup

/-- What each phase owes to durability. -/
def DurableAt : Phase → Runtime K H → Prop
  | .edited, r => Agrees r ∧ (r.state.loadFault ≠ none → r.state.dirty = true)
  | .saved, r => Stored r.kv r.state.target r.state.startup
  | .ready, r => Stored r.kv r.state.target r.state.startup
  | .poised, r => Stored r.kv r.state.target r.state.startup
  | _, r => Agrees r

structure Durable (phase : Phase) (r : Runtime K H) : Prop where
  logged : ∀ event ∈ r.trace, event.Durable
  loadFaults : r.state.loadFault = none ∨ r.state.loadFault = some .storage ∨
    r.state.loadFault = some .invalidRecord
  owed : DurableAt phase r

/-! ### Stores -/

theorem Stored.of_store {kv : K} {target : LightState} {startup : Startup}
    (stored : (KvBlobStore.store kv (INTENT_KEY K) (encodeRecord target startup)).1 = .ok ()) :
    Stored (KvBlobStore.store kv (INTENT_KEY K) (encodeRecord target startup)).2 target startup := by
  have kept := LawfulKvBlobStore.store_ok kv (INTENT_KEY K) _ stored
  simp only [Stored, kept]
  exact decodeRecord_encodeRecord target startup

theorem Stored.of_error {kv : K} {data : List UInt8} {code : ErrorCode} {target : LightState}
    {startup : Startup} (refused : (KvBlobStore.store kv (INTENT_KEY K) data).1 = .error code)
    (stored : Stored kv target startup) :
    Stored (KvBlobStore.store kv (INTENT_KEY K) data).2 target startup := by
  have kept := LawfulKvBlobStore.store_error kv (INTENT_KEY K) data code refused
  simp only [Stored, kept]
  exact stored

/-- A clean load establishes what the store holds. -/
theorem Stored.of_load {kv : K} {saved : SavedState}
    (found : Runtime.savedState (KvBlobStore.load kv (INTENT_KEY K)).1 = .ok saved)
    (current : saved.migrated = false) :
    Stored (KvBlobStore.load kv (INTENT_KEY K)).2 saved.intended saved.startup := by
  have kept := LawfulKvBlobStore.load_contents kv (INTENT_KEY K)
  simp only [Stored, kept]
  cases answer : (KvBlobStore.load kv (INTENT_KEY K)).1 with
  | error code =>
      rw [answer] at found
      cases found
  | ok bytes =>
      have held := LawfulKvBlobStore.load_ok kv (INTENT_KEY K) bytes answer
      rw [answer] at found
      rw [← held]
      cases bytes with
      | none =>
          cases found
          exact ⟨rfl, rfl⟩
      | some bytes =>
          change decodeRecord bytes = .ok saved at found
          simp only [found, ← current]

theorem savedState_error {found : Except ErrorCode (Option (List UInt8))} {fault : Fault}
    (failed : Runtime.savedState found = .error fault) :
    fault = .storage ∨ fault = .invalidRecord := by
  rcases found with code | _ | bytes
  · cases failed
    exact .inl rfl
  · cases failed
  · exact .inr (decodeRecord_error failed)

/-! ### Moves preserve durability -/

theorem Durable.move {operation : Operation} {phase next : Phase} {r t : Runtime K H}
    (durable : Durable phase r) (move : Move operation (phase, r) (next, t))
    (truthful : Truthful phase r) : Durable next t := by
  obtain ⟨logged, loadFaults, owed⟩ := durable
  have clean := truthful.clean
  cases move with
  | clock _ now tick => exact ⟨logged, loadFaults, owed⟩
  | leave _ other _ _ => exact ⟨logged, loadFaults, owed⟩
  | resume _ tick running due =>
      exact ⟨logged, loadFaults, owed, fun faulty => absurd running.2 faulty⟩
  | load _ saved tick running pending due found =>
      refine ⟨List.forall_mem_cons.mpr ⟨trivial, logged⟩, .inl rfl, fun _ clean => ?_,
        fun faulty => absurd rfl faulty⟩
      obtain ⟨current, unchanged⟩ := State.loaded_clean.mp clean
      have stored := Stored.of_load found current
      rw [← unchanged] at stored
      exact stored
  | loadFailed _ fault tick running pending found =>
      refine ⟨List.forall_mem_cons.mpr ⟨trivial, logged⟩, ?_, fun readable => nomatch readable⟩
      rcases savedState_error found with rfl | rfl
      · exact .inr (.inl rfl)
      · exact .inr (.inr rfl)
  | plan _ plan writable asks =>
      refine ⟨logged, loadFaults, fun _ clean => ?_, fun faulty => absurd writable.2 faulty⟩
      obtain ⟨wasClean, same⟩ := State.setTarget_clean.mp clean
      have stored := owed writable.2 wasClean
      rw [show r.state.target = plan.target from same] at stored
      exact stored
  | localOff _ hardware ok off readable =>
      refine ⟨List.forall_mem_cons.mpr ⟨trivial, logged⟩, loadFaults, fun sound clean => ?_, ?_⟩
      · obtain ⟨⟨wasClean, wasOff⟩, _⟩ :
            (r.state.dirty = false ∧ r.state.target.on = false) ∧ _ := by
          simpa [State.localOff, State.repairRecord] using clean
        have stored := owed sound wasClean
        have same : r.state.target = { r.state.target with on := false } := by rw [← wasOff]
        rw [same] at stored
        exact stored
      · intro faulty
        rcases loadFaults with none | storage | invalid
        · exact absurd none faulty
        · exact absurd storage readable
        · simp [State.localOff, State.repairRecord, invalid]
  | deferOff _ hardware ok off pending =>
      refine ⟨List.forall_mem_cons.mpr ⟨trivial, logged⟩, loadFaults, fun sound => ?_⟩
      have impossible : some Fault.storage = none := pending.symm.trans sound
      cases impossible
  | startup _ startup asked writable stored =>
      exact ⟨List.forall_mem_cons.mpr ⟨trivial, logged⟩, loadFaults,
        fun _ _ => Stored.of_store stored⟩
  | startupRefused _ startup code asked writable refused =>
      exact ⟨List.forall_mem_cons.mpr ⟨trivial, logged⟩, loadFaults,
        fun sound clean => (owed sound clean).of_error refused⟩
  | verified _ frame hardware check known =>
      exact ⟨List.forall_mem_cons.mpr ⟨trivial, logged⟩, loadFaults, owed⟩
  | refuted _ frame hardware check known =>
      exact ⟨List.forall_mem_cons.mpr ⟨trivial, logged⟩, loadFaults, owed⟩
  | read _ hardware registers =>
      exact ⟨List.forall_mem_cons.mpr ⟨trivial, logged⟩, loadFaults, owed⟩
  | unread _ hardware registers =>
      exact ⟨List.forall_mem_cons.mpr ⟨trivial, logged⟩, loadFaults, owed⟩
  | latch _ hardware ok reboot =>
      exact ⟨List.forall_mem_cons.mpr ⟨trivial, logged⟩, loadFaults, owed⟩
  | clean _ clean =>
      refine ⟨logged, loadFaults, ?_⟩
      by_cases sound : r.state.loadFault = none
      · exact owed.1 sound clean
      · rw [owed.2 sound] at clean
        cases clean
  | store _ dirty stored =>
      exact ⟨List.forall_mem_cons.mpr ⟨trivial, logged⟩, loadFaults, Stored.of_store stored⟩
  | storeFailed _ hardware ok code dirty refused =>
      refine ⟨List.forall_mem_cons.mpr ⟨trivial, List.forall_mem_cons.mpr ⟨trivial, logged⟩⟩,
        loadFaults, fun _ clean => ?_⟩
      have impossible : true = false := dirty.symm.trans clean
      cases impossible
  | proceed _ readable => exact ⟨logged, loadFaults, owed⟩
  | repaired _ off => exact ⟨logged, .inl rfl, owed⟩
  | unstopped _ off => exact ⟨logged, loadFaults, fun _ _ => owed⟩
  | known _ known => exact ⟨logged, loadFaults, owed⟩
  | ease _ hardware unknown =>
      exact ⟨List.forall_mem_cons.mpr ⟨trivial, logged⟩, loadFaults, owed⟩
  | unproven _ hardware unknown =>
      exact ⟨List.forall_mem_cons.mpr ⟨trivial, logged⟩, loadFaults, fun _ _ => owed⟩
  | rest _ tick same => exact ⟨logged, loadFaults, fun _ _ => owed⟩
  | check _ hardware tick same =>
      exact ⟨List.forall_mem_cons.mpr ⟨trivial, logged⟩, loadFaults, fun _ _ => owed⟩
  | checkFailed _ hardware tick same =>
      exact ⟨List.forall_mem_cons.mpr ⟨trivial, logged⟩, loadFaults, fun _ _ => owed⟩
  | steady _ same => exact ⟨logged, loadFaults, fun _ _ => owed⟩
  | apply _ hardware differs =>
      have held : Written r.kv (r.state.intend (r.state.effective r.now)) :=
        ⟨clean.1, clean.2, owed⟩
      exact ⟨List.forall_mem_cons.mpr ⟨held, logged⟩, loadFaults, fun _ _ => owed⟩
  | applyFailed _ hardware differs =>
      have held : Written r.kv (r.state.intend (r.state.effective r.now)) :=
        ⟨clean.1, clean.2, owed⟩
      exact ⟨List.forall_mem_cons.mpr ⟨held, logged⟩, loadFaults, fun _ _ => owed⟩
  | giveUp _ hardware ok =>
      exact ⟨List.forall_mem_cons.mpr ⟨trivial, logged⟩, loadFaults, owed⟩

theorem Durable.load [Hardware H] (kv : K) (hardware : H) :
    Durable .called (Runtime.load kv hardware) := by
  refine ⟨?_, ?_, fun sound clean => ?_⟩
  · intro event member
    simp only [Runtime.load, List.mem_cons, List.not_mem_nil, or_false] at member
    rcases member with rfl | rfl
    · trivial
    · trivial
  · cases found : Runtime.savedState (KvBlobStore.load kv (INTENT_KEY K)).1 with
    | ok saved => exact .inl (by simp [Runtime.load, found])
    | error fault =>
        rcases savedState_error found with rfl | rfl
        · exact .inr (.inl (by simp [Runtime.load, found]))
        · exact .inr (.inr (by simp [Runtime.load, found]))
  · cases found : Runtime.savedState (KvBlobStore.load kv (INTENT_KEY K)).1 with
    | ok saved =>
        simp only [Runtime.load, found, Except.toOption, Option.getD_some, Bool.or_eq_false_iff,
          decide_eq_false_iff_not, not_not] at clean ⊢
        have stored := Stored.of_load found clean.1
        rw [← clean.2] at stored
        exact stored
    | error fault => simp [Runtime.load, found] at sound

/-! ### Runs -/

/-- Durability holds between the operations of every run. -/
theorem Runtime.Reachable.durable [Hardware H] {r : Runtime K H} (reachable : r.Reachable) :
    Durable .called r :=
  (reachable.phases (fun phase r => Truthful phase r ∧ Durable phase r)
    (fun kv hardware => ⟨Truthful.load kv hardware, Durable.load kv hardware⟩)
    (fun move before => ⟨before.1.move move, before.2.move move before.1⟩)
    (fun _ before => ⟨before.1.again, before.2.logged, before.2.loadFaults, before.2.owed⟩)).2

theorem Durable.written {r : Runtime K H} (durable : Durable .called r)
    (truthful : Truthful .called r) (known : r.state.controller.appliedFrame ≠ none) :
    Written r.kv r.state := by
  have clean := truthful.clean known
  have readable := (truthful.healthy nofun known).2.1
  exact ⟨clean, readable, durable.owed readable clean⟩

/-- In every run, each frame is applied in a written state, and a reported target
is the one that the store holds. -/
theorem Runtime.run_writeAhead [Hardware H] (kv : K) (hardware : H)
    (operations : List Operation) :
    (∀ stored held frame ok,
      Event.applyFrame stored held frame ok ∈ (run (load kv hardware) operations).trace →
        Written stored held) ∧
    ∀ target, (run (load kv hardware) operations).reported = .ok target →
      target = (run (load kv hardware) operations).state.target ∧
        Written (run (load kv hardware) operations).kv
          (run (load kv hardware) operations).state := by
  have reachable := (Reachable.load kv hardware).run operations
  have durable := reachable.durable
  constructor
  · intro stored held frame ok member
    exact durable.logged _ member
  · intro target reported
    obtain ⟨_, known, same⟩ := reported_eq_ok.mp reported
    exact ⟨same.symm, durable.written reachable.truthful known⟩

/-- Switching on from a fresh store writes the record before it is reported. -/
theorem Runtime.run_writeAhead_powered :
    Written (run (bench none) [.tick 0, .setPower true]).kv
      (run (bench none) [.tick 0, .setPower true]).state :=
  ((run_writeAhead _ _ [.tick 0, .setPower true]).2
    { (default : LightState) with on := true } (by decide +kernel)).2

end KeyRight.App
