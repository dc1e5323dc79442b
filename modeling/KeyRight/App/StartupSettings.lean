import KeyRight.App.Bench
import KeyRight.App.Durability
import KeyRight.App.StoreFirst

/-!
Owns the writes of start-up settings: a write is refused and changes nothing, or the store
holds the live target with the requested settings, and neither touches the lamp.

Does not own what a boot makes of the settings.
-/

namespace KeyRight.App

open KeyRight.Core KeyRight.Support

variable {K H : Type}

/-- The settings that a start-up call asks for, the others preserved. -/
def Operation.Requests (old new : Startup) : Operation → Prop
  | .setStartup value =>
      (value = none ∧ new.power = 0 ∨ value = some .off ∧ new.power = 1) ∧
        new.level = old.level ∧ new.temperature = old.temperature
  | .setStartupLevel value =>
      new.level = value ∧ new.power = old.power ∧ new.temperature = old.temperature
  | .setStartupTemperature value =>
      new.temperature = value ∧ new.power = old.power ∧ new.level = old.level
  | _ => False

/-- The state with other start-up settings, dirty flag, revision and storage failures. -/
def State.withStartup (s t : State H) : State H :=
  { s with
    startup := t.startup
    dirty := t.dirty
    revision := t.revision
    storageFailures := t.storageFailures }

section

variable [LawfulKvBlobStore K]

/-- What a write of `requested` start-up settings makes of `r`. -/
structure SavesStartup (requested : Startup → Prop) {α : Type} (r : Runtime K H)
    (result : Except ErrorCode α) (t : Runtime K H) : Prop where
  silent : ∃ added, t.trace = added ++ r.trace ∧ ∀ event ∈ added, event.stores = true
  lamp : t.state = r.state.withStartup t.state
  time : t.now = r.now
  refused : ∀ code, result = .error code →
    t.state = { r.state with storageFailures := t.state.storageFailures } ∧
      LawfulKvBlobStore.contents t.kv = LawfulKvBlobStore.contents r.kv
  saved : ∀ reply, result = .ok reply →
    requested t.state.startup ∧ t.state.dirty = false ∧ Stored t.kv t.state.target t.state.startup

theorem SavesStartup.fail {requested : Startup → Prop} {α : Type} (r : Runtime K H)
    (code : ErrorCode) : SavesStartup requested r (.error code : Except ErrorCode α) r where
  silent := ⟨[], rfl, by simp⟩
  lamp := rfl
  time := rfl
  refused := fun _ _ => ⟨rfl, rfl⟩
  saved := by
    intro reply wrong
    cases wrong

namespace Runtime

open Program

/-- A write is refused, changes nothing that is stored, or stores the settings beside the
live target, pending or not. -/
theorem saveStartup_saves {r : Runtime K H} (agrees : Agrees r) {requested : Startup → Prop}
    {startup : Startup} (asked : requested startup) :
    Ends (saveStartup startup) r (SavesStartup requested r) := by
  simp only [saveStartup, ends_bind, ends_read]
  apply ends_writable
  · intro writable
    simp only [ends_ite, ends_pure, ends_bind]
    refine ⟨fun unchanged => ?_, fun _ => ends_storeRecord ?_ ?_⟩
    · obtain ⟨rfl, clean⟩ := unchanged
      have clean : r.state.dirty = false := by simpa using clean
      refine ⟨⟨[], rfl, by simp⟩, rfl, rfl, fun _ wrong => ?_, fun _ _ => ?_⟩
      · cases wrong
      · exact ⟨asked, clean, agrees writable.2 clean⟩
    · intro stored
      refine ⟨⟨[_], rfl, by simp [Event.stores]⟩, rfl, rfl, fun _ wrong => ?_, fun _ _ => ?_⟩
      · cases wrong
      · exact ⟨asked, rfl, Stored.of_store stored⟩
    · intro code refused
      simp only [ends_bind, edit, ends_update]
      refine ⟨⟨[_], rfl, by simp [Event.stores]⟩, rfl, rfl, fun _ _ => ⟨rfl, ?_⟩, fun _ wrong => ?_⟩
      · exact LawfulKvBlobStore.store_error r.kv (INTENT_KEY K) _ code refused
      · cases wrong
  · intro _ code
    exact .fail r code

theorem setStartup_saves {r : Runtime K H} (agrees : Agrees r) (value : Option StartUpOnOff) :
    Ends (setStartup value) r
      (SavesStartup (fun new => (Operation.setStartup value).Requests r.state.startup new) r) := by
  simp only [setStartup, ends_bind, ends_read]
  rcases value with _ | policy
  · exact saveStartup_saves agrees ⟨.inl ⟨rfl, rfl⟩, rfl, rfl⟩
  · cases policy with
    | off => exact saveStartup_saves agrees ⟨.inr ⟨rfl, rfl⟩, rfl, rfl⟩
    | on => exact .fail r _
    | toggle => exact .fail r _

theorem setStartupLevel_saves {r : Runtime K H} (agrees : Agrees r) (value : Option UInt8) :
    Ends (setStartupLevel value) r
      (SavesStartup (fun new => (Operation.setStartupLevel value).Requests r.state.startup new) r) := by
  simp only [setStartupLevel, ends_bind, ends_read]
  by_cases valid : value ≠ some 255
  · rw [dif_pos valid]
    exact saveStartup_saves agrees ⟨rfl, rfl, rfl⟩
  · rw [dif_neg valid]
    exact .fail r _

theorem setStartupTemperature_saves {r : Runtime K H} (agrees : Agrees r)
    (value : Option ColorTemperature) :
    Ends (setStartupTemperature value) r
      (SavesStartup (fun new => (Operation.setStartupTemperature value).Requests r.state.startup new)
        r) := by
  simp only [setStartupTemperature, ends_bind, ends_read]
  exact saveStartup_saves agrees ⟨rfl, rfl, rfl⟩

theorem done_saves {call : Call K H Unit} {r : Runtime K H} {requested : Startup → Prop}
    (ends : Ends call r (SavesStartup requested r)) :
    Ends (done call) r (SavesStartup requested r) := by
  simp only [done, ends_bind]
  refine ends.mono fun result t saves => ?_
  cases result with
  | ok _ =>
      refine ⟨saves.silent, saves.lamp, saves.time, fun _ wrong => ?_, fun _ _ => ?_⟩
      · cases wrong
      · exact saves.saved () rfl
  | error code =>
      refine ⟨saves.silent, saves.lamp, saves.time, fun _ _ => ?_, fun _ wrong => ?_⟩
      · exact saves.refused code rfl
      · cases wrong

variable [Hardware H]

theorem after_saves {r : Runtime K H} (agrees : Agrees r) {operation : Operation}
    (asked : operation.IsStartup) :
    SavesStartup (fun new => operation.Requests r.state.startup new) r (r.outcome operation)
      (r.after operation) := by
  cases operation with
  | setStartup value => exact done_saves (setStartup_saves agrees value)
  | setStartupLevel value => exact done_saves (setStartupLevel_saves agrees value)
  | setStartupTemperature value => exact done_saves (setStartupTemperature_saves agrees value)
  | _ => exact asked.elim

/-- In every run, a write of start-up settings calls nothing but the store and changes
nothing of the lamp. A refused one changes at most the count of storage failures and no
stored byte; after one that returns, the store holds the target in force and the requested
settings, a target that was still to be written included. -/
theorem run_startupSettings (kv : K) (hardware : H) (operations : List Operation)
    {operation : Operation} (asked : operation.IsStartup) :
    let r := run (load kv hardware) operations
    let t := r.after operation
    (∀ event ∈ r.events operation, event.stores = true) ∧
      t.state = r.state.withStartup t.state ∧ t.now = r.now ∧
      (∀ code, r.outcome operation = .error code →
        t.state = { r.state with storageFailures := t.state.storageFailures } ∧
          LawfulKvBlobStore.contents t.kv = LawfulKvBlobStore.contents r.kv) ∧
      ∀ reply, r.outcome operation = .ok reply →
        operation.Requests r.state.startup t.state.startup ∧ t.state.dirty = false ∧
          Stored t.kv r.state.target t.state.startup := by
  intro r t
  have reachable : r.Reachable := (Reachable.load kv hardware).run operations
  have saves := after_saves reachable.durable.owed asked
  obtain ⟨added, logged, stores⟩ := saves.silent
  have fresh : r.events operation = added := events_eq logged
  have target : t.state.target = r.state.target := by
    have same := congrArg State.target saves.lamp
    exact same
  refine ⟨fresh ▸ stores, saves.lamp, saves.time, saves.refused, fun reply returned => ?_⟩
  obtain ⟨requested, clean, stored⟩ := saves.saved reply returned
  exact ⟨requested, clean, target ▸ stored⟩

/-- An Off policy that is set while the lamp is on is stored beside the live target. -/
theorem run_startupSettings_off :
    let r := run (bench none) [.tick 0, .setPower true]
    let t := r.after (.setStartup (some .off))
    Stored t.kv r.state.target t.state.startup :=
  ((run_startupSettings _ _ [.tick 0, .setPower true] (show Operation.IsStartup (.setStartup _) from
    trivial)).2.2.2.2 .done (by decide +kernel)).2.2

end Runtime

end

end KeyRight.App
