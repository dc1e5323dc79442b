import KeyRight.App.Reboot

/-!
Owns the store calls of the commands, each at most one and before any output, and of
ticks with nothing to write, which make none.

Does not own what is stored.
-/

namespace KeyRight.App

variable {K H : Type}

/-- The call saves a record. -/
def Event.stores : Event K H → Bool
  | .store _ _ => true
  | _ => false

/-- At most one of these calls, newest first, saves a record, and no other call is older. -/
def StoresFirst (events : List (Event K H)) : Prop :=
  ∃ outputs first : List (Event K H), events = outputs ++ first ∧
    (∀ event ∈ outputs, event.stores = false) ∧ first.length ≤ 1 ∧
    ∀ event ∈ first, event.stores = true

theorem StoresFirst.nil : StoresFirst ([] : List (Event K H)) :=
  ⟨[], [], rfl, by simp, by simp, by simp⟩

theorem StoresFirst.store (data : List UInt8) (ok : Bool) :
    StoresFirst [(.store data ok : Event K H)] :=
  ⟨[], [.store data ok], rfl, by simp, by simp, by simp [Event.stores]⟩

theorem StoresFirst.cons {event : Event K H} {events : List (Event K H)}
    (other : event.stores = false) (stores : StoresFirst events) : StoresFirst (event :: events) := by
  obtain ⟨outputs, first, rfl, unsaved, once, saved⟩ := stores
  refine ⟨event :: outputs, first, rfl, fun last member => ?_, once, saved⟩
  rcases List.mem_cons.mp member with rfl | earlier
  · exact other
  · exact unsaved last earlier

namespace Runtime

/-- What a command has called so far. -/
def StoresAt (past : List (Event K H)) : Phase → Runtime K H → Prop
  | .called, t => t.trace = past
  | .edited, t => t.trace = past
  | _, t => ∃ added, t.trace = added ++ past ∧ StoresFirst added

theorem StoresAt.cons {past : List (Event K H)} {trace : List (Event K H)} {event : Event K H}
    (other : event.stores = false) (stores : ∃ added, trace = added ++ past ∧ StoresFirst added) :
    ∃ added, event :: trace = added ++ past ∧ StoresFirst added := by
  obtain ⟨added, rfl, first⟩ := stores
  exact ⟨event :: added, rfl, first.cons other⟩

theorem StoresAt.move [KvBlobStore K] {operation : Operation} (command : operation.IsCommand)
    {past : List (Event K H)} {phase next : Phase} {r t : Runtime K H}
    (move : Move operation (phase, r) (next, t)) (stores : StoresAt past phase r) :
    StoresAt past next t := by
  cases move with
  | clock _ now tick =>
      subst tick
      exact command.elim
  | leave _ other idle unplanned => exact ⟨[], stores, .nil⟩
  | resume _ tick running due => exact stores
  | load _ saved tick running pending due found =>
      cases operation with
      | tick now => exact command.elim
      | _ => exact tick.elim
  | loadFailed _ fault tick running pending found =>
      cases operation with
      | tick now => exact command.elim
      | _ => exact tick.elim
  | plan _ plan writable asks => exact stores
  | localOff _ hardware ok off readable =>
      subst off
      exact command.elim
  | deferOff _ hardware ok off pending =>
      subst off
      exact command.elim
  | startup _ startup asked writable stored =>
      exact ⟨[_], congrArg _ stores, .store _ _⟩
  | startupRefused _ startup code asked writable refused =>
      exact ⟨[_], congrArg _ stores, .store _ _⟩
  | verified _ frame hardware check known =>
      exact ⟨[_], congrArg _ stores, StoresFirst.nil.cons rfl⟩
  | refuted _ frame hardware check known =>
      exact ⟨[_], congrArg _ stores, StoresFirst.nil.cons rfl⟩
  | read _ hardware registers => exact ⟨[_], congrArg _ stores, StoresFirst.nil.cons rfl⟩
  | unread _ hardware registers => exact ⟨[_], congrArg _ stores, StoresFirst.nil.cons rfl⟩
  | latch _ hardware ok reboot => exact ⟨[_], congrArg _ stores, StoresFirst.nil.cons rfl⟩
  | clean _ clean => exact ⟨[], stores, .nil⟩
  | store _ dirty stored => exact ⟨[_], congrArg _ stores, .store _ _⟩
  | storeFailed _ hardware ok code dirty refused =>
      exact ⟨[.shutdown ok, _], congrArg (fun older => _ :: _ :: older) stores, (StoresFirst.store _ _).cons rfl⟩
  | proceed _ readable => exact stores
  | repaired _ off => exact stores
  | unstopped _ off => exact stores
  | known _ known => exact stores
  | ease _ hardware unknown => exact StoresAt.cons rfl stores
  | unproven _ hardware unknown => exact StoresAt.cons rfl stores
  | rest _ tick same => exact stores
  | check _ hardware tick same => exact StoresAt.cons rfl stores
  | checkFailed _ hardware tick same => exact StoresAt.cons rfl stores
  | steady _ same => exact stores
  | apply _ hardware differs => exact StoresAt.cons rfl stores
  | applyFailed _ hardware differs => exact StoresAt.cons rfl stores
  | giveUp _ hardware ok => exact StoresAt.cons rfl stores

/-- A command makes at most one store call, before any output. -/
theorem events_storesFirst [KvBlobStore K] [Hardware H] (r : Runtime K H) {operation : Operation}
    (command : operation.IsCommand) : StoresFirst (r.events operation) := by
  obtain ⟨added, logged, first⟩ :=
    (after_moves r operation).preserve (StoresAt r.trace) (StoresAt.move command) rfl
  rw [Runtime.events_eq logged]
  exact first

/-- Nothing waits to be written, and no store call was made since `past`. -/
structure Unwritten (past : List (Event K H)) (t : Runtime K H) : Prop where
  clean : t.state.dirty = false
  readable : t.state.loadFault = none
  unwritten : ∃ added, t.trace = added ++ past ∧ ∀ event ∈ added, event.stores = false

theorem Unwritten.cons {past : List (Event K H)} {s t : Runtime K H} (unwritten : Unwritten past s)
    {event : Event K H} (other : event.stores = false) (trace : t.trace = event :: s.trace)
    (dirty : t.state.dirty = s.state.dirty) (loadFault : t.state.loadFault = s.state.loadFault) :
    Unwritten past t := by
  obtain ⟨clean, readable, added, logged, silent⟩ := unwritten
  refine ⟨dirty.trans clean, loadFault.trans readable, event :: added, by rw [trace, logged]; rfl, ?_⟩
  intro last member
  rcases List.mem_cons.mp member with rfl | earlier
  · exact other
  · exact silent last earlier

theorem Unwritten.move [KvBlobStore K] {past : List (Event K H)} {now : Nat} {phase next : Phase}
    {s t : Runtime K H} (move : Move (.tick now) (phase, s) (next, t))
    (unwritten : Unwritten past s) : Unwritten past t := by
  obtain ⟨clean, readable, silent⟩ := unwritten
  have unwritten : Unwritten past s := ⟨clean, readable, silent⟩
  cases move with
  | load _ saved tick running pending due found =>
      rw [readable] at pending
      cases pending
  | loadFailed _ fault tick running pending found =>
      rw [readable] at pending
      cases pending
  | plan _ plan writable asks => exact absurd trivial asks.not_tick
  | localOff _ hardware ok off _ => cases off
  | deferOff _ hardware ok off pending => cases off
  | startup _ startup asked writable stored => exact asked.elim
  | startupRefused _ startup code asked writable refused => exact asked.elim
  | verified _ frame hardware check known => exact check.elim
  | refuted _ frame hardware check known => exact check.elim
  | read _ hardware registers => cases registers
  | unread _ hardware registers => cases registers
  | latch _ hardware ok reboot => cases reboot
  | store _ dirty stored =>
      rw [clean] at dirty
      cases dirty
  | storeFailed _ hardware ok code dirty refused =>
      rw [clean] at dirty
      cases dirty
  | repaired _ off => cases off
  | unstopped _ off => cases off
  | ease _ hardware unknown => exact unwritten.cons rfl rfl rfl rfl
  | unproven _ hardware unknown => exact unwritten.cons rfl rfl rfl rfl
  | check _ hardware tick same => exact unwritten.cons rfl rfl rfl rfl
  | checkFailed _ hardware tick same => exact unwritten.cons rfl rfl rfl rfl
  | apply _ hardware differs => exact unwritten.cons rfl rfl rfl rfl
  | applyFailed _ hardware differs => exact unwritten.cons rfl rfl rfl rfl
  | giveUp _ hardware ok => exact unwritten.cons rfl rfl rfl rfl
  | _ => exact ⟨clean, readable, silent⟩

/-- A tick with nothing to write makes no store call. -/
theorem Unwritten.after_tick [KvBlobStore K] [Hardware H] {past : List (Event K H)}
    {r : Runtime K H} (unwritten : Unwritten past r) (now : Nat) :
    Unwritten past (r.after (.tick now)) :=
  (after_moves r (.tick now)).preserve (fun _ => Unwritten past) Unwritten.move unwritten

theorem Unwritten.run_ticks [KvBlobStore K] [Hardware H] {past : List (Event K H)}
    {r : Runtime K H} (unwritten : Unwritten past r) (times : List Nat) :
    Unwritten past (run r (times.map .tick)) := by
  induction times generalizing r with
  | nil => exact unwritten
  | cons now rest inductionHypothesis => exact inductionHypothesis (unwritten.after_tick now)

end Runtime

end KeyRight.App
