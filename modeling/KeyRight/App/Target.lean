import KeyRight.App.Reboot

/-!
Owns the target that an operation leaves, and which operations leave the light
intended On without a reboot pending.

Does not own the output, or the timers of the Matter light.
-/

namespace KeyRight.App

open KeyRight.Core KeyRight.Support

variable {K H : Type}

/-- From its edit on, a call keeps the target. -/
theorem Moves.target [KvBlobStore K] {operation : Operation} {phase next : Phase}
    {r t : Runtime K H} (moves : Moves operation (phase, r) (next, t)) (edited : phase ≠ .called) :
    t.state.target = r.state.target := by
  refine (moves.preserve (fun phase t => phase ≠ .called ∧ t.state.target = r.state.target) ?_
    ⟨edited, rfl⟩).2
  intro phase next u t move sofar
  obtain ⟨edited, same⟩ := sofar
  cases move with
  | clock => exact absurd rfl edited
  | leave => exact absurd rfl edited
  | resume => exact absurd rfl edited
  | load => exact absurd rfl edited
  | loadFailed => exact absurd rfl edited
  | plan => exact absurd rfl edited
  | localOff => exact absurd rfl edited
  | deferOff => exact absurd rfl edited
  | startup => exact absurd rfl edited
  | startupRefused => exact absurd rfl edited
  | verified => exact absurd rfl edited
  | refuted => exact absurd rfl edited
  | read => exact absurd rfl edited
  | unread => exact absurd rfl edited
  | latch => exact absurd rfl edited
  | _ => exact ⟨nofun, same⟩

namespace Runtime

open Program

instance (r : Runtime K H) : Decidable r.Writable := inferInstanceAs (Decidable (_ ∧ _))

/-- A tick reads the saved intent again. -/
def Reloads (r : Runtime K H) (now : Nat) : Prop :=
  r.state.fault ≠ .rebooting ∧ r.state.retryAt ≤ now ∧ r.state.loadFault = some .storage

instance (r : Runtime K H) (now : Nat) : Decidable (r.Reloads now) :=
  inferInstanceAs (Decidable (_ ∧ _ ∧ _))

/-- The target of what a command plans, where it is accepted. -/
def plannedTarget (r : Runtime K H) (operation : Operation) : LightState :=
  if r.Writable then
    match operation.plan H with
    | none => r.state.target
    | some planner =>
        match planner r.state r.now with
        | .ok (some plan) => plan.target
        | _ => r.state.target
  else r.state.target

/-- The target that an operation leaves. -/
def nextTarget [KvBlobStore K] (r : Runtime K H) : Operation → LightState
  | .tick now =>
      if r.Reloads now then
        match savedState (KvBlobStore.load r.kv (INTENT_KEY K)).1 with
        | .ok saved => (r.state.loaded saved).target
        | .error _ => r.state.target
      else r.state.target
  | .off => { r.state.target with on := false }
  | operation => r.plannedTarget operation

/-! ### The target after an operation -/

section

variable {operation : Operation} {r : Runtime K H}

theorem plannedTarget_of_asks {plan : Plan} (writable : r.Writable)
    (asks : operation.Asks r plan) : r.plannedTarget operation = plan.target := by
  obtain ⟨planner, planning, answer⟩ := asks
  simp only [plannedTarget, if_pos writable, planning, answer]

theorem plannedTarget_of_unplanned (unplanned : ∀ plan, operation.Asks r plan → ¬r.Writable) :
    r.plannedTarget operation = r.state.target := by
  unfold plannedTarget
  split
  · next writable =>
      split
      · rfl
      · next planner planning =>
          split
          · next plan answer => exact absurd writable (unplanned plan ⟨planner, planning, answer⟩)
          · rfl
  · rfl

theorem plannedTarget_of_planless (planless : operation.plan H = none) :
    r.plannedTarget operation = r.state.target :=
  plannedTarget_of_unplanned (Operation.not_asks_of_plan planless r)

/-- A target other than the old one is that of an accepted plan. -/
theorem plannedTarget_cases (r : Runtime K H) (operation : Operation) :
    r.plannedTarget operation = r.state.target ∨
      ∃ plan, r.Writable ∧ operation.Asks r plan ∧ r.plannedTarget operation = plan.target := by
  by_cases unplanned : ∀ plan, operation.Asks r plan → ¬r.Writable
  · exact .inl (plannedTarget_of_unplanned unplanned)
  · push Not at unplanned
    obtain ⟨plan, asks, writable⟩ := unplanned
    exact .inr ⟨plan, writable, asks, plannedTarget_of_asks writable asks⟩

variable [KvBlobStore K]

theorem nextTarget_eq (untimed : ¬operation.IsTick) (other : operation ≠ .off) :
    r.nextTarget operation = r.plannedTarget operation := by
  cases operation with
  | tick now => exact absurd trivial untimed
  | off => exact absurd rfl other
  | _ => rfl

/-- An operation other than a tick starts from the state it is called in. -/
def TargetAt (r : Runtime K H) (operation : Operation) : Phase → Runtime K H → Prop
  | .called, t => t = r
  | _, t => t.state.target = r.nextTarget operation

theorem TargetAt.move (untimed : ¬operation.IsTick) {phase next : Phase} {t u : Runtime K H}
    (move : Move operation (phase, t) (next, u)) (sofar : r.TargetAt operation phase t) :
    r.TargetAt operation next u := by
  have kept : operation ≠ .off → operation.plan H = none →
      r.nextTarget operation = r.state.target := fun other planless =>
    (nextTarget_eq untimed other).trans (plannedTarget_of_planless planless)
  cases move with
  | clock _ now tick =>
      subst tick
      exact absurd trivial untimed
  | leave _ other idle unplanned =>
      cases sofar
      exact ((nextTarget_eq untimed other).trans (plannedTarget_of_unplanned unplanned)).symm
  | resume _ tick => exact absurd tick untimed
  | load _ saved tick => exact absurd tick untimed
  | loadFailed _ fault tick => exact absurd tick untimed
  | plan _ plan writable asks =>
      cases sofar
      obtain ⟨planner, planning, _⟩ := id asks
      exact ((nextTarget_eq untimed (Operation.ne_off_of_plan planning)).trans
        (plannedTarget_of_asks writable asks)).symm
  | localOff _ hardware ok off =>
      cases sofar
      subst off
      rfl
  | deferOff _ hardware ok off =>
      cases sofar
      subst off
      rfl
  | startup _ startup asked =>
      cases sofar
      exact (kept asked.ne_off (asked.plan H)).symm
  | startupRefused _ startup code asked =>
      cases sofar
      exact (kept asked.ne_off (asked.plan H)).symm
  | verified _ frame hardware check =>
      cases sofar
      exact (kept check.ne_off (check.plan H)).symm
  | refuted _ frame hardware check =>
      cases sofar
      exact (kept check.ne_off (check.plan H)).symm
  | read _ hardware registers =>
      cases sofar
      subst registers
      exact (kept nofun rfl).symm
  | unread _ hardware registers =>
      cases sofar
      subst registers
      exact (kept nofun rfl).symm
  | latch _ hardware ok reboot =>
      cases sofar
      subst reboot
      exact (kept nofun rfl).symm
  | _ => exact sofar

variable [Hardware H]

theorem tick_target {now : Nat} :
    Ends (tick now) r fun _ t => t.state.target = r.nextTarget (.tick now) := by
  have loadedTarget : ∀ t : Runtime K H, t.now = now → t.state.loadFault = none →
      Ends (tickLoaded now) t fun _ u => u.state.target = t.state.target := by
    intro t current readable
    have moves : Ends (tickLoaded now) t fun _ u => Moves (.tick now) (.edited, t) (.returned, u) :=
      tickLoaded_moves current trivial (fun _ => .refl) fun faulty => absurd readable faulty
    exact moves.mono fun _ _ moves => moves.target nofun
  simp only [tick, ends_bind, ends_update, ends_read, ends_ite, ends_pure]
  refine ⟨fun early => ?_, fun due => ⟨fun pending => ?_, fun settled => ?_⟩⟩
  · have kept : ¬r.Reloads now := by
      rintro ⟨running, due, _⟩
      rcases early with rebooting | early
      · exact running rebooting
      · exact absurd due (Nat.not_le.mpr early)
    exact (if_neg kept).symm
  · have reloads : r.Reloads now :=
      ⟨fun rebooting => due (.inl rebooting), Nat.not_lt.mp fun early => due (.inr early), pending⟩
    simp only [loadRecord, ends_primitive, nextTarget, if_pos reloads]
    cases savedState (KvBlobStore.load r.kv (INTENT_KEY K)).1 with
    | ok saved =>
        simp only [edit, ends_bind, ends_update]
        exact loadedTarget _ rfl rfl
    | error fault => rfl
  · have kept : ¬r.Reloads now := fun reloads => settled reloads.2.2
    rw [nextTarget, if_neg kept]
    by_cases readable : r.state.loadFault = none
    · exact loadedTarget _ rfl readable
    · simp only [tickLoaded, ends_bind, ends_read]
      rw [if_pos (Option.isSome_iff_ne_none.mpr readable)]
      rfl

theorem after_target (r : Runtime K H) (operation : Operation) :
    (r.after operation).state.target = r.nextTarget operation := by
  by_cases tick : operation.IsTick
  · cases operation with
    | tick now => exact ends_done tick_target
    | _ => exact tick.elim
  · exact (after_moves r operation).preserve (r.TargetAt operation) (TargetAt.move tick) rfl

end

/-! ### Intended On -/

/-- Intended On only while a reboot is pending, which refuses every command. -/
def Tame (r : Runtime K H) : Prop := r.state.target.on = true → r.state.fault = .rebooting

instance (r : Runtime K H) : Decidable r.Tame := inferInstanceAs (Decidable (_ → _))

section

variable [KvBlobStore K] [Hardware H]

instance (r : Runtime K H) : ∀ operation, Decidable (r.LatchKept operation)
  | .off => inferInstanceAs (Decidable (_ = _))
  | .registers => inferInstanceAs (Decidable (_ = _))
  | .tick _ | .request _ | .recallScene _ _ | .setPower _ | .setLevel _ _
  | .setLevelTransition _ _ _ | .setLevelRate _ _ _ | .setTemperature _
  | .setTemperatureTransition _ _ | .setTemperatureRate _ _ | .offWithEffect _
  | .stopLevelTransition | .stopTemperatureTransition | .setStartup _ | .setStartupLevel _
  | .setStartupTemperature _ | .verify | .prepareReboot | .watchdogTestReady => isTrue trivial

/-- The operation leaves a reboot pending. -/
def Reboots (r : Runtime K H) : Operation → Prop
  | .prepareReboot => True
  | operation => r.state.fault = .rebooting ∧ r.LatchKept operation

/-- The operation leaves the light intended On with no reboot pending. -/
def Wakes (r : Runtime K H) (operation : Operation) : Prop :=
  (r.nextTarget operation).on = true ∧ ¬r.Reboots operation

variable {r : Runtime K H} {operation : Operation}

theorem after_reboots (reachable : r.Reachable) (reboots : r.Reboots operation) :
    (r.after operation).state.fault = .rebooting := by
  by_cases latches : operation = .prepareReboot
  · subst latches
    rfl
  · obtain ⟨latched, kept⟩ : r.state.fault = .rebooting ∧ r.LatchKept operation := by
      cases operation with
      | prepareReboot => exact absurd rfl latches
      | _ => exact reboots
    have unknown : r.state.controller.appliedFrame = none := by
      by_contra known
      have faultless := (reachable.truthful.healthy nofun known).1
      rw [latched] at faultless
      cases faultless
    exact ((latchHeld_iff latched unknown operation).mpr kept).latched

theorem tame_after (reachable : r.Reachable) (quiet : ¬r.Wakes operation) :
    (r.after operation).Tame := by
  intro on
  rw [after_target] at on
  by_contra running
  exact quiet ⟨on, fun reboots => running (after_reboots reachable reboots)⟩

/-- A light whose saved intent is unknown is intended Off. -/
theorem Reachable.unlit (reachable : r.Reachable) (faulty : r.state.loadFault ≠ none) :
    r.state.target.on = false := by
  refine reachable.phases (fun _ t => t.state.loadFault ≠ none → t.state.target.on = false)
    ?_ ?_ (fun _ same => same) faulty
  · intro kv hardware
    change (match savedState (KvBlobStore.load kv (INTENT_KEY K)).1 with
      | .ok _ => none
      | .error fault => some fault) ≠ none →
      (startupIntent ((savedState (KvBlobStore.load kv (INTENT_KEY K)).1).toOption.getD
        default).intended _).on = false
    cases savedState (KvBlobStore.load kv (INTENT_KEY K)).1 with
    | ok saved => exact fun wrong => absurd rfl wrong
    | error fault => exact fun _ => rfl
  · intro operation phase next t u move sofar
    cases move with
    | load => exact fun wrong => absurd rfl wrong
    | loadFailed _ fault tick running pending => exact fun _ => sofar (by simp [pending])
    | plan _ plan writable asks => exact fun faulty => absurd writable.2 faulty
    | localOff => exact fun _ => rfl
    | deferOff => exact fun _ => rfl
    | repaired => exact fun wrong => absurd rfl wrong
    | _ => exact sofar

omit [Hardware H] in
theorem nextTarget_of_command (command : operation.IsCommand) :
    r.nextTarget operation = r.plannedTarget operation := by
  apply nextTarget_eq
  · intro tick
    cases operation with
    | tick now => exact command
    | _ => exact tick
  · rintro rfl
    exact command

omit [KvBlobStore K] in
theorem reboots_of_command (command : operation.IsCommand) (latched : r.state.fault = .rebooting) :
    r.Reboots operation := by
  cases operation with
  | prepareReboot => trivial
  | off => exact command.elim
  | registers => exact command.elim
  | _ => exact ⟨latched, trivial⟩

/-- A command that plans On only where the light is intended On already wakes nothing. -/
theorem Tame.after_command (tame : r.Tame) (reachable : r.Reachable) (command : operation.IsCommand)
    (kept : ∀ plan, operation.Asks r plan → plan.target.on = true → r.state.target.on = true) :
    (r.after operation).Tame := by
  apply tame_after reachable
  rintro ⟨on, running⟩
  rw [nextTarget_of_command command] at on
  have intended : r.state.target.on = true := by
    rcases plannedTarget_cases r operation with same | ⟨plan, _, asks, planned⟩
    · rwa [same] at on
    · rw [planned] at on
      exact kept plan asks on
  exact running (reboots_of_command command (tame intended))

/-- A command that plans Off either does so or is refused: because a reboot is
pending, or because the saved intent is unknown, while the light is intended Off. -/
theorem tame_after_off {plan : Plan} (reachable : r.Reachable) (command : operation.IsCommand)
    (asks : operation.Asks r plan) (off : plan.target.on = false) : (r.after operation).Tame := by
  apply tame_after reachable
  rintro ⟨on, running⟩
  rw [nextTarget_of_command command] at on
  by_cases writable : r.Writable
  · rw [plannedTarget_of_asks writable asks, off] at on
    cases on
  · rw [plannedTarget_of_unplanned fun _ _ => writable] at on
    by_cases latched : r.state.fault = .rebooting
    · exact running (reboots_of_command command latched)
    · have faulty : r.state.loadFault ≠ none := fun readable => writable ⟨latched, readable⟩
      rw [reachable.unlit faulty] at on
      cases on

end

end Runtime

end KeyRight.App
