import KeyRight.App.Glide

/-!
Owns the revision counter: every operation that changes what is reported changes it,
and a quiet tick of a healthy runtime does not.

Does not own the report loop that reads the counter.
-/

namespace KeyRight.App

open KeyRight.Core KeyRight.Support

variable {K H : Type}

theorem Runtime.reported_of_unknown {r : Runtime K H}
    (unknown : r.state.controller.appliedFrame = none) : r.reported = .error .invalidState := by
  unfold reported Controller.applied
  rw [if_pos (.inr (by rw [unknown]; rfl))]

theorem reported_congr {r t : Runtime K H} (same : t.state = r.state) : t.reported = r.reported := by
  unfold Runtime.reported
  rw [same]

/-! ### Changed reports -/

/-- At most `bound` increments since `base`. -/
def Bumped (base : UInt32) (bound : Nat) (noticed : Nat → Prop) (s : State H) : Prop :=
  ∃ bumps ≤ bound, s.revision = base + UInt32.ofNat bumps ∧ noticed bumps

/-- A few increments modulo 2^32 are none only if there is none. -/
theorem few_eq_zero {base : UInt32} {bumps : Nat} (few : bumps ≤ 3)
    (same : base + UInt32.ofNat bumps = base) : bumps = 0 := by
  have total := congrArg UInt32.toNat same
  simp only [UInt32.toNat_add, UInt32.toNat_ofNat'] at total
  have range := base.toNat_lt
  omega

theorem Bumped.start {base : UInt32} {bound : Nat} {noticed : Nat → Prop} {s : State H}
    (same : s.revision = base) (unnoticed : noticed 0) : Bumped base bound noticed s :=
  ⟨0, Nat.zero_le bound, same.trans (UInt32.add_zero base).symm, unnoticed⟩

theorem Bumped.bump {base : UInt32} {bound more : Nat} {noticed seen : Nat → Prop} {s t : State H}
    (bumped : Bumped base bound noticed s) (room : bound < more)
    (once : t.revision = s.revision + 1) (positive : ∀ bumps, seen (bumps + 1)) :
    Bumped base more seen t := by
  obtain ⟨bumps, few, revision, _⟩ := bumped
  refine ⟨bumps + 1, Nat.lt_of_le_of_lt few room, ?_, positive bumps⟩
  rw [once, revision, UInt32.add_assoc, UInt32.ofNat_add]
  rfl

theorem Bumped.keep {base : UInt32} {bound later : Nat} {noticed seen : Nat → Prop} {s t : State H}
    (bumped : Bumped base bound noticed s) (same : t.revision = s.revision) (more : bound ≤ later)
    (kept : ∀ bumps, noticed bumps → seen bumps) : Bumped base later seen t := by
  obtain ⟨bumps, few, revision, noticed⟩ := bumped
  exact ⟨bumps, few.trans more, same.trans revision, kept bumps noticed⟩

/-- What a phase of an operation called in `r` owes for a changed report. Before the output
is driven, a report without an increment is unchanged or there is none. -/
def NoticesAt (r : Runtime K H) : Phase → Runtime K H → Prop
  | .called, t => t.state = r.state
  | .edited, t => Bumped r.state.revision 1 (settles t) t.state
  | .saved, t => Bumped r.state.revision 1 (settles t) t.state
  | .ready, t => Bumped r.state.revision 2 (settles t) t.state
  | .poised, t => Bumped r.state.revision 2 (settles t) t.state
  | .failing, t => Bumped r.state.revision 2 (fun _ => True) t.state
  | .returned, t =>
      Bumped r.state.revision 3 (fun bumps => bumps = 0 → t.reported = r.reported) t.state
where
  settles (t : Runtime K H) (bumps : Nat) : Prop :=
    bumps = 0 → t.reported = r.reported ∨ t.state.controller.appliedFrame = none

section

variable {r : Runtime K H}

/-- A runtime whose report is an error before and after. -/
theorem NoticesAt.unknown {t : Runtime K H} (same : t.state.revision = r.state.revision)
    (before : r.state.controller.appliedFrame = none)
    (after : t.state.controller.appliedFrame = none) : NoticesAt r .returned t := by
  refine .start same fun _ => ?_
  rw [Runtime.reported_of_unknown before, Runtime.reported_of_unknown after]

/-- A known output is reported as it was. -/
theorem NoticesAt.known {t u : Runtime K H} {bound : Nat}
    (bumped : Bumped r.state.revision bound (NoticesAt.settles r t) t.state) (few : bound ≤ 3)
    (known : t.state.controller.appliedFrame ≠ none) (revision : u.state.revision = t.state.revision)
    (reported : u.reported = t.reported) : NoticesAt r .returned u := by
  refine bumped.keep revision few fun bumps settles zero => ?_
  rcases settles zero with same | unknown
  · exact reported.trans same
  · exact absurd unknown known

/-- An applied frame over a known one reports the same target. -/
theorem reported_of_applied {t u : Runtime K H} {frame : OutputFrame}
    (healthy : t.state.controller.appliedFrame ≠ none → Healthy t.state)
    (known : t.state.controller.appliedFrame ≠ none) (faultless : u.state.fault = .none)
    (shown : u.state.controller.appliedFrame = some frame)
    (target : u.state.target = t.state.target) : u.reported = t.reported := by
  have before : t.reported = .ok t.state.target :=
    Runtime.reported_eq_ok.mpr ⟨(healthy known).1, known, rfl⟩
  rw [before]
  exact Runtime.reported_eq_ok.mpr ⟨faultless, by simp [shown], target⟩

/-- An increment is noticed. -/
theorem NoticesAt.later {holds : Prop} (bumps : Nat) : bumps + 1 = 0 → holds :=
  fun wrong => absurd wrong (Nat.succ_ne_zero bumps)

/-- The first move of an operation. -/
theorem NoticesAt.first [KvBlobStore K] {operation : Operation} {next : Phase} {t u : Runtime K H}
    (move : Move operation (.called, t) (next, u)) (truthful : Truthful .called t)
    (same : t.state = r.state) : NoticesAt r next u := by
  have revision : t.state.revision = r.state.revision := congrArg State.revision same
  have reported : t.reported = r.reported := reported_congr same
  have start : ∀ bound, Bumped r.state.revision bound (fun _ => True) t.state :=
    fun _ => .start revision trivial
  cases move with
  | clock => exact same
  | leave => exact .start revision fun _ => reported
  | resume => exact .start revision fun _ => .inl reported
  | load => exact (start 0).bump (by decide) rfl later
  | loadFailed _ fault tick running pending found =>
      have unknown := truthful.unknown_of_pending pending
      exact .unknown revision (same ▸ unknown) unknown
  | plan => exact (start 0).bump (by decide) rfl later
  | localOff => exact .start revision fun _ => .inr rfl
  | deferOff _ hardware ok off pending =>
      exact .unknown revision (same ▸ truthful.unknown_of_pending pending) rfl
  | startup => exact (start 2).bump (by decide) rfl later
  | startupRefused => exact .start revision fun _ => reported
  | verified => exact .start revision fun _ => reported
  | refuted => exact .start revision trivial
  | read => exact .start revision fun _ => reported
  | unread => exact .start revision trivial
  | latch => exact (start 2).bump (by decide) rfl later

theorem NoticesAt.move [KvBlobStore K] {operation : Operation} {phase next : Phase}
    {t u : Runtime K H} (move : Move operation (phase, t) (next, u)) (truthful : Truthful phase t)
    (notices : NoticesAt r phase t) : NoticesAt r next u := by
  by_cases called : phase = .called
  · subst called
    exact .first move truthful notices
  cases move with
  | clean => exact notices
  | store => exact notices.keep rfl (Nat.le_refl 1) fun _ settles => settles
  | storeFailed => exact notices.bump (by decide) rfl later
  | proceed => exact notices.keep rfl (by decide) fun _ settles => settles
  | repaired => exact notices.bump (by decide) rfl later
  | unstopped => exact notices.keep rfl (Nat.le_refl 2) fun _ _ => trivial
  | known => exact notices
  | ease _ hardware unknown => exact notices.keep rfl (Nat.le_refl 2) fun _ _ _ => .inr unknown
  | unproven => exact notices.keep rfl (Nat.le_refl 2) fun _ _ => trivial
  | rest _ tick same => exact .known notices (by decide) (by simp [same]) rfl rfl
  | check _ hardware tick same => exact .known notices (by decide) (by simp [same]) rfl rfl
  | checkFailed => exact notices.keep rfl (Nat.le_refl 2) fun _ _ => trivial
  | steady _ same =>
      have known : t.state.controller.appliedFrame ≠ none := by simp [same]
      refine .known notices (by decide) known ?_
        (reported_of_applied (truthful.healthy nofun) known rfl same rfl)
      exact if_neg fun changed => changed.1 rfl
  | apply _ hardware differs =>
      by_cases known : t.state.controller.appliedFrame = none
      · exact notices.bump (by decide) (if_pos ⟨by simp [known], known⟩) later
      · refine .known notices (by decide) known ?_
          (reported_of_applied (truthful.healthy nofun) known rfl rfl rfl)
        exact if_neg fun changed => known changed.2
  | applyFailed => exact notices.keep rfl (Nat.le_refl 2) fun _ _ => trivial
  | giveUp => exact notices.bump (by decide) rfl later
  | _ => exact absurd rfl called

end

/-! ### Quiet ticks -/

section

variable [KvBlobStore K] [Hardware H]

open Program KeyRight.App.Runtime

/-- Some call since `r` failed, or its target, revision and store are as they were. -/
def UnnoticedUnless (r t : Runtime K H) : Prop :=
  ∃ added, t.trace = added ++ r.trace ∧
    ((∃ event ∈ added, event.failed = true) ∨
      t.state.target = r.state.target ∧ t.state.revision = r.state.revision ∧ t.kv = r.kv)

omit [KvBlobStore K] [Hardware H] in
theorem UnnoticedUnless.of_failed {r t : Runtime K H} {event last : Event K H}
    (failed : event.failed = true) (logged : t.trace = last :: event :: r.trace) :
    UnnoticedUnless r t :=
  ⟨[last, event], logged, .inl ⟨event, by simp, failed⟩⟩

theorem Runtime.tick_unnoticed {r : Runtime K H} (settled : Settled r.state) (now : Nat) :
    Ends (tick now) r fun _ t => UnnoticedUnless r t := by
  apply ends_tick settled
  · intro same
    apply ends_rest
    · intro early
      exact ⟨[], rfl, .inr ⟨rfl, rfl, rfl⟩⟩
    · intro hardware
      exact ⟨[_], rfl, .inr ⟨rfl, rfl, rfl⟩⟩
    · intro hardware left ok
      exact .of_failed rfl rfl
  · intro differs
    apply ends_drive
    · intro same
      exact absurd same differs
    · intro _ hardware
      exact ⟨[_], rfl, .inr ⟨rfl, if_neg fun changed => settled.known changed.2, rfl⟩⟩
    · intro _ hardware left ok
      exact .of_failed rfl rfl

/-- In every reachable runtime, an operation that changes what is reported changes the
revision, and a quiet tick of a healthy runtime with nothing to save changes neither
target nor revision nor store. -/
theorem Runtime.run_reports (kv : K) (hardware : H) (operations : List Operation) :
    let r := run (load kv hardware) operations
    (∀ operation, (r.after operation).reported ≠ r.reported →
      (r.after operation).snapshot.revision ≠ r.snapshot.revision) ∧
    ∀ target now, r.reported = .ok target → r.state.dirty = false → r.Quiet (.tick now) →
      (r.after (.tick now)).state.target = r.state.target ∧
        (r.after (.tick now)).snapshot.revision = r.snapshot.revision ∧
        (r.after (.tick now)).kv = r.kv := by
  intro r
  have reachable : r.Reachable := (Reachable.load kv hardware).run operations
  constructor
  · intro operation changed unchanged
    have notices : Truthful .returned (r.after operation) ∧ NoticesAt r .returned (r.after operation) :=
      (after_moves r operation).preserve (fun phase t => Truthful phase t ∧ NoticesAt r phase t)
        (fun move before => ⟨before.1.move move, before.2.move move before.1⟩)
        ⟨reachable.truthful, rfl⟩
    obtain ⟨bumps, few, revision, noticed⟩ := notices.2
    have none : bumps = 0 := few_eq_zero few (revision.symm.trans unchanged)
    exact changed (noticed none)
  · intro target now healthy clean quiet
    have settled := reachable.settled (reported_eq_ok.mp healthy).2.1
    have ends : Ends (done (tick now)) r fun _ t => UnnoticedUnless r t :=
      ends_done (tick_unnoticed settled now)
    obtain ⟨added, logged, failed | unnoticed⟩ := ends
    · exact absurd failed (Quiet.refutes quiet logged)
    · exact unnoticed

end

end KeyRight.App
