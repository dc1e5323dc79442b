import KeyRight.App.Command
import KeyRight.App.Follows
import KeyRight.App.Target

/-!
Owns commands of the Matter light in which no outside call fails: they keep an
acknowledged output, and a fact about one of them may assume that every call it makes
of the runtime is quiet.

Does not own what such a command does.
-/

namespace KeyRight.App

open KeyRight.Core KeyRight.Support

variable {K H : Type}

/-- No call since `past` failed. -/
def Silent (past trace : List (Event K H)) : Prop :=
  ∃ added, trace = added ++ past ∧ ∀ event ∈ added, event.failed = false

/-- The part of a silent trace before any point, and the part after it. -/
theorem Silent.split {past middle trace : List (Event K H)} (silent : Silent past trace)
    (before : past <:+ middle) (after : middle <:+ trace) :
    Silent past middle ∧ Silent middle trace := by
  obtain ⟨added, rfl, quiet⟩ := silent
  obtain ⟨older, rfl⟩ := before
  obtain ⟨newer, same⟩ := after
  have parts : added = newer ++ older := by
    rw [← List.append_assoc] at same
    exact (List.append_cancel_right same).symm
  subst parts
  refine ⟨⟨older, rfl, fun event member => quiet event (List.mem_append_right _ member)⟩, newer, ?_, ?_⟩
  · exact List.append_assoc newer older past
  · exact fun event member => quiet event (List.mem_append_left _ member)

/-- The operation neither shuts the output down by itself nor reboots. -/
def Operation.Stays : Operation → Prop
  | .off => False
  | .prepareReboot => False
  | _ => True

/-! ### One operation -/

theorem Move.grows [KvBlobStore K] {operation : Operation} {phase next : Phase} {r t : Runtime K H}
    (move : Move operation (phase, r) (next, t)) : r.trace <:+ t.trace := by
  cases move with
  | storeFailed _ hardware ok code dirty refused =>
      exact (List.suffix_cons _ r.trace).trans (List.suffix_cons _ _)
  | _ => first | exact List.suffix_rfl | exact List.suffix_cons _ r.trace

namespace Runtime

/-- The trace grows from `past`; if no call since then failed, the output is still known. -/
def KnownAt (past : List (Event K H)) (phase : Phase) (t : Runtime K H) : Prop :=
  past <:+ t.trace ∧
    (Silent past t.trace → phase ≠ .failing ∧ t.state.controller.appliedFrame ≠ none)

theorem KnownAt.keep {past : List (Event K H)} {phase next : Phase} {r t : Runtime K H}
    (known : KnownAt past phase r) (trace : t.trace = r.trace) (proper : next ≠ .failing)
    (applied : t.state.controller.appliedFrame = r.state.controller.appliedFrame) :
    KnownAt past next t := by
  rw [KnownAt, trace, applied]
  exact ⟨known.1, fun silent => ⟨proper, (known.2 silent).2⟩⟩

/-- One more call keeps a known output, unless it failed. -/
theorem KnownAt.call {past : List (Event K H)} {phase next : Phase} {r t : Runtime K H}
    {event : Event K H} (known : KnownAt past phase r) (trace : t.trace = event :: r.trace)
    (answers : event.failed = false → phase ≠ .failing → r.state.controller.appliedFrame ≠ none →
      next ≠ .failing ∧ t.state.controller.appliedFrame ≠ none) :
    KnownAt past next t := by
  have grows : r.trace <:+ t.trace := by
    rw [trace]
    exact List.suffix_cons event r.trace
  refine ⟨known.1.trans grows, fun silent => ?_⟩
  obtain ⟨before, added, logged, quiet⟩ := silent.split known.1 grows
  have last : added = [event] := by
    rw [trace] at logged
    exact (List.append_cancel_right (List.singleton_append.trans logged)).symm
  obtain ⟨steady, known⟩ := known.2 before
  exact answers (quiet event (by simp [last])) steady known

/-- A call that failed ends in `failing`, where nothing is known. -/
theorem KnownAt.fail {past : List (Event K H)} {phase next : Phase} {r t : Runtime K H}
    {event : Event K H} (known : KnownAt past phase r) (trace : t.trace = event :: r.trace)
    (failed : event.failed = true) : KnownAt past next t := by
  refine known.call trace fun silent => ?_
  rw [failed] at silent
  cases silent

theorem KnownAt.move [KvBlobStore K] {operation : Operation} (stays : operation.Stays)
    {past : List (Event K H)} {phase next : Phase} {r t : Runtime K H}
    (move : Move operation (phase, r) (next, t)) (truthful : Truthful phase r)
    (known : KnownAt past phase r) : KnownAt past next t := by
  cases move with
  | clock _ now tick => exact known.keep rfl nofun rfl
  | leave _ other idle unplanned => exact known.keep rfl nofun rfl
  | resume _ tick running due => exact known.keep rfl nofun rfl
  | load _ saved tick running pending due found =>
      exact known.call rfl fun _ _ known => absurd (truthful.unknown_of_pending pending) known
  | loadFailed _ fault tick running pending found =>
      exact known.call rfl fun _ _ known => absurd (truthful.unknown_of_pending pending) known
  | plan _ plan writable asks => exact known.keep rfl nofun rfl
  | localOff _ hardware ok off readable =>
      subst off
      exact stays.elim
  | deferOff _ hardware ok off pending =>
      subst off
      exact stays.elim
  | startup _ startup asked writable stored => exact known.call rfl fun _ _ known => ⟨nofun, known⟩
  | startupRefused _ startup code asked writable refused => exact known.fail rfl rfl
  | verified _ frame hardware check applied => exact known.call rfl fun _ _ known => ⟨nofun, known⟩
  | refuted _ frame hardware check applied => exact known.fail rfl rfl
  | read _ hardware registers => exact known.call rfl fun _ _ known => ⟨nofun, known⟩
  | unread _ hardware registers => exact known.fail rfl rfl
  | latch _ hardware ok reboot =>
      subst reboot
      exact stays.elim
  | clean _ clean => exact known.keep rfl nofun rfl
  | store _ dirty stored => exact known.call rfl fun _ _ known => ⟨nofun, known⟩
  | storeFailed _ hardware ok code dirty refused =>
      have failed : KnownAt past .failing
          (r.accessed (KvBlobStore.store r.kv (INTENT_KEY K)
              (encodeRecord r.state.target r.state.startup)).2
            (.store (encodeRecord r.state.target r.state.startup) false)) :=
        known.fail rfl rfl
      exact failed.call rfl fun _ steady => absurd rfl steady
  | proceed _ readable => exact known.keep rfl nofun rfl
  | repaired _ off =>
      subst off
      exact stays.elim
  | unstopped _ off =>
      subst off
      exact stays.elim
  | known _ applied => exact known.keep rfl nofun rfl
  | ease _ hardware unknown => exact known.call rfl fun _ _ known => absurd unknown known
  | unproven _ hardware unknown => exact known.fail rfl rfl
  | rest _ tick same => exact known.keep rfl nofun rfl
  | check _ hardware tick same => exact known.call rfl fun _ _ known => ⟨nofun, known⟩
  | checkFailed _ hardware tick same => exact known.fail rfl rfl
  | steady _ same => exact known.keep rfl nofun rfl
  | apply _ hardware differs => exact known.call rfl fun _ _ _ => ⟨nofun, nofun⟩
  | applyFailed _ hardware differs => exact known.fail rfl rfl
  | giveUp _ hardware ok => exact known.call rfl fun _ steady => absurd rfl steady

section

variable [KvBlobStore K] [Hardware H]

/-- The trace only grows. -/
theorem trace_suffix (r : Runtime K H) (operation : Operation) :
    r.trace <:+ (r.after operation).trace :=
  (after_moves r operation).preserve (fun _ t => r.trace <:+ t.trace)
    (fun move grown => grown.trans move.grows) List.suffix_rfl

theorem silent_iff {r : Runtime K H} {operation : Operation} :
    Silent r.trace (r.after operation).trace ↔ r.Quiet operation := by
  obtain ⟨added, logged⟩ := trace_suffix r operation
  have fresh : r.events operation = added := Runtime.events_eq logged.symm
  unfold Runtime.Quiet
  rw [fresh]
  constructor
  · rintro ⟨newer, same, quiet⟩
    rw [← logged] at same
    rw [List.append_cancel_right same]
    exact quiet
  · intro quiet
    exact ⟨added, logged.symm, quiet⟩

/-- A quiet operation other than local Off and the reboot keeps the output known. -/
theorem known_after {r : Runtime K H} {operation : Operation} (reachable : r.Reachable)
    (known : r.state.controller.appliedFrame ≠ none) (stays : operation.Stays)
    (quiet : r.Quiet operation) : (r.after operation).state.controller.appliedFrame ≠ none := by
  have returned := (after_moves r operation).preserve
    (fun phase t => Truthful phase t ∧ KnownAt r.trace phase t)
    (fun move before => ⟨before.1.move move, before.2.move stays move before.1⟩)
    ⟨reachable.truthful, List.suffix_rfl, fun _ => ⟨nofun, known⟩⟩
  exact (returned.2.2 (silent_iff.mpr quiet)).2

end

end Runtime

/-! ### One command -/

namespace LightHandler

open Program

variable [KvBlobStore K] [Hardware H]

/-- The outside calls of one command, newest first. -/
def events (h : LightHandler K H) (command : Command) : List (Event K H) :=
  (h.after command).runtime.trace.take
    ((h.after command).runtime.trace.length - h.runtime.trace.length)

/-- No outside call of this command fails. -/
def Quiet (h : LightHandler K H) (command : Command) : Prop :=
  ∀ event ∈ h.events command, event.failed = false

instance (h : LightHandler K H) (command : Command) : Decidable (h.Quiet command) :=
  inferInstanceAs (Decidable (∀ event ∈ h.events command, event.failed = false))

/-- The outside calls go on from `past`. -/
def Grown (past : List (Event K H)) (h : LightHandler K H) : Prop := past <:+ h.runtime.trace

theorem follows_grown (past : List (Event K H)) : Follows (Grown (K := K) (H := H) past) where
  edited := by
    intro h t edits grown
    rw [Grown, edits.runtime]
    exact grown
  operated := fun h operation grown => grown.trans (Runtime.trace_suffix h.runtime operation)

theorem perform_grows (past : List (Event K H)) (command : Command) :
    Keeps (perform command) (Grown (K := K) (H := H) past) :=
  (follows_grown past).perform (fun _ => saveGlobalScene_keeps fun _ _ grown => grown)
    fun _ _ _ grown => grown

/-- What holds of a call if no call of the runtime since `past` fails. -/
def Unless (past : List (Event K H)) {α : Type} (post : Except ErrorCode α → LightHandler K H → Prop)
    (result : Except ErrorCode α) (t : LightHandler K H) : Prop :=
  Silent past t.runtime.trace → post result t

variable {past : List (Event K H)} {h : LightHandler K H} {operation : Operation} {α : Type}

theorem ends_quietly {post : Except ErrorCode Unit → LightHandler K H → Prop}
    (grown : h.Grown past) (ends : h.runtime.Quiet operation →
      post ((h.runtime.outcome operation).map fun _ => ()) (h.operated operation)) :
    Ends (operate operation) h (Unless past post) := by
  refine ends_operate_outcome fun silent => ends ?_
  exact Runtime.silent_iff.mp (silent.split grown (Runtime.trace_suffix h.runtime operation)).2

/-- After a call that failed, the rest owes nothing. -/
theorem ends_quietly_bind {next : Unit → Action K H α}
    {post : Except ErrorCode α → LightHandler K H → Prop} (grown : h.Grown past)
    (grows : ∀ older, Keeps (next ()) (Grown (K := K) (H := H) older))
    (ends : h.runtime.Quiet operation →
      match (h.runtime.outcome operation).map fun _ => () with
      | .ok () => Ends (next ()) (h.operated operation) (Unless past post)
      | .error code => post (.error code) (h.operated operation)) :
    Ends (operate operation >>= next) h (Unless past post) := by
  have suffix := Runtime.trace_suffix h.runtime operation
  rw [ends_bind]
  refine ends_operate_outcome ?_
  by_cases quiet : h.runtime.Quiet operation
  · have answered := ends quiet
    cases outcome : (h.runtime.outcome operation).map fun _ => () with
    | ok _ =>
        rw [outcome] at answered
        exact answered
    | error code =>
        rw [outcome] at answered
        exact fun _ => answered
  · have loud : ∀ t : LightHandler K H, (h.operated operation).runtime.trace <:+ t.runtime.trace →
        ¬Silent past t.runtime.trace := by
      intro t later silent
      refine quiet (Runtime.silent_iff.mp ?_)
      exact ((silent.split grown (suffix.trans later)).2.split suffix later).1
    cases (h.runtime.outcome operation).map fun _ => () with
    | ok _ =>
        refine (grows _ (h.operated operation) List.suffix_rfl).mono fun result t later => ?_
        exact fun silent => absurd silent (loud t later)
    | error code => exact fun silent => absurd silent (loud _ List.suffix_rfl)

/-- While the output is known, a quiet call with a plan succeeds and glides. -/
theorem ends_asked {plan : Plan} {post : Except ErrorCode Unit → LightHandler K H → Prop}
    (settled : Settled h.runtime.state) (asks : operation.Asks h.runtime plan) (grown : h.Grown past)
    (ends : h.runtime.Quiet operation →
      Glided ((h.runtime.state.setTracks plan).setTarget plan.target) h.runtime.now
        (h.operated operation).runtime → post (.ok ()) (h.operated operation)) :
    Ends (operate operation) h (Unless past post) := by
  refine ends_quietly grown fun quiet => ?_
  obtain ⟨succeeds, glided⟩ := Runtime.after_glides settled asks quiet
  rw [succeeds]
  exact ends quiet glided

theorem ends_asked_bind {plan : Plan} {next : Unit → Action K H α}
    {post : Except ErrorCode α → LightHandler K H → Prop} (settled : Settled h.runtime.state)
    (asks : operation.Asks h.runtime plan) (grown : h.Grown past)
    (grows : ∀ older, Keeps (next ()) (Grown (K := K) (H := H) older))
    (ends : h.runtime.Quiet operation →
      Glided ((h.runtime.state.setTracks plan).setTarget plan.target) h.runtime.now
        (h.operated operation).runtime → Ends (next ()) (h.operated operation) (Unless past post)) :
    Ends (operate operation >>= next) h (Unless past post) := by
  refine ends_quietly_bind grown grows fun quiet => ?_
  obtain ⟨succeeds, glided⟩ := Runtime.after_glides settled asks quiet
  rw [succeeds]
  exact ends quiet glided

/-- A quiet command meets what holds of it unless a call fails. -/
theorem after_quiet {command : Command} {post : Except ErrorCode Unit → LightHandler K H → Prop}
    (ends : Ends (perform command) h (Unless h.runtime.trace post)) (quiet : h.Quiet command) :
    post (h.outcome command) (h.after command) := by
  obtain ⟨added, logged⟩ : h.runtime.trace <:+ (h.after command).runtime.trace :=
    perform_grows h.runtime.trace command h List.suffix_rfl
  refine ends ⟨added, logged.symm, ?_⟩
  have fresh : h.events command = added := by simp [events, ← logged]
  rw [← fresh]
  exact quiet

/-! ### Ramps -/

/-- The curve and the duration of a ramp: a rate keeps its own, a transition is smooth and
takes a moment at least. -/
def rampCurve (linear : Bool) : Curve := if linear then .linear else .smooth

def rampDuration (linear : Bool) (durationMs : Nat) : Nat :=
  if linear then durationMs else State.duration durationMs

theorem rampDuration_le {linear : Bool} {durationMs : Nat} (short : durationMs ≤ MAX_TRANSITION_MS) :
    rampDuration linear durationMs ≤ MAX_TRANSITION_MS := by
  unfold rampDuration State.duration
  split
  · exact short
  · split
    · decide
    · exact short

omit [KvBlobStore K] [Hardware H] in
theorem rampLevel_asks (r : Runtime K H) (linear : Bool) (raw : UInt8) (valid : raw ≠ 255)
    (withOnOff : Bool) {durationMs : Nat} (short : durationMs ≤ MAX_TRANSITION_MS) :
    (rampLevel linear raw withOnOff durationMs).Asks r
      (State.levelTransitionPlan raw valid withOnOff (rampDuration linear durationMs)
        (rampCurve linear) r.state r.now) := by
  have legal : raw ≠ 255 ∧ rampDuration linear durationMs ≤ MAX_TRANSITION_MS :=
    ⟨valid, rampDuration_le short⟩
  cases linear with
  | false => exact ⟨_, dif_pos legal, rfl⟩
  | true => exact ⟨_, dif_pos legal, rfl⟩

omit [KvBlobStore K] [Hardware H] in
theorem rampTemperature_asks (r : Runtime K H) (linear : Bool) (temperature : ColorTemperature)
    {durationMs : Nat} (short : durationMs ≤ MAX_TRANSITION_MS) :
    (rampTemperature linear temperature durationMs).Asks r
      (State.temperatureTransitionPlan temperature (rampDuration linear durationMs)
        (rampCurve linear) r.state r.now) := by
  have legal : ¬MAX_TRANSITION_MS < rampDuration linear durationMs :=
    Nat.not_lt.mpr (rampDuration_le short)
  cases linear with
  | false => exact ⟨_, if_neg legal, rfl⟩
  | true => exact ⟨_, if_neg legal, rfl⟩

/-- A time in deciseconds is always short enough. -/
theorem deciseconds_short (timeDs : UInt16) : timeDs.toNat * 100 ≤ MAX_TRANSITION_MS := by
  have bound := timeDs.toNat_lt
  have limit : 65536 * 100 ≤ MAX_TRANSITION_MS := by decide
  omega

/-- The options of a level command couple the color temperature to the level. -/
def Couples (h : LightHandler K H) (mask override : UInt8) : Prop :=
  (h.levelOptions &&& ~~~mask ||| override &&& mask) &&& COUPLE_COLOR_TEMP_TO_LEVEL ≠ 0

instance (h : LightHandler K H) (mask override : UInt8) : Decidable (h.Couples mask override) :=
  inferInstanceAs (Decidable (_ ≠ _))

/-- The level command made its ramps and nothing failed. -/
structure Ramped (h t : LightHandler K H) (raw : UInt8) (valid : raw ≠ 255) (withOnOff : Bool)
    (durationMs : Nat) (mask override : UInt8) (linear : Bool) : Prop where
  level : h.runtime.Quiet (rampLevel linear raw withOnOff durationMs)
  color : h.Couples mask override →
    (h.runtime.after (rampLevel linear raw withOnOff durationMs)).Quiet
      (rampTemperature linear (coupledColor raw valid) durationMs)
  runtime : t.runtime =
    if h.Couples mask override then
      (h.runtime.after (rampLevel linear raw withOnOff durationMs)).after
        (rampTemperature linear (coupledColor raw valid) durationMs)
    else h.runtime.after (rampLevel linear raw withOnOff durationMs)
  flag : t.globalScene = (withOnOff && Level.MIN.get < raw.toNat || h.globalScene)
  scene : t.globalSceneState = h.globalSceneState
  onLevel : t.onLevel = h.onLevel

omit [KvBlobStore K] [Hardware H] in
theorem flag_grows (lit : Bool) (older : List (Event K H)) :
    Keeps (if lit then edit fun h => { h with globalScene := true } else pure ())
      (Grown (K := K) (H := H) older) :=
  keeps_ite (fun _ => keeps_update fun _ grown => grown) fun _ => keeps_pure ()

omit [KvBlobStore K] [Hardware H] in
/-- The last step of a level command. -/
theorem ends_flag (lit : Bool) (g : LightHandler K H) :
    Ends (if lit then edit fun h => { h with globalScene := true } else pure ()) g
      fun result t => result = .ok () ∧ t = { g with globalScene := lit || g.globalScene } := by
  cases lit with
  | false => exact ⟨rfl, rfl⟩
  | true => exact ⟨rfl, rfl⟩

theorem ends_ramps (settled : Settled h.runtime.state) (raw : UInt8) (withOnOff : Bool)
    (timeDs : Option UInt16) (mask override : UInt8) (linear : Bool) :
    Ends (levelToCurve raw withOnOff timeDs mask override linear) h
      (Unless h.runtime.trace fun result t =>
        t = h ∧ (raw = 255 ∨ ((executeLevel withOnOff mask override).start h).1 ≠ .ok true) ∨
        ∃ valid, result = .ok () ∧ ((executeLevel withOnOff mask override).start h).1 = .ok true ∧
          Ramped h t raw valid withOnOff ((timeDs.getD 0).toNat * 100) mask override linear) := by
  unfold levelToCurve
  by_cases valid : raw ≠ 255
  · rw [dif_pos valid]
    refine ends_executes (fun ignored _ _ => .inl ⟨rfl, .inr ignored⟩) fun executed => ?_
    rw [ends_bind, edit, ends_update]
    have short := deciseconds_short (timeDs.getD 0)
    refine ends_asked_bind (settled : Settled h.changed.runtime.state)
      (rampLevel_asks _ linear raw valid withOnOff short) List.suffix_rfl ?_ ?_
    · intro older
      have follows := follows_grown (K := K) (H := H) older
      refine keeps_bind (keeps_read id) fun _ => ?_
      refine keeps_bind (follows.edit fun _ => ⟨rfl, rfl, id, id⟩) fun _ => ?_
      refine keeps_ite (fun _ => ?_) fun _ => flag_grows _ older
      refine keeps_bind (follows.operate _) fun _ => ?_
      exact keeps_bind (follows.edit fun _ => ⟨rfl, rfl, id, id⟩) fun _ => flag_grows _ older
    · intro level glided
      simp only [edit, ends_bind, ends_read, ends_update, id_eq]
      rw [ends_ite]
      refine ⟨fun (couples : h.Couples mask override) => ?_,
        fun (uncoupled : ¬h.Couples mask override) => ?_⟩
      · refine ends_asked_bind glided.settled (rampTemperature_asks _ linear _ short)
          (Runtime.trace_suffix _ _) ?_ fun color _ => ?_
        · intro older
          refine keeps_bind ?_ fun _ => flag_grows _ older
          exact (follows_grown older).edit fun _ => ⟨rfl, rfl, id, id⟩
        · rw [ends_bind, ends_update]
          refine Ends.mono (ends_flag _ _) ?_
          rintro result t ⟨rfl, rfl⟩ _
          refine .inr ⟨valid, rfl, executed, level, fun _ => color, ?_, rfl, rfl, rfl⟩
          rw [if_pos couples]
          rfl
      · refine Ends.mono (ends_flag _ _) ?_
        rintro result t ⟨rfl, rfl⟩ _
        refine .inr ⟨valid, rfl, executed, level, fun wrong => absurd wrong uncoupled, ?_, rfl, rfl, rfl⟩
        rw [if_neg uncoupled]
        rfl
  · rw [dif_neg valid]
    exact fun _ => .inl ⟨rfl, .inl (not_not.mp valid)⟩

end LightHandler

end KeyRight.App
