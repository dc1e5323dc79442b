import KeyRight.App.Command
import KeyRight.App.Temperature

/-!
Owns the acknowledged frame between operations: it is what the state calls for at that
time, in every coordinate but a temperature that a transition has reached and the target
does not have.

Does not own the frames in the middle of a call.
-/

namespace KeyRight.App

open KeyRight.Core KeyRight.Support

variable {K H : Type}

/-! ### The controller's intent -/

/-- The controller intends the frame that it acknowledges. -/
def Intends (s : State H) : Prop :=
  ∀ frame, s.controller.appliedFrame = some frame → s.controller.intended = frame.state

theorem Intends.of_unknown {s : State H} (unknown : s.controller.appliedFrame = none) :
    Intends s := by
  intro frame known
  rw [unknown] at known
  cases known

theorem Intends.move [KvBlobStore K] {operation : Operation} {phase next : Phase}
    {r t : Runtime K H} (move : Move operation (phase, r) (next, t)) (intends : Intends r.state) :
    Intends t.state := by
  cases move with
  | load _ saved tick running pending due found => exact .of_unknown rfl
  | localOff _ hardware ok off readable => exact .of_unknown rfl
  | deferOff _ hardware ok off pending => exact .of_unknown rfl
  | latch _ hardware ok reboot => exact .of_unknown rfl
  | storeFailed _ hardware ok code dirty refused => exact .of_unknown rfl
  | giveUp _ hardware ok => exact .of_unknown rfl
  | applyFailed _ hardware differs => exact .of_unknown rfl
  | steady _ same =>
      intro frame known
      have shown : r.state.controller.appliedFrame = some frame := known
      rw [same] at shown
      cases shown
      rfl
  | apply _ hardware differs =>
      intro frame known
      cases known
      rfl
  | _ => exact intends

theorem Runtime.Reachable.intends [KvBlobStore K] [Hardware H] {r : Runtime K H}
    (reachable : r.Reachable) : Intends r.state :=
  reachable.phases (fun _ t => Intends t.state) (fun _ _ => .of_unknown rfl) Intends.move
    fun _ before => before

/-! ### Frames between operations -/

/-- The frame is called for now, except perhaps for a temperature that no track and no
frozen fade holds. -/
structure Echoes (s : State H) (now : Nat) (frame : OutputFrame) : Prop where
  coordinates : s.effective now =
    { frame with state := { frame.state with temperature := (s.effective now).state.temperature } }
  temperature : s.temperatureTransition ≠ none ∨
      (s.target.on = false ∧ s.levelTransition ≠ none) →
    frame.state.temperature = (s.effective now).state.temperature

/-- No track and no frozen fade holds the temperature, and the target has another one. -/
structure Adrift (s : State H) (frame : OutputFrame) : Prop where
  still : s.temperatureTransition = none
  loose : s.target.on = true ∨ s.levelTransition = none
  apart : frame.state.temperature ≠ s.target.temperature

instance (s : State H) (frame : OutputFrame) : Decidable (Adrift s frame) :=
  decidable_of_iff (s.temperatureTransition = none ∧
      (s.target.on = true ∨ s.levelTransition = none) ∧
      frame.state.temperature ≠ s.target.temperature)
    ⟨fun ⟨still, loose, apart⟩ => ⟨still, loose, apart⟩,
      fun ⟨still, loose, apart⟩ => ⟨still, loose, apart⟩⟩

section

variable {s t : State H} {now : Nat} {frame : OutputFrame}

theorem Echoes.congr (echoes : Echoes s now frame) (target : t.target = s.target)
    (level : t.levelTransition = s.levelTransition)
    (temperature : t.temperatureTransition = s.temperatureTransition) : Echoes t now frame := by
  have same : t.effective now = s.effective now := State.effective_congr target level temperature
  constructor
  · rw [same]
    exact echoes.coordinates
  · rw [same, target, level, temperature]
    exact echoes.temperature

/-- Dropping ended tracks changes nothing of the frame but its temperature. -/
theorem State.effective_coordinates (target : t.target = s.target)
    (level : t.levelTransition = (s.expire now).levelTransition) :
    t.effective now = { s.effective now with
      state := { (s.effective now).state with
        temperature := (t.effective now).state.temperature } } := by
  have levels : t.levelTransition = s.levelTransition ∨ t.levelTransition = none ∧
      ∃ track, s.levelTransition = some track ∧ track.remaining now = 0 := by
    cases active : s.levelTransition with
    | none => exact .inl (by rw [level, expire, active]; rfl)
    | some track =>
        by_cases ended : track.remaining now = 0
        · exact .inr ⟨by rw [level, expire, active]; simp [ended], track, rfl, ended⟩
        · exact .inl (by rw [level, expire, active]; simp [ended])
  unfold effective
  rw [target]
  rcases levels with same | ⟨gone, track, active, ended⟩
  · rw [same]
    cases t.temperatureTransition with
    | none =>
        cases s.temperatureTransition with
        | none => rfl
        | some fade => rfl
    | some fade =>
        cases s.temperatureTransition with
        | none => rfl
        | some other => rfl
  · rw [gone, active]
    simp only [if_pos ended]
    cases t.temperatureTransition with
    | none =>
        cases s.temperatureTransition with
        | none => rfl
        | some fade => rfl
    | some fade =>
        cases s.temperatureTransition with
        | none => rfl
        | some other => rfl

/-- The frame called for before the ended tracks are dropped. -/
theorem Echoes.expired
    (alone : FadesAlone s.levelTransition s.temperatureTransition s.target)
    (target : t.target = s.target) (level : t.levelTransition = (s.expire now).levelTransition)
    (temperature : t.temperatureTransition = (s.expire now).temperatureTransition) :
    Echoes t now (s.effective now) := by
  refine ⟨State.effective_coordinates target level, fun holds => ?_⟩
  cases fading : t.temperatureTransition with
  | some fade =>
      have before : s.temperatureTransition = some fade :=
        (Option.filter_eq_some_iff.mp (temperature.symm.trans fading)).1
      rw [State.effective_temperature_of_fading before, State.effective_temperature_of_fading fading]
  | none =>
      obtain ⟨dark, active⟩ := holds.resolve_left (fun wrong => wrong fading)
      obtain ⟨track, active⟩ := Option.ne_none_iff_exists'.mp active
      have kept := Option.filter_eq_some_iff.mp (level.symm.trans active)
      have running : track.remaining now ≠ 0 := by simpa using kept.2
      rw [target] at dark
      have still : s.temperatureTransition = none := alone dark (by simp [kept.1])
      rw [State.effective_temperature_of_running still kept.1 running,
        State.effective_temperature_of_running fading active running, target]

/-- Adrift is the one way in which the temperature is not the one called for. -/
theorem Echoes.temperature_eq_iff (echoes : Echoes s now frame)
    (aligned : LevelAligned s.levelTransition s.target) :
    (s.effective now).state.temperature = frame.state.temperature ↔ ¬Adrift s frame := by
  by_cases held : s.temperatureTransition ≠ none ∨ (s.target.on = false ∧ s.levelTransition ≠ none)
  · refine ⟨fun _ adrift => ?_, fun _ => (echoes.temperature held).symm⟩
    rcases held with fading | ⟨dark, active⟩
    · exact fading adrift.still
    · rcases adrift.loose with on | idle
      · rw [dark] at on
        cases on
      · exact active idle
  · obtain ⟨still, loose⟩ := not_or.mp held
    have still : s.temperatureTransition = none := not_not.mp still
    have loose : s.target.on = true ∨ s.levelTransition = none := by
      cases on : s.target.on with
      | true => exact .inl rfl
      | false => exact .inr (not_not.mp fun active => loose ⟨on, active⟩)
    have reached : (s.effective now).state.temperature = s.target.temperature := by
      rcases loose with on | idle
      · exact State.effective_temperature_of_still still aligned on
      · exact State.effective_temperature_of_idle still idle
    rw [reached]
    constructor
    · exact fun shown adrift => adrift.apart shown.symm
    · intro steady
      by_contra apart
      exact steady ⟨still, loose, Ne.symm apart⟩

theorem Echoes.effective_eq_iff (echoes : Echoes s now frame)
    (aligned : LevelAligned s.levelTransition s.target) :
    s.effective now = frame ↔ ¬Adrift s frame := by
  rw [← echoes.temperature_eq_iff aligned]
  constructor
  · intro shown
    rw [shown]
  · intro same
    rw [echoes.coordinates, same]

end

/-! ### Reachable frames -/

theorem Echoes.rule : Runtime.RestRule (K := K) (H := H)
    fun r frame => Echoes r.state r.now frame where
  keep := by
    intro r t frame now target level temperature echoes
    rw [now]
    exact echoes.congr target level temperature
  expired := by
    intro r t alone now target level temperature
    rw [now]
    exact .expired alone target level temperature

/-- Between operations every acknowledged frame echoes the state. -/
theorem Runtime.Reachable.echoes [KvBlobStore K] [Hardware H] {r : Runtime K H}
    (reachable : r.Reachable) {frame : OutputFrame}
    (known : r.state.controller.appliedFrame = some frame) : Echoes r.state r.now frame :=
  reachable.rests Echoes.rule frame known

end KeyRight.App
