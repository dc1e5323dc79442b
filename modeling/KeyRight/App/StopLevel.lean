import KeyRight.App.Bench
import KeyRight.App.Durability
import KeyRight.App.Echo
import KeyRight.App.Resumption
import KeyRight.App.StoreFirst

/-!
Owns the Stop of a level transition: it freezes the brightness at the nearest level, or
Off, within a bounded correction, and leaves the temperature alone, unless the acknowledged
temperature is one that nothing holds.

Does not own the Stop of a temperature transition.
-/

namespace KeyRight.App

open KeyRight.Core KeyRight.Support

variable {K H : Type}

/-! ### The stopped light -/

/-- The light that a Stop stores, with the acknowledged frame and the temperature that the
stopped fade has frozen, if any. -/
def State.stopped (s : State H) (frame : OutputFrame) (frozen : Option ColorTemperature) :
    LightState where
  on := OutputBrightness.DENOMINATOR / 2 < frame.brightness.get
  level := frame.brightness.toLevelClamped
  temperature := frozen.getD s.target.temperature

/-- What a Stop plans while a level track is running. -/
def State.stoppedPlan (s : State H) (frame : OutputFrame) (track : LevelTransition) : Plan where
  levelTransition := none
  temperatureTransition := s.temperatureTransition
  target := s.stopped frame track.offTemperature

/-- The largest correction of a Stop. -/
def stopCorrection (frame : OutputFrame) : Nat :=
  if frame.brightness.get < OutputBrightness.DENOMINATOR then 126 else 4

section

variable {s : State H} {now : Nat} {frame : OutputFrame} {track : LevelTransition}

theorem State.stopLevelPlan_running (active : s.levelTransition = some track)
    (known : s.controller.appliedFrame = some frame) :
    s.stopLevelPlan now = .ok (some (s.stoppedPlan frame track)) := by
  unfold stopLevelPlan
  rw [active]
  dsimp only
  rw [known]
  rfl

/-- The stopped brightness is within the correction. -/
theorem State.stopped_distance (s : State H) (frame : OutputFrame)
    (frozen : Option ColorTemperature) :
    frame.brightness.distance (OutputFrame.fromState (s.stopped frame frozen)).brightness ≤
      stopCorrection frame := by
  unfold stopCorrection
  by_cases lit : OutputBrightness.DENOMINATOR / 2 < frame.brightness.get
  · rw [OutputFrame.fromState_brightness_of_on (decide_eq_true lit)]
    change frame.brightness.distance (.fromLevel frame.brightness.toLevelClamped) ≤ _
    split
    · exact OutputBrightness.distance_toLevelClamped_dim lit
    · rename_i bright
      exact OutputBrightness.distance_toLevelClamped_lit (Nat.not_lt.mp bright)
  · rw [OutputFrame.fromState_brightness_of_off (decide_eq_false lit)]
    unfold OutputBrightness.DENOMINATOR at lit ⊢
    rw [if_pos (by omega)]
    simp only [OutputBrightness.distance, OutputBrightness.get_zero]
    omega

/-- A Stop leaves the temperature that is called for. -/
theorem State.stoppedPlan_temperature (active : s.levelTransition = some track)
    (running : track.remaining now ≠ 0) :
    ((s.follow (s.stoppedPlan frame track)).effective now).state.temperature =
      (s.effective now).state.temperature := by
  cases fading : s.temperatureTransition with
  | some fade =>
      have kept : (s.follow (s.stoppedPlan frame track)).temperatureTransition = some fade := fading
      rw [effective_temperature_of_fading kept, effective_temperature_of_fading fading]
  | none =>
      have still : (s.follow (s.stoppedPlan frame track)).temperatureTransition = none := fading
      have idle : (s.follow (s.stoppedPlan frame track)).levelTransition = none := rfl
      rw [effective_temperature_of_idle still idle,
        effective_temperature_of_running fading active running]
      rfl

end

/-! ### Ticks without a level track -/

section

variable [KvBlobStore K] [Hardware H]

/-- With no level track, quiet ticks acknowledge the brightness of the target. -/
theorem Runtime.run_ticks_idle {r : Runtime K H} (settled : Settled r.state)
    (idle : r.state.levelTransition = none)
    (shown : r.state.controller.appliedFrame.map OutputFrame.brightness =
      some (OutputFrame.fromState r.state.target).brightness)
    {times : List Nat} (quiet : Along after Quiet r (times.map .tick)) :
    (run r (times.map .tick)).state.controller.appliedFrame.map OutputFrame.brightness =
      some (OutputFrame.fromState r.state.target).brightness := by
  induction times generalizing r with
  | nil => exact shown
  | cons now rest inductionHypothesis =>
      have glided := after_tick_glides settled quiet.1
      have still : (r.after (.tick now)).state.levelTransition = none := by
        rw [glided.level, State.expire, idle]
        rfl
      have kept : (r.after (.tick now)).state.controller.appliedFrame.map OutputFrame.brightness =
          some (OutputFrame.fromState (r.after (.tick now)).state.target).brightness := by
        rw [glided.shows, glided.target, Option.map_some,
          State.effective_brightness_of_none idle]
      have later := inductionHypothesis glided.settled still kept quiet.2
      rw [glided.target] at later
      exact later

end

/-! ### One Stop -/

section

variable [LawfulKvBlobStore K] [Hardware H]

/-- A Stop stores, before any output, the nearest level or Off, corrects the acknowledged
brightness within its bound and no more, and leaves the temperature as it was. -/
structure StopsLevel (r : Runtime K H) (frame : OutputFrame) : Prop where
  succeeds : r.outcome .stopLevelTransition = .ok .done
  storesFirst : StoresFirst (r.events .stopLevelTransition)
  written : Written (r.after .stopLevelTransition).kv (r.after .stopLevelTransition).state
  power : (r.after .stopLevelTransition).state.target.on = decide (126 < frame.brightness.get)
  nearest : 126 < frame.brightness.get → ∀ level,
    frame.brightness.distance
        (.fromLevel (r.after .stopLevelTransition).state.target.level) ≤
      frame.brightness.distance (.fromLevel level)
  corrected : ∃ shown,
    (r.after .stopLevelTransition).state.controller.appliedFrame = some shown ∧
      frame.brightness.distance shown.brightness ≤
        (if frame.brightness.get < 253 then 126 else 4) ∧
      shown.state.temperature = frame.state.temperature ∧
      ∀ times : List Nat,
        Along Runtime.after Runtime.Quiet (r.after .stopLevelTransition) (times.map .tick) →
        (Runtime.run (r.after .stopLevelTransition)
            (times.map .tick)).state.controller.appliedFrame.map OutputFrame.brightness =
          some shown.brightness
  level : (r.after .stopLevelTransition).state.levelTransition = none
  temperature :
    (r.after .stopLevelTransition).state.temperatureTransition = r.state.temperatureTransition
  time : (r.after .stopLevelTransition).now = r.now

/-- Stop of a level transition: it does what it should, except that the colour jumps when
the acknowledged one is not the target's and no temperature transition is left to reach it. -/
theorem Runtime.Reachable.stopsLevel_iff {r : Runtime K H} (reachable : r.Reachable)
    {frame : OutputFrame} (known : r.state.controller.appliedFrame = some frame)
    (active : r.state.levelTransition ≠ none) (quiet : r.Quiet .stopLevelTransition) :
    StopsLevel r frame ↔ ¬Adrift r.state frame := by
  obtain ⟨track, active⟩ := Option.ne_none_iff_exists'.mp active
  have settled : Settled r.state := reachable.settled (by simp [known])
  have live := reachable.composed.live settled.known
  have asks : Operation.stopLevelTransition.Asks r (r.state.stoppedPlan frame track) :=
    ⟨_, rfl, State.stopLevelPlan_running active known⟩
  obtain ⟨succeeds, glided⟩ := after_glides settled asks quiet
  have idle : (r.after .stopLevelTransition).state.levelTransition = none := by
    rw [glided.level]
    rfl
  have fades : (r.after .stopLevelTransition).state.temperatureTransition =
      r.state.temperatureTransition := by
    rw [glided.temperature]
    exact live.expire_temperature
  have reached := reachable.after .stopLevelTransition
  have shade : ((r.state.follow (r.state.stoppedPlan frame track)).effective r.now).state.temperature =
      (r.state.effective r.now).state.temperature :=
    State.stoppedPlan_temperature active (live.level track active)
  have brightness := State.effective_brightness_of_none
    (s := r.state.follow (r.state.stoppedPlan frame track)) rfl r.now
  rw [← (reachable.echoes known).temperature_eq_iff reachable.tracked.level, ← shade]
  constructor
  · intro stops
    obtain ⟨shown, acknowledged, _, same, _⟩ := stops.corrected
    rw [glided.shows] at acknowledged
    cases acknowledged
    exact same
  · intro same
    refine ⟨succeeds, Runtime.events_storesFirst r trivial, ?_, ?_, ?_, ?_, idle, fades, glided.time⟩
    · exact reached.durable.written reached.truthful glided.settled.known
    · rw [glided.target]
      rfl
    · intro lit level
      rw [glided.target]
      exact OutputBrightness.toLevelClamped_nearest _ _
    · refine ⟨_, glided.shows, ?_, same, fun times calm => ?_⟩
      · rw [brightness]
        exact State.stopped_distance r.state frame track.offTemperature
      · rw [brightness]
        have started : (r.after .stopLevelTransition).state.controller.appliedFrame.map
            OutputFrame.brightness = some (OutputFrame.fromState
              (r.after .stopLevelTransition).state.target).brightness := by
          rw [glided.shows, glided.target, Option.map_some, brightness]
        have shown := run_ticks_idle glided.settled idle started calm
        rw [glided.target] at shown
        exact shown

end

/-- A Stop in the middle of a fade to full. -/
theorem Runtime.stopsLevel_full :
    ∃ frame, StopsLevel (run (load (default : MemoryStore) (default : SimulatedOutput))
      [.tick 0, .setPower true, .tick 400, .setLevel Level.MAX false, .tick 600]) frame := by
  have known : (run (load (default : MemoryStore) (default : SimulatedOutput))
      [.tick 0, .setPower true, .tick 400, .setLevel Level.MAX false,
        .tick 600]).state.controller.appliedFrame ≠ none := by
    decide +kernel
  obtain ⟨frame, acknowledged⟩ := Option.ne_none_iff_exists'.mp known
  refine ⟨frame, (Reachable.stopsLevel_iff ((Reachable.load default default).run _) acknowledged
    (by decide +kernel) (by decide +kernel)).mpr fun adrift => ?_⟩
  have shown : (run (load (default : MemoryStore) (default : SimulatedOutput))
      [.tick 0, .setPower true, .tick 400, .setLevel Level.MAX false,
        .tick 600]).state.controller.appliedFrame.map (fun frame => frame.state.temperature) =
      some ColorTemperature.DEFAULT := by
    decide +kernel
  rw [acknowledged] at shown
  exact adrift.apart ((Option.some.inj shown).trans (by decide +kernel))

/-- A temperature track that a Stop left behind at Off outlives the target's temperature: it
ends at 200 mired, the target is at 301, and the next Stop of the level jumps there. -/
theorem Runtime.stopsLevel_broken :
    let r := run (load (default : MemoryStore) (default : SimulatedOutput))
      [.tick 0, .recallScene ⟨true, Level.DEFAULT, ⟨200, by decide, by decide⟩⟩ 60000, .tick 5000,
        .stopLevelTransition, .setTemperature ⟨301, by decide, by decide⟩, .setPower true,
        .tick 59000, .setLevelTransition 200 true 10000, .tick 60000]
    r.state.levelTransition ≠ none ∧ r.Quiet .stopLevelTransition ∧
      ∃ frame, r.state.controller.appliedFrame = some frame ∧ ¬StopsLevel r frame := by
  intro r
  have before : r.state.controller.appliedFrame =
      some ⟨⟨true, ⟨7, by decide, by decide⟩, ⟨200, by decide, by decide⟩⟩, ⟨303, by decide⟩⟩ := by
    decide +kernel
  have after : (r.after .stopLevelTransition).state.controller.appliedFrame =
      some ⟨⟨true, ⟨7, by decide, by decide⟩, ⟨301, by decide, by decide⟩⟩, ⟨307, by decide⟩⟩ := by
    decide +kernel
  refine ⟨by decide +kernel, by decide +kernel, _, before, fun stops => ?_⟩
  obtain ⟨shown, acknowledged, _, same, _⟩ := stops.corrected
  rw [after] at acknowledged
  cases acknowledged
  cases same

end KeyRight.App
