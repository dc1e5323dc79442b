import KeyRight.App.Bench
import KeyRight.App.Command
import KeyRight.App.StoreFirst

/-!
Owns the off effects: whatever the frame that an effect interrupts, the lamp ends dark
on time, never brightens on the way but for the flare of a dying light, keeps its
colour while lit, and keeps its level and temperature for the next On.

Does not own commands that interrupt an effect.
-/

namespace KeyRight.App

open KeyRight.Core KeyRight.Support

variable {K H : Type}

/-! ### Tracks of effects -/

/-- Milliseconds from the command to darkness. -/
def OffEffect.total (effect : OffEffect) : Nat :=
  let (_, first, last) := State.effectPhases OutputBrightness.ZERO effect
  first + last

@[simp] theorem OffEffect.total_fastFade : fastFade.total = 800 := rfl

@[simp] theorem OffEffect.total_noFade : noFade.total = 0 := rfl

@[simp] theorem OffEffect.total_slowFade : slowFade.total = 12800 := rfl

@[simp] theorem OffEffect.total_dyingLight : dyingLight.total = 1500 := rfl

namespace State

variable {current : OutputFrame} {start first last : Nat} {middle : OutputBrightness}

theorem effectFade_value_first {now : Nat} (early : last = 0 ∨ now < start + first) :
    (effectFade current start middle first last).value now =
      Transition.value ⟨current.brightness.get, middle.get, start, first, .smooth⟩ now := by
  unfold effectFade LevelTransition.value LevelTransition.phase
  rcases early with single | early
  · simp [single]
  · by_cases two : last = 0
    · simp [two]
    · simp [two, Option.filter, Nat.not_le.mpr early]

theorem effectFade_value_last {now : Nat} (two : last ≠ 0) (late : start + first ≤ now) :
    (effectFade current start middle first last).value now =
      Transition.value ⟨middle.get, 0, start + first, last, .smooth⟩ now := by
  unfold effectFade LevelTransition.value LevelTransition.phase
  simp [two, Option.filter, late]

theorem effectFade_deadline :
    (effectFade current start middle first last).deadline = start + (first + last) := by
  unfold effectFade LevelTransition.deadline LevelTransition.last
  by_cases two : last = 0
  · simp [two]
  · simp [two, Nat.add_assoc]

/-- An effect whose middle is no brighter than its start never brightens. -/
theorem effectFade_falls (dims : middle.get ≤ current.brightness.get) {now later : Nat}
    (passes : now ≤ later) :
    (effectFade current start middle first last).value later ≤
      (effectFade current start middle first last).value now := by
  have firstWithin : Transition.Within ⟨current.brightness.get, middle.get, start, first, .smooth⟩
      0 2530 := ⟨⟨Nat.zero_le _, current.brightness.le_max⟩, Nat.zero_le _, middle.le_max⟩
  have lastWithin : Transition.Within ⟨middle.get, 0, start + first, last, .smooth⟩ 0 2530 :=
    ⟨⟨Nat.zero_le _, middle.le_max⟩, Nat.le_refl 0, Nat.zero_le _⟩
  by_cases early : last = 0 ∨ later < start + first
  · rw [effectFade_value_first early, effectFade_value_first (early.imp_right fun _ => by omega)]
    exact (Transition.value_mono (by decide) firstWithin passes).2 dims
  · obtain ⟨two, late⟩ := not_or.mp early
    have late := Nat.not_lt.mp late
    rw [effectFade_value_last two late]
    by_cases before : now < start + first
    · -- The schedule skips the joint: the middle lies between both values.
      have fallen : Transition.Within ⟨middle.get, 0, start + first, last, .smooth⟩ 0 middle.get :=
        ⟨⟨Nat.zero_le _, Nat.le_refl _⟩, Nat.le_refl 0, Nat.zero_le _⟩
      have falling : Transition.Within ⟨current.brightness.get, middle.get, start, first, .smooth⟩
          middle.get current.brightness.get :=
        ⟨⟨dims, Nat.le_refl _⟩, Nat.le_refl _, dims⟩
      have middleSmall : middle.get < 65536 := by have := middle.le_max; omega
      have currentSmall : current.brightness.get < 65536 := by
        have := current.brightness.le_max
        omega
      rw [effectFade_value_first (.inr before)]
      calc
        _ ≤ middle.get := (Transition.value_within middleSmall fallen later).2
        _ ≤ _ := (Transition.value_within currentSmall falling now).1
    · rw [effectFade_value_last two (Nat.not_lt.mp before)]
      exact (Transition.value_mono (by decide) lastWithin passes).2 (Nat.zero_le _)

/-- The second phase of an effect never brightens. -/
theorem effectFade_falls_last (two : last ≠ 0) {now later : Nat} (late : start + first ≤ now)
    (passes : now ≤ later) :
    (effectFade current start middle first last).value later ≤
      (effectFade current start middle first last).value now := by
  have lastWithin : Transition.Within ⟨middle.get, 0, start + first, last, .smooth⟩ 0 2530 :=
    ⟨⟨Nat.zero_le _, middle.le_max⟩, Nat.le_refl 0, Nat.zero_le _⟩
  rw [effectFade_value_last two late, effectFade_value_last two (late.trans passes)]
  exact (Transition.value_mono (by decide) lastWithin passes).2 (Nat.zero_le _)

/-- An effect stays below the brighter of its start and its middle. -/
theorem effectFade_le {now bound : Nat} (small : bound < 65536) (start_le : current.brightness.get ≤ bound)
    (middle_le : middle.get ≤ bound) :
    (effectFade current start middle first last).value now ≤ bound := by
  by_cases early : last = 0 ∨ now < start + first
  · rw [effectFade_value_first early]
    exact (Transition.value_within small
      ⟨⟨Nat.zero_le _, start_le⟩, Nat.zero_le _, middle_le⟩ now).2
  · obtain ⟨two, late⟩ := not_or.mp early
    rw [effectFade_value_last two (Nat.not_lt.mp late)]
    exact (Transition.value_within small
      ⟨⟨Nat.zero_le _, middle_le⟩, Nat.le_refl 0, Nat.zero_le _⟩ now).2

end State

/-! ### Frames of effects -/

/-- The track of an effect that interrupts `frame`. -/
def OffEffect.track (effect : OffEffect) (frame : OutputFrame) (start : Nat) : LevelTransition :=
  let (middle, first, last) := State.effectPhases frame.brightness effect
  State.effectFade frame start middle first last

/-- The brightness that an effect on `frame` shows at a time. -/
def OffEffect.brightness (effect : OffEffect) (frame : OutputFrame) (start now : Nat) : Nat :=
  if frame.brightness = OutputBrightness.ZERO ∨ start + effect.total ≤ now then 0
  else (effect.track frame start).value now

theorem OffEffect.track_deadline (effect : OffEffect) (frame : OutputFrame) (start : Nat) :
    (effect.track frame start).deadline = start + effect.total := by
  rw [track, State.effectFade_deadline]
  cases effect with
  | fastFade => rfl
  | noFade => rfl
  | slowFade => rfl
  | dyingLight => rfl

namespace State

variable {s : State H} (effect : OffEffect) {frame : OutputFrame} {start now : Nat}

theorem currentFrame_of_known (known : s.controller.appliedFrame = some frame) :
    s.currentFrame = frame := by
  rw [currentFrame, known, Option.getD_some]

/-- An effect has a track unless the lamp is dark already or the effect is immediate. -/
theorem offWithEffectPlan_level (known : s.controller.appliedFrame = some frame) :
    (offWithEffectPlan effect s start).levelTransition =
      if frame.brightness ≠ OutputBrightness.ZERO ∧ effect.total ≠ 0 then
        some (effect.track frame start)
      else none := by
  have timed : (effectPhases frame.brightness effect).2.1 ≠ 0 ↔ effect.total ≠ 0 := by
    cases effect with
    | fastFade => simp [effectPhases]
    | noFade => simp [effectPhases]
    | slowFade => simp [effectPhases]
    | dyingLight => simp [effectPhases]
  simp only [offWithEffectPlan, currentFrame_of_known known, ← timed]
  rfl

/-- An effect shows its track, in the colour of the frame that it interrupts. -/
theorem effective_offWithEffect (known : s.controller.appliedFrame = some frame)
    (passes : start ≤ now) :
    let plan := offWithEffectPlan effect s start
    let shown := ((s.setTracks plan).setTarget plan.target).effective now
    shown.brightness.get = effect.brightness frame start now ∧
      (shown.brightness ≠ OutputBrightness.ZERO →
        shown.state.temperature = frame.state.temperature) := by
  intro plan shown
  have dark : ((s.setTracks plan).setTarget plan.target).target.on = false := rfl
  have still : ((s.setTracks plan).setTarget plan.target).temperatureTransition = none := rfl
  have level : ((s.setTracks plan).setTarget plan.target).levelTransition = _ :=
    offWithEffectPlan_level effect known
  have settles : shown.brightness = OutputBrightness.ZERO → effect.brightness frame start now = 0 →
      shown.brightness.get = effect.brightness frame start now ∧
        (shown.brightness ≠ OutputBrightness.ZERO →
          shown.state.temperature = frame.state.temperature) := by
    intro zero ended
    exact ⟨by rw [zero, ended]; rfl, fun lit => absurd zero lit⟩
  by_cases lasts : frame.brightness ≠ OutputBrightness.ZERO ∧ effect.total ≠ 0
  · rw [if_pos lasts] at level
    by_cases ended : start + effect.total ≤ now
    · have spent : (effect.track frame start).remaining now = 0 := by
        rw [LevelTransition.remaining_eq_zero, OffEffect.track_deadline]
        exact ended
      apply settles
      · rw [effective_brightness_of_ended level spent, OutputFrame.fromState_brightness_of_off dark]
      · rw [OffEffect.brightness, if_pos (.inr ended)]
    · have running : (effect.track frame start).remaining now ≠ 0 := by
        rw [ne_eq, LevelTransition.remaining_eq_zero, OffEffect.track_deadline]
        exact ended
      constructor
      · rw [effective_brightness_of_running level running, LevelTransition.brightness_get,
          OffEffect.brightness, if_neg (not_or.mpr ⟨lasts.1, ended⟩)]
      · intro _
        rw [effective_temperature_of_running still level running]
        rfl
  · rw [if_neg lasts] at level
    apply settles
    · rw [effective_brightness_of_none level, OutputFrame.fromState_brightness_of_off dark]
    · rw [OffEffect.brightness, if_pos]
      by_contra shows
      obtain ⟨lit, running⟩ := not_or.mp shows
      exact lasts ⟨lit, by omega⟩

end State

/-! ### Brightness of effects -/

namespace OffEffect

variable (effect : OffEffect) (frame : OutputFrame) (start : Nat)

theorem brightness_ended {now : Nat} (ended : start + effect.total ≤ now) :
    effect.brightness frame start now = 0 := by
  rw [brightness, if_pos (.inr ended)]

/-- Brightness falls wherever the track does. -/
theorem brightness_le_brightness {now later : Nat} (passes : now ≤ later)
    (falls : (effect.track frame start).value later ≤ (effect.track frame start).value now) :
    effect.brightness frame start later ≤ effect.brightness frame start now := by
  by_cases ended : frame.brightness = OutputBrightness.ZERO ∨ start + effect.total ≤ later
  · rw [brightness, if_pos ended]
    exact Nat.zero_le _
  · have running : ¬(frame.brightness = OutputBrightness.ZERO ∨ start + effect.total ≤ now) :=
      fun spent => ended (spent.imp_right fun _ => by omega)
    rw [brightness, brightness, if_neg ended, if_neg running]
    exact falls

/-- Only a dying light is flared on its way, by a fifth and within the range. -/
def peak : Nat :=
  if effect = .dyingLight then min (frame.brightness.get * 6 / 5) 2530 else frame.brightness.get

theorem middle_le_peak : (State.effectPhases frame.brightness effect).1.get ≤ effect.peak frame := by
  cases effect with
  | fastFade => exact Nat.zero_le _
  | noFade => exact Nat.zero_le _
  | slowFade => exact Nat.div_le_self _ _
  | dyingLight => exact Nat.le_refl _

theorem start_le_peak : frame.brightness.get ≤ effect.peak frame := by
  have bound := frame.brightness.le_max
  unfold peak
  split
  · omega
  · exact Nat.le_refl _

theorem peak_le : effect.peak frame ≤ 2530 := by
  have bound := frame.brightness.le_max
  unfold peak
  split
  · omega
  · exact bound

theorem brightness_le_peak (now : Nat) : effect.brightness frame start now ≤ effect.peak frame := by
  unfold brightness
  split
  · exact Nat.zero_le _
  · have bound := effect.peak_le frame
    exact State.effectFade_le (by omega) (effect.start_le_peak frame) (effect.middle_le_peak frame)

theorem brightness_falls (calm : effect ≠ .dyingLight) {now later : Nat} (passes : now ≤ later) :
    effect.brightness frame start later ≤ effect.brightness frame start now := by
  have dims := effect.middle_le_peak frame
  rw [peak, if_neg calm] at dims
  exact effect.brightness_le_brightness frame start passes (State.effectFade_falls dims passes)

/-- A dying light falls after its flare. -/
theorem brightness_falls_dying {now later : Nat} (late : start + 500 ≤ now) (passes : now ≤ later) :
    dyingLight.brightness frame start later ≤ dyingLight.brightness frame start now :=
  dyingLight.brightness_le_brightness frame start passes
    (State.effectFade_falls_last (by decide) late passes)

end OffEffect

/-! ### Quiet ticks without a temperature track -/

/-- Dropping ended tracks does not change the frame called for later while no
temperature track is active. -/
theorem State.effective_still_expire {s t : State H} {now later : Nat} (passes : now ≤ later)
    (target : t.target = s.target) (level : t.levelTransition = (s.expire now).levelTransition)
    (still : s.temperatureTransition = none) (stays : t.temperatureTransition = none) :
    t.effective later = s.effective later := by
  cases active : s.levelTransition with
  | none =>
      have gone : t.levelTransition = s.levelTransition := by rw [level, expire, active]; rfl
      exact effective_congr target gone (stays.trans still.symm)
  | some track =>
      by_cases ended : track.remaining now = 0
      · have gone : t.levelTransition = none := by
          rw [level, expire, active]
          simp [ended]
        have spent : track.remaining later = 0 := by
          rw [LevelTransition.remaining_eq_zero] at ended ⊢
          omega
        unfold effective
        rw [target, gone, stays, still, active]
        simp only [if_pos spent]
      · have kept : t.levelTransition = s.levelTransition := by
          rw [level, expire, active]
          simp [ended]
        exact effective_congr target kept (stays.trans still.symm)

/-- The runtime shows what `s` calls for, and its tracks call for the same from now on. -/
structure OnTrack (s : State H) (r : Runtime K H) : Prop where
  settled : Settled r.state
  target : r.state.target = s.target
  still : r.state.temperatureTransition = none
  calls : ∀ later, r.now ≤ later → r.state.effective later = s.effective later
  shows : r.state.controller.appliedFrame = some (s.effective r.now)

section

variable [KvBlobStore K] [Hardware H] {s : State H} {r t : Runtime K H}

open KeyRight.App.Runtime

omit [KvBlobStore K] [Hardware H] in
theorem OnTrack.of_glided {now : Nat} (still : s.temperatureTransition = none)
    (glided : Glided s now t) : OnTrack s t := by
  have time := glided.time
  subst time
  have stays : t.state.temperatureTransition = none := by
    rw [glided.temperature, State.expire, still]
    rfl
  refine ⟨glided.settled, glided.target, stays, fun later passes => ?_, glided.shows⟩
  exact State.effective_still_expire passes glided.target glided.level still stays

theorem OnTrack.after_tick (onTrack : OnTrack s r) {now : Nat} (passes : r.now ≤ now)
    (quiet : r.Quiet (.tick now)) : OnTrack s (r.after (.tick now)) := by
  have glided := after_tick_glides onTrack.settled quiet
  have next := OnTrack.of_glided onTrack.still glided
  have later : r.now ≤ (r.after (.tick now)).now := by rw [glided.time]; exact passes
  refine ⟨next.settled, next.target.trans onTrack.target, next.still, fun moment after => ?_, ?_⟩
  · rw [next.calls moment after, onTrack.calls moment (later.trans after)]
  · rw [next.shows, onTrack.calls _ later]

theorem OnTrack.run_ticks (onTrack : OnTrack s r) {times : List Nat}
    (later : (r.now :: times).Pairwise (· ≤ ·)) (quiet : Along after Quiet r (times.map .tick)) :
    OnTrack s (run r (times.map .tick)) ∧ r.now ≤ (run r (times.map .tick)).now := by
  induction times generalizing r with
  | nil => exact ⟨onTrack, Nat.le_refl _⟩
  | cons now rest inductionHypothesis =>
      have passes : r.now ≤ now := (List.pairwise_cons.mp later).1 now List.mem_cons_self
      have time : (r.after (.tick now)).now = now :=
        (after_tick_glides onTrack.settled quiet.1).time
      have restLater : ((r.after (.tick now)).now :: rest).Pairwise (· ≤ ·) := by
        rw [time]
        exact (List.pairwise_cons.mp later).2
      obtain ⟨reaches, grows⟩ :=
        inductionHypothesis (onTrack.after_tick passes quiet.1) restLater quiet.2
      rw [time] at grows
      exact ⟨reaches, passes.trans grows⟩

/-! ### Runs -/

/-- In every run, an off effect without failures stores at most one record, before any
output, and none at the ticks that follow. At each of these ticks the target is Off with
its level and temperature, the brightness is within its bound and no higher than at the
tick before, except in the first half second of a dying light, and it is zero from the
end of the effect on; while it is not zero the colour is that of the interrupted frame. -/
theorem Runtime.run_offEffect (kv : K) (hardware : H) (operations : List Operation)
    (effect : OffEffect) {frame : OutputFrame} :
    let r := run (load kv hardware) operations
    let started := r.after (.offWithEffect effect)
    r.state.controller.appliedFrame = some frame → r.Quiet (.offWithEffect effect) →
    StoresFirst (r.events (.offWithEffect effect)) ∧
      ∀ times, (r.now :: times).Pairwise (· ≤ ·) → Along after Quiet started (times.map .tick) →
        let t := run started (times.map .tick)
        t.state.target = { r.state.target with on := false } ∧
        (∃ added, t.trace = added ++ started.trace ∧ ∀ event ∈ added, event.stores = false) ∧
        ∃ shown, t.state.controller.appliedFrame = some shown ∧
          (shown.brightness ≠ OutputBrightness.ZERO →
            shown.state.temperature = frame.state.temperature) ∧
          (r.now + effect.total ≤ t.now → shown.brightness.get = 0) ∧
          shown.brightness.get ≤ effect.peak frame ∧
          ∀ now, t.now ≤ now → t.Quiet (.tick now) →
            ∃ next, (t.after (.tick now)).state.controller.appliedFrame = some next ∧
              (effect ≠ .dyingLight ∨ r.now + 500 ≤ t.now →
                next.brightness.get ≤ shown.brightness.get) := by
  intro r started known quiet
  have reachable : r.Reachable := (Reachable.load kv hardware).run operations
  have settled : Settled r.state := reachable.settled (by rw [known]; simp)
  have asks : (Operation.offWithEffect effect).Asks r (State.offWithEffectPlan effect r.state r.now) :=
    ⟨_, rfl, rfl⟩
  obtain ⟨_, glided⟩ := after_glides settled asks quiet
  have onTrack : OnTrack _ started := .of_glided rfl glided
  refine ⟨events_storesFirst r trivial, fun times later quietTicks => ?_⟩
  rw [← glided.time] at later
  obtain ⟨reaches, passes⟩ := onTrack.run_ticks later quietTicks
  rw [glided.time] at passes
  have written : Unwritten started.trace started :=
    ⟨onTrack.settled.clean, onTrack.settled.healthy.2.1, [], rfl, by simp⟩
  obtain ⟨brightness, colour⟩ := State.effective_offWithEffect effect known passes
  refine ⟨reaches.target, (written.run_ticks times).unwritten, _, reaches.shows, colour, ?_, ?_, ?_⟩
  · intro ended
    rw [brightness]
    exact effect.brightness_ended frame r.now ended
  · rw [brightness]
    exact effect.brightness_le_peak frame r.now _
  · intro now after quietTick
    have next := reaches.after_tick after quietTick
    have time : ((run started (times.map .tick)).after (.tick now)).now = now :=
      (after_tick_glides reaches.settled quietTick).time
    refine ⟨_, next.shows, fun falls => ?_⟩
    rw [time, brightness, (State.effective_offWithEffect effect known (passes.trans after)).1]
    by_cases dying : effect = .dyingLight
    · subst dying
      exact OffEffect.brightness_falls_dying frame r.now (falls.resolve_left (fun calm => calm rfl)) after
    · exact effect.brightness_falls frame r.now dying after

/-- A lit lamp that dies is dark after a second and a half. -/
theorem Runtime.run_offEffect_dying :
    let r := run (load (default : MemoryStore) (default : SimulatedOutput))
      [.tick 0, .setPower true, .tick 1000]
    let t := run (r.after (.offWithEffect .dyingLight)) ([1200, 1600, 2500].map .tick)
    ∃ shown, t.state.controller.appliedFrame = some shown ∧ shown.brightness.get = 0 := by
  have known : (run (load (default : MemoryStore) (default : SimulatedOutput))
      [.tick 0, .setPower true, .tick 1000]).state.controller.appliedFrame ≠ none := by
    decide +kernel
  obtain ⟨frame, acknowledged⟩ := Option.ne_none_iff_exists'.mp known
  obtain ⟨_, ticks⟩ := run_offEffect default default [.tick 0, .setPower true, .tick 1000] .dyingLight
    acknowledged (by decide +kernel)
  obtain ⟨_, _, shown, displayed, _, dark, _⟩ :=
    ticks [1200, 1600, 2500] (by decide +kernel) (by decide +kernel)
  exact ⟨shown, displayed, dark (by decide +kernel)⟩

end

end KeyRight.App
