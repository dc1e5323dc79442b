import KeyRight.App.Durability
import KeyRight.App.HeldScene
import KeyRight.App.Interpolation
import KeyRight.App.LevelMove
import KeyRight.App.Wakeups

/-!
Owns the Move commands of Color Control, from the command over any ticks to the Stop: at every
moment the colour has gone as far as the rate allows, and the Stop keeps what is shown.

Does not own what a Move does to a light that is Off.
-/

namespace KeyRight.App

open KeyRight.Core KeyRight.Support

/-! ### Paces -/

/-- Where a colour may be that moves at `rate` mireds a second, `elapsed` milliseconds on. -/
structure Paces (fromValue aim rate elapsed shown : Nat) : Prop where
  within : min fromValue aim ≤ shown ∧ shown ≤ max fromValue aim
  limited : 1000 * LightHandler.absDiff fromValue shown ≤ rate * elapsed
  arrives : 1000 * LightHandler.absDiff fromValue aim ≤ rate * elapsed → shown = aim
  follows : shown = aim ∨
    rate * elapsed < 1000 * (LightHandler.absDiff fromValue shown + 2) + rate

namespace Transition

variable {transition : Transition} {now : Nat}

/-- How far a running ramp has gone. -/
theorem absDiff_value (within : transition.Within 0 65535) (running : transition.Running now) :
    LightHandler.absDiff transition.fromValue (transition.value now) =
      LightHandler.absDiff transition.fromValue transition.toValue * transition.share now / ONE := by
  have reached := value_of_running within running
  unfold moved at reached
  unfold LightHandler.absDiff
  rcases le_total transition.fromValue transition.toValue with up | down
  · obtain ⟨way, forward⟩ := Nat.exists_eq_add_of_le up
    have distance : (transition.toValue : Int) - transition.fromValue = (way : Nat) := by omega
    rw [distance, ← Int.natCast_mul, ← Int.ofNat_tdiv] at reached
    have same : max transition.fromValue transition.toValue -
        min transition.fromValue transition.toValue = way := by omega
    rw [same]
    generalize way * transition.share now / ONE = gone at reached ⊢
    omega
  · obtain ⟨way, backward⟩ := Nat.exists_eq_add_of_le down
    have distance : (transition.toValue : Int) - transition.fromValue = -((way : Nat) : Int) := by omega
    rw [distance, Int.neg_mul, Int.neg_tdiv, ← Int.natCast_mul, ← Int.ofNat_tdiv] at reached
    have same : max transition.fromValue transition.toValue -
        min transition.fromValue transition.toValue = way := by omega
    rw [same]
    generalize way * transition.share now / ONE = gone at reached ⊢
    omega

/-- The ramp of a Move, whose duration is the rounded time that its rate takes. -/
def paced (fromValue aim rate start : Nat) : Transition :=
  ⟨fromValue, aim, start, LightHandler.divCeil (LightHandler.absDiff fromValue aim * 1000) rate, .linear⟩

/-- Both truncations of the source, and the rounding of the duration, in whole numbers. -/
theorem share_paces {way elapsed duration rate gone : Nat} (short : way < ONE)
    (early : elapsed < duration)
    (rounded : way * 1000 ≤ rate * duration ∧ rate * duration < way * 1000 + rate)
    (moved : gone = way * (elapsed * ONE / duration) / ONE) :
    1000 * gone ≤ rate * elapsed ∧ rate * elapsed < 1000 * (gone + 2) + rate ∧
      rate * elapsed < 1000 * way := by
  have timed : 0 < duration := by omega
  have one : 0 < ONE := by decide
  have shareLow := Nat.div_mul_le_self (elapsed * ONE) duration
  have shareHigh := Nat.lt_mul_div_succ (elapsed * ONE) timed
  have goneLow := Nat.div_mul_le_self (way * (elapsed * ONE / duration)) ONE
  have goneHigh := Nat.lt_mul_div_succ (way * (elapsed * ONE / duration)) one
  rw [← moved] at goneLow goneHigh
  generalize elapsed * ONE / duration = share at shareLow shareHigh goneLow goneHigh
  have ahead : gone * duration ≤ way * elapsed := by
    refine Nat.le_of_mul_le_mul_right ?_ one
    calc
      gone * duration * ONE = gone * ONE * duration := by ring
      _ ≤ way * share * duration := Nat.mul_le_mul_right _ goneLow
      _ = way * (share * duration) := by ring
      _ ≤ way * (elapsed * ONE) := Nat.mul_le_mul_left _ shareLow
      _ = way * elapsed * ONE := by ring
  have behind : way * elapsed < (gone + 2) * duration := by
    refine Nat.lt_of_mul_lt_mul_right (a := ONE) ?_
    calc
      way * elapsed * ONE = way * (elapsed * ONE) := by ring
      _ ≤ way * (duration * (share + 1)) := Nat.mul_le_mul_left _ shareHigh.le
      _ = (way * share + way) * duration := by ring
      _ < (ONE * (gone + 1) + ONE) * duration := Nat.mul_lt_mul_of_pos_right (by omega) timed
      _ = (gone + 2) * duration * ONE := by ring
  refine ⟨?_, ?_, ?_⟩
  · refine Nat.le_of_mul_le_mul_right ?_ timed
    calc
      1000 * gone * duration = 1000 * (gone * duration) := by ring
      _ ≤ 1000 * (way * elapsed) := Nat.mul_le_mul_left _ ahead
      _ = way * 1000 * elapsed := by ring
      _ ≤ rate * duration * elapsed := Nat.mul_le_mul_right _ rounded.1
      _ = rate * elapsed * duration := by ring
  · refine Nat.lt_of_mul_lt_mul_right (a := duration) ?_
    have slower : rate * elapsed ≤ rate * duration := Nat.mul_le_mul_left _ early.le
    calc
      rate * elapsed * duration = rate * duration * elapsed := by ring
      _ ≤ (way * 1000 + rate) * elapsed := Nat.mul_le_mul_right _ rounded.2.le
      _ = 1000 * (way * elapsed) + rate * elapsed := by ring
      _ < 1000 * ((gone + 2) * duration) + rate * duration := by omega
      _ = (1000 * (gone + 2) + rate) * duration := by ring
  · have next : rate * (elapsed + 1) ≤ rate * duration := Nat.mul_le_mul_left _ early
    rw [Nat.mul_succ] at next
    omega

/-- A ramp on its way is neither ahead of its rate nor two units and a millisecond behind it. -/
theorem paced_running {fromValue aim rate start now : Nat} (positive : 0 < rate)
    (small : fromValue ≤ 65535 ∧ aim ≤ 65535) (running : (paced fromValue aim rate start).Running now) :
    let gone := LightHandler.absDiff fromValue ((paced fromValue aim rate start).value now)
    1000 * gone ≤ rate * (now - start) ∧
      rate * (now - start) < 1000 * (gone + 2) + rate ∧
      rate * (now - start) < 1000 * LightHandler.absDiff fromValue aim := by
  intro gone
  have within : (paced fromValue aim rate start).Within 0 65535 :=
    ⟨⟨Nat.zero_le _, small.1⟩, Nat.zero_le _, small.2⟩
  have moved : gone = _ := absDiff_value within running
  have rounded := LightHandler.divCeil_bounds (LightHandler.absDiff fromValue aim * 1000) positive
  change gone = LightHandler.absDiff fromValue aim *
    (min (now - start) (paced fromValue aim rate start).duration * ONE /
      (paced fromValue aim rate start).duration) / ONE at moved
  change ¬((paced fromValue aim rate start).duration = 0 ∨
    min (now - start) (paced fromValue aim rate start).duration =
      (paced fromValue aim rate start).duration) at running
  change _ ≤ rate * (paced fromValue aim rate start).duration ∧ 
    rate * (paced fromValue aim rate start).duration < _ at rounded
  have short : LightHandler.absDiff fromValue aim < ONE := by
    unfold LightHandler.absDiff ONE
    omega
  generalize (paced fromValue aim rate start).duration = duration at moved running rounded
  generalize LightHandler.absDiff fromValue aim = way at moved rounded short ⊢
  have early : now - start < duration := by omega
  rw [Nat.min_eq_left early.le] at moved
  exact share_paces short early rounded moved

/-- At every moment the ramp of a Move keeps its pace. -/
theorem paced_value {fromValue aim rate start : Nat} (positive : 0 < rate)
    (small : fromValue ≤ 65535 ∧ aim ≤ 65535) (now : Nat) :
    Paces fromValue aim rate (now - start) ((paced fromValue aim rate start).value now) := by
  have within : (paced fromValue aim rate start).Within (min fromValue aim) (max fromValue aim) :=
    ⟨⟨Nat.min_le_left _ _, Nat.le_max_left _ _⟩, Nat.min_le_right _ _, Nat.le_max_right _ _⟩
  have between := value_within (by omega) within now
  by_cases running : (paced fromValue aim rate start).Running now
  · obtain ⟨ahead, behind, early⟩ := paced_running positive small running
    exact ⟨between, ahead, fun due => absurd due (by omega), .inr behind⟩
  · have there : (paced fromValue aim rate start).value now = aim := by
      unfold value
      exact if_pos (not_not.mp running)
    refine ⟨between, ?_, fun _ => there, .inl there⟩
    have rounded := LightHandler.divCeil_bounds (LightHandler.absDiff fromValue aim * 1000) positive
    have passed : (paced fromValue aim rate start).duration ≤ now - start := by
      rcases not_not.mp running with instant | full
      · rw [instant]
        exact Nat.zero_le _
      · rw [← full]
        exact Nat.min_le_left _ _
    have reached := Nat.mul_le_mul_left rate passed
    change rate * LightHandler.divCeil (LightHandler.absDiff fromValue aim * 1000) rate ≤ _ at reached
    rw [there]
    omega

/-- A ramp that has ended where it stands. -/
def still (temperature : ColorTemperature) (now : Nat) : Transition :=
  ⟨temperature.get, temperature.get, now, 0, .linear⟩

end Transition

/-! ### Colours on their way -/

variable {K H : Type}

namespace Runtime

/-- The colour of a lit light is on its way along the ramp, or has arrived. -/
structure Colored (ramp : Transition) (r : Runtime K H) : Prop where
  settled : Settled r.state
  aligned : LevelAligned r.state.levelTransition r.state.target
  on : r.state.target.on = true
  aims : r.state.target.temperature.get = ramp.toValue
  track : (r.state.temperatureTransition = none ∧ ramp.remaining r.now = 0) ∨
    ∃ fade, r.state.temperatureTransition = some fade ∧ fade.ramp = ramp
  shows : ∃ frame, r.state.controller.appliedFrame = some frame ∧
    frame.state.temperature.get = ramp.value r.now

/-- A light that glides shows the colour that its track calls for. -/
theorem Colored.of_glided {ramp : Transition} {s : State H} {now : Nat} {t : Runtime K H}
    (glided : Glided s now t) (aligned : LevelAligned s.levelTransition s.target)
    (on : s.target.on = true) (aims : s.target.temperature.get = ramp.toValue)
    (track : (s.temperatureTransition = none ∧ ramp.remaining now = 0) ∨
      ∃ fade, s.temperatureTransition = some fade ∧ fade.ramp = ramp) : Colored ramp t := by
  have kept : LevelAligned t.state.levelTransition t.state.target := by
    rw [glided.level, glided.target]
    exact aligned.filter _
  refine ⟨glided.settled, kept, ?_, ?_, ?_, s.effective now, glided.shows, ?_⟩
  · rw [glided.target]
    exact on
  · rw [glided.target]
    exact aims
  · rw [glided.time, glided.temperature, State.expire]
    rcases track with ⟨still, ended⟩ | ⟨fade, active, rfl⟩
    · exact .inl ⟨by simp [still], ended⟩
    · by_cases ended : fade.remaining now = 0
      · exact .inl ⟨by simp [active, ended], ended⟩
      · exact .inr ⟨fade, by simp [active, ended], rfl⟩
  · rw [glided.time]
    rcases track with ⟨still, ended⟩ | ⟨fade, active, rfl⟩
    · rw [State.effective_temperature_of_still still aligned on, aims,
        Transition.value_of_remaining ended]
    · rw [State.effective_temperature_of_fading active, TemperatureTransition.temperature_get]

section

variable [KvBlobStore K] [Hardware H] {ramp : Transition} {r : Runtime K H}

/-- A tick goes on along the ramp. -/
theorem Colored.tick (colored : Colored ramp r) {now : Nat} (later : r.now ≤ now)
    (quiet : r.Quiet (.tick now)) : Colored ramp (r.after (.tick now)) := by
  refine .of_glided (after_tick_glides colored.settled quiet) colored.aligned colored.on colored.aims ?_
  refine colored.track.imp_left fun ⟨still, ended⟩ => ⟨still, ?_⟩
  rw [Transition.remaining_eq_zero] at ended ⊢
  omega

theorem Colored.ticks (colored : Colored ramp r) {times : List Nat}
    (later : (r.now :: times).Pairwise (· ≤ ·)) (quiet : Along after Quiet r (times.map .tick)) :
    Colored ramp (run r (times.map .tick)) := by
  induction times generalizing r with
  | nil => exact colored
  | cons now rest inductionHypothesis =>
      have started : r.now ≤ now := (List.pairwise_cons.mp later).1 now List.mem_cons_self
      have time : (r.after (.tick now)).now = now := (after_tick_glides colored.settled quiet.1).time
      refine inductionHypothesis (colored.tick started quiet.1) ?_ quiet.2
      rw [time]
      exact (List.pairwise_cons.mp later).2

omit [KvBlobStore K] [Hardware H] in
/-- A Move of a lit light starts its ramp from what is acknowledged. -/
theorem Colored.start {r t : Runtime K H}
    (aligned : LevelAligned r.state.levelTransition r.state.target) (on : r.state.target.on = true)
    {frame : OutputFrame} (known : r.state.controller.appliedFrame = some frame)
    {temperature : ColorTemperature} {durationMs : Nat}
    (glided : Glided ((r.state.setTracks
        (State.temperatureTransitionPlan temperature durationMs .linear r.state r.now)).setTarget
      (State.temperatureTransitionPlan temperature durationMs .linear r.state r.now).target) r.now t) :
    Colored ⟨frame.state.temperature.get, temperature.get, r.now, durationMs, .linear⟩ t := by
  have current : r.state.currentFrame = frame := by
    rw [State.currentFrame, known]
    rfl
  refine .of_glided glided (aligned.retarget rfl rfl) on rfl ?_
  change (State.temperatureTransitionPlan temperature durationMs .linear r.state
    r.now).temperatureTransition = none ∧ _ ∨ ∃ fade, (State.temperatureTransitionPlan temperature
      durationMs .linear r.state r.now).temperatureTransition = some fade ∧ _
  simp only [State.temperatureTransitionPlan, on, or_true, and_self, if_true]
  by_cases timed : durationMs = 0
  · refine .inl ⟨if_neg (not_not_intro timed), ?_⟩
    exact Transition.remaining_eq_zero.mpr (.inl timed)
  · refine .inr ⟨_, if_pos timed, ?_⟩
    rw [State.temperatureFade, current]
    rfl

/-- A Stop keeps the colour that is shown, on its way or not. -/
theorem Colored.stop (colored : Colored ramp r) {frame : OutputFrame}
    (known : r.state.controller.appliedFrame = some frame)
    (quiet : r.Quiet .stopTemperatureTransition) :
    r.outcome .stopTemperatureTransition = .ok .done ∧
      Colored (Transition.still frame.state.temperature r.now) (r.after .stopTemperatureTransition) ∧
      (r.after .stopTemperatureTransition).now = r.now ∧
      (r.after .stopTemperatureTransition).state.target =
        { r.state.target with temperature := frame.state.temperature } := by
  have shown : frame.state.temperature.get = ramp.value r.now := by
    obtain ⟨other, same, shows⟩ := colored.shows
    cases known.symm.trans same
    exact shows
  have stopped : (Transition.still frame.state.temperature r.now).remaining r.now = 0 :=
    Transition.remaining_eq_zero.mpr (.inl rfl)
  rcases colored.track with ⟨still, ended⟩ | ⟨fade, active, rfl⟩
  · have there : r.state.target.temperature = frame.state.temperature := by
      apply ColorTemperature.ext
      rw [colored.aims, shown, Transition.value_of_remaining ended]
    have declines : State.stopTemperaturePlan r.state r.now = .ok none := by
      rw [State.stopTemperaturePlan, still]
    obtain ⟨answered, same⟩ := idles_of_unplanned colored.settled
      (show Operation.plan H .stopTemperatureTransition = some _ from rfl) (.inl ⟨declines, rfl⟩)
    rw [same]
    refine ⟨answered, ⟨colored.settled, colored.aligned, colored.on, ?_, .inl ⟨still, stopped⟩, frame,
      known, ?_⟩, rfl, ?_⟩
    · rw [there]
      rfl
    · rw [Transition.value_of_remaining stopped]
      rfl
    · rw [← there]
  · have plans : State.stopTemperaturePlan r.state r.now = .ok (some
        { levelTransition := r.state.levelTransition
          temperatureTransition := none
          target := { r.state.target with temperature := frame.state.temperature } }) := by
      rw [State.stopTemperaturePlan, active, Controller.applied, known]
      rfl
    have asks : Operation.Asks .stopTemperatureTransition r _ := ⟨_, rfl, plans⟩
    obtain ⟨answered, glided⟩ := after_glides colored.settled asks quiet
    refine ⟨answered, ?_, glided.time, glided.target⟩
    exact .of_glided glided (colored.aligned.retarget rfl rfl) colored.on rfl (.inl ⟨rfl, stopped⟩)

end

end Runtime

/-! ### Commands -/

namespace LightHandler

open Program

/-- The bounds of a Move are temperatures of the lamp. -/
theorem colorBounds_ok {bounds : UInt16 × UInt16} {lo hi : Nat}
    (bounded : colorBounds bounds = .ok (lo, hi)) : 143 ≤ lo ∧ lo ≤ hi ∧ hi ≤ 344 := by
  have least : 143 ≤ (if bounds.1 = 0 then 143 else max bounds.1.toNat 143) := by
    split <;> omega
  have most : (if bounds.2 = 0 then 344 else min bounds.2.toNat 344) ≤ 344 := by
    split <;> omega
  unfold colorBounds at bounded
  generalize (if bounds.1 = 0 then 143 else max bounds.1.toNat 143) = low at bounded least
  generalize (if bounds.2 = 0 then 344 else min bounds.2.toNat 344) = high at bounded most
  dsimp only at bounded
  split at bounded
  · cases bounded
  · next ordered =>
      cases bounded
      exact ⟨least, Nat.not_lt.mp ordered, most⟩

section

variable [KvBlobStore K] [Hardware H] {h : LightHandler K H}

omit [KvBlobStore K] [Hardware H] in
/-- While On, every command executes. -/
theorem executes_of_on {target : LightState} (reports : h.runtime.reported = .ok target)
    (on : target.on = true) (options : LightHandler K H → UInt8) (withOnOff : Bool)
    (mask override : UInt8) : ((executes options withOnOff mask override).start h).1 = .ok true := by
  change Ends (executes options withOnOff mask override) h fun result _ => result = .ok true
  rw [executes, ends_ite]
  refine ⟨fun _ => rfl, fun _ => ?_⟩
  rw [ends_bind]
  refine ends_reported ?_
  rw [reports]
  simp only [on, if_true]
  rfl

/-- Where a Move leads. -/
def colorAim (up : Bool) (lo hi : Nat) : Nat := if up then hi else lo

theorem ends_coloring (settled : Settled h.runtime.state)
    (aligned : LevelAligned h.runtime.state.levelTransition h.runtime.state.target)
    (on : h.runtime.state.target.on = true) {frame : OutputFrame}
    (known : h.runtime.state.controller.appliedFrame = some frame) {up : Bool} {rate : UInt16}
    (moves : rate ≠ 0) {bounds : UInt16 × UInt16} {lo hi : Nat}
    (bounded : colorBounds bounds = .ok (lo, hi)) (mask override : UInt8) :
    Ends (colorMoveTo up rate bounds mask override) h (Unless h.runtime.trace fun result t =>
      result = .ok () ∧ t.runtime.now = h.runtime.now ∧
        t.runtime.Colored (.paced frame.state.temperature.get (colorAim up lo hi) rate.toNat
          h.runtime.now)) := by
  have reports : h.runtime.reported = .ok h.runtime.state.target :=
    Runtime.reported_eq_ok.mpr ⟨settled.healthy.1, settled.known, rfl⟩
  have acknowledges : h.runtime.acknowledged = .ok frame.state := by
    rw [Runtime.acknowledged, Controller.applied, known]
    rfl
  have range := colorBounds_ok bounded
  have aim : (clampTemperature (colorAim up lo hi)).get = colorAim up lo hi := by
    unfold clampTemperature colorAim
    cases up with
    | true => exact (by omega : max 143 (min hi 344) = hi)
    | false => exact (by omega : max 143 (min lo 344) = lo)
  have short : divCeil (absDiff frame.state.temperature.get (colorAim up lo hi) * 1000) rate.toNat ≤
      MAX_TRANSITION_MS := by
    have far : absDiff frame.state.temperature.get (colorAim up lo hi) ≤ 344 := by
      have shown := frame.state.temperature.le_max
      have there := (clampTemperature (colorAim up lo hi)).le_max
      unfold absDiff
      omega
    have wide := rate.toNat_lt
    refine (Nat.div_le_self _ _).trans (show _ ≤ 60000000 by omega)
  rw [colorMoveTo, if_neg moves, executeColor]
  refine ends_executes (fun idle => absurd (executes_of_on reports on _ _ _ _) idle) fun _ => ?_
  rw [ends_bind, bounded, ends_ofExcept]
  dsimp only
  rw [ends_bind]
  refine ends_acknowledged ?_
  rw [acknowledges]
  simp only [edit, ends_bind, ends_update]
  refine ends_asked settled (rampTemperature_asks _ true _ short) List.suffix_rfl
    fun _ glided => ⟨rfl, glided.time, ?_⟩
  have colored : Runtime.Colored ⟨_, (clampTemperature (colorAim up lo hi)).get, _, _, .linear⟩ _ :=
    Runtime.Colored.start aligned on known glided
  rw [aim] at colored
  exact colored

/-- The ticks of the maintenance loop while a button is held. -/
def holding (times : List Nat) : List Command := times.map fun now => .direct (.tick now)

/-- Ticks of the light are ticks of its runtime. -/
theorem run_holding {times : List Nat} (quiet : Along after Quiet h (holding times)) :
    (h.run (holding times)).runtime = h.runtime.run (times.map .tick) ∧
      Along Runtime.after Runtime.Quiet h.runtime (times.map .tick) := by
  induction times generalizing h with
  | nil => exact ⟨rfl, trivial⟩
  | cons now rest inductionHypothesis =>
      have ends : Ends (perform (.direct (.tick now))) h (Unless h.runtime.trace fun _ _ =>
          h.runtime.Quiet (.tick now)) :=
        ends_quietly List.suffix_rfl fun quiet => quiet
      have silent := after_quiet ends quiet.1
      obtain ⟨runs, quietly⟩ := inductionHypothesis quiet.2
      rw [after_direct] at quietly
      refine ⟨runs.trans ?_, silent, quietly⟩
      rw [after_direct]
      rfl

theorem ends_stopColored {ramp : Transition} (colored : h.runtime.Colored ramp) {frame : OutputFrame}
    (known : h.runtime.state.controller.appliedFrame = some frame) (mask override : UInt8) :
    Ends (perform (.stopMoveStep mask override)) h (Unless h.runtime.trace fun result t =>
      result = .ok () ∧ t.runtime.Colored (.still frame.state.temperature h.runtime.now) ∧
        t.runtime.now = h.runtime.now ∧
        t.runtime.state.target = { h.runtime.state.target with temperature := frame.state.temperature }) := by
  have reports : h.runtime.reported = .ok h.runtime.state.target :=
    Runtime.reported_eq_ok.mpr ⟨colored.settled.healthy.1, colored.settled.known, rfl⟩
  rw [perform, stopColor, executeColor]
  refine ends_executes (fun idle => absurd (executes_of_on reports colored.on _ _ _ _) idle) fun _ => ?_
  simp only [edit, ends_bind, ends_update]
  refine ends_quietly List.suffix_rfl fun quiet => ?_
  obtain ⟨answered, stopped, time, target⟩ := colored.stop known quiet
  exact ⟨congrArg (Except.map fun _ => ()) answered, stopped, time, target⟩

end

variable [LawfulKvBlobStore K] [Hardware H]

/-- Press, hold and release. From every lit light that is reached, a Move of the colour keeps
its pace at every tick, and a Stop keeps the colour that is shown then, in the lamp, in the
target and in the store, for all later ticks. -/
theorem run_colorMove (kv : K) (hardware : H) (datavers : Vector UInt32 3) (commands : List Command) :
    let h := run (new (Runtime.load kv hardware) datavers) commands
    ∀ (frame : OutputFrame) (mode : ColorMode) (rate : UInt16) (bounds : UInt16 × UInt16)
        (lo hi : Nat) (mask override : UInt8) (held : List Nat),
      h.runtime.state.controller.appliedFrame = some frame → h.runtime.state.target.on = true →
      mode ≠ .stop → rate ≠ 0 → colorBounds bounds = .ok (lo, hi) →
      (h.runtime.now :: held).Pairwise (· ≤ ·) →
      Along after Quiet h (.moveColorTemperature mode rate bounds mask override :: holding held) →
        let t := h.run (.moveColorTemperature mode rate bounds mask override :: holding held)
        h.outcome (.moveColorTemperature mode rate bounds mask override) = .ok () ∧
          ∃ shown, t.runtime.state.controller.appliedFrame = some shown ∧
            Paces frame.state.temperature.get (colorAim (mode = .up) lo hi) rate.toNat
              (t.runtime.now - h.runtime.now) shown.state.temperature.get ∧
            ∀ (mask override : UInt8) (rest : List Nat),
              (t.runtime.now :: rest).Pairwise (· ≤ ·) →
              Along after Quiet t (.stopMoveStep mask override :: holding rest) →
                let s := t.run (.stopMoveStep mask override :: holding rest)
                t.outcome (.stopMoveStep mask override) = .ok () ∧
                  s.runtime.state.target =
                    { t.runtime.state.target with temperature := shown.state.temperature } ∧
                  Stored s.runtime.kv s.runtime.state.target s.runtime.state.startup ∧
                  ∃ kept, s.runtime.state.controller.appliedFrame = some kept ∧
                    kept.state.temperature = shown.state.temperature := by
  intro h frame mode rate bounds lo hi mask override held known on moving moves bounded later quiet t
  have reachable : h.runtime.Reachable := run_reachable (Runtime.Reachable.load kv hardware) commands
  have settled := reachable.settled (by simp [known])
  have ends : Ends (perform (.moveColorTemperature mode rate bounds mask override)) h
      (Unless h.runtime.trace fun result t => result = .ok () ∧ t.runtime.now = h.runtime.now ∧
        t.runtime.Colored (.paced frame.state.temperature.get (colorAim (mode = .up) lo hi)
          rate.toNat h.runtime.now)) := by
    cases mode with
    | stop => exact absurd rfl moving
    | up => exact ends_coloring settled reachable.tracked.level on known moves bounded mask override
    | down => exact ends_coloring settled reachable.tracked.level on known moves bounded mask override
  obtain ⟨accepted, time, started⟩ := after_quiet ends quiet.1
  refine ⟨accepted, ?_⟩
  obtain ⟨runs, quietly⟩ := run_holding quiet.2
  have colored := started.ticks (by rw [time]; exact later) quietly
  rw [← runs] at colored
  change t.runtime.Colored _ at colored
  obtain ⟨shown, acknowledged, colour⟩ := colored.shows
  refine ⟨shown, acknowledged, ?_, fun mask override rest laterRest quietRest => ?_⟩
  · rw [colour]
    have range := colorBounds_ok bounded
    have temperature := frame.state.temperature.le_max
    refine Transition.paced_value ?_ ⟨by omega, ?_⟩ _
    · exact Nat.pos_of_ne_zero fun none => moves (UInt16.toNat_inj.mp none)
    · unfold colorAim
      split <;> omega
  · obtain ⟨answered, stopped, stoppedTime, target⟩ :=
      after_quiet (ends_stopColored colored acknowledged mask override) quietRest.1
    obtain ⟨runsRest, quietlyRest⟩ := run_holding quietRest.2
    intro s
    have sorted : ((t.after (.stopMoveStep mask override)).runtime.now :: rest).Pairwise (· ≤ ·) := by
      rw [stoppedTime]
      exact laterRest
    have rests := stopped.ticks sorted quietlyRest
    have stays := (Runtime.run_ticks_glide stopped.settled sorted quietlyRest).1
    rw [← runsRest] at rests stays
    change s.runtime.Colored _ at rests
    have reaches : s.runtime.Reachable := run_reachable (run_reachable reachable _) _
    refine ⟨answered, stays.trans target, ?_, ?_⟩
    · exact (reaches.durable.written reaches.truthful rests.settled.known).stored
    · obtain ⟨kept, known, same⟩ := rests.shows
      refine ⟨kept, known, ColorTemperature.ext ?_⟩
      rw [same]
      exact Transition.value_of_remaining (Transition.remaining_eq_zero.mpr (.inl rfl))

omit [LawfulKvBlobStore K] [Hardware H] in
/-- Held for a second, and released long before the bound. -/
theorem run_colorMove_held :
    let h := run (new (Runtime.load (default : MemoryStore) (default : SimulatedOutput)) #v[0, 0, 0])
      [.direct (.tick 0), .on, .direct (.tick 400)]
    let t := h.run (.moveColorTemperature .down 50 (0, 0) 0 0 :: holding [900, 1400])
    let s := t.run (.stopMoveStep 0 0 :: holding [5000])
    ∃ shown, t.runtime.state.controller.appliedFrame = some shown ∧
      Paces 303 143 50 (t.runtime.now - h.runtime.now) shown.state.temperature.get ∧
      s.runtime.state.target.temperature = shown.state.temperature := by
  dsimp only
  obtain ⟨_, shown, acknowledged, paces, stops⟩ :=
    run_colorMove (default : MemoryStore) (default : SimulatedOutput) #v[0, 0, 0]
      [.direct (.tick 0), .on, .direct (.tick 400)]
      (OutputFrame.fromState { (default : LightState) with on := true }) .down 50 (0, 0) 143 344 0 0
      [900, 1400] (by decide +kernel) (by decide +kernel) (by decide) (by decide) (by decide)
      (by decide +kernel) (by decide +kernel)
  refine ⟨shown, acknowledged, paces, ?_⟩
  rw [(stops 0 0 [5000] (by decide +kernel) (by decide +kernel)).2.1]

end LightHandler

end KeyRight.App
