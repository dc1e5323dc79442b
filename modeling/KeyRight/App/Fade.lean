import KeyRight.Core.Light
import Mathlib.Tactic.Linarith

/-!
Owns the fixed-point interpolation of `firmware/app/src/runtime.rs` and the two
kinds of track that use it: a level transition, possibly in two phases, and a
colour-temperature transition.

A track carries the proof that its endpoints are values of its axis, so every
value on the way is one as well and the checked constructors of that axis cannot
fail on it.

Times are natural numbers, as in the state of the runtime; that the fixed-width steps of
the interpolation do not overflow is a result of `Interpolation`.

Does not own the choice of a track for a command.
-/

namespace KeyRight.App

open KeyRight.Core

inductive Curve where
  | smooth
  | linear
deriving DecidableEq, Repr

/-- Times are milliseconds since boot. -/
structure Transition where
  fromValue : Nat
  toValue : Nat
  start : Nat
  duration : Nat
  curve : Curve
deriving DecidableEq, Repr

namespace Transition

/-- One in Q16. -/
def ONE : Nat := 65536

/-- Share of the way in Q16. Smoothstep has zero endpoint velocity and cannot
overshoot. -/
def fraction (curve : Curve) (x : Nat) : Nat :=
  match curve with
  | .linear => x
  | .smooth => x * x * (3 * ONE - 2 * x) / (ONE * ONE)

def value (transition : Transition) (now : Nat) : Nat :=
  let elapsed := min (now - transition.start) transition.duration
  if transition.duration = 0 ∨ elapsed = transition.duration then transition.toValue
  else
    let x := elapsed * ONE / transition.duration
    let way : Int := (transition.toValue : Int) - transition.fromValue
    let moved := (way * (fraction transition.curve x : Int)).tdiv (ONE : Int)
    (((transition.fromValue : Int) + moved) % 65536).toNat

def remaining (transition : Transition) (now : Nat) : Nat :=
  transition.duration - (now - transition.start)

/-- Both ends lie in the range. -/
def Within (transition : Transition) (low high : Nat) : Prop :=
  (low ≤ transition.fromValue ∧ transition.fromValue ≤ high) ∧
    low ≤ transition.toValue ∧ transition.toValue ≤ high

/-! ### Values stay between the ends -/

theorem fraction_le_one (curve : Curve) {x : Nat} (bound : x ≤ ONE) : fraction curve x ≤ ONE := by
  cases curve with
  | linear => exact bound
  | smooth =>
      have square : x * x * (3 * ONE - 2 * x) ≤ ONE * ONE * ONE := by
        obtain ⟨rest, split⟩ := Nat.exists_eq_add_of_le bound
        have factor : 3 * ONE - 2 * x = x + 3 * rest := by omega
        rw [factor, split]
        nlinarith [Nat.zero_le (rest * rest * rest), Nat.zero_le (x * rest * rest)]
      exact Nat.div_le_of_le_mul square

/-- A truncated share of a signed way is at most the way, in its direction. -/
theorem share_between (way : Int) {share one : Nat} (positive : 0 < one) (bound : share ≤ one) :
    (0 ≤ way → 0 ≤ (way * share).tdiv one ∧ (way * share).tdiv one ≤ way) ∧
      (way ≤ 0 → way ≤ (way * share).tdiv one ∧ (way * share).tdiv one ≤ 0) := by
  have forward : ∀ distance : Int, 0 ≤ distance →
      0 ≤ (distance * share).tdiv one ∧ (distance * share).tdiv one ≤ distance := by
    intro distance nonnegative
    have product : 0 ≤ distance * share := by positivity
    rw [Int.tdiv_eq_ediv_of_nonneg product]
    constructor
    · exact Int.ediv_nonneg product (by omega)
    · apply Int.ediv_le_of_le_mul (by omega)
      exact mul_le_mul_of_nonneg_left (by exact_mod_cast bound) nonnegative
  refine ⟨forward way, fun nonpositive => ?_⟩
  have mirrored := forward (-way) (by omega)
  rw [Int.neg_mul, Int.neg_tdiv] at mirrored
  omega

/-- The elapsed share of the duration, in Q16. -/
theorem elapsed_share_le (transition : Transition) (now : Nat) :
    min (now - transition.start) transition.duration * ONE / transition.duration ≤ ONE := by
  apply Nat.div_le_of_le_mul
  exact Nat.mul_le_mul_right ONE (Nat.min_le_right _ _)

theorem value_of_elapsed {transition : Transition} {now : Nat}
    (elapsed : transition.start + transition.duration ≤ now) :
    transition.value now = transition.toValue := by
  have full : min (now - transition.start) transition.duration = transition.duration := by omega
  simp [value, full]

theorem value_at_start {transition : Transition} {now : Nat} {high : Nat}
    (small : high < 65536) (within : transition.Within 0 high)
    (timed : transition.duration ≠ 0) (early : now ≤ transition.start) :
    transition.value now = transition.fromValue := by
  have none : min (now - transition.start) transition.duration = 0 := by omega
  have apart : ¬(transition.duration = 0 ∨ 0 = transition.duration) := by omega
  have start : fraction transition.curve 0 = 0 := by cases transition.curve <;> rfl
  have bound := within.1.2
  unfold value
  simp only [none, if_neg apart, Nat.zero_mul, Nat.zero_div, start]
  simp only [Nat.cast_zero, mul_zero, Int.zero_tdiv, add_zero]
  omega

theorem value_within {transition : Transition} {low high : Nat} (small : high < 65536)
    (within : transition.Within low high) (now : Nat) :
    low ≤ transition.value now ∧ transition.value now ≤ high := by
  obtain ⟨fromWithin, toWithin⟩ := within
  by_cases done : transition.duration = 0 ∨
      min (now - transition.start) transition.duration = transition.duration
  · simp only [value, if_pos done]
    exact toWithin
  · have share := elapsed_share_le transition now
    have between := share_between ((transition.toValue : Int) - transition.fromValue)
      (by decide : 0 < ONE) (fraction_le_one transition.curve share)
    simp only [value, if_neg done]
    rcases le_total transition.fromValue transition.toValue with up | down
    · have moved := between.1 (by omega)
      omega
    · have moved := between.2 (by omega)
      omega

/-! ### Values move towards the end -/

theorem fraction_mono (curve : Curve) {x y : Nat} (later : x ≤ y) (bound : y ≤ ONE) :
    fraction curve x ≤ fraction curve y := by
  cases curve with
  | linear => exact later
  | smooth =>
      apply Nat.div_le_div_right
      obtain ⟨step, rfl⟩ := Nat.exists_eq_add_of_le later
      obtain ⟨rest, split⟩ := Nat.exists_eq_add_of_le bound
      have before : 3 * ONE - 2 * x = x + 3 * step + 3 * rest := by omega
      have after : 3 * ONE - 2 * (x + step) = x + step + 3 * rest := by omega
      rw [before, after]
      nlinarith [Nat.zero_le (x * step * step), Nat.zero_le (x * step * rest),
        Nat.zero_le (step * step * step), Nat.zero_le (step * step * rest)]

/-- A truncated share of a signed way grows with the share, in its direction. -/
theorem share_mono (way : Int) {share more one : Nat} (positive : 0 < one) (grows : share ≤ more) :
    (0 ≤ way → (way * share).tdiv one ≤ (way * more).tdiv one) ∧
      (way ≤ 0 → (way * more).tdiv one ≤ (way * share).tdiv one) := by
  have forward : ∀ distance : Int, 0 ≤ distance →
      (distance * share).tdiv one ≤ (distance * more).tdiv one := by
    intro distance nonnegative
    have products : distance * share ≤ distance * more :=
      mul_le_mul_of_nonneg_left (by exact_mod_cast grows) nonnegative
    rw [Int.tdiv_eq_ediv_of_nonneg (by positivity), Int.tdiv_eq_ediv_of_nonneg (by positivity)]
    exact Int.ediv_le_ediv (by omega) products
  refine ⟨forward way, fun nonpositive => ?_⟩
  have mirrored := forward (-way) (by omega)
  rw [Int.neg_mul, Int.neg_mul, Int.neg_tdiv, Int.neg_tdiv] at mirrored
  omega

/-- A transition only moves towards its end. -/
theorem value_mono {transition : Transition} {high : Nat} (small : high < 65536)
    (within : transition.Within 0 high) {now later : Nat} (passes : now ≤ later) :
    (transition.fromValue ≤ transition.toValue → transition.value now ≤ transition.value later) ∧
      (transition.toValue ≤ transition.fromValue →
        transition.value later ≤ transition.value now) := by
  obtain ⟨⟨_, fromHigh⟩, ⟨_, toHigh⟩⟩ := within
  by_cases done : transition.duration = 0 ∨
      min (later - transition.start) transition.duration = transition.duration
  · have arrived : transition.value later = transition.toValue := by
      simp only [value, if_pos done]
    rw [arrived]
    constructor
    · intro up
      exact (value_within (show transition.toValue < 65536 by omega)
        ⟨⟨Nat.le_refl _, up⟩, up, Nat.le_refl _⟩ now).2
    · intro down
      exact (value_within (show transition.fromValue < 65536 by omega)
        ⟨⟨down, Nat.le_refl _⟩, Nat.le_refl _, down⟩ now).1
  · have earlier : ¬(transition.duration = 0 ∨
        min (now - transition.start) transition.duration = transition.duration) := by omega
    have laterShare := elapsed_share_le transition later
    have grows : min (now - transition.start) transition.duration * ONE / transition.duration ≤
        min (later - transition.start) transition.duration * ONE / transition.duration := by
      apply Nat.div_le_div_right
      exact Nat.mul_le_mul_right ONE (by omega)
    have fractions := fraction_mono transition.curve grows laterShare
    have moved := share_mono ((transition.toValue : Int) - transition.fromValue)
      (by decide : 0 < ONE) fractions
    have between := share_between ((transition.toValue : Int) - transition.fromValue)
      (by decide : 0 < ONE) (fraction_le_one transition.curve laterShare)
    have betweenNow := share_between ((transition.toValue : Int) - transition.fromValue)
      (by decide : 0 < ONE) (fraction_le_one transition.curve (grows.trans laterShare))
    simp only [value, if_neg done, if_neg earlier]
    constructor
    · intro up
      have forward := moved.1 (by omega)
      have bounds := between.1 (by omega)
      have boundsNow := betweenNow.1 (by omega)
      omega
    · intro down
      have backward := moved.2 (by omega)
      have bounds := between.2 (by omega)
      have boundsNow := betweenNow.2 (by omega)
      omega

/-! ### Remaining time -/

theorem remaining_eq_zero {transition : Transition} {now : Nat} :
    transition.remaining now = 0 ↔
      transition.duration = 0 ∨ transition.start + transition.duration ≤ now := by
  unfold remaining
  omega

theorem value_of_remaining {transition : Transition} {now : Nat}
    (ended : transition.remaining now = 0) : transition.value now = transition.toValue := by
  rcases remaining_eq_zero.mp ended with instant | elapsed
  · simp [value, instant]
  · exact value_of_elapsed elapsed

end Transition

/-! ### Level tracks -/

structure LevelTransition where
  ramp : Transition
  thenRamp : Option Transition
  /-- Freeze colour during fade-out even if remembered settings change while Off. -/
  offTemperature : Option ColorTemperature
  ramp_within : ramp.Within 0 2530
  then_within : ∀ next ∈ thenRamp, next.Within 0 2530
deriving DecidableEq

namespace LevelTransition

/-- One ramp between two brightness values. -/
def single (current target : OutputBrightness) (start duration : Nat) (curve : Curve)
    (offTemperature : Option ColorTemperature) : LevelTransition where
  ramp := ⟨current.get, target.get, start, duration, curve⟩
  thenRamp := none
  offTemperature := offTemperature
  ramp_within := ⟨⟨Nat.zero_le _, current.le_max⟩, Nat.zero_le _, target.le_max⟩
  then_within := by simp

/-- The phase that a time falls in. -/
def phase (track : LevelTransition) (now : Nat) : Transition :=
  (track.thenRamp.filter fun next => next.start ≤ now).getD track.ramp

/-- The phase that ends the track. -/
def last (track : LevelTransition) : Transition := track.thenRamp.getD track.ramp

def value (track : LevelTransition) (now : Nat) : Nat := (track.phase now).value now

def deadline (track : LevelTransition) : Nat := track.last.start + track.last.duration

def remaining (track : LevelTransition) (now : Nat) : Nat := track.deadline - now

theorem phase_within (track : LevelTransition) (now : Nat) : (track.phase now).Within 0 2530 := by
  unfold phase
  cases next : track.thenRamp.filter fun next => decide (next.start ≤ now) with
  | none => exact track.ramp_within
  | some ramp =>
      have member := (Option.filter_eq_some_iff.mp next).1
      exact track.then_within ramp member

theorem new_value_isSome (track : LevelTransition) (now : Nat) :
    (OutputBrightness.new (track.value now)).isSome := by
  have range := Transition.value_within (by decide) (track.phase_within now) now
  simp only [value, OutputBrightness.new_of_le range.2, Option.isSome_some]

/-- Bounded brightness ramp. -/
def brightness (track : LevelTransition) (now : Nat) : OutputBrightness :=
  (OutputBrightness.new (track.value now)).get (track.new_value_isSome now)

@[simp] theorem brightness_get (track : LevelTransition) (now : Nat) :
    (track.brightness now).get = track.value now := by
  have range := Transition.value_within (by decide) (track.phase_within now) now
  simp only [brightness, value, OutputBrightness.new_of_le range.2, Option.get_some]

theorem remaining_eq_zero {track : LevelTransition} {now : Nat} :
    track.remaining now = 0 ↔ track.deadline ≤ now := by
  unfold remaining
  omega

@[simp] theorem single_offTemperature (current target : OutputBrightness) (start duration : Nat)
    (curve : Curve) (offTemperature : Option ColorTemperature) :
    (single current target start duration curve offTemperature).offTemperature = offTemperature :=
  rfl

@[simp] theorem single_deadline (current target : OutputBrightness) (start duration : Nat)
    (curve : Curve) (offTemperature : Option ColorTemperature) :
    (single current target start duration curve offTemperature).deadline = start + duration := rfl

@[simp] theorem single_value (current target : OutputBrightness) (start duration : Nat)
    (curve : Curve) (offTemperature : Option ColorTemperature) (now : Nat) :
    (single current target start duration curve offTemperature).value now =
      Transition.value ⟨current.get, target.get, start, duration, curve⟩ now := rfl

end LevelTransition

/-! ### Temperature tracks -/

structure TemperatureTransition where
  ramp : Transition
  ramp_within : ramp.Within 143 344
deriving DecidableEq

namespace TemperatureTransition

def single (current target : ColorTemperature) (start duration : Nat) (curve : Curve) :
    TemperatureTransition where
  ramp := ⟨current.get, target.get, start, duration, curve⟩
  ramp_within := ⟨⟨current.min_le, current.le_max⟩, target.min_le, target.le_max⟩

def remaining (track : TemperatureTransition) (now : Nat) : Nat := track.ramp.remaining now

theorem new_value_isSome (track : TemperatureTransition) (now : Nat) :
    (ColorTemperature.new (track.ramp.value now)).isSome := by
  have range := Transition.value_within (by decide) track.ramp_within now
  simp only [ColorTemperature.new_of_range range.1 range.2, Option.isSome_some]

/-- Bounded temperature ramp. -/
def temperature (track : TemperatureTransition) (now : Nat) : ColorTemperature :=
  (ColorTemperature.new (track.ramp.value now)).get (track.new_value_isSome now)

@[simp] theorem temperature_get (track : TemperatureTransition) (now : Nat) :
    (track.temperature now).get = track.ramp.value now := by
  have range := Transition.value_within (by decide) track.ramp_within now
  simp only [temperature, ColorTemperature.new_of_range range.1 range.2, Option.get_some]

end TemperatureTransition

end KeyRight.App
