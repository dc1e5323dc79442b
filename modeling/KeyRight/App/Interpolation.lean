import KeyRight.App.Frames
import KeyRight.Support.FixedWidth
import Mathlib.Data.Rat.Floor

/-!
Owns the fixed-point interpolation in the 64 bits of the source: for the durations that a
command may have nothing overflows, a value is exact at both ends, moves towards the end
only, and on a linear ramp stays within two units of the exact ramp.

Does not own which ramps a command installs.
-/

namespace KeyRight.App.Transition

open KeyRight.Support FixedWidth

/-! ### Checked arithmetic -/

/-- `fraction`, unless an operation overflows. -/
def checkedFraction (curve : Curve) (x : Int) : Option Int :=
  match curve with
  | .linear => some x
  | .smooth => do
      let square ← u64.mul x x
      let rest ← u64.sub (← u64.mul 3 ONE) (← u64.mul 2 x)
      u64.div (← u64.mul square rest) (← u64.mul ONE ONE)

/-- The share of the way in Q16, as the signed number it is cast to. -/
def checkedShare (transition : Transition) (now : Nat) : Option Int := do
  let elapsed := min (now - transition.start) transition.duration
  let x ← u64.div (← u64.mul elapsed ONE) transition.duration
  i64.fit (← checkedFraction transition.curve x)

/-- The signed way at a share of it. -/
def checkedMoved (transition : Transition) (fraction : Int) : Option Int := do
  let way ← i64.sub transition.toValue transition.fromValue
  i64.div (← i64.mul way fraction) ONE

/-- `value`, unless an operation overflows or a cast loses something. -/
def checkedValue (transition : Transition) (now : Nat) : Option Int := do
  let elapsed := min (now - transition.start) transition.duration
  if transition.duration = 0 ∨ elapsed = transition.duration then return transition.toValue
  else
    let fraction ← checkedShare transition now
    let moved ← checkedMoved transition fraction
    u16.fit (← i64.add transition.fromValue moved)

theorem checkedFraction_eq (curve : Curve) {x : Nat} (bound : x ≤ ONE) :
    checkedFraction curve x = some (fraction curve x : Int) := by
  cases curve with
  | linear => rfl
  | smooth =>
      have square : x * x ≤ ONE * ONE := Nat.mul_le_mul bound bound
      have cube : x * x * (3 * ONE - 2 * x) ≤ ONE * ONE * (3 * ONE) :=
        Nat.mul_le_mul square (Nat.sub_le _ _)
      unfold ONE at bound square cube
      have squares : u64.mul (x : Int) x = some ((x * x : Nat) : Int) :=
        u64_unsigned.mul (Nat.le_trans square (by decide))
      have doubles : u64.mul 2 (x : Int) = some ((2 * x : Nat) : Int) :=
        u64_unsigned.mul (show 2 * x ≤ 18446744073709551615 by omega)
      have triples : u64.mul 3 (ONE : Int) = some ((3 * ONE : Nat) : Int) := rfl
      have rests : u64.sub ((3 * ONE : Nat) : Int) ((2 * x : Nat) : Int) =
          some ((3 * ONE - 2 * x : Nat) : Int) :=
        u64_unsigned.sub (show 2 * x ≤ 3 * 65536 by omega) (by decide)
      have cubes : u64.mul ((x * x : Nat) : Int) ((3 * ONE - 2 * x : Nat) : Int) =
          some ((x * x * (3 * ONE - 2 * x) : Nat) : Int) :=
        u64_unsigned.mul (Nat.le_trans cube (by decide))
      have ones : u64.mul (ONE : Int) ONE = some ((ONE * ONE : Nat) : Int) := rfl
      simp only [checkedFraction, squares, doubles, triples, rests, cubes, ones, Option.bind_eq_bind,
        Option.bind_some]
      exact u64_unsigned.div (by decide) (Nat.le_trans cube (by decide))

section

variable {transition : Transition} {now : Nat}

/-- The ramp is between its ends: the case in which the source interpolates. -/
def Running (transition : Transition) (now : Nat) : Prop :=
  ¬(transition.duration = 0 ∨ min (now - transition.start) transition.duration = transition.duration)

/-- The share of the way that the source computes, in Q16. -/
def share (transition : Transition) (now : Nat) : Nat :=
  fraction transition.curve
    (min (now - transition.start) transition.duration * ONE / transition.duration)

theorem share_le_one (transition : Transition) (now : Nat) : transition.share now ≤ ONE :=
  fraction_le_one transition.curve (elapsed_share_le transition now)

/-- The way moved, as the truncated product of the source. -/
def moved (transition : Transition) (now : Nat) : Int :=
  (((transition.toValue : Int) - transition.fromValue) * transition.share now).tdiv ONE

theorem moved_between (transition : Transition) (now : Nat) :
    min 0 ((transition.toValue : Int) - transition.fromValue) ≤ transition.moved now ∧
      transition.moved now ≤ max 0 ((transition.toValue : Int) - transition.fromValue) := by
  have between := share_between ((transition.toValue : Int) - transition.fromValue)
    (by decide : 0 < ONE) (share_le_one transition now)
  unfold moved
  omega

/-- The cast to 16 bits loses nothing. -/
theorem value_of_running (within : transition.Within 0 65535) (running : transition.Running now) :
    (transition.value now : Int) = transition.fromValue + transition.moved now := by
  have between := moved_between transition now
  obtain ⟨⟨_, fromHigh⟩, _, toHigh⟩ := within
  have value : transition.value now =
      (((transition.fromValue : Int) + transition.moved now) % 65536).toNat := by
    rw [value, if_neg running]
    rfl
  omega

theorem checkedShare_eq (bounded : transition.Bounded) (running : transition.Running now) :
    transition.checkedShare now = some (transition.share now : Int) := by
  have elapsed : min (now - transition.start) transition.duration ≤ 60000000 :=
    Nat.le_trans (Nat.min_le_right _ _) bounded
  have scaled : min (now - transition.start) transition.duration * ONE ≤ 60000000 * ONE :=
    Nat.mul_le_mul_right ONE elapsed
  have scales : u64.mul ((min (now - transition.start) transition.duration : Nat) : Int) ONE =
      some ((min (now - transition.start) transition.duration * ONE : Nat) : Int) :=
    u64_unsigned.mul (Nat.le_trans scaled (by decide))
  have shares : u64.div ((min (now - transition.start) transition.duration * ONE : Nat) : Int)
      transition.duration =
      some ((min (now - transition.start) transition.duration * ONE / transition.duration : Nat) : Int) :=
    u64_unsigned.div (fun instant => running (.inl instant)) (Nat.le_trans scaled (by decide))
  have bound := share_le_one transition now
  unfold ONE at bound
  have part : i64.fit (transition.share now : Int) = some (transition.share now : Int) :=
    i64_fit (by omega)
  simp only [checkedShare, scales, shares, Option.bind_eq_bind, Option.bind_some,
    checkedFraction_eq transition.curve (elapsed_share_le transition now)]
  exact part

theorem checkedMoved_eq (bounded : transition.Bounded) (within : transition.Within 0 65535)
    (now : Nat) :
    transition.checkedMoved (transition.share now) = some (transition.moved now) := by
  have product := (bounded.fits (by decide) within now).moved _ (elapsed_share_le transition now)
  have between := moved_between transition now
  obtain ⟨⟨_, fromHigh⟩, _, toHigh⟩ := within
  have ways : i64.sub (transition.toValue : Int) transition.fromValue =
      some ((transition.toValue : Int) - transition.fromValue) := i64_fit (by omega)
  have products : i64.mul ((transition.toValue : Int) - transition.fromValue) (transition.share now) =
      some (((transition.toValue : Int) - transition.fromValue) * transition.share now) :=
    i64_fit product
  have divides : i64.div (((transition.toValue : Int) - transition.fromValue) * transition.share now)
      ONE = some (transition.moved now) := by
    rw [div, if_neg (by decide)]
    change i64.fit (transition.moved now) = _
    exact i64_fit (by omega)
  simp only [checkedMoved, ways, products, divides, Option.bind_eq_bind, Option.bind_some]

theorem checkedValue_eq (bounded : transition.Bounded) (within : transition.Within 0 65535) (now : Nat) :
    transition.checkedValue now = some (transition.value now : Int) := by
  by_cases done : transition.duration = 0 ∨
      min (now - transition.start) transition.duration = transition.duration
  · simp only [checkedValue, value, if_pos done]
    rfl
  have reached := value_of_running within done
  have small := (value_within (by decide) within now).2
  have between := moved_between transition now
  have adds : i64.add transition.fromValue (transition.moved now) = some (transition.value now : Int) := by
    rw [reached]
    exact i64_fit (by omega)
  simp only [checkedValue, if_neg done, checkedShare_eq bounded done,
    checkedMoved_eq bounded within now, adds, Option.bind_eq_bind, Option.bind_some]
  exact u16_unsigned.fit small

end

/-! ### Accuracy -/

/-- The exact ramp. -/
def exactValue (transition : Transition) (now : Nat) : ℚ :=
  if transition.duration = 0 then transition.toValue
  else
    transition.fromValue + ((transition.toValue : ℚ) - transition.fromValue) *
      (min (now - transition.start) transition.duration : ℕ) / transition.duration

/-- A truncated quotient is less than one away from the exact one. -/
theorem abs_tdiv_sub_lt (value : ℤ) {divisor : ℤ} (positive : 0 < divisor) :
    |(value.tdiv divisor : ℚ) - value / divisor| < 1 := by
  have split := Int.mul_tdiv_add_tmod value divisor
  have below := Int.lt_tmod_of_pos value positive
  have above := Int.tmod_lt_of_pos value positive
  have nonzero : (divisor : ℚ) ≠ 0 := by exact_mod_cast positive.ne'
  have rest : (value.tdiv divisor : ℚ) - value / divisor = -((value.tmod divisor : ℚ) / divisor) := by
    rw [eq_neg_iff_add_eq_zero]
    field_simp
    have whole : (divisor : ℚ) * value.tdiv divisor + value.tmod divisor = value := by
      exact_mod_cast split
    linarith
  have positive' : (0 : ℚ) < divisor := by exact_mod_cast positive
  rw [rest, abs_neg, abs_div, abs_of_pos positive', div_lt_one positive', abs_lt]
  exact ⟨by exact_mod_cast below, by exact_mod_cast above⟩

/-- A floored quotient is at most one away from the exact one. -/
theorem abs_floor_sub_le (value : ℕ) {divisor : ℕ} (positive : 0 < divisor) :
    |((value / divisor : ℕ) : ℚ) - value / divisor| ≤ 1 := by
  have error := (abs_tdiv_sub_lt (value : ℤ) (Int.natCast_pos.mpr positive)).le
  rw [Int.tdiv_eq_ediv_of_nonneg (by positivity), ← Int.natCast_ediv] at error
  push_cast at error
  exact error

/-- Each of the two truncations costs less than one unit, the second one at a way of at
most one in Q16. -/
theorem linear_error {transition : Transition} (linear : transition.curve = .linear)
    (within : transition.Within 0 65535) (now : Nat) :
    |(transition.value now : ℚ) - transition.exactValue now| < 2 := by
  by_cases done : transition.duration = 0 ∨
      min (now - transition.start) transition.duration = transition.duration
  · have arrived : transition.exactValue now = transition.toValue := by
      by_cases instant : transition.duration = 0
      · rw [exactValue, if_pos instant]
      · have nonzero : (transition.duration : ℚ) ≠ 0 := by exact_mod_cast instant
        rw [exactValue, if_neg instant, done.resolve_left instant]
        field_simp
        ring
    rw [arrived, value, if_pos done, sub_self, abs_zero]
    exact two_pos
  have reached : (transition.value now : ℚ) = transition.fromValue + transition.moved now := by
    exact_mod_cast value_of_running within done
  have timed : 0 < transition.duration := Nat.pos_of_ne_zero fun instant => done (.inl instant)
  have shares : transition.share now =
      min (now - transition.start) transition.duration * ONE / transition.duration := by
    rw [share, linear]
    rfl
  have floored := abs_floor_sub_le (min (now - transition.start) transition.duration * ONE) timed
  have truncated := abs_tdiv_sub_lt
    (((transition.toValue : ℤ) - transition.fromValue) * transition.share now)
    (show (0 : ℤ) < (ONE : ℤ) by decide)
  change |(transition.moved now : ℚ) - _| < 1 at truncated
  rw [← shares] at floored
  have nonzero : (transition.duration : ℚ) ≠ 0 := by exact_mod_cast timed.ne'
  have one : (ONE : ℚ) ≠ 0 := by norm_num [ONE]
  have split : (transition.value now : ℚ) - transition.exactValue now =
      (transition.moved now -
        ((((transition.toValue : ℤ) - transition.fromValue) * transition.share now : ℤ) : ℚ) /
          ((ONE : ℤ) : ℚ)) +
      ((transition.toValue : ℚ) - transition.fromValue) / ONE *
        (transition.share now -
          ((min (now - transition.start) transition.duration * ONE : ℕ) : ℚ) /
            transition.duration) := by
    rw [reached, exactValue, if_neg (fun instant => done (.inl instant))]
    push_cast
    field_simp
    ring
  have slope : |((transition.toValue : ℚ) - transition.fromValue) / ONE| ≤ 1 := by
    obtain ⟨⟨_, fromHigh⟩, _, toHigh⟩ := within
    have fromHigh' : (transition.fromValue : ℚ) ≤ 65535 := by exact_mod_cast fromHigh
    have toHigh' : (transition.toValue : ℚ) ≤ 65535 := by exact_mod_cast toHigh
    have fromLow : (0 : ℚ) ≤ transition.fromValue := Nat.cast_nonneg _
    have toLow : (0 : ℚ) ≤ transition.toValue := Nat.cast_nonneg _
    rw [abs_div, abs_of_pos (show (0 : ℚ) < ONE by norm_num [ONE]),
      div_le_one (by norm_num [ONE]), abs_le]
    constructor <;> norm_num [ONE] <;> linarith
  have scaled := mul_le_one₀ slope (abs_nonneg _) floored
  rw [← abs_mul] at scaled
  rw [split]
  calc
    _ ≤ _ := abs_add_le _ _
    _ < 1 + 1 := add_lt_add_of_lt_of_le truncated scaled
    _ = 2 := one_add_one_eq_two

/-! ### Fixed-point interpolation -/

theorem value_approaches {transition : Transition} (within : transition.Within 0 65535)
    {now later : Nat} (passes : now ≤ later) :
    |(transition.toValue : Int) - transition.value later| ≤
      |(transition.toValue : Int) - transition.value now| := by
  have mono := value_mono (by decide) within passes
  obtain ⟨⟨_, fromHigh⟩, _, toHigh⟩ := within
  rcases le_total transition.fromValue transition.toValue with up | down
  · have reached := value_within (show transition.toValue < 65536 by omega)
      ⟨⟨Nat.zero_le _, up⟩, Nat.zero_le _, Nat.le_refl _⟩
    have now' := (reached now).2
    have later' := (reached later).2
    have forward := mono.1 up
    rw [abs_of_nonneg (by omega), abs_of_nonneg (by omega)]
    omega
  · have reached := value_within (show transition.fromValue < 65536 by omega)
      ⟨⟨down, Nat.le_refl _⟩, Nat.le_refl _, down⟩
    have now' := (reached now).1
    have later' := (reached later).1
    have backward := mono.2 down
    rw [abs_of_nonpos (by omega), abs_of_nonpos (by omega)]
    omega

theorem interpolates (fromValue toValue : UInt16) (start : UInt64) {duration : Nat}
    (short : duration ≤ MAX_TRANSITION_MS) (curve : Curve) {now later : UInt64}
    (passes : now ≤ later) :
    let ramp : Transition := ⟨fromValue.toNat, toValue.toNat, start.toNat, duration, curve⟩
    ramp.checkedValue now.toNat = some (ramp.value now.toNat : Int) ∧
      (0 < duration → now ≤ start → ramp.value now.toNat = fromValue.toNat) ∧
      (start.toNat + duration ≤ now.toNat → ramp.value now.toNat = toValue.toNat) ∧
      (min fromValue.toNat toValue.toNat ≤ ramp.value now.toNat ∧
        ramp.value now.toNat ≤ max fromValue.toNat toValue.toNat) ∧
      |(toValue.toNat : Int) - ramp.value later.toNat| ≤
        |(toValue.toNat : Int) - ramp.value now.toNat| ∧
      (ramp.remaining now.toNat = 0 ↔ duration = 0 ∨ start.toNat + duration ≤ now.toNat) ∧
      (curve = .linear → |(ramp.value now.toNat : ℚ) - ramp.exactValue now.toNat| < 2) := by
  intro ramp
  have fromHigh : fromValue.toNat ≤ 65535 := Nat.le_of_lt_succ fromValue.toNat_lt
  have toHigh : toValue.toNat ≤ 65535 := Nat.le_of_lt_succ toValue.toNat_lt
  have bounded : ramp.Bounded := short
  have within : ramp.Within 0 65535 := ⟨⟨Nat.zero_le _, fromHigh⟩, Nat.zero_le _, toHigh⟩
  have between : ramp.Within (min fromValue.toNat toValue.toNat) (max fromValue.toNat toValue.toNat) :=
    ⟨⟨min_le_left _ _, le_max_left _ _⟩, min_le_right _ _, le_max_right _ _⟩
  refine ⟨checkedValue_eq bounded within _, fun timed early => ?_, fun elapsed => ?_, ?_,
    value_approaches within passes, remaining_eq_zero, fun linear => linear_error linear within _⟩
  · exact value_at_start (by decide) within timed.ne' early
  · exact value_of_elapsed elapsed
  · exact value_within (by omega) between _

/-- A ramp from 0 to 253 over 400 ms, after a quarter and after half of it. -/
theorem interpolates_quarter :
    |((253 : UInt16).toNat : Int) -
        (Transition.mk (0 : UInt16).toNat (253 : UInt16).toNat (1000 : UInt64).toNat 400 .linear).value
          (1200 : UInt64).toNat| ≤
      |((253 : UInt16).toNat : Int) -
        (Transition.mk (0 : UInt16).toNat (253 : UInt16).toNat (1000 : UInt64).toNat 400 .linear).value
          (1100 : UInt64).toNat| ∧
    (Transition.mk (0 : UInt16).toNat (253 : UInt16).toNat (1000 : UInt64).toNat 400 .linear).value
      (1100 : UInt64).toNat = 63 :=
  ⟨(interpolates 0 253 1000 (show 400 ≤ MAX_TRANSITION_MS by decide) .linear
    (show (1100 : UInt64) ≤ 1200 by decide)).2.2.2.2.1, by decide⟩

/-- An instant change that lies ahead has no time remaining. -/
theorem instant_remaining :
    ¬∀ (fromValue toValue : UInt16) (start : UInt64) (duration : Nat), duration ≤ MAX_TRANSITION_MS →
      ∀ (curve : Curve) (now : UInt64),
        (Transition.mk fromValue.toNat toValue.toNat start.toNat duration curve).remaining now.toNat = 0 ↔
          start.toNat + duration ≤ now.toNat := by
  intro exactly
  have instant := exactly 0 253 1 0 (Nat.zero_le _) .linear 0
  exact absurd (instant.mp rfl) (by decide)

end KeyRight.App.Transition
