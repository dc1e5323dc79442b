import KeyRight.Core.Pca9635

/-!
Owns the bounds of the register image, and the frames whose logical state agrees with
their brightness.

Does not own which frames are applied.
-/

namespace KeyRight.Core

/-! ### Register ceiling -/

/-- The largest duty cycle of a channel: the stock nominal 10%. -/
def CEILING : UInt8 := 22

theorem mixPair_le {mired : Nat} (low : 143 ≤ mired) (high : mired ≤ 344) :
    (mixPair mired).1 ≤ 100 ∧ (mixPair mired).2 ≤ 100 := by
  unfold mixPair
  split
  · exact ⟨by omega, by omega⟩
  · split
    · exact ⟨by omega, by omega⟩
    · split
      · exact ⟨by omega, by omega⟩
      · exact ⟨by omega, by omega⟩

theorem stockPwm_le {mix numerator : Nat} (mixed : mix ≤ 100) (bright : numerator ≤ 2530) :
    stockPwm mix numerator OutputBrightness.DENOMINATOR ≤ CEILING := by
  have product : mix * 4095 * numerator ≤ 100 * 4095 * 2530 :=
    Nat.mul_le_mul (Nat.mul_le_mul_right 4095 mixed) bright
  have short : mix * 4095 * numerator / (160000 * OutputBrightness.DENOMINATOR) < 26 :=
    Nat.div_lt_of_lt_mul (Nat.lt_of_le_of_lt product (by decide))
  unfold stockPwm
  generalize mix * 4095 * numerator / (160000 * OutputBrightness.DENOMINATOR) = steps at short ⊢
  rw [UInt8.le_iff_toNat_le, UInt8.toNat_ofNat']
  have duty : steps * 9 / 10 ≤ 22 := by omega
  exact Nat.le_trans (Nat.mod_le _ _) duty

/-- Warm and cool stay under the ceiling, the other PWM channels are dark. -/
structure Capped (image : Vector UInt8 22) : Prop where
  warm : image.get 0 ≤ CEILING
  cool : image.get 4 ≤ CEILING
  dark : ∀ channel : Fin 22, channel.val < 16 → channel ≠ 0 → channel ≠ 4 → image.get channel = 0

theorem darkFrame_channels : ∀ channel : Fin 22, channel.val < 16 → darkFrame.get channel = 0 := by
  decide

theorem outputFrame_get {output : OutputFrame} (on : output.state.on = true) (channel : Fin 22) :
    (outputFrame output).get channel =
      if 4 = channel.val then (outputPwmPair output.brightness output.state.temperature).2
      else if 0 = channel.val then (outputPwmPair output.brightness output.state.temperature).1
      else darkFrame.get channel := by
  simp only [outputFrame, on, if_true, get_eq_getElem, Vector.getElem_set]

theorem outputFrame_capped (output : OutputFrame) : Capped (outputFrame output) := by
  cases on : output.state.on with
  | false =>
      rw [outputFrame_of_off on]
      exact ⟨by decide, by decide, fun channel pwm _ _ => darkFrame_channels channel pwm⟩
  | true =>
      have mixed := mixPair_le output.state.temperature.min_le output.state.temperature.le_max
      have bright := output.brightness.le_max
      refine ⟨?_, ?_, fun channel pwm warm cool => ?_⟩
      · rw [outputFrame_get on, if_neg (by decide), if_pos (by decide)]
        exact stockPwm_le mixed.1 bright
      · rw [outputFrame_get on, if_pos (by decide)]
        exact stockPwm_le mixed.2 bright
      · rw [outputFrame_get on, if_neg fun same => cool (Fin.ext same.symm),
          if_neg fun same => warm (Fin.ext same.symm)]
        exact darkFrame_channels channel pwm

/-! ### Frames -/

/-- The logical state of a frame agrees with its brightness. -/
structure OutputFrame.WellFormed (frame : OutputFrame) : Prop where
  lit : frame.state.on = true ↔ frame.brightness ≠ OutputBrightness.ZERO
  capped : frame.brightness.get ≤ 2530
  level : frame.state.on = true → frame.state.level = frame.brightness.toLevelClamped

theorem OutputFrame.fromState_wellFormed (state : LightState) : (fromState state).WellFormed := by
  cases on : state.on with
  | true =>
      have bright := fromState_brightness_of_on on
      refine ⟨?_, (fromState state).brightness.le_max, fun _ => ?_⟩
      · rw [bright]
        exact ⟨fun _ => OutputBrightness.fromLevel_ne_zero state.level, fun _ => on⟩
      · rw [bright, OutputBrightness.toLevelClamped_fromLevel]
        rfl
  | false =>
      have dark := fromState_brightness_of_off on
      refine ⟨?_, (fromState state).brightness.le_max, fun lit => ?_⟩
      · rw [dark, fromState_state, on]
        simp
      · rw [fromState_state, on] at lit
        cases lit

/-- The temperature of a frame is free. -/
theorem OutputFrame.WellFormed.recolor {frame : OutputFrame} (wellFormed : frame.WellFormed)
    (temperature : ColorTemperature) :
    OutputFrame.WellFormed { frame with state := { frame.state with temperature := temperature } } :=
  ⟨wellFormed.lit, wellFormed.capped, wellFormed.level⟩

end KeyRight.Core
