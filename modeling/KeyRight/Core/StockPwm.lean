import KeyRight.Core.Ceiling
import KeyRight.Support.FixedWidth
import Mathlib.Data.Rat.Floor

/-!
Owns the stock PWM arithmetic of `firmware/core/src/pca9635.rs` in the 32 bits of the source:
it merges two of three truncations exactly, loses nothing for any brightness and colour
temperature, and never falls with brightness, nor warm with mired, nor cool against it.

Does not own what the PWM bytes do to the light.
-/

namespace KeyRight.Core

open KeyRight.Support FixedWidth

/-! ### Checked arithmetic -/

/-- The duty cycle before it is cast to a byte. -/
def stockDuty (mix numerator denominator : Nat) : Nat :=
  mix * 4095 * numerator / (160000 * denominator) * 9 / 10

/-- `stockPwm`, unless an operation overflows or the cast loses something. -/
def checkedStockPwm (mix numerator denominator : Int) : Option Int := do
  let product ← u32.mul (← u32.mul mix 4095) numerator
  let steps ← u32.div product (← u32.mul 160000 denominator)
  u8.fit (← u32.div (← u32.mul steps 9) 10)

/-- `mixPair`, unless an operation overflows. -/
def checkedMixPair (mired : Int) : Option (Int × Int) := do
  if mired = 143 then return (0, 100)
  else if 144 ≤ mired ∧ mired ≤ 243 then
    return (← u32.div (← u32.mul (← u32.sub mired 143) 100) 101, 100)
  else if mired = 244 then return (100, 100)
  else return (100, ← u32.sub 344 mired)

/-- `outputPwmPair`, unless an operation overflows or a cast loses something. -/
def checkedPwmPair (brightness : OutputBrightness) (temperature : ColorTemperature) :
    Option (Int × Int) := do
  let (warm, cool) ← checkedMixPair temperature.get
  let numerator := brightness.get
  let denominator := OutputBrightness.DENOMINATOR
  return (← checkedStockPwm warm numerator denominator, ← checkedStockPwm cool numerator denominator)

theorem stockDuty_le {mix numerator : Nat} (mixed : mix ≤ 100) (bright : numerator ≤ 2530) :
    stockDuty mix numerator OutputBrightness.DENOMINATOR ≤ 22 := by
  have product : mix * 4095 * numerator ≤ 100 * 4095 * 2530 :=
    Nat.mul_le_mul (Nat.mul_le_mul_right 4095 mixed) bright
  unfold stockDuty OutputBrightness.DENOMINATOR
  omega

/-- The cast of the duty cycle loses nothing. -/
theorem stockPwm_toNat {mix numerator : Nat} (mixed : mix ≤ 100) (bright : numerator ≤ 2530) :
    (stockPwm mix numerator OutputBrightness.DENOMINATOR).toNat =
      stockDuty mix numerator OutputBrightness.DENOMINATOR := by
  have duty := stockDuty_le mixed bright
  change (UInt8.ofNat (stockDuty mix numerator OutputBrightness.DENOMINATOR)).toNat = _
  rw [UInt8.toNat_ofNat']
  omega

theorem checkedStockPwm_eq {mix numerator : Nat} (mixed : mix ≤ 100) (bright : numerator ≤ 2530) :
    checkedStockPwm mix numerator OutputBrightness.DENOMINATOR =
      some ((stockPwm mix numerator OutputBrightness.DENOMINATOR).toNat : Int) := by
  have product : mix * 4095 * numerator ≤ 100 * 4095 * 2530 :=
    Nat.mul_le_mul (Nat.mul_le_mul_right 4095 mixed) bright
  have duty := stockDuty_le mixed bright
  rw [stockPwm_toNat mixed bright]
  unfold stockDuty OutputBrightness.DENOMINATOR at duty ⊢
  have mixes : u32.mul (mix : Int) 4095 = some ((mix * 4095 : Nat) : Int) :=
    u32_unsigned.mul (show mix * 4095 ≤ 4294967295 by omega)
  have multiplies : u32.mul ((mix * 4095 : Nat) : Int) numerator =
      some ((mix * 4095 * numerator : Nat) : Int) := u32_unsigned.mul (by omega)
  have scales : u32.mul 160000 ((253 : Nat) : Int) = some ((160000 * 253 : Nat) : Int) := rfl
  have divides : u32.div ((mix * 4095 * numerator : Nat) : Int) ((160000 * 253 : Nat) : Int) =
      some ((mix * 4095 * numerator / (160000 * 253) : Nat) : Int) :=
    u32_unsigned.div (by decide) (by omega)
  simp only [checkedStockPwm, mixes, multiplies, scales, divides, Option.bind_eq_bind, Option.bind_some]
  generalize mix * 4095 * numerator / (160000 * 253) = steps at duty ⊢
  have ninths : u32.mul (steps : Int) 9 = some ((steps * 9 : Nat) : Int) :=
    u32_unsigned.mul (show steps * 9 ≤ 4294967295 by omega)
  have tenths : u32.div ((steps * 9 : Nat) : Int) 10 = some ((steps * 9 / 10 : Nat) : Int) :=
    u32_unsigned.div (by decide) (by omega)
  rw [ninths, Option.bind_some, tenths, Option.bind_some]
  exact u8_unsigned.fit (by omega)

/-! ### Mix -/

theorem checkedMixPair_eq {mired : Nat} (low : 143 ≤ mired) (high : mired ≤ 344) :
    checkedMixPair mired = some (((mixPair mired).1 : Int), ((mixPair mired).2 : Int)) := by
  by_cases coldest : mired = 143
  · subst coldest
    rfl
  by_cases cold : mired ≤ 243
  · have shift : u32.sub (mired : Int) 143 = some ((mired - 143 : Nat) : Int) :=
      u32_unsigned.sub low (by omega)
    have scale : u32.mul ((mired - 143 : Nat) : Int) 100 = some (((mired - 143) * 100 : Nat) : Int) :=
      u32_unsigned.mul (show (mired - 143) * 100 ≤ 4294967295 by omega)
    have share : u32.div (((mired - 143) * 100 : Nat) : Int) 101 =
        some (((mired - 143) * 100 / 101 : Nat) : Int) := u32_unsigned.div (by decide) (by omega)
    have first : ¬(mired : Int) = 143 := by omega
    have second : (144 : Int) ≤ mired ∧ (mired : Int) ≤ 243 := by omega
    have branch : 144 ≤ mired ∧ mired ≤ 243 := by omega
    simp only [checkedMixPair, mixPair, if_neg first, if_neg coldest, if_pos second, if_pos branch,
      shift, scale, share, Option.bind_eq_bind, Option.bind_some]
    rfl
  by_cases middle : mired = 244
  · subst middle
    rfl
  · have shift : u32.sub 344 (mired : Int) = some ((344 - mired : Nat) : Int) :=
      u32_unsigned.sub high (by decide)
    have first : ¬(mired : Int) = 143 := by omega
    have second : ¬((144 : Int) ≤ mired ∧ (mired : Int) ≤ 243) := by omega
    have third : ¬(mired : Int) = 244 := by omega
    have branch : ¬(144 ≤ mired ∧ mired ≤ 243) := by omega
    simp only [checkedMixPair, mixPair, if_neg first, if_neg coldest, if_neg second, if_neg branch,
      if_neg third, if_neg middle, shift, Option.bind_eq_bind, Option.bind_some]
    rfl

/-- Warmer light mixes in no less warm and no more cool. -/
theorem mixPair_mono {cooler warmer : Nat} (low : 143 ≤ cooler) (order : cooler ≤ warmer)
    (high : warmer ≤ 344) :
    (mixPair cooler).1 ≤ (mixPair warmer).1 ∧ (mixPair warmer).2 ≤ (mixPair cooler).2 := by
  unfold mixPair
  split_ifs <;> omega

/-! ### Truncation -/

/-- The floor of a quotient of natural numbers, as a rational. -/
theorem floor_quotient (value divisor : Nat) :
    ⌊((value : ℤ) : ℚ) / divisor⌋ = ((value / divisor : Nat) : ℤ) := by
  rw [Rat.floor_intCast_div_natCast]
  rfl

/-- Merging the first two of three truncations is exact. -/
theorem stockDuty_eq_floor (mix numerator denominator : Nat) :
    (stockDuty mix numerator denominator : ℤ) =
      ⌊(9 / 10 : ℚ) * ⌊(⌊(mix : ℚ) * (4095 / 10000) * numerator / denominator⌋ : ℚ) / 16⌋⌋ := by
  have inner : ⌊(mix : ℚ) * (4095 / 10000) * numerator / denominator⌋ =
      ((mix * 4095 * numerator / (10000 * denominator) : Nat) : ℤ) := by
    rw [← floor_quotient]
    congr 1
    push_cast
    ring
  have middle : ⌊(⌊(mix : ℚ) * (4095 / 10000) * numerator / denominator⌋ : ℚ) / 16⌋ =
      ((mix * 4095 * numerator / (160000 * denominator) : Nat) : ℤ) := by
    have merged : mix * 4095 * numerator / (10000 * denominator) / 16 =
        mix * 4095 * numerator / (160000 * denominator) := by
      rw [Nat.div_div_eq_div_mul]
      congr 1
      ring
    rw [inner, ← merged]
    exact floor_quotient _ 16
  rw [middle, stockDuty]
  generalize mix * 4095 * numerator / (160000 * denominator) = steps
  rw [← floor_quotient]
  congr 1
  push_cast
  ring

theorem stockDuty_mono {mix more numerator brighter : Nat} (denominator : Nat) (mixed : mix ≤ more)
    (bright : numerator ≤ brighter) :
    stockDuty mix numerator denominator ≤ stockDuty more brighter denominator := by
  have products : mix * 4095 * numerator ≤ more * 4095 * brighter :=
    Nat.mul_le_mul (Nat.mul_le_mul_right 4095 mixed) bright
  unfold stockDuty
  exact Nat.div_le_div_right (Nat.mul_le_mul_right 9 (Nat.div_le_div_right products))

/-! ### PWM bytes -/

theorem checkedPwmPair_eq (brightness : OutputBrightness) (temperature : ColorTemperature) :
    checkedPwmPair brightness temperature =
      some (((outputPwmPair brightness temperature).1.toNat : Int),
        ((outputPwmPair brightness temperature).2.toNat : Int)) := by
  have mixed := mixPair_le temperature.min_le temperature.le_max
  have mixes := checkedMixPair_eq temperature.min_le temperature.le_max
  have warm := checkedStockPwm_eq mixed.1 brightness.le_max
  have cool := checkedStockPwm_eq mixed.2 brightness.le_max
  simp only [checkedPwmPair, mixes, warm, cool, Option.bind_eq_bind, Option.bind_some]
  rfl

/-- A channel with more of the mix, at a higher brightness, has a higher duty cycle. -/
theorem stockPwm_mono {mix more numerator brighter : Nat} (mixed : mix ≤ more) (most : more ≤ 100)
    (bright : numerator ≤ brighter) (brightest : brighter ≤ 2530) :
    stockPwm mix numerator OutputBrightness.DENOMINATOR ≤
      stockPwm more brighter OutputBrightness.DENOMINATOR := by
  rw [UInt8.le_iff_toNat_le, stockPwm_toNat (mixed.trans most) (bright.trans brightest),
    stockPwm_toNat most brightest]
  exact stockDuty_mono _ mixed bright

/-- The merged truncation is the nested one of the stock firmware, and grows with mix and
brightness. For every brightness and colour temperature the arithmetic of the source is
exact, both bytes grow with brightness, and with mired warm grows and cool shrinks. -/
theorem pwm_truncates :
    (∀ mix numerator denominator : Nat, 0 < denominator →
      (stockDuty mix numerator denominator : ℤ) =
        ⌊(9 / 10 : ℚ) * ⌊(⌊(mix : ℚ) * (4095 / 10000) * numerator / denominator⌋ : ℚ) / 16⌋⌋) ∧
    (∀ mix more numerator denominator : Nat, mix ≤ more →
      stockDuty mix numerator denominator ≤ stockDuty more numerator denominator) ∧
    (∀ mix numerator brighter denominator : Nat, numerator ≤ brighter →
      stockDuty mix numerator denominator ≤ stockDuty mix brighter denominator) ∧
    (∀ mix numerator denominator : Nat,
      stockPwm mix numerator denominator = UInt8.ofNat (stockDuty mix numerator denominator)) ∧
    (∀ brightness temperature, checkedPwmPair brightness temperature =
      some (((outputPwmPair brightness temperature).1.toNat : Int),
        ((outputPwmPair brightness temperature).2.toNat : Int))) ∧
    (∀ (dimmer brighter : OutputBrightness) (temperature : ColorTemperature),
      dimmer.get ≤ brighter.get →
        (outputPwmPair dimmer temperature).1 ≤ (outputPwmPair brighter temperature).1 ∧
          (outputPwmPair dimmer temperature).2 ≤ (outputPwmPair brighter temperature).2) ∧
    ∀ (brightness : OutputBrightness) (cooler warmer : ColorTemperature), cooler.get ≤ warmer.get →
      (outputPwmPair brightness cooler).1 ≤ (outputPwmPair brightness warmer).1 ∧
        (outputPwmPair brightness warmer).2 ≤ (outputPwmPair brightness cooler).2 := by
  refine ⟨fun mix numerator denominator _ => stockDuty_eq_floor mix numerator denominator,
    fun mix more numerator denominator mixed => stockDuty_mono denominator mixed (Nat.le_refl _),
    fun mix numerator brighter denominator bright => stockDuty_mono denominator (Nat.le_refl _) bright,
    fun mix numerator denominator => rfl, checkedPwmPair_eq, ?_, ?_⟩
  · intro dimmer brighter temperature bright
    have mixed := mixPair_le temperature.min_le temperature.le_max
    constructor
    · exact stockPwm_mono (Nat.le_refl _) mixed.1 bright brighter.le_max
    · exact stockPwm_mono (Nat.le_refl _) mixed.2 bright brighter.le_max
  · intro brightness cooler warmer order
    have mixed := mixPair_mono cooler.min_le order warmer.le_max
    constructor
    · have most := mixPair_le warmer.min_le warmer.le_max
      exact stockPwm_mono mixed.1 most.1 (Nat.le_refl _) brightness.le_max
    · have most := mixPair_le cooler.min_le cooler.le_max
      exact stockPwm_mono mixed.2 most.2 (Nat.le_refl _) brightness.le_max

theorem pwm_truncates_three :
    stockDuty 100 3 1 = 6 ∧ (stockDuty 100 3 1 : ℤ) =
      ⌊(9 / 10 : ℚ) * ⌊(⌊((100 : Nat) : ℚ) * (4095 / 10000) * (3 : Nat) / (1 : Nat)⌋ : ℚ) / 16⌋⌋ :=
  ⟨by decide, pwm_truncates.1 100 3 1 (by decide)⟩

end KeyRight.Core
