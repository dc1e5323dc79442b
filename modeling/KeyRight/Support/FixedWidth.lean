import Mathlib.Algebra.Group.Int.Defs
import Mathlib.Algebra.Group.Nat.Defs

/-!
Owns checked arithmetic on the integers of a fixed width: an operation or a cast has no
result where the exact one does not fit. Division truncates towards zero.

Does not own wrapping or saturating arithmetic.
-/

namespace KeyRight.Support

/-- The integers of a fixed width are those from `low` to `high`. -/
structure FixedWidth where
  low : Int
  high : Int

namespace FixedWidth

def u8 : FixedWidth := ⟨0, 2 ^ 8 - 1⟩
def u16 : FixedWidth := ⟨0, 2 ^ 16 - 1⟩
def u32 : FixedWidth := ⟨0, 2 ^ 32 - 1⟩
def u64 : FixedWidth := ⟨0, 2 ^ 64 - 1⟩
def i64 : FixedWidth := ⟨-2 ^ 63, 2 ^ 63 - 1⟩

/-- The value is one of this width. -/
def Holds (width : FixedWidth) (value : Int) : Prop := width.low ≤ value ∧ value ≤ width.high

instance Holds.decidable (width : FixedWidth) (value : Int) : Decidable (width.Holds value) :=
  inferInstanceAs (Decidable (_ ∧ _))

/-- An exact result, or a value that is cast, where it fits. -/
def fit (width : FixedWidth) (value : Int) : Option Int :=
  if width.Holds value then some value else none

def add (width : FixedWidth) (left right : Int) : Option Int := width.fit (left + right)

def sub (width : FixedWidth) (left right : Int) : Option Int := width.fit (left - right)

def mul (width : FixedWidth) (left right : Int) : Option Int := width.fit (left * right)

def div (width : FixedWidth) (left right : Int) : Option Int :=
  if right = 0 then none else width.fit (left.tdiv right)

variable {width : FixedWidth} {left right value : Int}

theorem fit_of_holds (holds : width.Holds value) : width.fit value = some value := if_pos holds

theorem i64_fit (fits : value.natAbs < 2 ^ 63) : i64.fit value = some value := by
  refine fit_of_holds ⟨?_, ?_⟩
  · change (-2 ^ 63 : Int) ≤ value
    omega
  · change value ≤ (2 ^ 63 - 1 : Int)
    omega

/-! ### Natural numbers -/

section

variable {top left right : Nat}

/-- The width has the values from 0 to `top`. -/
structure Unsigned (width : FixedWidth) (top : Nat) : Prop where
  low : width.low = 0
  high : width.high = top

theorem u8_unsigned : u8.Unsigned 255 := ⟨rfl, rfl⟩
theorem u16_unsigned : u16.Unsigned 65535 := ⟨rfl, rfl⟩
theorem u32_unsigned : u32.Unsigned 4294967295 := ⟨rfl, rfl⟩
theorem u64_unsigned : u64.Unsigned 18446744073709551615 := ⟨rfl, rfl⟩

theorem Unsigned.fit (unsigned : width.Unsigned top) {value : Nat} (fits : value ≤ top) :
    width.fit value = some (value : Int) := by
  refine fit_of_holds ⟨?_, ?_⟩
  · rw [unsigned.low]
    exact Int.natCast_nonneg value
  · rw [unsigned.high]
    exact Int.ofNat_le.mpr fits

theorem Unsigned.mul (unsigned : width.Unsigned top) (fits : left * right ≤ top) :
    width.mul left right = some ((left * right : Nat) : Int) := by
  have product : (left : Int) * right = (left * right : Nat) := (Int.natCast_mul left right).symm
  rw [FixedWidth.mul, product, unsigned.fit fits]

theorem Unsigned.sub (unsigned : width.Unsigned top) (covered : right ≤ left) (fits : left ≤ top) :
    width.sub left right = some ((left - right : Nat) : Int) := by
  have difference : (left : Int) - right = (left - right : Nat) := (Int.natCast_sub covered).symm
  rw [FixedWidth.sub, difference, unsigned.fit (Nat.le_trans (Nat.sub_le left right) fits)]

theorem Unsigned.div (unsigned : width.Unsigned top) (nonzero : right ≠ 0) (fits : left ≤ top) :
    width.div left right = some ((left / right : Nat) : Int) := by
  have quotient : (left : Int).tdiv right = (left / right : Nat) := rfl
  rw [FixedWidth.div, if_neg (Int.natCast_ne_zero.mpr nonzero), quotient,
    unsigned.fit (Nat.le_trans (Nat.div_le_self left right) fits)]

end

end FixedWidth

end KeyRight.Support
