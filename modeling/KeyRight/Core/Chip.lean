import KeyRight.Core.Pca9635
import Mathlib.Data.List.GetD

/-!
Owns devices that do as they are told: a register bus that never fails and keeps what
was written from the start register on, and an output-enable pin that follows its
commands. The auto-increment bits that MODE1 reports are left open.

Owns as well the register file and the pin of the host tests.

Does not own the driver.
-/

namespace KeyRight.Core

open KeyRight.Core.Pca9635

/-- The 24 registers from MODE1 on that show a frame. -/
def registerImage (frame : OutputFrame) : Vector UInt8 24 :=
  ⟨#[0, MODE2] ++ (outputFrame frame).toArray, by simp⟩

/-- The register in the low bits of a control byte. -/
def startRegister (control : UInt8) : Nat := (control &&& 0x1f).toNat

/-- The registers after a write of `values` from the start register on. -/
def storeRegisters (registers : Vector UInt8 24) (control : UInt8) (values : List UInt8) :
    Vector UInt8 24 :=
  Vector.ofFn fun i =>
    if startRegister control ≤ i.val then values.getD (i.val - startRegister control) registers[i]
    else registers[i]

/-- A readback shows the registers, but for the reported auto-increment bits. -/
structure Reflects (data registers : Vector UInt8 24) : Prop where
  low : data.get 0 &&& 0x1f = registers.get 0 &&& 0x1f
  rest : data.toList.drop 1 = registers.toList.drop 1

class FaithfulBus (B : Type) (ε : outParam Type) extends RegisterBus B ε where
  registers : B → Vector UInt8 24
  write_ok : ∀ bus control values, startRegister control + values.length ≤ 24 →
    (write bus ADDRESS (control :: values)).1 = .ok ()
  write_registers : ∀ bus control values, startRegister control + values.length ≤ 24 →
    registers (write bus ADDRESS (control :: values)).2 =
      storeRegisters (registers bus) control values
  read_reflects : ∀ bus, ∃ data, (writeRead bus ADDRESS [0x80] 24).1 = .ok data ∧
    Reflects data (registers bus)
  read_registers : ∀ bus, registers (writeRead bus ADDRESS [0x80] 24).2 = registers bus

class FaithfulOutputEnable (O : Type) (ε : outParam Type) extends OutputEnable O ε where
  disabled : O → Bool
  set_ok : ∀ oe value, (setDisabled oe value).1 = .ok ()
  set_disabled : ∀ oe value, disabled (setDisabled oe value).2 = value

/-! ### Register images -/

theorem Reflects.matching {data registers : Vector UInt8 24} (reflects : Reflects data registers)
    {frame : OutputFrame} (shown : Matching registers frame) : Matching data frame := by
  obtain ⟨awake, mode2, frame_⟩ := shown
  obtain ⟨low, rest⟩ := reflects
  have second : data.get 1 = registers.get 1 := by
    have heads := congrArg List.head? rest
    simpa [List.head?_drop, get_eq_getElem] using heads
  refine ⟨low.trans awake, second.trans mode2, ?_⟩
  have tails := congrArg (List.drop 1) rest
  rw [List.drop_drop, List.drop_drop] at tails
  exact tails.trans frame_

@[simp] theorem registerImage_zero (frame : OutputFrame) : (registerImage frame).get 0 = 0 := by
  rw [get_eq_getElem]
  simp [registerImage]

@[simp] theorem registerImage_one (frame : OutputFrame) : (registerImage frame).get 1 = MODE2 := by
  rw [get_eq_getElem]
  simp [registerImage]

theorem registerImage_congr {left right : OutputFrame} (alike : outputFrame left = outputFrame right) :
    registerImage left = registerImage right := by
  simp [registerImage, alike]

theorem registerImage_rest (frame : OutputFrame) {i : Nat} (rest : 2 ≤ i) (bound : i < 24) :
    (registerImage frame)[i] = (outputFrame frame)[i - 2] := by
  simp [registerImage, Array.getElem_append, Nat.not_lt.mpr rest]

theorem registerImage_matching (frame : OutputFrame) : Matching (registerImage frame) frame := by
  refine ⟨?_, registerImage_one frame, ?_⟩
  · rw [registerImage_zero]
    rfl
  · simp [registerImage]
    rfl

/-- Registers that are awake and configured show the frame whose bytes they hold. -/
theorem eq_registerImage {registers : Vector UInt8 24} {frame : OutputFrame}
    (awake : registers.get 0 = 0) (configured : registers.get 1 = MODE2)
    (shown : ∀ i, (rest : 2 ≤ i) → (bound : i < 24) →
      registers[i] = (outputFrame frame)[i - 2]) :
    registers = registerImage frame := by
  apply Vector.ext
  intro i bound
  rcases Nat.lt_or_ge i 2 with header | rest
  · have cases_ : i = 0 ∨ i = 1 := by omega
    rcases cases_ with rfl | rfl
    · exact awake.trans (registerImage_zero frame).symm
    · exact configured.trans (registerImage_one frame).symm
  · rw [shown i rest bound, registerImage_rest frame rest bound]

theorem storeRegisters_getElem (registers : Vector UInt8 24) (control : UInt8)
    (values : List UInt8) {i : Nat} (bound : i < 24) :
    (storeRegisters registers control values)[i] =
      if startRegister control ≤ i then values.getD (i - startRegister control) registers[i]
      else registers[i] := by
  simp [storeRegisters]

theorem storeRegisters_get (registers : Vector UInt8 24) (control : UInt8) (values : List UInt8)
    (i : Fin 24) :
    (storeRegisters registers control values).get i =
      if startRegister control ≤ i.val then values.getD (i.val - startRegister control) (registers.get i)
      else registers.get i :=
  storeRegisters_getElem registers control values i.isLt

/-- The frame block covers every register but the two modes. -/
theorem storeRegisters_frame {registers : Vector UInt8 24} (frame : OutputFrame)
    (awake : registers.get 0 = 0) (configured : registers.get 1 = MODE2) :
    storeRegisters registers 0x82 (outputFrame frame).toList = registerImage frame := by
  have start : startRegister 0x82 = 2 := by decide
  apply eq_registerImage
  · rw [storeRegisters_get, start, if_neg (by decide), awake]
  · rw [storeRegisters_get, start, if_neg (by decide), configured]
  · intro i rest bound
    have inside : i - 2 < (outputFrame frame).toList.length := by
      rw [Vector.length_toList]
      omega
    rw [storeRegisters_getElem, start, if_pos rest, List.getD_eq_getElem _ _ inside,
      Vector.getElem_toList]

/-- Configuring, zeroing and waking shows the dark frame, whatever was there before. -/
theorem storeRegisters_dark (registers : Vector UInt8 24) :
    storeRegisters (storeRegisters (storeRegisters registers 0x01 [ MODE2]) 0x82
      (outputFrame default).toList) 0x00 [0x00] = registerImage default := by
  have mode1 : startRegister 0x00 = 0 := by decide
  have mode2 : startRegister 0x01 = 1 := by decide
  have start : startRegister 0x82 = 2 := by decide
  apply eq_registerImage
  · rw [storeRegisters_get, mode1, if_pos (Nat.zero_le _)]
    rfl
  · rw [storeRegisters_get, mode1, if_pos (Nat.zero_le _), List.getD_eq_default _ _ (Nat.le_refl 1),
      storeRegisters_get, start, if_neg (by decide), storeRegisters_get, mode2,
      if_pos (by decide)]
    rfl
  · intro i rest bound
    have inside : i - 2 < (outputFrame default).toList.length := by
      rw [Vector.length_toList]
      omega
    have beyond : [(0x00 : UInt8)].length ≤ i - 0 := by
      change 1 ≤ i - 0
      omega
    rw [storeRegisters_getElem, mode1, if_pos (Nat.zero_le i), List.getD_eq_default _ _ beyond,
      storeRegisters_getElem, start, if_pos rest, List.getD_eq_getElem _ _ inside,
      Vector.getElem_toList]

/-! ### The mock of the host tests -/

structure MockBus where
  registers : Vector UInt8 24
deriving DecidableEq

/-- Readback reports the auto-increment control bit. -/
def MockBus.readback (bus : MockBus) (length : Nat) : Vector UInt8 length :=
  Vector.ofFn fun i =>
    let register := bus.registers.toList.getD i.val 0
    if i.val = 0 then register ||| 0x80 else register

theorem MockBus.readback_reflects (bus : MockBus) : Reflects (bus.readback 24) bus.registers := by
  constructor
  · have reported : (bus.readback 24).get 0 = bus.registers.get 0 ||| 0x80 := by
      simp [MockBus.readback, get_eq_getElem]
    rw [reported]
    apply UInt8.toBitVec_inj.mp
    simp [BitVec.and_or_distrib_right]
  · apply List.ext_getElem
    · simp
    · intro i _ _
      simp [MockBus.readback]

instance : FaithfulBus MockBus Unit where
  write bus _ bytes :=
    match bytes with
    | [] => (.ok (), bus)
    | control :: values => (.ok (), ⟨storeRegisters bus.registers control values⟩)
  writeRead bus _ _ length := (.ok (bus.readback length), bus)
  registers := MockBus.registers
  write_ok := fun _ _ _ _ => rfl
  write_registers := fun _ _ _ _ => rfl
  read_reflects := fun bus => ⟨_, rfl, bus.readback_reflects⟩
  read_registers := fun _ => rfl

structure MockPin where
  disabled : Bool
deriving DecidableEq

instance : FaithfulOutputEnable MockPin Unit where
  setDisabled _ value := (.ok (), ⟨value⟩)
  disabled := MockPin.disabled
  set_ok := fun _ _ => rfl
  set_disabled := fun _ _ => rfl

instance : Delay Unit where
  delayUs _ _ := ()

end KeyRight.Core
