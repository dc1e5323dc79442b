import KeyRight.Core.Chip
import KeyRight.Core.DriverRun

/-!
Owns the PCA9635 driver on a faithful bus and pin: every application succeeds and
leaves the registers of its frame, and the pin follows its power, after any history.

Owns as well the summary of what an acknowledged application means on any bus.
-/

namespace KeyRight.Core.Pca9635

open KeyRight.Support KeyRight.Support.Program

/-! ### Calls through the acknowledged frame, the registers and the pin -/

section

variable {B O D β ω : Type} [FaithfulBus B β] [FaithfulOutputEnable O ω] [Delay D]

/-- Acknowledged frame, registers, and whether the output is disabled. -/
abbrev Device : Type := Option OutputFrame × Vector UInt8 24 × Bool

def device (driver : Pca9635 B O D β ω) : Device :=
  (driver.verifiedOn, FaithfulBus.registers driver.bus, FaithfulOutputEnable.disabled driver.oe)

variable {verified : Option OutputFrame} {registers : Vector UInt8 24} {disabled : Bool}
variable {post : Except (DriverError β ω) Unit → Device → Prop}

omit [Delay D] in
theorem busWrite_device {control : UInt8} {values : List UInt8}
    (fits : startRegister control + values.length ≤ 24)
    (ends : post (.ok ()) (verified, storeRegisters registers control values, disabled)) :
    Views device (busWrite (control :: values) : Action B O D β ω Unit)
      (verified, registers, disabled) post := by
  rintro driver ⟨⟩
  simp only [busWrite, ends_bind, ends_primitive]
  rw [FaithfulBus.write_ok driver.bus control values fits]
  rw [← FaithfulBus.write_registers driver.bus control values fits] at ends
  exact ends

omit [Delay D] in
theorem writeFrame_device {frame : OutputFrame}
    (ends : post (.ok ())
      (verified, storeRegisters registers 0x82 (outputFrame frame).toList, disabled)) :
    Views device (writeFrame frame : Action B O D β ω Unit) (verified, registers, disabled) post := by
  have fits : startRegister 0x82 + (outputFrame frame).toList.length ≤ 24 := by
    rw [Vector.length_toList]
    decide
  exact busWrite_device fits ends

omit [Delay D] in
theorem setDisabled_device {value : Bool} (ends : post (.ok ()) (verified, registers, value)) :
    Views device (setDisabled value : Action B O D β ω Unit) (verified, registers, disabled) post := by
  rintro driver ⟨⟩
  simp only [setDisabled, ends_bind, ends_primitive]
  rw [FaithfulOutputEnable.set_ok driver.oe value]
  rw [← FaithfulOutputEnable.set_disabled driver.oe value] at ends
  exact ends

omit [Delay D] in
theorem setVerifiedOn_device {frame : Option OutputFrame}
    (ends : post (.ok ()) (frame, registers, disabled)) :
    Views device (setVerifiedOn frame : Action B O D β ω Unit) (verified, registers, disabled) post :=
  views_update (fun seen => (frame, seen.2)) (fun _ => rfl) ends

theorem delayUs_device {micros : Nat} (ends : post (.ok ()) (verified, registers, disabled)) :
    Views device (delayUs micros : Action B O D β ω Unit) (verified, registers, disabled) post :=
  views_update id (fun _ => rfl) ends

omit [Delay D] in
theorem readRegisters_device
    {post : Except (DriverError β ω) (Vector UInt8 24) → Device → Prop}
    (ends : ∀ data, Reflects data registers → post (.ok data) (verified, registers, disabled)) :
    Views device (readRegisters : Action B O D β ω (Vector UInt8 24))
      (verified, registers, disabled) post := by
  rintro driver ⟨⟩
  simp only [readRegisters, ends_bind, ends_primitive]
  obtain ⟨data, answered, reflects⟩ := FaithfulBus.read_reflects driver.bus
  rw [answered]
  have read := ends data reflects
  rw [← FaithfulBus.read_registers driver.bus] at read
  exact read

omit [Delay D] in
/-- The frame whose registers a device has is established. -/
theorem verifyFrame_device {frame : OutputFrame}
    (ends : post (.ok ()) (verified, registerImage frame, disabled)) :
    Views device (verifyFrame frame : Action B O D β ω Unit)
      (verified, registerImage frame, disabled) post := by
  refine views_bind (readRegisters_device fun data reflects => ?_)
  dsimp only
  rw [if_pos (reflects.matching (registerImage_matching frame))]
  exact views_pure ends

omit [Delay D] in
/-- Any frame is either established, or forgotten with an error. -/
theorem verifyFrame_device_keeps {frame : OutputFrame}
    (kept : ∀ result, post result (verified, registers, disabled))
    (forgotten : ∀ result, post result (none, registers, disabled)) :
    Views device (verifyFrame frame : Action B O D β ω Unit) (verified, registers, disabled) post := by
  refine views_bind (readRegisters_device fun data reflects => ?_)
  dsimp only
  split
  · exact views_pure (kept _)
  · exact views_bind (setVerifiedOn_device (views_fail (forgotten _)))

omit [Delay D] in
/-- On the registers of a frame, the frames that encode alike are established. Whatever
the answer, neither registers nor pin change. -/
theorem verifyFrame_device_image (shown frame : OutputFrame) :
    Views device (verifyFrame frame : Action B O D β ω Unit)
      (verified, registerImage shown, disabled)
      fun result seen => result.isOk = decide (outputFrame frame = outputFrame shown) ∧
        (seen.1 = verified ∨ seen.1 = none) ∧ seen.2 = (registerImage shown, disabled) := by
  refine views_bind (readRegisters_device fun data reflects => ?_)
  have matching := reflects.matching (registerImage_matching shown)
  by_cases alike : outputFrame frame = outputFrame shown
  · have established : Matching data frame := matching.alike alike.symm
    simp only [if_pos established]
    exact views_pure ⟨(decide_eq_true alike).symm, .inl rfl, rfl⟩
  · have refuted : ¬Matching data frame := fun established =>
      alike (Vector.toList_inj.mp (established.2.2.symm.trans matching.2.2))
    simp only [if_neg refuted]
    refine views_bind (setVerifiedOn_device (views_fail ?_))
    exact ⟨(decide_eq_false alike).symm, .inr rfl, rfl⟩

/-! ### Operations -/

/-- An acknowledged frame is in the registers, and enabled. -/
def Consistent (seen : Device) : Prop :=
  ∀ frame, seen.1 = some frame → seen.2 = (registerImage frame, false)

theorem initializeOff_device :
    Views device (initializeOff : Action B O D β ω Unit) (verified, registers, disabled)
      fun result seen => result = .ok () ∧ seen = (none, registerImage default, true) := by
  refine views_bind (setVerifiedOn_device (views_bind (setDisabled_device ?_)))
  refine views_bind (views_attempt ?_)
  refine views_bind (busWrite_device (by decide) (views_bind (writeFrame_device ?_)))
  refine views_bind (busWrite_device (by decide) (views_bind (delayUs_device ?_)))
  rw [storeRegisters_dark]
  exact verifyFrame_device (views_pure ⟨rfl, rfl⟩)

/-- What a driver has verified may be forgotten. -/
theorem Consistent.forget {seen reached : Device} (consistent : Consistent seen)
    (verified : reached.1 = seen.1 ∨ reached.1 = none) (still : reached.2 = seen.2) :
    Consistent reached := by
  intro frame known
  rcases verified with same | forgotten
  · rw [still]
    exact consistent frame (same ▸ known)
  · rw [forgotten] at known
    cases known

/-- The frame is in the registers and the pin follows its power. -/
def Displays (frame : OutputFrame) (seen : Device) : Prop :=
  seen.2 = (registerImage frame, !frame.state.on)

/-- Dark frames are displayed alike. -/
theorem displays_off {frame : OutputFrame} (off : frame.state.on = false)
    (verified : Option OutputFrame) : Displays frame (verified, registerImage default, true) := by
  have alike : registerImage default = registerImage frame :=
    registerImage_congr (by rw [outputFrame_of_off off, outputFrame_of_off default_on])
  rw [Displays, alike, off]
  rfl

theorem applyParked_device {frame : OutputFrame} :
    Views device (applyParked frame : Action B O D β ω Unit) (verified, registers, disabled)
      fun result seen => result = .ok () ∧ Displays frame seen ∧ Consistent seen := by
  refine views_bind (initializeOff_device.mono ?_)
  rintro result seen ⟨rfl, rfl⟩
  cases on : frame.state.on with
  | false => exact views_pure ⟨rfl, displays_off on none, nofun⟩
  | true =>
      refine views_bind (writeFrame_device ?_)
      rw [storeRegisters_frame frame (registerImage_zero default) (registerImage_one default)]
      refine views_bind (verifyFrame_device (views_bind (setDisabled_device ?_)))
      refine setVerifiedOn_device ⟨rfl, ?_, ?_⟩
      · rw [Displays, on]
        rfl
      · rintro _ ⟨⟩
        rfl

omit [Delay D] in
theorem applyFast_device {previous frame : OutputFrame} (on : frame.state.on = true)
    {disabled : Bool} (enabled : disabled = false) :
    Views device (applyFast previous frame : Action B O D β ω Unit)
      (some previous, registerImage previous, disabled)
      fun result seen => result = .ok () ∧ Displays frame seen ∧ Consistent seen := by
  subst enabled
  have displays : Displays frame (some frame, registerImage frame, false) := by
    rw [Displays, on]
    rfl
  have consistent : Consistent (some frame, registerImage frame, false) := by
    rintro _ ⟨⟩
    rfl
  by_cases alike : outputFrame previous = outputFrame frame
  · rw [applyFast, if_neg (fun differs => differs alike), registerImage_congr alike]
    exact setVerifiedOn_device ⟨rfl, displays, consistent⟩
  · rw [applyFast, if_pos alike]
    refine views_bind (writeFrame_device ?_)
    rw [storeRegisters_frame frame (registerImage_zero previous) (registerImage_one previous)]
    exact views_bind (verifyFrame_device (setVerifiedOn_device ⟨rfl, displays, consistent⟩))

theorem applyBody_device {frame : OutputFrame}
    (consistent : Consistent (verified, registers, disabled)) :
    Views device (applyBody frame : Action B O D β ω Unit) (verified, registers, disabled)
      fun result seen => result = .ok () ∧ Displays frame seen ∧ Consistent seen := by
  refine views_read (fun seen => seen.1) (fun _ => rfl) ?_
  cases on : frame.state.on with
  | false => exact applyParked_device
  | true =>
      cases verified with
      | none => exact applyParked_device
      | some previous =>
          obtain ⟨rfl, enabled⟩ := Prod.mk.inj (consistent previous rfl)
          exact views_bind (views_attempt (verifyFrame_device (applyFast_device on enabled)))

theorem applyFrame_device {frame : OutputFrame}
    (consistent : Consistent (verified, registers, disabled)) :
    Views device (applyFrame frame : Action B O D β ω Unit) (verified, registers, disabled)
      fun result seen => result = .ok () ∧ Displays frame seen ∧ Consistent seen := by
  refine views_bind (views_attempt ((applyBody_device consistent).mono ?_))
  rintro result seen ⟨rfl, shows⟩
  exact views_pure ⟨rfl, shows⟩

theorem perform_device (operation : Operation)
    (consistent : Consistent (verified, registers, disabled)) :
    Views device (perform operation : Action B O D β ω Unit) (verified, registers, disabled)
      fun _ seen => Consistent seen := by
  have forgotten : Consistent (none, registers, disabled) := nofun
  have initialized : Consistent (none, registerImage default, true) := nofun
  cases operation with
  | applyFrame frame => exact (applyFrame_device consistent).mono fun _ _ ends => ends.2.2
  | shutdown => exact initializeOff_device.mono fun _ _ ends => ends.2 ▸ initialized
  | initializeOff => exact initializeOff_device.mono fun _ _ ends => ends.2 ▸ initialized
  | verifyFrame frame => exact verifyFrame_device_keeps (fun _ => consistent) fun _ => forgotten
  | verify state => exact verifyFrame_device_keeps (fun _ => consistent) fun _ => forgotten
  | readRegisters => exact views_bind (readRegisters_device fun data _ => views_pure consistent)

/-! ### Runs -/

/-- An acknowledged frame is in the registers between the operations of every run. -/
theorem run_consistent (bus : B) (oe : O) (delay : D) (operations : List Operation) :
    Consistent (device (run (new bus oe delay) operations : Pca9635 B O D β ω)) := by
  have preserved : ∀ (driver : Pca9635 B O D β ω) operation, Consistent driver.device →
      Consistent (driver.after operation).device :=
    fun driver operation consistent => perform_device operation consistent driver rfl
  have initially : Consistent (device (new bus oe delay : Pca9635 B O D β ω)) := nofun
  exact runAll_invariant preserved initially operations

/-- After any history, an application succeeds and is displayed. -/
theorem run_displays (bus : B) (oe : O) (delay : D) (operations : List Operation)
    (frame : OutputFrame) :
    let driver : Pca9635 B O D β ω := run (new bus oe delay) operations
    driver.outcome (.applyFrame frame) = .ok () ∧
      Displays frame (driver.after (.applyFrame frame)).device := by
  intro driver
  have consistent : Consistent driver.device := run_consistent bus oe delay operations
  have applied : driver.outcome (.applyFrame frame) = .ok () ∧
      Displays frame (driver.after (.applyFrame frame)).device ∧
        Consistent (driver.after (.applyFrame frame)).device :=
    applyFrame_device consistent driver rfl
  exact ⟨applied.1, applied.2.1⟩

end

/-- On any bus and pin, whatever they answered before, an application that succeeds
ends in a readback of its frame, and the last output-enable command succeeded and
follows its power. On a faithful bus and pin it succeeds after any history, with the
same registers and pin whichever path it took. -/
theorem run_evidence :
    (∀ (B O D β ω : Type) [RegisterBus B β] [OutputEnable O ω] [Delay D] (bus : B) (oe : O)
      (delay : D) (operations : List Operation) (frame : OutputFrame),
      let driver : Pca9635 B O D β ω := run (new bus oe delay) operations
      let trace := (driver.after (.applyFrame frame)).trace
      driver.outcome (.applyFrame frame) = .ok () →
        (∃ data : Vector UInt8 24, lastBus trace = some (.read ADDRESS [0x80] (.ok data)) ∧
          data[0] &&& 0x1f = 0 ∧ data[1] = 0x14 ∧
          data.toList.drop 2 = (outputFrame frame).toList) ∧
        lastOe trace = some (!frame.state.on, .ok ())) ∧
    ∀ (B O D β ω : Type) [FaithfulBus B β] [FaithfulOutputEnable O ω] [Delay D] (bus : B) (oe : O)
      (delay : D) (operations : List Operation) (frame : OutputFrame),
      let driver : Pca9635 B O D β ω := run (new bus oe delay) operations
      let next := driver.after (.applyFrame frame)
      driver.outcome (.applyFrame frame) = .ok () ∧
        FaithfulBus.registers next.bus = registerImage frame ∧
        FaithfulOutputEnable.disabled next.oe = !frame.state.on := by
  constructor
  · intro B O D β ω _ _ _ bus oe delay operations frame driver trace succeeded
    have does := driver.after_does (.applyFrame frame)
    rw [succeeded] at does
    have enabled : Enabled driver.looks := run_enabled bus oe delay operations
    obtain ⟨⟨data, read, awake, mode2, shown⟩, pin⟩ := Applied.evidence does enabled
    exact ⟨⟨data, read, awake, mode2, shown⟩, pin⟩
  · intro B O D β ω _ _ _ bus oe delay operations frame driver next
    obtain ⟨succeeded, displays⟩ := run_displays bus oe delay operations frame
    obtain ⟨registers, pin⟩ := Prod.mk.inj displays
    exact ⟨succeeded, registers, pin⟩

/-- A brighter frame over an acknowledged one takes the fast path. -/
theorem run_evidence_mock :
    let lit (level : Level) := OutputFrame.fromState { (default : LightState) with on := true, level }
    let driver := run mock [.applyFrame (lit .DEFAULT)]
    let trace := (driver.after (.applyFrame (lit .MAX))).trace
    (∃ data : Vector UInt8 24, lastBus trace = some (.read ADDRESS [0x80] (.ok data)) ∧
      data[0] &&& 0x1f = 0 ∧ data[1] = 0x14 ∧
      data.toList.drop 2 = (outputFrame (lit .MAX)).toList) ∧
    lastOe trace = some (false, .ok ()) :=
  run_evidence.1 MockBus MockPin Unit Unit Unit ⟨Vector.replicate 24 0⟩ ⟨false⟩ () [.applyFrame _] _ rfl

end KeyRight.Core.Pca9635
