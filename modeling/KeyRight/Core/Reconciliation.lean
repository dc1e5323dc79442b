import KeyRight.Core.Faithful

/-!
Owns the controller over the PCA9635 driver, on a device that never fails: what one
reconciliation costs. Between frames that are On it only reads back or, for new register
bytes, writes the frame block in between two readbacks; the same frame again costs nothing.

Does not own the cost of switching on or off.
-/

namespace KeyRight.Core.Pca9635

open KeyRight.Support KeyRight.Support.Program

variable {B O D β ω : Type}

/-- The driver as the output of a controller. -/
instance [RegisterBus B β] [OutputEnable O ω] [Delay D] :
    LightOutput (Pca9635 B O D β ω) (DriverError β ω) where
  applyFrame driver frame := (applyFrame frame).start driver

/-- An application of an On frame verifies it. -/
theorem Applied.verified {base : Trace β ω} {previous : Option OutputFrame} {frame : OutputFrame}
    {seen : Looks β ω} (applied : Applied base previous frame seen) (on : frame.state.on = true) :
    seen.1 = some frame := by
  cases applied with
  | dark zero done off zeroed prelude =>
      rw [on] at off
      cases off
  | lit zero data done on zeroed shown prelude => rfl
  | kept verified data on known shown alike => rfl
  | rewritten verified before data on known showed shown => rfl

/-- The transaction commands the output enable, or its write starts at a mode register. -/
def interrupts : Transaction β ω → Bool
  | .setDisabled _ _ => true
  | .write _ (control :: _) _ => startRegister control < 2
  | _ => false

/-! ### The fast path -/

section

variable [FaithfulBus B β] [FaithfulOutputEnable O ω] [Delay D]

omit [FaithfulOutputEnable O ω] [Delay D] in
/-- On the registers of the frame, a verification costs one readback. -/
theorem verifyFrame_ends {driver : Pca9635 B O D β ω} {frame : OutputFrame}
    (shown : FaithfulBus.registers driver.bus = registerImage frame)
    {post : Except (DriverError β ω) Unit → Pca9635 B O D β ω → Prop}
    (ends : ∀ bus data, Matching data frame → FaithfulBus.registers bus = registerImage frame →
      post (.ok ()) { driver with bus := bus, trace := readback data :: driver.trace }) :
    Ends (verifyFrame frame) driver post := by
  obtain ⟨data, answered, reflects⟩ := FaithfulBus.read_reflects driver.bus
  rw [shown] at reflects
  have matching := reflects.matching (registerImage_matching frame)
  simp only [verifyFrame, readRegisters, ends_bind, ends_primitive, answered, ends_pure]
  rw [if_pos matching]
  exact ends _ data matching ((FaithfulBus.read_registers driver.bus).trans shown)

omit [FaithfulOutputEnable O ω] [Delay D] in
/-- Over the registers of another frame, the frame block is all that is written. -/
theorem writeFrame_ends {driver : Pca9635 B O D β ω} {previous frame : OutputFrame}
    (shown : FaithfulBus.registers driver.bus = registerImage previous)
    {post : Except (DriverError β ω) Unit → Pca9635 B O D β ω → Prop}
    (ends : ∀ bus, FaithfulBus.registers bus = registerImage frame →
      post (.ok ()) { driver with bus := bus, trace := frameWrite frame (.ok ()) :: driver.trace }) :
    Ends (writeFrame frame) driver post := by
  have fits : startRegister 0x82 + (outputFrame frame).toList.length ≤ 24 := by
    rw [Vector.length_toList]
    decide
  have written := FaithfulBus.write_registers driver.bus 0x82 (outputFrame frame).toList fits
  rw [shown, storeRegisters_frame frame (registerImage_zero previous) (registerImage_one previous)]
    at written
  simp only [writeFrame, busWrite, ends_bind, ends_primitive]
  rw [FaithfulBus.write_ok driver.bus 0x82 _ fits]
  exact ends _ written

/-- Transactions of an application over a verified frame, newest first. -/
def Rewrites (previous frame : OutputFrame) (events : Trace β ω) : Prop :=
  if outputFrame previous = outputFrame frame then
    ∃ data, Matching data frame ∧ events = [readback data]
  else
    ∃ before data, Matching before previous ∧ Matching data frame ∧
      events = [readback data, frameWrite frame (.ok ()), readback before]

theorem applyFrame_rewrites {driver : Pca9635 B O D β ω} {previous frame : OutputFrame}
    (on : frame.state.on = true) (verified : driver.verifiedOn = some previous)
    (shown : FaithfulBus.registers driver.bus = registerImage previous) :
    Ends (applyFrame frame) driver fun result t => result = .ok () ∧
      ∃ events, t.trace = events ++ driver.trace ∧ Rewrites previous frame events := by
  simp only [applyFrame, applyBody, ends_bind, ends_attempt, ends_read, on, verified]
  apply verifyFrame_ends shown
  intro bus before matching kept
  unfold applyFast
  by_cases alike : outputFrame previous = outputFrame frame
  · rw [if_neg (fun differs => differs alike)]
    refine ⟨rfl, [readback before], rfl, ?_⟩
    rw [Rewrites, if_pos alike]
    exact ⟨before, matching.alike alike, rfl⟩
  · rw [if_pos alike]
    simp only [ends_bind]
    apply writeFrame_ends kept
    intro bus written
    apply verifyFrame_ends written
    intro bus data read kept
    refine ⟨rfl, [readback data, frameWrite frame (.ok ()), readback before], rfl, ?_⟩
    rw [Rewrites, if_neg alike]
    exact ⟨before, data, matching, read, rfl⟩

/-! ### One reconciliation -/

/-- A controller and its driver. -/
abbrev Lamp (B O D β ω : Type) : Type := Controller × Pca9635 B O D β ω

/-- The lamp that a reconciliation leaves. -/
def reconciled (lamp : Lamp B O D β ω) (frame : OutputFrame) : Lamp B O D β ω :=
  (lamp.1.reconcileFrame lamp.2 frame).2

/-- The transactions of a reconciliation, newest first. -/
def cost (lamp : Lamp B O D β ω) (frame : OutputFrame) : Trace β ω :=
  (reconciled lamp frame).2.trace.take
    ((reconciled lamp frame).2.trace.length - lamp.2.trace.length)

theorem cost_eq {lamp : Lamp B O D β ω} {frame : OutputFrame} {events : Trace β ω}
    (logged : (reconciled lamp frame).2.trace = events ++ lamp.2.trace) :
    cost lamp frame = events := by
  simp [cost, logged]

/-- The acknowledged frame is displayed and, if it is On, verified. -/
structure Synced (lamp : Lamp B O D β ω) : Prop where
  consistent : Consistent lamp.2.device
  displays : ∀ frame, lamp.1.appliedFrame = some frame → Displays frame lamp.2.device
  verified : ∀ frame, lamp.1.appliedFrame = some frame → frame.state.on = true →
    lamp.2.verifiedOn = some frame

variable {lamp : Lamp B O D β ω} {frame : OutputFrame}

theorem reconcileFrame_known (known : lamp.1.appliedFrame = some frame) :
    lamp.1.reconcileFrame lamp.2 frame = (.ok false, lamp) := if_pos known

/-- On a faithful device, another frame is applied and acknowledged. -/
theorem reconcileFrame_other (synced : Synced lamp) (other : lamp.1.appliedFrame ≠ some frame) :
    lamp.1.reconcileFrame lamp.2 frame =
      (.ok true, { lamp.1 with appliedFrame := some frame }, ((applyFrame frame).start lamp.2).2) := by
  obtain ⟨succeeded, _⟩ := applyFrame_device synced.consistent lamp.2 rfl
  have applied : LightOutput.applyFrame lamp.2 frame =
      (.ok (), ((applyFrame frame).start lamp.2).2) := Prod.ext succeeded rfl
  rw [Controller.reconcileFrame, if_neg other, applied]

theorem Synced.reconciled (synced : Synced lamp) (frame : OutputFrame) :
    Synced (reconciled lamp frame) ∧ (Pca9635.reconciled lamp frame).1.appliedFrame = some frame := by
  by_cases known : lamp.1.appliedFrame = some frame
  · rw [Pca9635.reconciled, reconcileFrame_known known]
    exact ⟨synced, known⟩
  · obtain ⟨succeeded, displays, consistent⟩ :=
      (applyFrame_device synced.consistent : Views device (applyFrame frame) _ _) lamp.2 rfl
    have does := lamp.2.after_does (.applyFrame frame)
    rw [show lamp.2.outcome (.applyFrame frame) = .ok () from succeeded] at does
    rw [Pca9635.reconciled, reconcileFrame_other synced known]
    refine ⟨⟨consistent, ?_, ?_⟩, rfl⟩
    · rintro _ ⟨⟩
      exact displays
    · rintro _ ⟨⟩ on
      exact Applied.verified does on

/-- A frame over the one that is acknowledged, both On. -/
theorem Synced.cost_rewrites (synced : Synced lamp) {previous : OutputFrame}
    (known : lamp.1.appliedFrame = some previous) (lit : previous.state.on = true)
    (on : frame.state.on = true) (other : frame ≠ previous) :
    Rewrites previous frame (cost lamp frame) := by
  have differs : lamp.1.appliedFrame ≠ some frame := by
    rw [known]
    exact fun same => other (Option.some.inj same).symm
  have shown : FaithfulBus.registers lamp.2.bus = registerImage previous :=
    congrArg Prod.fst (synced.displays previous known)
  obtain ⟨_, events, logged, rewrites⟩ :=
    applyFrame_rewrites on (synced.verified previous known lit) shown
  have next : (Pca9635.reconciled lamp frame).2.trace = events ++ lamp.2.trace := by
    rw [Pca9635.reconciled, reconcileFrame_other synced differs]
    exact logged
  rw [cost_eq next]
  exact rewrites

/-! ### Every sequence of frames -/

/-- The lamp after a list of frames. -/
def fade (lamp : Lamp B O D β ω) (frames : List OutputFrame) : Lamp B O D β ω :=
  runAll reconciled lamp frames

theorem Synced.fade (synced : Synced lamp) (frames : List OutputFrame) :
    Synced (fade lamp frames) :=
  runAll_invariant (fun _ frame synced => (synced.reconciled frame).1) synced frames

/-- The last frame is the acknowledged one. -/
theorem Synced.fade_applied (synced : Synced lamp) {frames : List OutputFrame}
    (last : frames.getLast? = some frame) : (Pca9635.fade lamp frames).1.appliedFrame = some frame := by
  obtain ⟨earlier, rfl⟩ := List.getLast?_eq_some_iff.mp last
  rw [Pca9635.fade, runAll_append]
  exact ((synced.fade earlier).reconciled frame).2

end

section

variable [FaithfulBus B β] [FaithfulOutputEnable O ω] [Delay D]

/-- Every sequence of frames on a device that never fails: each call succeeds and leaves the
registers and the pin of its frame; the same frame again costs nothing; and from one On frame
to another, the output enable and the mode registers are left alone, and the frame block is
written, between two readbacks, exactly when its bytes are new. -/
theorem fade_cost (bus : B) (oe : O) (delay : D) (history : List Operation)
    (restored : Option LightState) (frames : List OutputFrame) (frame : OutputFrame) :
    let lamp : Lamp B O D β ω :=
      fade (Controller.new restored, run (new bus oe delay) history) frames
    (lamp.1.reconcileFrame lamp.2 frame).1 = .ok (decide (lamp.1.appliedFrame ≠ some frame)) ∧
    FaithfulBus.registers (reconciled lamp frame).2.bus = registerImage frame ∧
    FaithfulOutputEnable.disabled (reconciled lamp frame).2.oe = !frame.state.on ∧
    ∀ previous, frames.getLast? = some previous →
      (frame = previous → cost lamp frame = []) ∧
      (previous.state.on = true → frame.state.on = true →
        (∀ transaction ∈ cost lamp frame, interrupts transaction = false) ∧
        (frame ≠ previous → outputFrame previous = outputFrame frame →
          ∃ data, Matching data frame ∧ cost lamp frame = [readback data]) ∧
        (outputFrame previous ≠ outputFrame frame →
          ∃ before data, Matching before previous ∧ Matching data frame ∧
            cost lamp frame = [readback data, frameWrite frame (.ok ()), readback before])) := by
  intro lamp
  have start : Synced (Controller.new restored,
      (run (new bus oe delay) history : Pca9635 B O D β ω)) := by
    refine ⟨run_consistent bus oe delay history, ?_, ?_⟩
    · rintro _ ⟨⟩
    · rintro _ ⟨⟩
  have synced : Synced lamp := start.fade frames
  obtain ⟨next, applied⟩ := synced.reconciled frame
  obtain ⟨registers, pin⟩ := Prod.mk.inj (next.displays frame applied)
  refine ⟨?_, registers, pin, fun previous last => ?_⟩
  · by_cases known : lamp.1.appliedFrame = some frame
    · rw [reconcileFrame_known known, decide_eq_false (fun other => other known)]
    · rw [reconcileFrame_other synced known, decide_eq_true known]
  · have known : lamp.1.appliedFrame = some previous := start.fade_applied last
    have free : frame = previous → cost lamp frame = [] := by
      intro same
      refine cost_eq ?_
      rw [reconciled, reconcileFrame_known (known.trans (congrArg some same.symm))]
      rfl
    refine ⟨free, fun lit on => ?_⟩
    by_cases other : frame = previous
    · refine ⟨?_, fun differs => absurd other differs, fun differs => ?_⟩
      · rw [free other]
        intro transaction member
        cases member
      · exact absurd (congrArg outputFrame other.symm) differs
    · have rewrites := synced.cost_rewrites known lit on other
      by_cases alike : outputFrame previous = outputFrame frame
      · rw [Rewrites, if_pos alike] at rewrites
        obtain ⟨data, shown, events⟩ := rewrites
        refine ⟨?_, fun _ _ => ⟨data, shown, events⟩, fun differs => absurd alike differs⟩
        rw [events]
        simp [interrupts, readback]
      · rw [Rewrites, if_neg alike] at rewrites
        obtain ⟨before, data, showed, shown, events⟩ := rewrites
        refine ⟨?_, fun _ same => absurd same alike, fun _ => ⟨before, data, showed, shown, events⟩⟩
        rw [events]
        simp [interrupts, readback, frameWrite, startRegister]

end

/-- Two frames of the host tests that encode alike. -/
theorem fade_cost_quantized :
    let first : OutputFrame := ⟨⟨true, .MIN, .MAX⟩, ⟨200, by decide⟩⟩
    let next : OutputFrame := ⟨⟨true, .MIN, .MAX⟩, ⟨201, by decide⟩⟩
    ∃ data, Matching data next ∧
      cost (fade (Controller.new none, run mock []) [first]) next = [readback data] :=
  ((fade_cost (⟨Vector.replicate 24 0⟩ : MockBus) (⟨false⟩ : MockPin) () [] none [_] _).2.2.2 _ rfl).2
    rfl rfl |>.2.1 (by decide) (by decide)

end KeyRight.Core.Pca9635
