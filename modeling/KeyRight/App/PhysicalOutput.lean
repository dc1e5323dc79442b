import KeyRight.App.Bench
import KeyRight.App.Interchange
import KeyRight.Core.Faithful

/-!
Owns the output of the retained hardware, as in `firmware/app/src/hardware.rs`: the PCA9635
driver as an adapter of the runtime. Over a device that never fails, the bench output
mirrors it, so that the two images of the light answer alike in every run.

Does not own a device that fails.
-/

namespace KeyRight.App

open KeyRight.Core KeyRight.Support KeyRight.Core.Pca9635

/-! ### Adapter -/

/-- The driver on a bus, an output-enable pin that cannot fail, and a delay. -/
structure PhysicalOutput (B O D β : Type) where
  driver : Pca9635 B O D β Empty

/-- Open-drain GPIO that drives the output enable of the device. -/
structure Oe where
  high : Bool
deriving DecidableEq

instance : FaithfulOutputEnable Oe Empty where
  setDisabled _ disabled := (.ok (), ⟨disabled⟩)
  disabled := Oe.high
  set_ok := fun _ _ => rfl
  set_disabled := fun _ _ => rfl

namespace PhysicalOutput

variable {B O D β α : Type}

def new (bus : B) (oe : O) (delay : D) : PhysicalOutput B O D β := ⟨Pca9635.new bus oe delay⟩

def error : DriverError β Empty → OutputError
  | .bus _ => .bus
  | .enable never => nomatch never
  | .readbackMismatch => .readback

/-- One operation of the driver. -/
def call (action : Action B O D β Empty α) (output : PhysicalOutput B O D β) :
    Except OutputError α × PhysicalOutput B O D β :=
  let (result, driver) := action.start output.driver
  (result.mapError error, ⟨driver⟩)

instance [RegisterBus B β] [OutputEnable O Empty] [Delay D] : Hardware (PhysicalOutput B O D β) where
  applyFrame output frame := output.call (Pca9635.applyFrame frame)
  shutdown output := output.call Pca9635.shutdown
  verifyFrame output frame := output.call (Pca9635.verifyFrame frame)
  registers output := output.call Pca9635.readRegisters

end PhysicalOutput

/-! ### Mirroring -/

theorem simulatedRegisters_eq (frame : OutputFrame) :
    simulatedRegisters frame = registerImage frame := rfl

variable {B O D β : Type} [FaithfulBus B β] [FaithfulOutputEnable O Empty] [Delay D]

/-- The device displays the frame of the bench output, and the frame that its driver
has verified. -/
structure Reproduces (bench : SimulatedOutput) (real : PhysicalOutput B O D β) : Prop where
  displays : Displays bench.applied real.driver.device
  consistent : Consistent real.driver.device

/-- All registers but MODE1, which reports the last auto-increment bits. -/
def SameRegisters (data other : Vector UInt8 24) : Prop := data.toList.drop 1 = other.toList.drop 1

omit [FaithfulBus B β] [FaithfulOutputEnable O Empty] [Delay D] in
theorem PhysicalOutput.call_isOk {α : Type} (action : Action B O D β Empty α)
    (output : PhysicalOutput B O D β) :
    (output.call action).1.isOk = (action.start output.driver).1.isOk := by
  simp only [call]
  cases (action.start output.driver).1 with
  | ok value => rfl
  | error code => rfl

variable {bench : SimulatedOutput} {real : PhysicalOutput B O D β}

theorem Reproduces.shutdown (bench : SimulatedOutput) (real : PhysicalOutput B O D β) :
    (Hardware.shutdown bench).1.isOk = (Hardware.shutdown real).1.isOk ∧
      Reproduces (Hardware.shutdown bench).2 (Hardware.shutdown real).2 := by
  obtain ⟨succeeded, dark⟩ :
      (Pca9635.shutdown.start real.driver).1 = .ok () ∧
        device (Pca9635.shutdown.start real.driver).2 = (none, registerImage default, true) :=
    initializeOff_device real.driver rfl
  refine ⟨?_, ?_, ?_⟩
  · have stops : (Hardware.shutdown real).1.isOk = _ := PhysicalOutput.call_isOk _ real
    rw [stops, succeeded]
    rfl
  · change Displays _ (device (Pca9635.shutdown.start real.driver).2)
    rw [dark]
    exact displays_off rfl none
  · change Consistent (device (Pca9635.shutdown.start real.driver).2)
    rw [dark]
    exact nofun

theorem Reproduces.applyFrame (reproduces : Reproduces bench real) (frame : OutputFrame) :
    (LightOutput.applyFrame bench frame).1.isOk = (LightOutput.applyFrame real frame).1.isOk ∧
      Reproduces (LightOutput.applyFrame bench frame).2 (LightOutput.applyFrame real frame).2 := by
  obtain ⟨succeeded, displays, consistent⟩ :
      ((Pca9635.applyFrame frame).start real.driver).1 = .ok () ∧
        Displays frame (device ((Pca9635.applyFrame frame).start real.driver).2) ∧
        Consistent (device ((Pca9635.applyFrame frame).start real.driver).2) :=
    applyFrame_device reproduces.consistent real.driver rfl
  refine ⟨?_, displays, consistent⟩
  have applies : (LightOutput.applyFrame real frame).1.isOk = _ := PhysicalOutput.call_isOk _ real
  rw [applies, succeeded]
  rfl

/-- The driver verifies a frame exactly when it encodes like the displayed one. -/
theorem Reproduces.verifyFrame (reproduces : Reproduces bench real) (frame : OutputFrame) :
    (Hardware.verifyFrame bench frame).1.isOk = (Hardware.verifyFrame real frame).1.isOk ∧
      Reproduces (Hardware.verifyFrame bench frame).2 (Hardware.verifyFrame real frame).2 := by
  have seen : device real.driver =
      (real.driver.verifiedOn, registerImage bench.applied, !bench.applied.state.on) :=
    Prod.ext rfl reproduces.displays
  obtain ⟨answer, verified, still⟩ := verifyFrame_device_image bench.applied frame real.driver seen
  have verifies : (Hardware.verifyFrame real frame).1.isOk = _ := PhysicalOutput.call_isOk _ real
  have kept : Reproduces bench (Hardware.verifyFrame real frame).2 :=
    ⟨still, reproduces.consistent.forget verified (still.trans reproduces.displays.symm)⟩
  rw [verifies, answer]
  by_cases alike : outputFrame frame = outputFrame bench.applied
  · have verified : Hardware.verifyFrame bench frame = (.ok (), bench) := if_pos alike
    rw [verified, decide_eq_true alike]
    exact ⟨rfl, kept⟩
  · have refuted : Hardware.verifyFrame bench frame = (.error .readback, bench) := if_neg alike
    rw [refuted, decide_eq_false alike]
    exact ⟨rfl, kept⟩

theorem Reproduces.registers (reproduces : Reproduces bench real) :
    Answers SameRegisters (Hardware.registers bench).1 (Hardware.registers real).1 ∧
      Reproduces (Hardware.registers bench).2 (Hardware.registers real).2 := by
  have readable : Program.Views device (readRegisters : Action B O D β Empty (Vector UInt8 24))
      (device real.driver) fun result seen => ∃ data, result = .ok data ∧
        Reflects data (FaithfulBus.registers real.driver.bus) ∧ seen = device real.driver :=
    readRegisters_device fun data reflects => ⟨data, rfl, reflects, rfl⟩
  obtain ⟨data, read, ⟨_, rest⟩, still⟩ := readable real.driver rfl
  have answers : (Hardware.registers real).1 = _ := congrArg (Except.mapError _) read
  have image : FaithfulBus.registers real.driver.bus = registerImage bench.applied :=
    congrArg Prod.fst reproduces.displays
  rw [answers]
  refine ⟨.ok ?_, ?_, ?_⟩
  · rw [SameRegisters, simulatedRegisters_eq, rest, image]
  · exact still ▸ reproduces.displays
  · exact still ▸ reproduces.consistent

theorem interchangeable :
    Interchangeable (Reproduces : SimulatedOutput → PhysicalOutput B O D β → Prop) SameRegisters where
  shutdown := Reproduces.shutdown
  applyFrame _ _ frame reproduces := reproduces.applyFrame frame
  verifyFrame _ _ frame reproduces := reproduces.verifyFrame frame
  registers _ _ reproduces := reproduces.registers

/-! ### Runs -/

/-- The bench image is faithful. Over any store, with any failures, and any device that never
fails, whatever its registers show at boot, every operation of every run returns
the same as on the bench, but for MODE1 in the registers, and leaves the same stored bytes and
observations. -/
theorem Runtime.run_bench {K : Type} [KvBlobStore K] (kv : K) (output : SimulatedOutput) (bus : B)
    (oe : O) (delay : D) (operations : List Operation) :
    let bench := run (load kv output) operations
    let real := run (load kv (PhysicalOutput.new bus oe delay : PhysicalOutput B O D β)) operations
    (∀ operation,
      Answers (Reply.Alike SameRegisters) (bench.outcome operation) (real.outcome operation)) ∧
    real.kv = bench.kv ∧ real.snapshot = bench.snapshot ∧
    real.acknowledged = bench.acknowledged ∧ real.reported = bench.reported ∧
    real.levelRemainingMs = bench.levelRemainingMs ∧
    real.temperatureRemainingMs = bench.temperatureRemainingMs ∧
    real.state.startup = bench.state.startup := by
  intro bench real
  have mirrors : Mirrors Reproduces bench real :=
    run_interchangeable interchangeable kv output (PhysicalOutput.new bus oe delay) operations
  refine ⟨fun operation => (interchangeable_perform interchangeable operation bench real mirrors).1,
    mirrors.kv, ?_, ?_, ?_, ?_, ?_, ?_⟩
  · rw [snapshot, mirrors.state]
    rfl
  · rw [Runtime.acknowledged, mirrors.state]
    rfl
  · rw [reported, mirrors.state]
    rfl
  · rw [levelRemainingMs, mirrors.state, mirrors.now]
    rfl
  · rw [temperatureRemainingMs, mirrors.state, mirrors.now]
    rfl
  · rw [mirrors.state]
    rfl

/-- A lamp half-way through its power fade, on registers that were all set at boot. -/
theorem Runtime.run_bench_mock :
    let operations := [.tick 0, .setPower true, .tick 200]
    let bench := run (load (default : MemoryStore) (default : SimulatedOutput)) operations
    let real := run (load (default : MemoryStore)
      (.new ⟨.replicate 24 0xff⟩ ⟨false⟩ () : PhysicalOutput MockBus Oe Unit Unit)) operations
    real.snapshot = bench.snapshot ∧
      bench.snapshot.appliedFrame.map OutputFrame.brightness = some ⟨378, by decide⟩ :=
  ⟨(run_bench _ _ _ _ _ _).2.2.1, by decide +kernel⟩

end KeyRight.App
