import KeyRight.Core.Chip
import KeyRight.Core.Discipline

/-!
Owns runs of the PCA9635 driver on an arbitrary bus and output-enable pin: the
evidence behind an acknowledged frame, and the discipline of the output enable.

Does not own a device behind the bus.
-/

namespace KeyRight.Core.Pca9635

open KeyRight.Support KeyRight.Support.Program

/-- The public calls of the driver that can change it. -/
inductive Operation where
  | applyFrame (frame : OutputFrame)
  | shutdown
  | initializeOff
  | verifyFrame (frame : OutputFrame)
  | verify (state : LightState)
  | readRegisters

/-- The frame that an operation applies. -/
def Operation.applying : Operation → Option OutputFrame
  | .applyFrame frame => some frame
  | _ => none

/-- The operation drives the output. -/
def Operation.Drives : Operation → Prop
  | .applyFrame _ | .shutdown | .initializeOff => True
  | _ => False

variable {B O D β ω : Type} [RegisterBus B β] [OutputEnable O ω] [Delay D]

def perform : Operation → Action B O D β ω Unit
  | .applyFrame frame => Pca9635.applyFrame frame
  | .shutdown => Pca9635.shutdown
  | .initializeOff => Pca9635.initializeOff
  | .verifyFrame frame => Pca9635.verifyFrame frame
  | .verify state => Pca9635.verify state
  | .readRegisters => do
      let _ ← Pca9635.readRegisters

/-- The driver that an operation leaves. -/
def after (driver : Pca9635 B O D β ω) (operation : Operation) : Pca9635 B O D β ω :=
  ((perform operation).start driver).2

/-- What an operation returns, up to the registers read. -/
def outcome (driver : Pca9635 B O D β ω) (operation : Operation) : Except (DriverError β ω) Unit :=
  ((perform operation).start driver).1

def run (driver : Pca9635 B O D β ω) (operations : List Operation) : Pca9635 B O D β ω :=
  runAll after driver operations

/-! ### Evidence -/

/-- An acknowledged frame was followed by an enable that succeeded. -/
def Enabled (seen : Looks β ω) : Prop :=
  seen.1 ≠ none → lastOe seen.2 = some (false, .ok ())

/-- Frames that encode alike are matched alike. -/
theorem Matching.alike {data : Vector UInt8 24} {left right : OutputFrame}
    (shown : Matching data left) (alike : outputFrame left = outputFrame right) :
    Matching data right := by
  unfold Matching at *
  rw [← alike]
  exact shown

/-- The last bus transaction read the frame back, and the pin follows its power. -/
structure Evidence (frame : OutputFrame) (trace : Trace β ω) : Prop where
  shown : ∃ data, lastBus trace = some (readback data) ∧ Matching data frame
  pin : lastOe trace = some (!frame.state.on, .ok ())

theorem Applied.evidence {base : Trace β ω} {previous : Option OutputFrame} {frame : OutputFrame}
    {seen : Looks β ω} (applied : Applied base previous frame seen)
    (enabled : Enabled (previous, base)) : Evidence frame seen.2 := by
  cases applied with
  | dark zero done off zeroed prelude =>
      have alike : outputFrame default = outputFrame frame := by
        rw [outputFrame_of_off off, outputFrame_of_off default_on]
      exact ⟨⟨zero, rfl, zeroed.alike alike⟩, by rw [off]; rfl⟩
  | lit zero data done on zeroed shown prelude => exact ⟨⟨data, rfl, shown⟩, by rw [on]; rfl⟩
  | kept verified data on known shown alike =>
      exact ⟨⟨data, rfl, shown.alike alike⟩, by rw [on]; exact enabled (by simp [known])⟩
  | rewritten verified before data on known showed shown =>
      exact ⟨⟨data, rfl, shown⟩, by rw [on]; exact enabled (by simp [known])⟩

theorem Applied.enabled {base : Trace β ω} {previous : Option OutputFrame} {frame : OutputFrame}
    {seen : Looks β ω} (applied : Applied base previous frame seen)
    (enabled : Enabled (previous, base)) : Enabled seen := by
  intro known
  have pin := (applied.evidence enabled).pin
  cases applied with
  | dark zero done off zeroed prelude => exact absurd rfl known
  | lit zero data done on zeroed shown prelude => rw [pin, on]; rfl
  | kept verified data on verifiedOn shown alike => rw [pin, on]; rfl
  | rewritten verified before data on verifiedOn showed shown => rw [pin, on]; rfl

/-! ### Operations -/

/-- A readback keeps the acknowledged frame or forgets it. -/
def Reads (previous : Option OutputFrame) (base : Trace β ω) (seen : Looks β ω) : Prop :=
  (seen.1 = previous ∨ seen.1 = none) ∧ ∃ result, seen.2 = .read ADDRESS [0x80] result :: base

/-- What an operation can do, whatever bus and pin answer. -/
def Does (previous : Option OutputFrame) (base : Trace β ω) (operation : Operation)
    (result : Except (DriverError β ω) Unit) (seen : Looks β ω) : Prop :=
  match operation, result with
  | .applyFrame frame, .ok () => Applied base previous frame seen
  | .applyFrame frame, .error _ => Abandoned base previous (some frame) seen
  | .shutdown, result => Initializes base previous none [] result seen
  | .initializeOff, result => Initializes base previous none [] result seen
  | _, _ => Reads previous base seen

theorem perform_views {previous : Option OutputFrame} {base : Trace β ω} (operation : Operation) :
    Views looks (perform operation : Action B O D β ω Unit) (previous, base)
      (Does previous base operation) := by
  have nothing : Disciplined base previous none [] := trivial
  cases operation with
  | applyFrame frame =>
      refine applyFrame_views.mono fun result seen ends => ?_
      cases result with
      | ok value => exact ends
      | error error => exact ends
  | shutdown => exact initializeOff_views nothing
  | initializeOff => exact initializeOff_views nothing
  | verifyFrame frame =>
      exact verifyFrame_views (fun data _ => ⟨.inl rfl, _, rfl⟩) (fun data => ⟨.inr rfl, _, rfl⟩)
        fun error => ⟨.inr rfl, _, rfl⟩
  | verify state =>
      exact verifyFrame_views (fun data _ => ⟨.inl rfl, _, rfl⟩) (fun data => ⟨.inr rfl, _, rfl⟩)
        fun error => ⟨.inr rfl, _, rfl⟩
  | readRegisters =>
      refine views_bind (readRegisters_views (fun data => ?_) fun error => ⟨.inr rfl, _, rfl⟩)
      exact views_pure ⟨.inl rfl, _, rfl⟩

theorem after_does (driver : Pca9635 B O D β ω) (operation : Operation) :
    Does driver.verifiedOn driver.trace operation (driver.outcome operation)
      (looks (driver.after operation)) :=
  perform_views operation driver rfl

section

variable {previous : Option OutputFrame} {base : Trace β ω} {operation : Operation}
variable {result : Except (DriverError β ω) Unit} {seen : Looks β ω}

omit [RegisterBus B β] [OutputEnable O ω] [Delay D] in
theorem Applied.sofar {frame : OutputFrame} (applied : Applied base previous frame seen) :
    Sofar base previous (some frame) seen.2 := by
  cases applied with
  | dark zero done off zeroed prelude =>
      exact ⟨initialized zero ++ done, rfl, prelude.disciplined.initialized zero⟩
  | lit zero data done on zeroed shown prelude =>
      have preluded : Disciplined base previous (some frame) done := prelude.disciplined
      have initialized := preluded.initialized zero
      have written := initialized.parked rfl (0x82 :: (outputFrame frame).toList) (.ok ())
      have read : Disciplined base previous (some frame) (established frame zero data ++ done) :=
        ⟨trivial, written⟩
      refine ⟨.setDisabled false (.ok ()) :: (established frame zero data ++ done), rfl, ?_, read⟩
      exact ⟨frame, zero, data, done, rfl, zeroed, shown, prelude, rfl⟩
  | kept verified data on known shown alike => exact ⟨[_], rfl, trivial, trivial⟩
  | rewritten verified before data on known showed shown =>
      refine ⟨[readback data, frameWrite frame (.ok ()), readback before], rfl, trivial, ?_, trivial,
        trivial⟩
      exact .inr ⟨frame, verified, before, rfl, known, showed, rfl, rfl⟩

theorem Initializes.sofar (initializes : Initializes base previous none [] result seen) :
    Sofar base previous none seen.2 := by
  cases result with
  | error error => exact Abandoned.sofar initializes
  | ok value =>
      obtain ⟨zero, zeroed, rfl⟩ := initializes
      have nothing : Disciplined base previous none [] := trivial
      exact ⟨initialized zero, rfl, nothing.initialized zero⟩

/-- Every transaction of an operation is permitted. -/
theorem Does.sofar (does : Does previous base operation result seen) :
    Sofar base previous operation.applying seen.2 := by
  have reads : Reads previous base seen → Sofar base previous none seen.2 := by
    rintro ⟨_, result, trace⟩
    rw [trace]
    exact ⟨[_], rfl, trivial, trivial⟩
  cases operation with
  | applyFrame frame =>
      cases result with
      | ok value => exact Applied.sofar does
      | error error => exact Abandoned.sofar does
  | shutdown => exact Initializes.sofar does
  | initializeOff => exact Initializes.sofar does
  | verifyFrame frame => exact reads does
  | verify state => exact reads does
  | readRegisters => exact reads does

/-- Only an application can acknowledge a frame. -/
theorem Does.unverified (does : Does previous base operation result seen)
    (idle : operation.applying = none) : seen.1 = previous ∨ seen.1 = none := by
  have initializes : Initializes base previous none [] result seen → seen.1 = none := by
    intro initializes
    cases result with
    | error error => exact initializes.1
    | ok value =>
        obtain ⟨zero, zeroed, rfl⟩ := initializes
        rfl
  cases operation with
  | applyFrame frame => cases idle
  | shutdown => exact .inr (initializes does)
  | initializeOff => exact .inr (initializes does)
  | verifyFrame frame => exact does.1
  | verify state => exact does.1
  | readRegisters => exact does.1

/-- An acknowledged frame stays enabled. -/
theorem Does.enabled (does : Does previous base operation result seen)
    (enabled : Enabled (previous, base)) : Enabled seen := by
  have initializes : Initializes base previous none [] result seen → Enabled seen := by
    intro initializes known
    cases result with
    | error error => exact absurd initializes.1 known
    | ok value =>
        obtain ⟨zero, zeroed, rfl⟩ := initializes
        exact absurd rfl known
  have reads : Reads previous base seen → Enabled seen := by
    rintro ⟨same | forgotten, result, trace⟩ known
    · rw [trace]
      exact enabled (same ▸ known)
    · exact absurd forgotten known
  cases operation with
  | applyFrame frame =>
      cases result with
      | ok value => exact Applied.enabled does enabled
      | error error => exact fun known => absurd does.1 known
  | shutdown => exact initializes does
  | initializeOff => exact initializes does
  | verifyFrame frame => exact reads does
  | verify state => exact reads does
  | readRegisters => exact reads does

/-- A failed operation on the output forgets the frame and issues a disable last. -/
theorem Does.abandoned {error : DriverError β ω}
    (does : Does previous base operation (.error error) seen) (drives : operation.Drives) :
    seen.1 = none ∧ ∃ result, lastOe seen.2 = some (true, result) := by
  have abandoned : ∀ applying, Abandoned base previous applying seen →
      seen.1 = none ∧ ∃ result, lastOe seen.2 = some (true, result) := by
    rintro applying ⟨forgotten, result, older, trace, _⟩
    exact ⟨forgotten, result, by rw [trace]; rfl⟩
  cases operation with
  | applyFrame frame => exact abandoned (some frame) does
  | shutdown => exact abandoned none does
  | initializeOff => exact abandoned none does
  | verifyFrame frame => exact drives.elim
  | verify state => exact drives.elim
  | readRegisters => exact drives.elim

end

/-! ### Runs -/

/-- Between the operations of every run, an acknowledged frame is enabled. -/
theorem run_enabled (bus : B) (oe : O) (delay : D) (operations : List Operation) :
    Enabled (looks (run (new bus oe delay) operations : Pca9635 B O D β ω)) := by
  have preserved : ∀ (driver : Pca9635 B O D β ω) operation, Enabled driver.looks →
      Enabled (driver.after operation).looks :=
    fun driver operation enabled => (driver.after_does operation).enabled enabled
  have initially : Enabled (looks (new bus oe delay : Pca9635 B O D β ω)) :=
    fun known => absurd rfl known
  exact runAll_invariant preserved initially operations

/-- Without an application, nothing is acknowledged. -/
theorem run_unverified {driver : Pca9635 B O D β ω} (unverified : driver.verifiedOn = none)
    {others : List Operation} (idle : ∀ other ∈ others, other.applying = none) :
    (driver.run others).verifiedOn = none := by
  induction others generalizing driver with
  | nil => exact unverified
  | cons other rest inductionHypothesis =>
      have kept := (driver.after_does other).unverified (idle other List.mem_cons_self)
      rw [unverified, or_self] at kept
      exact inductionHypothesis kept fun later member => idle later (List.mem_cons_of_mem _ member)

/-- Where no frame is acknowledged, an application initializes before it enables. -/
theorem after_initializes {driver : Pca9635 B O D β ω} (unverified : driver.verifiedOn = none)
    (frame : OutputFrame) :
    (∀ result older,
      (.setDisabled false result :: older) <:+ (driver.after (.applyFrame frame)).trace →
      driver.trace <:+ older → ∃ zero data, Matching zero default ∧ Matching data frame ∧
        older = established frame zero data ++ driver.trace) ∧
    (driver.outcome (.applyFrame frame) = .ok () → ∃ zero, Matching zero default ∧
      if frame.state.on then ∃ data, Matching data frame ∧ (driver.after (.applyFrame frame)).trace =
        .setDisabled false (.ok ()) :: (established frame zero data ++ driver.trace)
      else (driver.after (.applyFrame frame)).trace = initialized zero ++ driver.trace) := by
  have does := driver.after_does (.applyFrame frame)
  have alone : ∀ {done : Trace β ω}, Prelude driver.verifiedOn done → done = [] := by
    intro done prelude
    rcases prelude with nothing | ⟨verified, data, known, _⟩
    · exact nothing
    · rw [unverified] at known
      cases known
  constructor
  · intro result older suffix own
    obtain ⟨since, trace, disciplined⟩ := does.sofar
    rw [show (driver.after (.applyFrame frame)).trace = _ from trace] at suffix
    obtain ⟨later, rfl, permitted⟩ := disciplined.of_suffix suffix own
    obtain ⟨applied, zero, data, done, applying, zeroed, shown, prelude, rfl⟩ := permitted
    cases applying
    exact ⟨zero, data, zeroed, shown, by rw [alone prelude, List.append_nil]⟩
  · intro succeeded
    rw [succeeded] at does
    have applied : Applied driver.trace driver.verifiedOn frame (looks (driver.after _)) := does
    generalize reached : looks (driver.after (.applyFrame frame)) = seen at applied
    have trace := congrArg Prod.snd reached
    change (driver.after (.applyFrame frame)).trace = seen.2 at trace
    rw [trace]
    cases applied with
    | dark zero done off zeroed prelude =>
        refine ⟨zero, zeroed, ?_⟩
        rw [if_neg (by simp [off]), alone prelude]
        rfl
    | lit zero data done on zeroed shown prelude =>
        refine ⟨zero, zeroed, ?_⟩
        rw [if_pos on, alone prelude]
        exact ⟨data, shown, rfl⟩
    | kept verified data on known shown alike =>
        rw [unverified] at known
        cases known
    | rewritten verified before data on known showed shown =>
        rw [unverified] at known
        cases known

/-- In every run: the output is enabled only right after a readback of the frame that
is being applied; the bus is written only while the output is disabled, or for a
frame right after a readback of the acknowledged one; and a failure on the output
forgets the acknowledged frame and issues a disable, so that the next application
initializes before it enables. -/
theorem run_outputEnable (bus : B) (oe : O) (delay : D) (operations : List Operation)
    (operation : Operation) :
    let driver : Pca9635 B O D β ω := run (new bus oe delay) operations
    let next := driver.after operation
    (∀ result older, (.setDisabled false result :: older) <:+ next.trace → driver.trace <:+ older →
      ∃ frame data, operation = .applyFrame frame ∧ Matching data frame ∧
        older.head? = some (.read ADDRESS [0x80] (.ok data))) ∧
    (∀ address bytes result older, (.write address bytes result :: older) <:+ next.trace →
      driver.trace <:+ older → lastCommand older = some true ∨
        ∃ frame verified data, operation = .applyFrame frame ∧ driver.verifiedOn = some verified ∧
          bytes = 0x82 :: (outputFrame frame).toList ∧ Matching data verified ∧
          older.head? = some (.read ADDRESS [0x80] (.ok data))) ∧
    ∀ error, operation.Drives → driver.outcome operation = .error error →
      next.verifiedOn = none ∧ (∃ result, lastOe next.trace = some (true, result)) ∧
      ∀ others frame, (∀ other ∈ others, other.applying = none) →
        let later := next.run others
        (∀ result older,
          (.setDisabled false result :: older) <:+ (later.after (.applyFrame frame)).trace →
          later.trace <:+ older → ∃ zero data, Matching zero default ∧ Matching data frame ∧
            older = established frame zero data ++ later.trace) ∧
        (later.outcome (.applyFrame frame) = .ok () → ∃ zero, Matching zero default ∧
          if frame.state.on then ∃ data, Matching data frame ∧
            (later.after (.applyFrame frame)).trace =
              .setDisabled false (.ok ()) :: (established frame zero data ++ later.trace)
          else (later.after (.applyFrame frame)).trace = initialized zero ++ later.trace) := by
  intro driver next
  have does := driver.after_does operation
  obtain ⟨since, trace, disciplined⟩ := does.sofar
  have applies : ∀ frame, operation.applying = some frame → operation = .applyFrame frame := by
    intro frame applying
    cases operation with
    | applyFrame applied =>
        cases applying
        rfl
    | _ => cases applying
  change next.trace = since ++ driver.trace at trace
  rw [trace]
  refine ⟨?_, ?_, ?_⟩
  · intro result older suffix own
    obtain ⟨older, rfl, frame, zero, data, done, applying, zeroed, shown, prelude, rfl⟩ :=
      disciplined.of_suffix suffix own
    exact ⟨frame, data, applies frame applying, shown, rfl⟩
  · intro address bytes result older suffix own
    obtain ⟨older, rfl, disabled | ⟨frame, verified, data, applying, known, shown, wrote, read⟩⟩ :=
      disciplined.of_suffix suffix own
    · exact .inl disabled
    · refine .inr ⟨frame, verified, data, applies frame applying, known, wrote, shown, ?_⟩
      obtain ⟨rest, rfl⟩ := List.head?_eq_some_iff.mp read
      rfl
  · intro error drives failed
    rw [failed] at does
    obtain ⟨forgotten, disabled⟩ := does.abandoned drives
    rw [← trace]
    exact ⟨forgotten, disabled, fun others frame idle =>
      after_initializes (run_unverified forgotten idle) frame⟩

/-- A driver of the mock, before any operation. -/
def mock : Pca9635 MockBus MockPin Unit Unit Unit := new ⟨Vector.replicate 24 0⟩ ⟨false⟩ ()

/-- The first enable of the mock follows the readback of its frame. -/
theorem run_outputEnable_mock :
    let lit := OutputFrame.fromState { (default : LightState) with on := true }
    ∃ frame data, Operation.applyFrame lit = .applyFrame frame ∧ Matching data frame ∧
      (mock.after (.applyFrame lit)).trace.tail.head? = some (.read ADDRESS [0x80] (.ok data)) :=
  (run_outputEnable (⟨Vector.replicate 24 0⟩ : MockBus) (⟨false⟩ : MockPin) () []
    (.applyFrame _)).1 (.ok ()) _ ⟨[], rfl⟩ List.nil_suffix

end KeyRight.Core.Pca9635
