import KeyRight.Core.Pca9635
import KeyRight.Support.Run

/-!
Owns what one call of the PCA9635 driver can put on the bus and on the output-enable
pin, whatever they answer: the calls are followed through the acknowledged frame
and the trace only, and every new transaction is permitted by the ones before it.

Does not own a device behind the bus.
-/

namespace KeyRight.Core

open KeyRight.Support KeyRight.Support.Program

namespace Pca9635

variable {B O D β ω : Type}

/-! ### Traces -/

abbrev Trace (β ω : Type) : Type := List (Transaction β ω)

/-- The last output-enable command that was issued, with its result. -/
def lastOe : Trace β ω → Option (Bool × Except ω Unit)
  | [] => none
  | .setDisabled disabled result :: _ => some (disabled, result)
  | _ :: older => lastOe older

/-- The last output-enable command that succeeded. -/
def lastCommand : Trace β ω → Option Bool
  | [] => none
  | .setDisabled disabled (.ok ()) :: _ => some disabled
  | _ :: older => lastCommand older

/-- The last transaction on the bus. -/
def lastBus : Trace β ω → Option (Transaction β ω)
  | [] => none
  | .write address bytes result :: _ => some (.write address bytes result)
  | .read address bytes result :: _ => some (.read address bytes result)
  | _ :: older => lastBus older

def frameWrite (frame : OutputFrame) (result : Except β Unit) : Transaction β ω :=
  .write ADDRESS (0x82 :: (outputFrame frame).toList) result

def readback (data : Vector UInt8 24) : Transaction β ω := .read ADDRESS [0x80] (.ok data)

/-- Disable, configure, zero, wake and verify, newest first. -/
def initialized (zero : Vector UInt8 24) : Trace β ω :=
  [readback zero, .delay 500, .write ADDRESS [0x00, 0x00] (.ok ()), frameWrite default (.ok ()),
    .write ADDRESS [0x01, MODE2] (.ok ()), .setDisabled true (.ok ())]

/-- The initialization and a frame that was read back, newest first. -/
def established (frame : OutputFrame) (zero data : Vector UInt8 24) : Trace β ω :=
  readback data :: frameWrite frame (.ok ()) :: initialized zero

/-! ### Permitted transactions -/

/-- What a call may do before its initialization: read back the previous frame. -/
def Prelude (previous : Option OutputFrame) (done : Trace β ω) : Prop :=
  done = [] ∨ ∃ verified data, previous = some verified ∧ done = [readback data]

/-- What a call may do after the transactions `older` of its own, which follow `base`:
enable after the initialization and the readback of its frame, and write while
disabled or, for a new frame, right after a readback of the previous one. -/
def Permitted (base : Trace β ω) (previous applying : Option OutputFrame) (older : Trace β ω) :
    Transaction β ω → Prop
  | .setDisabled false _ => ∃ frame zero data done, applying = some frame ∧
      Matching zero default ∧ Matching data frame ∧ Prelude previous done ∧
        older = established frame zero data ++ done
  | .write _ bytes _ => lastCommand (older ++ base) = some true ∨
      ∃ frame verified data, applying = some frame ∧ previous = some verified ∧
        Matching data verified ∧ bytes = 0x82 :: (outputFrame frame).toList ∧
        older.head? = some (readback data)
  | _ => True

/-- Every new transaction was permitted by the ones before it. -/
def Disciplined (base : Trace β ω) (previous applying : Option OutputFrame) : Trace β ω → Prop
  | [] => True
  | event :: older =>
      Permitted base previous applying older event ∧ Disciplined base previous applying older

section

variable {base since newer older : Trace β ω} {previous applying : Option OutputFrame}
variable {event : Transaction β ω}

theorem Disciplined.permitted
    (disciplined : Disciplined base previous applying (newer ++ event :: older)) :
    Permitted base previous applying older event := by
  induction newer with
  | nil => exact disciplined.1
  | cons head rest inductionHypothesis => exact inductionHypothesis disciplined.2

/-- A transaction of this call splits its trace. -/
theorem Disciplined.of_suffix (disciplined : Disciplined base previous applying since)
    {later : Trace β ω} (suffix : (event :: later) <:+ since ++ base) (own : base <:+ later) :
    ∃ older, later = older ++ base ∧ Permitted base previous applying older event := by
  obtain ⟨older, rfl⟩ := own
  obtain ⟨newer, split⟩ := suffix
  have joined : (newer ++ event :: older) ++ base = since ++ base := by simpa using split
  have same : newer ++ event :: older = since := List.append_cancel_right joined
  subst same
  exact ⟨older, rfl, disciplined.permitted⟩

theorem Prelude.disciplined {done : Trace β ω} (prelude : Prelude previous done) :
    Disciplined base previous applying done := by
  rcases prelude with rfl | ⟨_, _, _, rfl⟩
  · trivial
  · exact ⟨trivial, trivial⟩

/-- While the output is disabled, every transaction but an enable is permitted. -/
theorem Disciplined.parked (disciplined : Disciplined base previous applying since)
    (disabled : lastCommand (since ++ base) = some true) (bytes : List UInt8)
    (result : Except β Unit) :
    Disciplined base previous applying (.write ADDRESS bytes result :: since) :=
  ⟨.inl disabled, disciplined⟩

end

/-! ### Calls through the acknowledged frame and the trace -/

variable [RegisterBus B β] [OutputEnable O ω] [Delay D]

abbrev Looks (β ω : Type) : Type := Option OutputFrame × Trace β ω

def looks (driver : Pca9635 B O D β ω) : Looks β ω := (driver.verifiedOn, driver.trace)

section

variable {verified : Option OutputFrame} {trace : Trace β ω}
variable {post : Except (DriverError β ω) Unit → Looks β ω → Prop}

omit [OutputEnable O ω] [Delay D] in
theorem busWrite_views {bytes : List UInt8}
    (done : post (.ok ()) (verified, .write ADDRESS bytes (.ok ()) :: trace))
    (failed : ∀ error,
      post (.error (.bus error)) (verified, .write ADDRESS bytes (.error error) :: trace)) :
    Views looks (busWrite bytes : Action B O D β ω Unit) (verified, trace) post := by
  rintro driver ⟨⟩
  simp only [busWrite, ends_bind, ends_primitive]
  cases (RegisterBus.write driver.bus ADDRESS bytes).1 with
  | ok value => exact done
  | error error => exact failed error

omit [RegisterBus B β] [Delay D] in
theorem setDisabled_views {disabled : Bool}
    (done : post (.ok ()) (verified, .setDisabled disabled (.ok ()) :: trace))
    (failed : ∀ error,
      post (.error (.enable error)) (verified, .setDisabled disabled (.error error) :: trace)) :
    Views looks (setDisabled disabled : Action B O D β ω Unit) (verified, trace) post := by
  rintro driver ⟨⟩
  simp only [setDisabled, ends_bind, ends_primitive]
  cases (OutputEnable.setDisabled driver.oe disabled).1 with
  | ok value => exact done
  | error error => exact failed error

omit [RegisterBus B β] [OutputEnable O ω] in
theorem delayUs_views {micros : Nat} (ends : post (.ok ()) (verified, .delay micros :: trace)) :
    Views looks (delayUs micros : Action B O D β ω Unit) (verified, trace) post :=
  views_update (fun seen => (seen.1, .delay micros :: seen.2)) (fun _ => rfl) ends

omit [RegisterBus B β] [OutputEnable O ω] [Delay D] in
theorem setVerifiedOn_views {frame : Option OutputFrame} (ends : post (.ok ()) (frame, trace)) :
    Views looks (setVerifiedOn frame : Action B O D β ω Unit) (verified, trace) post :=
  views_update (fun seen => (frame, seen.2)) (fun _ => rfl) ends

omit [OutputEnable O ω] [Delay D] in
theorem readRegisters_views
    {post : Except (DriverError β ω) (Vector UInt8 24) → Looks β ω → Prop}
    (done : ∀ data, post (.ok data) (verified, readback data :: trace))
    (failed : ∀ error,
      post (.error (.bus error)) (none, .read ADDRESS [0x80] (.error error) :: trace)) :
    Views looks (readRegisters : Action B O D β ω (Vector UInt8 24)) (verified, trace) post := by
  rintro driver ⟨⟩
  simp only [readRegisters, ends_bind, ends_primitive]
  cases (RegisterBus.writeRead driver.bus ADDRESS [0x80] 24).1 with
  | ok data => exact done data
  | error error => exact failed error

omit [OutputEnable O ω] [Delay D] in
theorem verifyFrame_views {frame : OutputFrame}
    (matching : ∀ data, Matching data frame → post (.ok ()) (verified, readback data :: trace))
    (mismatch : ∀ data, post (.error .readbackMismatch) (none, readback data :: trace))
    (failed : ∀ error,
      post (.error (.bus error)) (none, .read ADDRESS [0x80] (.error error) :: trace)) :
    Views looks (verifyFrame frame : Action B O D β ω Unit) (verified, trace) post := by
  refine views_bind (readRegisters_views (fun data => ?_) failed)
  dsimp only
  by_cases same : Matching data frame
  · rw [if_pos same]
    exact views_pure (matching data same)
  · rw [if_neg same]
    exact views_bind (setVerifiedOn_views (views_fail (mismatch data)))

end

/-! ### Calls one by one -/

/-- A call has only done what was permitted since `base`. -/
def Sofar (base : Trace β ω) (previous applying : Option OutputFrame) (trace : Trace β ω) : Prop :=
  ∃ since, trace = since ++ base ∧ Disciplined base previous applying since

/-- The end of a failed call: nothing is acknowledged and a disable was issued. -/
def Abandoned (base : Trace β ω) (previous applying : Option OutputFrame) (seen : Looks β ω) :
    Prop :=
  seen.1 = none ∧ ∃ result older, seen.2 = .setDisabled true result :: older ∧
    Sofar base previous applying older

theorem Sofar.next {base since : Trace β ω} {previous applying : Option OutputFrame}
    {event : Transaction β ω} (disciplined : Disciplined base previous applying since)
    (permitted : Permitted base previous applying since event) :
    Sofar base previous applying (event :: (since ++ base)) :=
  ⟨event :: since, rfl, permitted, disciplined⟩

omit [RegisterBus B β] [Delay D] in
theorem finish_views {base trace : Trace β ω} {previous applying verified : Option OutputFrame}
    {error : DriverError β ω} (sofar : Sofar base previous applying trace) :
    Views looks (finish (.error error) : Action B O D β ω Unit) (verified, trace)
      fun result seen => result ≠ .ok () ∧ Abandoned base previous applying seen := by
  refine views_bind (setVerifiedOn_views (views_bind (setDisabled_views ?_ fun code => ?_)))
  · exact views_fail ⟨nofun, rfl, _, trace, rfl, sofar⟩
  · exact ⟨nofun, rfl, _, trace, rfl, sofar⟩

/-- What an initialization leaves after the transactions `done` of the same call. -/
def Initializes (base : Trace β ω) (previous applying : Option OutputFrame) (done : Trace β ω) :
    Except (DriverError β ω) Unit → Looks β ω → Prop
  | .ok (), seen =>
      ∃ zero, Matching zero default ∧ seen = (none, initialized zero ++ (done ++ base))
  | .error _, seen => Abandoned base previous applying seen

theorem Disciplined.initialized {base done : Trace β ω} {previous applying : Option OutputFrame}
    (disciplined : Disciplined base previous applying done) (zero : Vector UInt8 24) :
    Disciplined base previous applying (Pca9635.initialized zero ++ done) :=
  ⟨trivial, trivial, .inl rfl, .inl rfl, .inl rfl, trivial, disciplined⟩

omit [OutputEnable O ω] in
/-- The part of an initialization between the disable and its verdict. -/
theorem initialize_views {base done : Trace β ω} {previous applying verified : Option OutputFrame}
    (disciplined : Disciplined base previous applying done) :
    Views looks
      (do
        busWrite [0x01, MODE2]
        writeFrame default
        busWrite [0x00, 0x00]
        delayUs 500
        verify default : Action B O D β ω Unit)
      (verified, .setDisabled true (.ok ()) :: (done ++ base))
      fun result seen =>
        match result with
        | .ok () => ∃ zero, Matching zero default ∧
            seen = (verified, initialized zero ++ (done ++ base))
        | .error _ => Sofar base previous applying seen.2 := by
  have disabled : Disciplined base previous applying (.setDisabled true (.ok ()) :: done) :=
    ⟨trivial, disciplined⟩
  have configured := disabled.parked rfl [0x01, MODE2] (.ok ())
  have zeroed := configured.parked rfl (0x82 :: (outputFrame default).toList) (.ok ())
  have woken := zeroed.parked rfl [0x00, 0x00] (.ok ())
  have delayed : Disciplined base previous applying (.delay 500 :: _) := ⟨trivial, woken⟩
  refine views_bind (busWrite_views ?_ fun error => .next disabled (.inl rfl))
  refine views_bind (busWrite_views ?_ fun error => .next configured (.inl rfl))
  refine views_bind (busWrite_views ?_ fun error => .next zeroed (.inl rfl))
  refine views_bind (delayUs_views ?_)
  refine verifyFrame_views (fun zero same => ⟨zero, same, rfl⟩) (fun data => ?_) fun error => ?_
  · exact .next delayed trivial
  · exact .next delayed trivial

theorem initializeOff_views {base done : Trace β ω} {previous applying verified : Option OutputFrame}
    (disciplined : Disciplined base previous applying done) :
    Views looks (initializeOff : Action B O D β ω Unit) (verified, done ++ base)
      (Initializes base previous applying done) := by
  refine views_bind (setVerifiedOn_views (views_bind (setDisabled_views ?_ fun error => ?_)))
  · refine views_bind (views_attempt ((initialize_views disciplined).mono fun result seen ends => ?_))
    cases result with
    | ok value => exact views_pure ends
    | error error =>
        refine (finish_views ends).mono fun result reached abandoned => ?_
        cases result with
        | ok value => exact absurd rfl abandoned.1
        | error code => exact abandoned.2
  · exact ⟨rfl, _, _, rfl, done, rfl, disciplined⟩

/-! ### Applications -/

/-- The ways in which an application of a frame can succeed. -/
inductive Applied (base : Trace β ω) (previous : Option OutputFrame) (frame : OutputFrame) :
    Looks β ω → Prop where
  /-- A complete initialization shows the dark frame. -/
  | dark (zero : Vector UInt8 24) (done : Trace β ω) (off : frame.state.on = false)
      (zeroed : Matching zero default) (prelude : Prelude previous done) :
      Applied base previous frame (none, initialized zero ++ (done ++ base))
  /-- A complete initialization, then the frame, then an enable. -/
  | lit (zero data : Vector UInt8 24) (done : Trace β ω) (on : frame.state.on = true)
      (zeroed : Matching zero default) (shown : Matching data frame)
      (prelude : Prelude previous done) :
      Applied base previous frame
        (some frame, .setDisabled false (.ok ()) :: (established frame zero data ++ (done ++ base)))
  /-- The previous frame was read back and encodes alike. -/
  | kept (verified : OutputFrame) (data : Vector UInt8 24) (on : frame.state.on = true)
      (known : previous = some verified) (shown : Matching data verified)
      (alike : outputFrame verified = outputFrame frame) :
      Applied base previous frame (some frame, readback data :: base)
  /-- The previous frame was read back and the new one written over it. -/
  | rewritten (verified : OutputFrame) (before data : Vector UInt8 24) (on : frame.state.on = true)
      (known : previous = some verified) (showed : Matching before verified)
      (shown : Matching data frame) :
      Applied base previous frame
        (some frame, readback data :: frameWrite frame (.ok ()) :: readback before :: base)

/-- What the body of an application leaves. -/
def Applies (base : Trace β ω) (previous : Option OutputFrame) (frame : OutputFrame) :
    Except (DriverError β ω) Unit → Looks β ω → Prop
  | .ok (), seen => Applied base previous frame seen
  | .error _, seen => Sofar base previous (some frame) seen.2

theorem Abandoned.sofar {base : Trace β ω} {previous applying : Option OutputFrame}
    {seen : Looks β ω} (abandoned : Abandoned base previous applying seen) :
    Sofar base previous applying seen.2 := by
  obtain ⟨_, result, older, trace, since, rfl, disciplined⟩ := abandoned
  rw [trace]
  exact .next disciplined trivial

theorem applyParked_views {base done : Trace β ω} {previous verified : Option OutputFrame}
    {frame : OutputFrame} (prelude : Prelude previous done) :
    Views looks (applyParked frame : Action B O D β ω Unit) (verified, done ++ base)
      (Applies base previous frame) := by
  have disciplined : Disciplined base previous (some frame) done := prelude.disciplined
  refine views_bind ((initializeOff_views disciplined).mono fun result seen ends => ?_)
  cases result with
  | error error => exact ends.sofar
  | ok value =>
      obtain ⟨zero, zeroed, rfl⟩ := ends
      cases on : frame.state.on with
      | false => exact views_pure (.dark zero done on zeroed prelude)
      | true =>
          have initialized := disciplined.initialized zero
          have written := initialized.parked rfl (0x82 :: (outputFrame frame).toList) (.ok ())
          refine views_bind (busWrite_views ?_ fun error => .next initialized (.inl rfl))
          refine views_bind (verifyFrame_views (fun data shown => ?_) (fun data => ?_) fun error => ?_)
          · have enabled : Permitted base previous (some frame)
                (established frame zero data ++ done) (.setDisabled false (.ok ())) :=
              ⟨frame, zero, data, done, rfl, zeroed, shown, prelude, rfl⟩
            have read : Disciplined base previous (some frame)
                (established frame zero data ++ done) := ⟨trivial, written⟩
            refine views_bind (setDisabled_views ?_ fun error => .next read enabled)
            exact setVerifiedOn_views (.lit zero data done on zeroed shown prelude)
          · exact .next written trivial
          · exact .next written trivial

omit [OutputEnable O ω] [Delay D] in
theorem applyFast_views {base : Trace β ω} {verified frame : OutputFrame} {before : Vector UInt8 24}
    (on : frame.state.on = true) (showed : Matching before verified) :
    Views looks (applyFast verified frame : Action B O D β ω Unit)
      (some verified, readback before :: base) (Applies base (some verified) frame) := by
  have read : Disciplined base (some verified) (some frame) [readback before] := ⟨trivial, trivial⟩
  by_cases alike : outputFrame verified = outputFrame frame
  · rw [applyFast, if_neg (fun differs => differs alike)]
    exact setVerifiedOn_views (.kept verified before on rfl showed alike)
  · rw [applyFast, if_pos alike]
    have fast : ∀ result, Permitted base (some verified) (some frame) [readback before]
        (frameWrite frame result) :=
      fun result => .inr ⟨frame, verified, before, rfl, rfl, showed, rfl, rfl⟩
    have written : Disciplined base (some verified) (some frame)
        [frameWrite frame (.ok ()), readback before] := ⟨fast _, read⟩
    refine views_bind (busWrite_views ?_ fun error => .next read (fast _))
    refine views_bind (verifyFrame_views (fun data shown => ?_) (fun data => ?_) fun error => ?_)
    · exact setVerifiedOn_views (.rewritten verified before data on rfl showed shown)
    · exact .next written trivial
    · exact .next written trivial

theorem applyBody_views {base : Trace β ω} {previous : Option OutputFrame} {frame : OutputFrame} :
    Views looks (applyBody frame : Action B O D β ω Unit) (previous, base)
      (Applies base previous frame) := by
  refine views_read (fun seen => seen.1) (fun _ => rfl) ?_
  have nothing : Prelude previous ([] : Trace β ω) := .inl rfl
  cases on : frame.state.on with
  | false => exact applyParked_views nothing
  | true =>
      cases previous with
      | none => exact applyParked_views nothing
      | some verified =>
          refine views_bind (views_attempt (verifyFrame_views (fun before showed => ?_)
            (fun data => ?_) fun error => ?_))
          · exact applyFast_views on showed
          · have read : Prelude (some verified) ([readback data] : Trace β ω) :=
              .inr ⟨verified, data, rfl, rfl⟩
            exact applyParked_views read
          · exact views_fail ⟨[_], rfl, trivial, trivial⟩

/-- An application succeeds in one of these ways, or is abandoned. -/
theorem applyFrame_views {base : Trace β ω} {previous : Option OutputFrame} {frame : OutputFrame} :
    Views looks (applyFrame frame : Action B O D β ω Unit) (previous, base) fun result seen =>
      match result with
      | .ok () => Applied base previous frame seen
      | .error _ => Abandoned base previous (some frame) seen := by
  refine views_bind (views_attempt (applyBody_views.mono fun result seen ends => ?_))
  cases result with
  | ok value => exact views_pure ends
  | error error =>
      refine (finish_views ends).mono fun result reached abandoned => ?_
      cases result with
      | ok value => exact absurd rfl abandoned.1
      | error code => exact abandoned.2

end Pca9635

end KeyRight.Core
