import KeyRight.App.Network
import KeyRight.App.Operation
import KeyRight.Support.Framing
import Mathlib.Data.List.Induction

/-!
Owns the local USB console of `firmware/app/src/console.rs`: how bytes become lines, how a line
is read as a request, and what a request does to the runtime and to the network.

The texts that name the image, its error codes and its pairing data are parameters, as are the
fields of a status that only a host reads. Does not own the queue that replies are written to.
-/

namespace KeyRight.App

open KeyRight.Core KeyRight.Support

/-! ### Lines -/

def NEWLINE : UInt8 := 10
def CARRIAGE_RETURN : UInt8 := 13

/-- Capacity of a line. -/
def LINE_CAPACITY : Nat := 256

/-- `0x20..=0x7e`. -/
def isPrintable (byte : UInt8) : Bool := 0x20 ≤ byte && byte ≤ 0x7e

/-- Printable characters that fit the buffer. -/
structure ConsoleLine where
  bytes : List UInt8
  printable : ∀ byte ∈ bytes, isPrintable byte
  fits : bytes.length ≤ LINE_CAPACITY

namespace ConsoleLine

@[ext] theorem ext {left right : ConsoleLine} (same : left.bytes = right.bytes) : left = right := by
  cases left
  cases right
  simp_all

instance : Inhabited ConsoleLine := ⟨[], nofun, Nat.zero_le _⟩

def push (line : ConsoleLine) (byte : UInt8) : Option ConsoleLine :=
  if room : isPrintable byte ∧ line.bytes.length < LINE_CAPACITY then
    some
      { bytes := line.bytes ++ [byte]
        printable := fun other member => (List.mem_append.mp member).elim (line.printable other)
          fun last => List.mem_singleton.mp last ▸ room.1
        fits := by rw [List.length_append]; exact room.2 }
  else none

/-- The line as the text that it is read as. -/
def chars (line : ConsoleLine) : List Char := line.bytes.map fun byte => Char.ofNat byte.toNat

end ConsoleLine

/-- What the console holds of an unfinished line. -/
structure PendingLine where
  line : ConsoleLine
  overflow : Bool

instance : Inhabited PendingLine := ⟨⟨default, false⟩⟩

namespace PendingLine

def push (pending : PendingLine) (byte : UInt8) : PendingLine :=
  if byte = CARRIAGE_RETURN then pending
  else
    match pending.line.push byte with
    | some line => { pending with line := line }
    | none => { pending with overflow := true }

/-- The line at its end, unless it overflowed. -/
def finish (pending : PendingLine) : Option ConsoleLine :=
  if pending.overflow then none else some pending.line

end PendingLine

/-- The line that is read from these bytes: without the carriage returns it is printable and fits. -/
def ConsoleLine.ofBytes (line : List UInt8) : Option ConsoleLine :=
  let bytes := line.filter (· ≠ CARRIAGE_RETURN)
  if valid : bytes.all isPrintable ∧ bytes.length ≤ LINE_CAPACITY then
    some ⟨bytes, List.all_eq_true.mp valid.1, valid.2⟩
  else none

/-- What is pending after some bytes, given those that are not carriage returns. -/
structure PendingLine.Holds (pending : PendingLine) (bytes : List UInt8) : Prop where
  overflows : pending.overflow = false ↔
    (∀ byte ∈ bytes, isPrintable byte) ∧ bytes.length ≤ LINE_CAPACITY
  holds : pending.overflow = false → pending.line.bytes = bytes

theorem PendingLine.Holds.push {pending : PendingLine} {bytes : List UInt8}
    (holds : pending.Holds bytes) {byte : UInt8} (other : byte ≠ CARRIAGE_RETURN) :
    (pending.push byte).Holds (bytes ++ [byte]) := by
  have extended : (∀ unit ∈ bytes ++ [byte], isPrintable unit) ∧
      (bytes ++ [byte]).length ≤ LINE_CAPACITY ↔
      (∀ unit ∈ bytes, isPrintable unit) ∧ isPrintable byte ∧ bytes.length < LINE_CAPACITY := by
    simp only [List.forall_mem_append, List.forall_mem_singleton, List.length_append,
      List.length_singleton, Nat.lt_iff_add_one_le, and_assoc]
  unfold PendingLine.push ConsoleLine.push
  rw [if_neg other]
  cases full : pending.overflow with
  | true =>
      have lost : ¬((∀ unit ∈ bytes ++ [byte], isPrintable unit) ∧
          (bytes ++ [byte]).length ≤ LINE_CAPACITY) := by
        intro valid
        obtain ⟨printable, _, room⟩ := extended.mp valid
        rw [holds.overflows.mpr ⟨printable, room.le⟩] at full
        cases full
      have still : ∀ overflow, overflow = true → (overflow = false ↔
          (∀ unit ∈ bytes ++ [byte], isPrintable unit) ∧
            (bytes ++ [byte]).length ≤ LINE_CAPACITY) := by
        intro overflow stays
        rw [stays]
        exact ⟨nofun, fun valid => absurd valid lost⟩
      by_cases room : isPrintable byte ∧ pending.line.bytes.length < LINE_CAPACITY
      · rw [dif_pos room]
        exact ⟨still _ rfl, nofun⟩
      · rw [dif_neg room]
        exact ⟨still _ rfl, nofun⟩
  | false =>
      obtain ⟨printable, fits⟩ := holds.overflows.mp full
      have same := holds.holds full
      by_cases room : isPrintable byte ∧ pending.line.bytes.length < LINE_CAPACITY
      · rw [dif_pos room]
        rw [same] at room
        refine ⟨iff_of_true rfl (extended.mpr ⟨printable, room⟩), fun _ => ?_⟩
        simp only [same]
      · rw [dif_neg room]
        rw [same] at room
        refine ⟨?_, nofun⟩
        simp only [extended, room, and_false, iff_false]
        decide

theorem PendingLine.holds_foldl (line : List UInt8) :
    (line.foldl PendingLine.push default).Holds (line.filter (· ≠ CARRIAGE_RETURN)) := by
  induction line using List.reverseRecOn with
  | nil => exact ⟨iff_of_true rfl ⟨by simp, Nat.zero_le _⟩, fun _ => rfl⟩
  | append_singleton line byte inductionHypothesis =>
      rw [List.foldl_append, List.foldl_cons, List.foldl_nil, List.filter_append]
      by_cases ignored : byte = CARRIAGE_RETURN
      · simpa [PendingLine.push, ignored] using inductionHypothesis
      · simpa [ignored] using inductionHypothesis.push ignored

theorem PendingLine.finish_foldl (line : List UInt8) :
    (line.foldl PendingLine.push default).finish = ConsoleLine.ofBytes line := by
  have holds := holds_foldl line
  unfold finish ConsoleLine.ofBytes
  cases full : (line.foldl PendingLine.push default).overflow with
  | true =>
      rw [if_pos rfl, dif_neg]
      intro valid
      rw [holds.overflows.mpr ⟨List.all_eq_true.mp valid.1, valid.2⟩] at full
      cases full
  | false =>
      obtain ⟨printable, fits⟩ := holds.overflows.mp full
      rw [if_neg Bool.false_ne_true, dif_pos ⟨List.all_eq_true.mpr printable, fits⟩]
      exact congrArg some (ConsoleLine.ext (holds.holds full))

/-- The console as a reader of lines. -/
def consoleReader : LineReader UInt8 PendingLine (Option ConsoleLine) :=
  ⟨default, PendingLine.push, PendingLine.finish⟩

/-! ### Words -/

def isAsciiWhitespace (c : Char) : Bool := [' ', '\t', '\n', '\x0c', '\r'].contains c

/-- `split_ascii_whitespace`. -/
def splitWords (text : List Char) : List String :=
  ((text.splitOnP isAsciiWhitespace).filter fun word => word ≠ []).map String.ofList

/-- `trim`: of the whitespace, a line can only hold blanks. -/
def trim (text : List Char) : String :=
  String.ofList ((text.dropWhile (· == ' ')).reverse.dropWhile (· == ' ')).reverse

def accumulate (max : Nat) : Nat → List Char → Option Nat
  | value, [] => some value
  | value, c :: rest =>
      if c.isDigit ∧ 10 * value + (c.toNat - '0'.toNat) ≤ max then
        accumulate max (10 * value + (c.toNat - '0'.toNat)) rest
      else none

/-- `parse` of an unsigned type whose largest value is `max`. -/
def parseUnsigned (max : Nat) (text : List Char) : Option Nat :=
  match text with
  | [] => none
  | ['+'] => none
  | '+' :: digits => accumulate max 0 digits
  | digits => accumulate max 0 digits

/-! ### Requests -/

inductive ConsoleRequest where
  | testWifi
  | testNetwork
  | reboot
  | testWatchdog
  | status
  | off
  | on
  | preset (preset : Preset)
  /-- `none` stands for a value out of range. -/
  | level (level : Option Level)
  | temperature (temperature : Option ColorTemperature)
  | verify
  | registers
  | commissioning (qr : Bool)
  | arguments
  | usage
deriving DecidableEq, Repr

namespace ConsoleRequest

/-- `command`: at most three arguments. -/
def ofWords : List String → ConsoleRequest
  | _ :: _ :: _ :: _ :: _ :: _ => .arguments
  | ["status"] => .status
  | ["off"] => .off
  | ["on"] => .on
  | ["on", "1"] => .preset .one
  | ["on", "2"] => .preset .two
  | ["level", value] => .level ((parseUnsigned 255 value.toList).bind Level.new)
  | ["temperature", value] =>
      .temperature ((parseUnsigned 65535 value.toList).bind ColorTemperature.new)
  | ["verify"] => .verify
  | ["registers"] => .registers
  | ["outputs"] => .registers
  | ["on1"] => .preset .one
  | ["on2"] => .preset .two
  | ["commissioning", "code"] => .commissioning false
  | ["commissioning", "qr"] => .commissioning true
  | _ => .usage

/-- The tests and the reboot are looked for first, in the whole line. -/
def parse (text : List Char) : ConsoleRequest :=
  if trim text = "test wifi" then .testWifi
  else if trim text = "test network" then .testNetwork
  else if trim text = "reboot" then .reboot
  else if trim text = "test watchdog" then .testWatchdog
  else ofWords (splitWords text)

/-- The call of the runtime that the request makes. -/
def operation : ConsoleRequest → Option Operation
  | .off => some .off
  | .on => some (.setPower true)
  | .preset selected =>
      some (.request { (default : LightState) with on := true, temperature := selected.temperature })
  | .level (some value) => some (.setLevel value false)
  | .temperature (some value) => some (.setTemperature value)
  | .verify => some .verify
  | .registers => some .registers
  | .reboot => some .prepareReboot
  | .testWatchdog => some .watchdogTestReady
  | _ => none

end ConsoleRequest

/-! ### Answers -/

/-- Texts of an image. -/
structure ConsoleTexts where
  mode : String
  debug : ErrorCode → String
  status : Runtime.Snapshot → Nat → Nat → Network → String
  pairing : String
  pairingQr : String

inductive ConsoleAnswer where
  | reply (text : String)
  /-- The transport is told to restart once the text is flushed. -/
  | restartsNetwork (text : String)
  /-- The controller is reset once the text is flushed. -/
  | resets (text : String)
  /-- The console never yields again. -/
  | stalls (text : String)
deriving DecidableEq, Repr

/-- What the console asks its surroundings while it handles a line. -/
structure ConsoleContext where
  commissioned : Bool
  opened : Except ErrorCode Unit

structure Console (K H : Type) where
  runtime : Runtime K H
  network : Network

namespace ConsoleTexts

/-- The end of `command`. -/
def outcome (texts : ConsoleTexts) {α : Type} (result : Except ErrorCode α) (ok : α → String) : String :=
  match result with
  | .ok value => ok value
  | .error code => "KR ERR " ++ texts.debug code

/-- Two lower-case digits. -/
def hexByte (byte : UInt8) : String :=
  String.ofList [Nat.digitChar (byte.toNat / 16), Nat.digitChar (byte.toNat % 16)]

def registers (texts : ConsoleTexts) (data : Vector UInt8 24) : String :=
  "KR OK mode=" ++ texts.mode ++ " backend=pca9635 address=0x15 registers=" ++
    String.join (data.toList.map hexByte) ++ " physical_output=unmeasured"

end ConsoleTexts

namespace Console

variable {K H : Type} [KvBlobStore K] [Hardware H]

def operated (c : Console K H) (operation : Operation) : Console K H :=
  { c with runtime := c.runtime.after operation }

def answer (texts : ConsoleTexts) (context : ConsoleContext) (c : Console K H) :
    ConsoleRequest → Console K H × ConsoleAnswer
  | .testWifi =>
      if !context.commissioned then (c, .reply "KR ERR requires_commissioned_device")
      else
        match c.network.requestDisconnect with
        | .ok network =>
            ({ c with network := network },
              .reply "KR OK wifi_disconnect_requested intent_preserved=true")
        | .error code => (c, .reply ("KR ERR " ++ texts.debug code))
  | .testNetwork =>
      if !context.commissioned then (c, .reply "KR ERR requires_commissioned_device")
      else (c, .restartsNetwork "KR OK network_restart_requested intent_preserved=true")
  | .reboot =>
      let verified : Bool := (Runtime.prepareReboot.start c.runtime).1 matches .ok true
      (c.operated .prepareReboot,
        .resets ("KR OK rebooting intent_preserved=true off_registers_verified=" ++
          toString verified))
  | .testWatchdog =>
      match c.runtime.outcome .watchdogTestReady with
      | .ok _ =>
          (c.operated .watchdogTestReady,
            .stalls "KR OK watchdog_test reset_expected_seconds=15 intent_preserved=true")
      | .error code => (c.operated .watchdogTestReady, .reply ("KR ERR " ++ texts.debug code))
  | .status =>
      (c, .reply ("KR OK mode=" ++ texts.mode ++ texts.status c.runtime.snapshot
        c.runtime.levelRemainingMs c.runtime.temperatureRemainingMs c.network))
  | .registers =>
      (c.operated .registers,
        .reply (texts.outcome (Runtime.registers.start c.runtime).1 texts.registers))
  | .commissioning qr =>
      (c, .reply
        (match context.opened with
        | .error code => "KR ERR commissioning_window_" ++ texts.debug code
        | .ok () =>
            if qr then "KR OK qr_payload=" ++ texts.pairingQr else "KR OK pairing_code=" ++ texts.pairing))
  | .arguments => (c, .reply "KR ERR arguments")
  | .usage =>
      (c, .reply "KR ERR commands=status|off|on|level_1..254|temperature_143..344|on_1_or_2|verify|registers|commissioning_code|commissioning_qr|reboot|test_watchdog|test_wifi|test_network")
  | request =>
      match request.operation with
      | some operation =>
          (c.operated operation,
            .reply (texts.outcome (c.runtime.outcome operation) fun _ => "KR OK"))
      | none => (c, .reply ("KR ERR " ++ texts.debug .constraintError))

/-- A finished line. -/
def handle (texts : ConsoleTexts) (context : ConsoleContext) (c : Console K H) :
    Option ConsoleLine → Console K H × ConsoleAnswer
  | none => (c, .reply "KR ERR line_too_long")
  | some line => c.answer texts context (ConsoleRequest.parse line.chars)

end Console

end KeyRight.App
