import KeyRight.App.Operation
import KeyRight.Core.Pca9635
import Mathlib.Logic.Function.Basic

/-!
Owns the in-memory output of the bench image, as in `firmware/app/src/light.rs`,
and the in-memory stores of the host tests: one that never fails, and one whose reads
fail a number of times.

Does not own the physical output.
-/

namespace KeyRight.App

open KeyRight.Core

/-! ### Output -/

structure SimulatedOutput where
  applied : OutputFrame
deriving DecidableEq

instance : Inhabited SimulatedOutput := ⟨⟨default⟩⟩

/-- The 24 registers from MODE1 on that show a frame. -/
def simulatedRegisters (frame : OutputFrame) : Vector UInt8 24 :=
  (#v[0, MODE2] ++ outputFrame frame).cast (by decide)

instance : Hardware SimulatedOutput where
  applyFrame _ frame := (.ok (), ⟨frame⟩)
  shutdown output :=
    (.ok (), ⟨OutputFrame.fromState { output.applied.state with on := false }⟩)
  verifyFrame output frame :=
    if outputFrame frame = outputFrame output.applied then (.ok (), output)
    else (.error .readback, output)
  registers output := (.ok (simulatedRegisters output.applied), output)

/-! ### Store -/

structure MemoryStore where
  records : UInt16 → Option (List UInt8)

/-- A fresh store. -/
instance : Inhabited MemoryStore := ⟨⟨fun _ => none⟩⟩

instance : LawfulKvBlobStore MemoryStore where
  vendorKeysStart := 0x1000
  load kv key := (.ok (kv.records key), kv)
  store kv key data := (.ok (), ⟨Function.update kv.records key (some data)⟩)
  contents kv := kv.records
  load_ok := by
    intro kv key found answered
    cases answered
    rfl
  load_contents := fun _ _ => rfl
  store_ok := by
    intro kv key data _
    exact Function.update_self key (some data) kv.records
  store_error := by
    intro kv key data code refused
    cases refused

/-- An in-memory store whose next reads fail. -/
structure FlakyStore where
  records : UInt16 → Option (List UInt8)
  faults : Nat

instance : LawfulKvBlobStore FlakyStore where
  vendorKeysStart := 0x1000
  load kv key :=
    if kv.faults = 0 then (.ok (kv.records key), kv)
    else (.error .failure, { kv with faults := kv.faults - 1 })
  store kv key data := (.ok (), { kv with records := Function.update kv.records key (some data) })
  contents kv := kv.records
  load_ok := by
    intro kv key found answered
    by_cases sound : kv.faults = 0
    · rw [if_pos sound] at answered
      cases answered
      rfl
    · rw [if_neg sound] at answered
      cases answered
  load_contents := by
    intro kv key
    by_cases sound : kv.faults = 0
    · rw [if_pos sound]
    · rw [if_neg sound]
  store_ok := by
    intro kv key data _
    exact Function.update_self key (some data) kv.records
  store_error := by
    intro kv key data code refused
    cases refused

/-- A store that holds `bytes` as its intent and fails to read it a number of times. -/
def FlakyStore.holding (bytes : Option (List UInt8)) (faults : Nat) : FlakyStore :=
  ⟨Function.update (fun _ => none) (INTENT_KEY FlakyStore) bytes, faults⟩

/-- A bench image on a store that holds `bytes` as its intent. -/
def Runtime.bench (bytes : Option (List UInt8)) : Runtime MemoryStore SimulatedOutput :=
  Runtime.load ⟨Function.update (fun _ => none) (INTENT_KEY MemoryStore) bytes⟩ default

end KeyRight.App
