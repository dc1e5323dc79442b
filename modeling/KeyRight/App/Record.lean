import KeyRight.Core.Light

/-!
Owns the durable intent record of `firmware/app/src/runtime.rs`: start-up
settings, the version 3 encoding, the decoder with its migration of version 2,
and the restored intent.

Start-up settings that the setters reject cannot be built: the power policy is 0
(restore) or 1 (Off), and 255 stands only for an absent level.

Does not own the store behind the record.
-/

namespace KeyRight.App

open KeyRight.Core

inductive Fault where
  | none
  | storage
  | invalidRecord
  | output
  | rebooting
deriving DecidableEq, Repr

structure Startup where
  power : UInt8
  level : Option UInt8
  temperature : Option ColorTemperature
  power_le : power ≤ 1
  level_ne : level ≠ some 255
deriving DecidableEq

theorem Startup.restore_le : (0 : UInt8) ≤ 1 := by decide

theorem Startup.off_le : (1 : UInt8) ≤ 1 := by decide

instance : Inhabited Startup := ⟨⟨0, none, none, Startup.restore_le, by decide⟩⟩

structure SavedState where
  intended : LightState
  startup : Startup
  migrated : Bool
deriving DecidableEq

instance : Inhabited SavedState := ⟨⟨default, default, false⟩⟩

/-! ### Encoding -/

def toLeBytes (value : Nat) : UInt8 × UInt8 := (UInt8.ofNat value, UInt8.ofNat (value / 256))

def fromLeBytes (low high : UInt8) : Nat := low.toNat + 256 * high.toNat

theorem fromLeBytes_toLeBytes {value : Nat} (bound : value < 65536) :
    fromLeBytes (toLeBytes value).1 (toLeBytes value).2 = value := by
  simp only [fromLeBytes, toLeBytes, UInt8.toNat_ofNat']
  omega

def encodeRecord (state : LightState) (startup : Startup) : List UInt8 :=
  let temperature := toLeBytes state.temperature.get
  let startupTemperature := toLeBytes (startup.temperature.elim 0 ColorTemperature.get)
  [3, if state.on then 1 else 0, UInt8.ofNat state.level.get, temperature.1, temperature.2,
    startup.power, startup.level.getD 255, startupTemperature.1, startupTemperature.2]

/-! ### Decoding -/

/-- Legacy On/Toggle policies must not turn a saved Off on. -/
def normalPower (power : UInt8) : { power : UInt8 // power ≤ 1 } :=
  if power = 1 then ⟨1, Startup.off_le⟩ else ⟨0, Startup.restore_le⟩

/-- 255 stands for an absent level. -/
def presentLevel (level : UInt8) : { level : Option UInt8 // level ≠ some 255 } :=
  if absent : level = 255 then ⟨none, by simp⟩ else ⟨some level, by simpa using absent⟩

/-- 0 stands for an absent temperature. -/
def presentTemperature (value : Nat) : Option (Option ColorTemperature) :=
  if value = 0 then some none else (ColorTemperature.new value).map some

def decodeRecord : List UInt8 → Except Fault SavedState
  | [version, on, level, lo, hi, power, startupLevel, slo, shi] =>
      if version = 3 ∧ on ≤ 1 ∧ power ≤ 3 then
        match Level.new level.toNat, ColorTemperature.new (fromLeBytes lo hi),
          presentTemperature (fromLeBytes slo shi) with
        | some level, some temperature, some startupTemperature =>
            .ok
              { intended := ⟨on != 0, level, temperature⟩
                startup :=
                  { power := (normalPower power).val
                    level := (presentLevel startupLevel).val
                    temperature := startupTemperature
                    power_le := (normalPower power).property
                    level_ne := (presentLevel startupLevel).property }
                migrated := 1 < power }
        | _, _, _ => .error .invalidRecord
      else .error .invalidRecord
  | [version, on, preset, one, two] =>
      -- The previous two-preset record: keep its power and temperature.
      if version = 2 ∧ on ≤ 1 ∧ preset ≤ 1 ∧ one ≤ 3 ∧ two ≤ 3 then
        .ok
          { intended :=
              { (default : LightState) with
                on := on != 0
                temperature :=
                  if preset = 0 then Preset.one.temperature else Preset.two.temperature }
            startup :=
              { (default : Startup) with
                power := (normalPower (if preset = 0 then one else two)).val
                power_le := (normalPower (if preset = 0 then one else two)).property }
            migrated := true }
      else .error .invalidRecord
  | _ => .error .invalidRecord

@[simp] theorem normalPower_of_le {power : UInt8} (bound : power ≤ 1) :
    (normalPower power).val = power := by
  unfold normalPower
  split
  · next one => exact one.symm
  · next other =>
      rw [UInt8.le_iff_toNat_le] at bound
      rw [← UInt8.toNat_inj] at other ⊢
      simp at bound other ⊢
      omega

@[simp] theorem presentLevel_getD {level : Option UInt8} (valid : level ≠ some 255) :
    (presentLevel (level.getD 255)).val = level := by
  cases level with
  | none => rfl
  | some value =>
      have present : value ≠ 255 := fun equal => valid (congrArg some equal)
      simp [presentLevel, present]

@[simp] theorem presentTemperature_elim (temperature : Option ColorTemperature) :
    presentTemperature (temperature.elim 0 ColorTemperature.get) = some temperature := by
  cases temperature with
  | none => rfl
  | some value =>
      have positive : value.get ≠ 0 := by have := value.min_le; omega
      simp [presentTemperature, positive]

theorem elim_temperature_lt (temperature : Option ColorTemperature) :
    temperature.elim 0 ColorTemperature.get < 65536 := by
  cases temperature with
  | none => decide
  | some value =>
      have bound := value.le_max
      simp only [Option.elim_some]
      omega

/-- A stored record decodes to exactly what was encoded. -/
theorem decodeRecord_encodeRecord (state : LightState) (startup : Startup) :
    decodeRecord (encodeRecord state startup) = .ok ⟨state, startup, false⟩ := by
  have levelByte : (UInt8.ofNat state.level.get).toNat = state.level.get := by
    have bound := state.level.le_max
    rw [UInt8.toNat_ofNat']
    omega
  have temperatureBytes := fromLeBytes_toLeBytes
    (show state.temperature.get < 65536 by have := state.temperature.le_max; omega)
  have startupBytes := fromLeBytes_toLeBytes (elim_temperature_lt startup.temperature)
  have onByte : (if state.on then (1 : UInt8) else 0) ≤ 1 := by split <;> decide
  have powerByte : startup.power ≤ 3 := UInt8.le_trans startup.power_le (by decide)
  have settled : ¬1 < startup.power := UInt8.not_lt.mpr startup.power_le
  have on : ((if state.on then (1 : UInt8) else 0) != 0) = state.on := by
    cases state.on <;> rfl
  simp only [encodeRecord, decodeRecord, onByte, powerByte, and_self, if_true, levelByte, temperatureBytes, startupBytes,
    Level.new_get, ColorTemperature.new_get, presentTemperature_elim,
    normalPower_of_le startup.power_le, presentLevel_getD startup.level_ne, on, settled,
    decide_false]

theorem decodeRecord_error {bytes : List UInt8} {fault : Fault}
    (failed : decodeRecord bytes = .error fault) : fault = .invalidRecord := by
  unfold decodeRecord at failed
  repeat' split at failed
  all_goals cases failed
  all_goals rfl

/-! ### Restored intent -/

/-- A start-up level, raised to the nonzero floor. -/
def raisedLevel (level : UInt8) (valid : level ≠ 255) : Level :=
  (Level.new (max level.toNat 1)).get (by
    have bound := level.toNat_lt
    have below : level.toNat ≠ 255 := fun equal => valid (UInt8.toNat_inj.mp equal)
    rw [Level.new_of_range (by omega) (by omega)]
    rfl)

/-- Restore validated power intent unless the user explicitly chose Off. Missing
or unreadable intent never becomes an assumed On. -/
def startupIntent (restored : LightState) (startup : Startup) : LightState where
  on := restored.on && startup.power != 1
  level :=
    match level : startup.level with
    | some value => raisedLevel value fun equal => startup.level_ne (equal ▸ level)
    | none => restored.level
  temperature := startup.temperature.getD restored.temperature

theorem startupIntent_on {restored : LightState} {startup : Startup}
    (on : (startupIntent restored startup).on = true) :
    restored.on = true ∧ startup.power ≠ 1 := by
  simpa [startupIntent] using on

end KeyRight.App
