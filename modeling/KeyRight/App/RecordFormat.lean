import KeyRight.App.Record

/-!
Owns the grammar of intent records: which byte strings decode, what a record that
needs no migration decodes from, and that a decoded record encodes to one that
decodes to the same values.

Does not own the encoder or the decoder.
-/

namespace KeyRight.App

open KeyRight.Core

/-! ### Grammar -/

/-- A temperature in mired, low byte first. -/
def ValidTemperature (lo hi : UInt8) : Prop := 143 ≤ fromLeBytes lo hi ∧ fromLeBytes lo hi ≤ 344

/-- The records that the decoder accepts. -/
inductive IntentRecord : List UInt8 → Prop where
  | version3 {on level lo hi power slo shi : UInt8} (startupLevel : UInt8) (onRange : on ≤ 1)
      (levelRange : 1 ≤ level ∧ level ≤ 254) (temperature : ValidTemperature lo hi)
      (powerRange : power ≤ 3)
      (startupTemperature : fromLeBytes slo shi = 0 ∨ ValidTemperature slo shi) :
      IntentRecord [3, on, level, lo, hi, power, startupLevel, slo, shi]
  | version2 {on preset one two : UInt8} (onRange : on ≤ 1) (presetRange : preset ≤ 1)
      (oneRange : one ≤ 3) (twoRange : two ≤ 3) : IntentRecord [2, on, preset, one, two]

/-! ### Fields -/

theorem toLeBytes_fromLeBytes (lo hi : UInt8) : toLeBytes (fromLeBytes lo hi) = (lo, hi) := by
  have low := lo.toNat_lt
  have high := hi.toNat_lt
  simp only [toLeBytes, fromLeBytes, Prod.mk.injEq]
  constructor
  · rw [← UInt8.toNat_inj, UInt8.toNat_ofNat']
    omega
  · rw [← UInt8.toNat_inj, UInt8.toNat_ofNat']
    omega

theorem presentLevel_inverse (level : UInt8) : (presentLevel level).val.getD 255 = level := by
  by_cases absent : level = 255
  · simp [presentLevel, absent]
  · simp [presentLevel, absent]

theorem presentTemperature_eq_some {value : Nat} {temperature : Option ColorTemperature} :
    presentTemperature value = some temperature ↔
      temperature.elim 0 ColorTemperature.get = value := by
  constructor
  · intro present
    unfold presentTemperature at present
    by_cases absent : value = 0
    · rw [if_pos absent] at present
      cases present
      exact absent.symm
    · rw [if_neg absent, Option.map_eq_some_iff] at present
      obtain ⟨given, built, rfl⟩ := present
      exact ColorTemperature.new_eq_some.mp built
  · rintro rfl
    exact presentTemperature_elim temperature

theorem onByte_inverse {on : UInt8} (range : on ≤ 1) :
    (if (on != 0) = true then (1 : UInt8) else 0) = on := by
  rw [UInt8.le_iff_toNat_le] at range
  by_cases off : on = 0
  · simp [off]
  · have one : on = 1 := by
      rw [← UInt8.toNat_inj] at off ⊢
      simp at range off ⊢
      omega
    simp [one]

/-! ### The decoder accepts exactly the grammar -/

/-- What a version 3 record decodes to. -/
theorem decodeRecord_version3 {version on level lo hi power startupLevel slo shi : UInt8}
    {saved : SavedState} :
    decodeRecord [version, on, level, lo, hi, power, startupLevel, slo, shi] = .ok saved ↔
      (version = 3 ∧ on ≤ 1 ∧ power ≤ 3) ∧
        saved.intended.on = (on != 0) ∧ saved.intended.level.get = level.toNat ∧
        saved.intended.temperature.get = fromLeBytes lo hi ∧
        saved.startup.power = (normalPower power).val ∧
        saved.startup.level = (presentLevel startupLevel).val ∧
        saved.startup.temperature.elim 0 ColorTemperature.get = fromLeBytes slo shi ∧
        saved.migrated = decide (1 < power) := by
  constructor
  · intro decoded
    simp only [decodeRecord] at decoded
    by_cases header : version = 3 ∧ on ≤ 1 ∧ power ≤ 3
    · rw [if_pos header] at decoded
      split at decoded
      · next foundLevel foundTemperature foundStartup level temperature startup =>
          cases decoded
          exact ⟨header, rfl, Level.new_eq_some.mp level, ColorTemperature.new_eq_some.mp temperature,
            rfl, rfl, presentTemperature_eq_some.mp startup, rfl⟩
      · cases decoded
    · rw [if_neg header] at decoded
      cases decoded
  · rintro ⟨header, on, level, temperature, power, startupLevel, startupTemperature, migrated⟩
    simp only [decodeRecord]
    rw [if_pos header, Level.new_eq_some.mpr level, ColorTemperature.new_eq_some.mpr temperature,
      presentTemperature_eq_some.mpr startupTemperature]
    obtain ⟨⟨_, _, _⟩, ⟨_, _, _, _, _⟩, _⟩ := saved
    simp only at on power startupLevel migrated
    subst on power startupLevel migrated
    rfl

theorem decodeRecord_version2 {version on preset one two : UInt8} :
    (∃ saved, decodeRecord [version, on, preset, one, two] = .ok saved) ↔
      version = 2 ∧ on ≤ 1 ∧ preset ≤ 1 ∧ one ≤ 3 ∧ two ≤ 3 := by
  simp only [decodeRecord]
  by_cases header : version = 2 ∧ on ≤ 1 ∧ preset ≤ 1 ∧ one ≤ 3 ∧ two ≤ 3
  · rw [if_pos header]
    exact ⟨fun _ => header, fun _ => ⟨_, rfl⟩⟩
  · rw [if_neg header]
    constructor
    · rintro ⟨_, wrong⟩
      cases wrong
    · exact fun valid => absurd valid header

theorem IntentRecord.decodes {bytes : List UInt8} (valid : IntentRecord bytes) :
    ∃ saved, decodeRecord bytes = .ok saved := by
  cases valid with
  | @version3 on level lo hi power slo shi startupLevel onRange levelRange temperature powerRange
      startupTemperature =>
      obtain ⟨startup, stored⟩ : ∃ startup : Option ColorTemperature,
          startup.elim 0 ColorTemperature.get = fromLeBytes slo shi := by
        rcases startupTemperature with absent | present
        · exact ⟨none, absent.symm⟩
        · exact ⟨some ⟨_, present.1, present.2⟩, rfl⟩
      obtain ⟨low, high⟩ := levelRange
      rw [UInt8.le_iff_toNat_le] at low high
      refine ⟨⟨⟨on != 0, ⟨level.toNat, low, high⟩, ⟨_, temperature.1, temperature.2⟩⟩,
        ⟨_, _, startup, (normalPower power).property, (presentLevel startupLevel).property⟩,
        decide (1 < power)⟩, ?_⟩
      exact decodeRecord_version3.mpr
        ⟨⟨rfl, onRange, powerRange⟩, rfl, rfl, rfl, rfl, rfl, stored, rfl⟩
  | version2 on preset one two => exact decodeRecord_version2.mpr ⟨rfl, on, preset, one, two⟩

theorem IntentRecord.of_decode {bytes : List UInt8} {saved : SavedState}
    (decoded : decodeRecord bytes = .ok saved) : IntentRecord bytes := by
  have answer := decoded
  unfold decodeRecord at answer
  split at answer
  · obtain ⟨⟨rfl, on, power⟩, _, level, temperature, _, _, startup, _⟩ :=
      decodeRecord_version3.mp decoded
    refine .version3 _ on ?_ ?_ power ?_
    · rw [UInt8.le_iff_toNat_le, UInt8.le_iff_toNat_le, ← level]
      exact ⟨saved.intended.level.min_le, saved.intended.level.le_max⟩
    · rw [ValidTemperature, ← temperature]
      exact ⟨saved.intended.temperature.min_le, saved.intended.temperature.le_max⟩
    · rw [ValidTemperature, ← startup]
      cases saved.startup.temperature with
      | none => exact .inl rfl
      | some present => exact .inr ⟨present.min_le, present.le_max⟩
  · obtain ⟨rfl, on, preset, one, two⟩ := decodeRecord_version2.mp ⟨saved, decoded⟩
    exact .version2 on preset one two
  · cases answer

/-! ### Records that need no migration -/

/-- A record that needs no migration is the only one that decodes to its values. -/
theorem encodeRecord_decodeRecord {bytes : List UInt8} {saved : SavedState}
    (decoded : decodeRecord bytes = .ok saved) (current : saved.migrated = false) :
    encodeRecord saved.intended saved.startup = bytes := by
  have answer := decoded
  unfold decodeRecord at answer
  split at answer
  · next version on level lo hi power startupLevel slo shi =>
      obtain ⟨⟨rfl, onRange, _⟩, onByte, levelByte, temperature, powerByte, startupByte, startup, migrated⟩ :=
        decodeRecord_version3.mp decoded
      have settled : power ≤ 1 := by
        rw [current] at migrated
        exact UInt8.not_lt.mp (of_decide_eq_false migrated.symm)
      rw [encodeRecord, onByte, onByte_inverse onRange, levelByte, temperature, powerByte,
        startupByte, startup, normalPower_of_le settled, presentLevel_inverse,
        toLeBytes_fromLeBytes, toLeBytes_fromLeBytes, UInt8.ofNat_toNat]
  · split at answer
    · cases answer
      cases current
    · cases answer
  · cases answer

/-- The codec of intent records: encoding and decoding is the identity, the decoder accepts
exactly the grammar, a record that needs no migration is reproduced byte for byte, and
decoded settings are those that the setters accept, which encode and decode again. -/
theorem intentRecord_codec :
    (∀ (state : LightState) (startup : Startup),
      decodeRecord (encodeRecord state startup) = .ok ⟨state, startup, false⟩) ∧
    (∀ bytes, (∃ saved, decodeRecord bytes = .ok saved) ↔ IntentRecord bytes) ∧
    ∀ bytes saved, decodeRecord bytes = .ok saved →
      (saved.migrated = false → encodeRecord saved.intended saved.startup = bytes) ∧
      (saved.startup.power = 0 ∨ saved.startup.power = 1) ∧ saved.startup.level ≠ some 255 ∧
      decodeRecord (encodeRecord saved.intended saved.startup) =
        .ok { saved with migrated := false } := by
  refine ⟨decodeRecord_encodeRecord, fun bytes => ⟨?_, IntentRecord.decodes⟩, ?_⟩
  · rintro ⟨saved, decoded⟩
    exact .of_decode decoded
  · intro bytes saved decoded
    refine ⟨encodeRecord_decodeRecord decoded, ?_, saved.startup.level_ne,
      decodeRecord_encodeRecord saved.intended saved.startup⟩
    have range := saved.startup.power_le
    rw [UInt8.le_iff_toNat_le] at range
    rw [← UInt8.toNat_inj, ← UInt8.toNat_inj]
    exact Nat.le_one_iff_eq_zero_or_eq_one.mp range

end KeyRight.App
