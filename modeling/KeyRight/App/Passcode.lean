import KeyRight.App.RetryIo
import KeyRight.App.Runtime
import Mathlib.Logic.Function.Basic
import KeyRight.Support.Run

/-!
Owns the commissioning credential of `firmware/app/src/boot.rs`: `commissioning_passcode`
restores it before it considers a fresh one, and is retried as a whole by `retry_io`; the
boots of a lamp share the record and nothing else.

The random words that will be drawn until the power is cut are given with the boot. A store
that fails may or may not have written the new record. Does not own the storage.
-/

namespace KeyRight.App.Passcode

open KeyRight.Support

/-! ### Permitted passcodes -/

def INVALID_DATA : ErrorCode := .other 1

def obvious : List Nat :=
  [11111111, 22222222, 33333333, 44444444, 55555555, 66666666, 77777777, 88888888, 12345678,
    87654321]

def validPasscode (value : UInt32) : Bool :=
  decide (1 ≤ value.toNat ∧ value.toNat ≤ 99999998) && !obvious.contains value.toNat

/-- Eight decimal digits, neither all the same nor one of the two plain sequences. -/
structure Permitted (value : Nat) : Prop where
  digits : value < 10 ^ 8
  varied : ∀ digit < 10, value ≠ digit * 11111111
  irregular : value ≠ 12345678 ∧ value ≠ 87654321

theorem obvious_known : ∀ other ∈ obvious,
    (∃ digit < 10, other = digit * 11111111) ∨ other = 12345678 ∨ other = 87654321 := by decide

theorem repeated_known : ∀ digit < 10,
    digit = 0 ∨ digit = 9 ∨ digit * 11111111 ∈ obvious := by decide

theorem validPasscode_iff {value : UInt32} :
    validPasscode value = true ↔ Permitted value.toNat := by
  have plain : validPasscode value = true ↔
      (1 ≤ value.toNat ∧ value.toNat ≤ 99999998) ∧ ∀ other ∈ obvious, value.toNat ≠ other := by
    rw [validPasscode, Bool.and_eq_true, decide_eq_true_eq, Bool.not_eq_true', List.contains_eq_mem,
      decide_eq_false_iff_not, List.forall_mem_ne]
  rw [plain]
  constructor
  · rintro ⟨⟨positive, bounded⟩, others⟩
    refine ⟨by omega, fun digit small same => ?_, others _ (by decide), others _ (by decide)⟩
    rcases repeated_known digit small with rfl | rfl | listed
    · omega
    · omega
    · exact others _ listed same
  · rintro ⟨digits, varied, irregular⟩
    have zeros := varied 0 (by decide)
    have nines := varied 9 (by decide)
    refine ⟨by omega, fun other member same => ?_⟩
    rcases obvious_known other member with ⟨digit, small, rfl⟩ | rfl | rfl
    · exact varied digit small same
    · exact irregular.1 same
    · exact irregular.2 same

/-! ### Four little-endian bytes -/

def toLeBytes (value : UInt32) : List UInt8 :=
  [UInt8.ofNat value.toNat, UInt8.ofNat (value.toNat / 256), UInt8.ofNat (value.toNat / 65536),
    UInt8.ofNat (value.toNat / 16777216)]

def fromLeBytes (b0 b1 b2 b3 : UInt8) : UInt32 :=
  UInt32.ofNat (b0.toNat + 256 * b1.toNat + 65536 * b2.toNat + 16777216 * b3.toNat)

theorem toLeBytes_fromLeBytes (b0 b1 b2 b3 : UInt8) :
    toLeBytes (fromLeBytes b0 b1 b2 b3) = [b0, b1, b2, b3] := by
  have h0 := b0.toNat_lt
  have h1 := b1.toNat_lt
  have h2 := b2.toNat_lt
  have h3 := b3.toNat_lt
  have value : (fromLeBytes b0 b1 b2 b3).toNat =
      b0.toNat + 256 * b1.toNat + 65536 * b2.toNat + 16777216 * b3.toNat := by
    rw [fromLeBytes, UInt32.toNat_ofNat']
    omega
  simp only [toLeBytes, value, List.cons.injEq, ← UInt8.toNat_inj, UInt8.toNat_ofNat', and_true]
  omega

theorem toLeBytes_injective {first second : UInt32} (same : toLeBytes first = toLeBytes second) :
    first = second := by
  have bound := first.toNat_lt
  have bound' := second.toNat_lt
  simp only [toLeBytes, List.cons.injEq, ← UInt8.toNat_inj, UInt8.toNat_ofNat', and_true] at same
  rw [← UInt32.toNat_inj]
  omega

/-- A restored record, if it holds a permitted passcode. -/
def decode : List UInt8 → Except ErrorCode UInt32
  | [b0, b1, b2, b3] =>
      if validPasscode (fromLeBytes b0 b1 b2 b3) then .ok (fromLeBytes b0 b1 b2 b3)
      else .error INVALID_DATA
  | _ => .error INVALID_DATA

/-- The record is the four bytes of this permitted passcode. -/
def Encodes (data : List UInt8) (passcode : UInt32) : Prop :=
  Permitted passcode.toNat ∧ data = toLeBytes passcode

theorem decode_ok {data : List UInt8} {passcode : UInt32} (restored : decode data = .ok passcode) :
    Encodes data passcode := by
  unfold decode at restored
  split at restored
  · rename_i b0 b1 b2 b3
    by_cases valid : validPasscode (fromLeBytes b0 b1 b2 b3)
    · rw [if_pos valid] at restored
      cases restored
      exact ⟨validPasscode_iff.mp valid, (toLeBytes_fromLeBytes b0 b1 b2 b3).symm⟩
    · rw [if_neg valid] at restored
      cases restored
  · cases restored

theorem decode_error {data : List UInt8} (bad : ∀ passcode, ¬Encodes data passcode) :
    decode data = .error INVALID_DATA := by
  cases restored : decode data with
  | ok passcode => exact absurd (decode_ok restored) (bad passcode)
  | error code =>
      unfold decode at restored
      split at restored
      · split at restored
        · cases restored
        · rw [← restored]
      · rw [← restored]

theorem decode_toLeBytes {passcode : UInt32} (permitted : Permitted passcode.toNat) :
    decode (toLeBytes passcode) = .ok passcode := by
  have same := toLeBytes_injective (toLeBytes_fromLeBytes (UInt8.ofNat passcode.toNat)
    (UInt8.ofNat (passcode.toNat / 256)) (UInt8.ofNat (passcode.toNat / 65536))
    (UInt8.ofNat (passcode.toNat / 16777216)))
  simp only [decode, toLeBytes, same, validPasscode_iff.mpr permitted, if_true]

/-- A record is never mistaken for a fault of the storage. -/
theorem decode_ne_storage (data : List UInt8) : decode data ≠ .error STD_IO_ERROR := by
  intro storage
  by_cases encoded : ∃ passcode, Encodes data passcode
  · obtain ⟨passcode, permitted, rfl⟩ := encoded
    rw [decode_toLeBytes permitted] at storage
    cases storage
  · rw [decode_error (not_exists.mp encoded)] at storage
    cases storage

/-! ### Storage -/

/-- A store that loads what it holds, and of which a failed write may or may not have been
kept. -/
class FallibleKvBlobStore (K : Type) extends KvBlobStore K where
  contents : K → UInt16 → Option (List UInt8)
  load_ok : ∀ kv key found, (load kv key).1 = .ok found → found = contents kv key
  load_contents : ∀ kv key, contents (load kv key).2 = contents kv
  store_ok : ∀ kv key data, (store kv key data).1 = .ok () →
    contents (store kv key data).2 key = some data
  store_error : ∀ kv key data code, (store kv key data).1 = .error code →
    contents (store kv key data).2 key = contents kv key ∨
      contents (store kv key data).2 key = some data

variable {K : Type} [FallibleKvBlobStore K]

def COMMISSIONING_KEY (K : Type) [KvBlobStore K] : UInt16 := KvBlobStore.vendorKeysStart K

/-- The credential of the lamp. -/
def record (kv : K) : Option (List UInt8) := FallibleKvBlobStore.contents kv (COMMISSIONING_KEY K)

/-! ### The credential -/

/-- Rejection sampling is uniform over permitted Matter passcodes. -/
def draw : List UInt32 → Option (UInt32 × List UInt32)
  | [] => none
  | word :: rest =>
      let candidate := word &&& 0x07ffffff
      if validPasscode candidate then some (candidate, rest) else draw rest

theorem draw_valid {random rest : List UInt32} {passcode : UInt32}
    (drawn : draw random = some (passcode, rest)) : validPasscode passcode = true := by
  induction random with
  | nil => cases drawn
  | cons word random inductionHypothesis =>
      by_cases valid : validPasscode (word &&& 0x07ffffff)
      · rw [draw, if_pos valid] at drawn
        cases drawn
        exact valid
      · rw [draw, if_neg valid] at drawn
        exact inductionHypothesis drawn

/-- What a boot works on. Every write of the credential is noted with the record that it found. -/
structure Credential (K : Type) where
  kv : K
  random : List UInt32
  stores : List (Option (List UInt8) × List UInt8)

/-- A fresh passcode is returned once it is stored. -/
def generate (credential : Credential K) : Option (Except ErrorCode UInt32) × Credential K :=
  match draw credential.random with
  -- still drawing
  | none => (none, { credential with random := [] })
  | some (passcode, random) =>
      let stores := credential.stores ++ [(record credential.kv, toLeBytes passcode)]
      match KvBlobStore.store credential.kv (COMMISSIONING_KEY K) (toLeBytes passcode) with
      | (.error code, kv) => (some (.error code), ⟨kv, random, stores⟩)
      | (.ok (), kv) => (some (.ok passcode), ⟨kv, random, stores⟩)

def commissioningPasscode (credential : Credential K) :
    Option (Except ErrorCode UInt32) × Credential K :=
  match KvBlobStore.load credential.kv (COMMISSIONING_KEY K) with
  | (.error code, kv) => (some (.error code), { credential with kv := kv })
  | (.ok (some data), kv) => (some (decode data), { credential with kv := kv })
  | (.ok none, kv) => generate { credential with kv := kv }

/-- What an attempt does with the record, and what it returns. -/
structure Attempted (before after : Credential K) (result : Option (Except ErrorCode UInt32)) :
    Prop where
  kept : ∀ data, record before.kv = some data →
    record after.kv = some data ∧ after.stores = before.stores
  fresh : ∀ entry ∈ after.stores, entry ∈ before.stores ∨ entry.1 = none
  returned : ∀ passcode, result = some (.ok passcode) →
    ∃ data, record after.kv = some data ∧ Encodes data passcode

/-- An attempt that writes nothing. -/
theorem Attempted.reading {before after : Credential K} {result : Option (Except ErrorCode UInt32)}
    (same : record after.kv = record before.kv) (unwritten : after.stores = before.stores)
    (returned : ∀ passcode, result = some (.ok passcode) →
      ∃ data, record before.kv = some data ∧ Encodes data passcode) :
    Attempted before after result where
  kept _ holds := ⟨same.trans holds, unwritten⟩
  fresh _ member := .inl (unwritten ▸ member)
  returned passcode ok := same ▸ returned passcode ok

/-- An attempt that writes a passcode where none is. -/
theorem Attempted.writing {before after : Credential K} {result : Option (Except ErrorCode UInt32)}
    {written : List UInt8} (absent : record before.kv = none)
    (noted : after.stores = before.stores ++ [(record before.kv, written)])
    (returned : ∀ passcode, result = some (.ok passcode) →
      ∃ data, record after.kv = some data ∧ Encodes data passcode) :
    Attempted before after result where
  kept data holds := by
    rw [absent] at holds
    cases holds
  fresh entry member := by
    rw [noted] at member
    rcases List.mem_append.mp member with earlier | last
    · exact .inl earlier
    · rw [List.mem_singleton.mp last]
      exact .inr absent
  returned := returned

theorem Attempted.refl {credential : Credential K} : Attempted credential credential none :=
  .reading rfl rfl (fun _ wrong => by cases wrong)

theorem Attempted.unfinished {before after : Credential K} {result : Option (Except ErrorCode UInt32)}
    (attempted : Attempted before after result) : Attempted before after none :=
  { attempted with returned := fun _ wrong => by cases wrong }

theorem Attempted.trans {before middle after : Credential K}
    {first second : Option (Except ErrorCode UInt32)} (attempted : Attempted before middle first)
    (again : Attempted middle after second) : Attempted before after second where
  kept data holds := by
    obtain ⟨still, unwritten⟩ := attempted.kept data holds
    obtain ⟨stays, unwritten'⟩ := again.kept data still
    exact ⟨stays, unwritten'.trans unwritten⟩
  fresh entry member := (again.fresh entry member).elim (attempted.fresh entry) .inr
  returned := again.returned

theorem generate_attempted {credential : Credential K} (absent : record credential.kv = none) :
    Attempted credential (generate credential).2 (generate credential).1 := by
  unfold generate
  cases drawn : draw credential.random with
  | none => exact .reading rfl rfl (fun _ wrong => by cases wrong)
  | some taken =>
      obtain ⟨passcode, random⟩ := taken
      have written := FallibleKvBlobStore.store_ok credential.kv (COMMISSIONING_KEY K)
        (toLeBytes passcode)
      rcases stored : KvBlobStore.store credential.kv (COMMISSIONING_KEY K) (toLeBytes passcode) with
        ⟨code | _, kv⟩
      · simp only [stored]
        exact .writing absent rfl (fun _ wrong => by cases wrong)
      · rw [stored] at written
        simp only [stored]
        refine .writing absent rfl fun returned same => ?_
        cases same
        exact ⟨_, written rfl, validPasscode_iff.mp (draw_valid drawn), rfl⟩

theorem attempted (credential : Credential K) :
    Attempted credential (commissioningPasscode credential).2 (commissioningPasscode credential).1 := by
  have unmoved := congrFun
    (FallibleKvBlobStore.load_contents credential.kv (COMMISSIONING_KEY K)) (COMMISSIONING_KEY K)
  have found := FallibleKvBlobStore.load_ok credential.kv (COMMISSIONING_KEY K)
  unfold commissioningPasscode
  rcases loaded : KvBlobStore.load credential.kv (COMMISSIONING_KEY K) with ⟨code | _ | data, kv⟩ <;>
    rw [loaded] at unmoved found
  · exact .reading unmoved rfl (fun _ wrong => by cases wrong)
  · have absent : record credential.kv = none := (found none rfl).symm
    have same : record kv = record credential.kv := unmoved
    have stillAbsent : record ({ credential with kv := kv } : Credential K).kv = none :=
      same.trans absent
    have generated := generate_attempted stillAbsent
    exact { generated with kept := fun data holds => generated.kept data (same.trans holds) }
  · refine .reading unmoved rfl fun passcode ok => ?_
    exact ⟨data, (found _ rfl).symm, decode_ok (Option.some.inj ok)⟩

/-- A record that is read ends the retries at once, unwritten. -/
theorem retryIoFrom_read {credential : Credential K} {data : List UInt8}
    (holds : record credential.kv = some data) {found : Option (List UInt8)}
    (read : (KvBlobStore.load credential.kv (COMMISSIONING_KEY K)).1 = .ok found)
    (attempts delaySeconds : Nat) :
    retryIoFrom commissioningPasscode (attempts + 1) delaySeconds credential =
      ⟨some (decode data),
        { credential with kv := (KvBlobStore.load credential.kv (COMMISSIONING_KEY K)).2 },
        [.feed, .attempt (failure (some (decode data)))]⟩ := by
  have same : found = some data := (FallibleKvBlobStore.load_ok _ _ _ read).trans holds
  have loaded : KvBlobStore.load credential.kv (COMMISSIONING_KEY K) =
      (.ok (some data), (KvBlobStore.load credential.kv (COMMISSIONING_KEY K)).2) :=
    Prod.ext (read.trans (by rw [same])) rfl
  have attempt : commissioningPasscode credential = (some (decode data),
      { credential with kv := (KvBlobStore.load credential.kv (COMMISSIONING_KEY K)).2 }) := by
    unfold commissioningPasscode
    rw [loaded]
  rcases retryIoFrom_succ commissioningPasscode attempts delaySeconds credential with
    ⟨_, ends⟩ | ⟨storage, _⟩
  · rw [ends, attempt]
  · rw [attempt] at storage
    exact absurd (Option.some.inj (failure_eq_some.mp storage)) (decode_ne_storage data)

/-! ### Boots -/

/-- A boot of the lamp: how often it may attempt, the words that it may draw, and the store as
it is opened, on which other records may have changed. -/
structure PowerCycle (K : Type) [FallibleKvBlobStore K] where
  attempts : Nat
  random : List UInt32
  reopen : K → K
  keeps : ∀ kv, record (reopen kv) = record kv

def powerCycle (kv : K) (cycle : PowerCycle K) : K × Retried (Credential K) UInt32 :=
  let run := retryIo commissioningPasscode cycle.attempts ⟨cycle.reopen kv, cycle.random, []⟩
  (run.state.kv, run)

/-- A boot is an attempt as a whole. -/
theorem powerCycle_attempted (kv : K) (cycle : PowerCycle K) :
    Attempted ⟨cycle.reopen kv, cycle.random, []⟩ (powerCycle kv cycle).2.state
      (powerCycle kv cycle).2.result := by
  have each : ∀ credential, Attempted ⟨cycle.reopen kv, cycle.random, []⟩ credential none →
      Attempted ⟨cycle.reopen kv, cycle.random, []⟩ (commissioningPasscode credential).2 none ∧
      ∀ result, (commissioningPasscode credential).1 = some result →
        Attempted ⟨cycle.reopen kv, cycle.random, []⟩ (commissioningPasscode credential).2
          (some result) := by
    intro credential before
    have after := before.trans (attempted credential)
    exact ⟨after.unfinished, fun result ends => ends ▸ after⟩
  obtain ⟨kept, promised⟩ := retryIoFrom_rule
    (fun credential => Attempted ⟨cycle.reopen kv, cycle.random, []⟩ credential none)
    (fun result credential => Attempted ⟨cycle.reopen kv, cycle.random, []⟩ credential (some result))
    each cycle.attempts 5 .refl
  change Attempted _ (retryIoFrom commissioningPasscode cycle.attempts 5 _).state
    (retryIoFrom commissioningPasscode cycle.attempts 5 _).result
  cases ends : (retryIoFrom commissioningPasscode cycle.attempts 5
      ⟨cycle.reopen kv, cycle.random, []⟩).result with
  | none => exact kept
  | some result => exact promised result ends

theorem powerCycle_record {kv : K} {data : List UInt8} (holds : record kv = some data)
    (cycle : PowerCycle K) :
    record (powerCycle kv cycle).1 = some data ∧ (powerCycle kv cycle).2.state.stores = [] :=
  (powerCycle_attempted kv cycle).kept data ((cycle.keeps kv).trans holds)

theorem record_lasts {kv : K} {data : List UInt8} (holds : record kv = some data)
    (cycles : List (PowerCycle K)) : record (stateAfter powerCycle kv cycles) = some data :=
  stateAfter_invariant powerCycle (fun kv => record kv = some data)
    (fun _ cycle holds => (powerCycle_record holds cycle).1) holds cycles

/-- Whatever the store, the random words and the earlier boots: a record is never written over,
a returned passcode is the recorded one in this and every later boot, and any other record is
refused. The retries are paced for the watchdog, with one wait for each attempt of a run that
ended with an I/O error. -/
theorem credential_kept (kv : K) (cycle : PowerCycle K) (later : List (PowerCycle K))
    (last : PowerCycle K) :
    let run := (powerCycle kv cycle).2
    let after := (powerCycle kv cycle).1
    (∀ entry ∈ run.state.stores, entry.1 = none) ∧
    (∀ data, record kv = some data →
      run.state.stores = [] ∧ record (stateAfter powerCycle kv (cycle :: later)) = some data) ∧
    (∀ passcode, run.result = some (.ok passcode) →
      Permitted passcode.toNat ∧ record after = some (toLeBytes passcode) ∧
      ∀ other, (powerCycle (stateAfter powerCycle after later) last).2.result = some (.ok other) →
        other = passcode) ∧
    (∀ (credential : Credential K) (data : List UInt8) (found : Option (List UInt8))
      (attempts delaySeconds : Nat), record credential.kv = some data →
      (∀ passcode : UInt32, Permitted passcode.toNat → data ≠ toLeBytes passcode) →
      (KvBlobStore.load credential.kv (COMMISSIONING_KEY K)).1 = .ok found →
      retryIoFrom commissioningPasscode (attempts + 1) delaySeconds credential =
        ⟨some (.error INVALID_DATA),
          { credential with kv := (KvBlobStore.load credential.kv (COMMISSIONING_KEY K)).2 },
          [.feed, .attempt (some INVALID_DATA)]⟩) ∧
    Fed run.events ∧
    failures run.events =
      endings commissioningPasscode cycle.attempts ⟨cycle.reopen kv, cycle.random, []⟩ ∧
    waits run.events = (List.range (ioErrors run.events)).map pause := by
  intro run after
  have attempted := powerCycle_attempted kv cycle
  have paced := retryIo_paced commissioningPasscode cycle.attempts
    ⟨cycle.reopen kv, cycle.random, []⟩
  refine ⟨fun entry member => ?_, fun data holds => ?_, fun passcode ok => ?_,
    fun credential data found attempts delaySeconds holds bad read => ?_, paced⟩
  · exact (attempted.fresh entry member).resolve_left (by simp)
  · exact ⟨(powerCycle_record holds cycle).2, record_lasts holds (cycle :: later)⟩
  · obtain ⟨data, holds, permitted, rfl⟩ := attempted.returned passcode ok
    refine ⟨permitted, holds, fun other again => ?_⟩
    have lasting := record_lasts holds later
    obtain ⟨data, same, _, rfl⟩ := (powerCycle_attempted _ last).returned other again
    have kept := (powerCycle_record lasting last).1
    exact (toLeBytes_injective (Option.some.inj (kept.symm.trans same))).symm
  · rw [retryIoFrom_read holds read, decode_error fun passcode encodes =>
      bad passcode encodes.1 encodes.2]
    rfl

/-- An in-memory store whose calls fail as listed: a failed write may be kept. -/
structure TornStore where
  records : UInt16 → Option (List UInt8)
  faults : List (Option Bool)

namespace TornStore

def fault (store : TornStore) : Option Bool := store.faults.head?.getD none

def rest (store : TornStore) : TornStore := { store with faults := store.faults.tail }

def written (store : TornStore) (key : UInt16) (data : List UInt8) : TornStore :=
  { store.rest with records := Function.update store.records key (some data) }

instance : FallibleKvBlobStore TornStore where
  vendorKeysStart := 0x1000
  load store key :=
    match store.fault with
    | none => (.ok (store.records key), store.rest)
    | some _ => (.error STD_IO_ERROR, store.rest)
  store store key data :=
    match store.fault with
    | none => (.ok (), store.written key data)
    | some kept => (.error STD_IO_ERROR, if kept then store.written key data else store.rest)
  contents store := store.records
  load_ok := by
    intro store key found answered
    cases faulty : store.fault <;> rw [faulty] at answered <;> cases answered
    rfl
  load_contents := by
    intro store key
    cases store.fault <;> rfl
  store_ok := by
    intro store key data answered
    cases faulty : store.fault <;> rw [faulty] at answered <;> cases answered
    exact Function.update_self key (some data) store.records
  store_error := by
    intro store key data code refused
    cases faulty : store.fault with
    | none =>
        rw [faulty] at refused
        cases refused
    | some kept =>
        cases kept with
        | false => exact .inl rfl
        | true =>
            right
            exact Function.update_self key (some data) store.records

end TornStore

/-- A fresh lamp that rejects its first word, and whose write is kept although it fails. -/
def freshStore : TornStore := ⟨fun _ => none, [none, some true]⟩

def freshCycle : PowerCycle TornStore := ⟨2, [12345678, 20202021], id, fun _ => rfl⟩

theorem credential_kept_fresh :
    Permitted (20202021 : UInt32).toNat ∧
      record (powerCycle freshStore freshCycle).1 = some (toLeBytes 20202021) :=
  have kept := (credential_kept freshStore freshCycle [] freshCycle).2.2.1 20202021 rfl
  ⟨kept.1, kept.2.1⟩

end KeyRight.App.Passcode
