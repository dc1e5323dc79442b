import KeyRight.Support.Intervals
import KeyRight.Support.Program
import Mathlib.Data.List.Pairwise
import Mathlib.Data.Prod.Lex
import Mathlib.Data.String.Basic

/-!
Owns the check of the flash layout by `validate_partitions` of `scripts/flash.py`: the table is
read row by row, sorted, and grouped by type and subtype before anything is written.

The rows are those of the CSV reader. How Python reads a number with `int(·, 0)` and how `repr`
quotes a name are parameters. Does not own the build, the board or the image.
-/

namespace KeyRight.Scripts

open KeyRight.Support

/-! ### Text -/

/-- Python's whitespace. -/
def isSpace (c : Char) : Bool :=
  (9 ≤ c.toNat && c.toNat ≤ 13) || (28 ≤ c.toNat && c.toNat ≤ 32) ||
    [0x85, 0xA0, 0x1680, 0x2028, 0x2029, 0x202F, 0x205F, 0x3000].contains c.toNat ||
    (0x2000 ≤ c.toNat && c.toNat ≤ 0x200A)

def strip (text : String) : String :=
  String.ofList ((text.toList.dropWhile isSpace).reverse.dropWhile isSpace).reverse

/-- The lower case of a character, for those that a number may contain: beside the ASCII
letters the Kelvin sign has an ASCII lower case. -/
def lowerChar (c : Char) : Char := if c.toNat = 0x212A then 'k' else c.toLower

def lower (text : String) : String := String.ofList (text.toList.map lowerChar)

/-- A number, possibly in units of `k` or `m`. -/
def quantity (int : String → Except String Int) (value : String) : Except String Int :=
  let value := (lower (strip value)).toList
  match value.getLast? with
  | some 'k' => (· * 1024) <$> int (String.ofList value.dropLast)
  | some 'm' => (· * (1024 * 1024)) <$> int (String.ofList value.dropLast)
  | _ => int (String.ofList value)

/-! ### Partitions -/

/-- Both lamps' Home fabrics live here. Never move or resize it. -/
def NVS : Int × Int := (0x9000, 0x10000)

def OTADATA_SIZE : Int := 0x2000

def APP_ALIGN : Int := 0x10000

def ERASE_PARTS : String := "otadata"

/-- A row of the table. `finish` is the first address behind the partition. -/
structure Region where
  start : Int
  finish : Int
  name : String
  kind : String
  subtype : String
deriving DecidableEq, Repr

namespace Region

def size (region : Region) : Int := region.finish - region.start

/-- An address of the partition. -/
def Holds (region : Region) (address : Int) : Prop :=
  region.start ≤ address ∧ address < region.finish

/-- Rows are sorted as tuples of their fields. -/
def key (region : Region) : Int ×ₗ Int ×ₗ String ×ₗ String ×ₗ String :=
  toLex (region.start, toLex (region.finish, toLex (region.name, toLex (region.kind, region.subtype))))

/-- The order of the rows. -/
def before (left right : Region) : Bool := decide (left.key ≤ right.key)

def typed (kind subtype : String) (region : Region) : Bool :=
  decide (region.kind = kind ∧ region.subtype = subtype)

end Region

/-- The fields of a row, as numbers and names. -/
def parseRow (int : String → Except String Int) (row : List String) : Except String Region :=
  match row with
  | name :: kind :: subtype :: offset :: size :: _ => do
      let start ← quantity int (strip offset)
      let length ← quantity int (strip size)
      return ⟨start, start + length, strip name, strip kind, strip subtype⟩
  | _ => throw "Partition rows require name, type, subtype, explicit offset, and size"

def readRow (int : String → Except String Int) (repr : String → String) (capacity : Int)
    (row : List String) : Except String Region := do
  let region ← parseRow int row
  if region.start < 0x9000 ∨ region.size ≤ 0 ∨ capacity < region.finish then
    throw ("Partition " ++ repr region.name ++ " exceeds verified flash bounds")
  else return region

/-- The regions of a type and subtype, in order of their tuples: start, size and name. -/
def bySubtype (regions : List Region) (kind subtype : String) : List (Int × Int × String) :=
  (regions.filter (Region.typed kind subtype)).map fun region =>
    (region.start, region.size, region.name)

def checkOtadata (otadata : List (Int × Int × String)) : Except String Unit :=
  match otadata with
  | [(_, size, name)] =>
      if size ≠ OTADATA_SIZE ∨ name ≠ ERASE_PARTS then
        throw "Exactly one 0x2000-byte otadata partition is required"
      else return ()
  | _ => throw "Exactly one 0x2000-byte otadata partition is required"

def checkSlots (ota0 ota1 : List (Int × Int × String)) : Except String Int :=
  match ota0, ota1 with
  | [(first, firstSize, firstName)], [(second, secondSize, secondName)] =>
      if firstName ≠ "ota_0" ∨ secondName ≠ "ota_1" then
        throw "Exactly one ota_0 and one ota_1 app partition are required"
      else if firstSize ≠ secondSize then throw "ota_0 and ota_1 must be the same size"
      else if first % APP_ALIGN ≠ 0 ∨ firstSize % APP_ALIGN ≠ 0 ∨ second % APP_ALIGN ≠ 0 then
        throw "App partitions must be 64 KiB aligned"
      else return firstSize
  | _, _ => throw "Exactly one ota_0 and one ota_1 app partition are required"

/-- The checks after the loop over the rows. -/
def checkRegions (regions : List Region) : Except String Int :=
  if neighboursOverlap Region.start Region.finish regions then throw "Flash partitions overlap"
  else if bySubtype regions "data" "nvs" ≠ [(NVS.1, NVS.2, "nvs")] then
    throw "nvs must stay at 0x9000 with size 0x10000; paired Home fabrics live there"
  else if bySubtype regions "app" "factory" ≠ [] then
    throw "The OTA layout has no factory partition"
  else do
    checkOtadata (bySubtype regions "data" "ota")
    checkSlots (bySubtype regions "app" "ota_0") (bySubtype regions "app" "ota_1")

/-- Checks the OTA layout; returns the size of the `ota_0` slot that an image must fit. -/
def validatePartitions (int : String → Except String Int) (repr : String → String)
    (rows : List (List String)) (capacity : Int) : Except String Int := do
  let regions ← rows.mapM (readRow int repr capacity)
  checkRegions (regions.mergeSort Region.before)

/-! ### Safe layouts -/

/-- The only partition of its type and subtype, under this name. -/
def Sole (regions : List Region) (kind subtype name : String) (region : Region) : Prop :=
  regions.filter (Region.typed kind subtype) = [region] ∧ region.name = name

/-- What the table promises of the flash, with the common size of the app slots. -/
structure SafeLayout (capacity : Int) (regions : List Region) (slot : Int) : Prop where
  bounds : ∀ region ∈ regions,
    0x9000 ≤ region.start ∧ 0 < region.size ∧ region.finish ≤ capacity
  disjoint : regions.Pairwise fun left right =>
    ∀ address, ¬(left.Holds address ∧ right.Holds address)
  nvs : ∃ nvs, Sole regions "data" "nvs" "nvs" nvs ∧ nvs.start = 0x9000 ∧ nvs.size = 0x10000
  factory : ∀ region ∈ regions, ¬(region.kind = "app" ∧ region.subtype = "factory")
  otadata : ∃ otadata, Sole regions "data" "ota" "otadata" otadata ∧ otadata.size = 0x2000
  slots : ∃ first second, Sole regions "app" "ota_0" "ota_0" first ∧
    Sole regions "app" "ota_1" "ota_1" second ∧ first.size = slot ∧ second.size = slot ∧
    0x10000 ∣ first.start ∧ 0x10000 ∣ second.start ∧ 0x10000 ∣ slot

/-! ### Each check -/

def InBounds (capacity : Int) (region : Region) : Prop :=
  0x9000 ≤ region.start ∧ 0 < region.size ∧ region.finish ≤ capacity

theorem readRow_ok {int : String → Except String Int} {repr : String → String} {capacity : Int}
    (row : List String) (region : Region) :
    readRow int repr capacity row = .ok region ↔
      parseRow int row = .ok region ∧ InBounds capacity region := by
  simp only [readRow, bind_eq_ok, ite_throw_eq_ok, InBounds]
  constructor
  · rintro ⟨parsed, read, bounds, same⟩
    cases same
    exact ⟨read, by omega⟩
  · rintro ⟨read, bounds⟩
    exact ⟨region, read, by omega, rfl⟩

theorem bySubtype_singleton {regions : List Region} {kind subtype name : String} {start size : Int} :
    bySubtype regions kind subtype = [(start, size, name)] ↔
      ∃ region, Sole regions kind subtype name region ∧ region.start = start ∧ region.size = size := by
  unfold bySubtype Sole
  rw [List.map_eq_singleton_iff]
  constructor
  · rintro ⟨region, only, same⟩
    cases same
    exact ⟨region, ⟨only, rfl⟩, rfl, rfl⟩
  · rintro ⟨region, ⟨only, rfl⟩, rfl, rfl⟩
    exact ⟨region, only, rfl⟩

theorem bySubtype_empty {regions : List Region} {kind subtype : String} :
    bySubtype regions kind subtype = [] ↔
      ∀ region ∈ regions, ¬(region.kind = kind ∧ region.subtype = subtype) := by
  simp [bySubtype, Region.typed]

theorem checkOtadata_ok {otadata : List (Int × Int × String)} :
    checkOtadata otadata = .ok () ↔ ∃ start, otadata = [(start, OTADATA_SIZE, ERASE_PARTS)] := by
  rcases otadata with _ | ⟨⟨start, size, name⟩, _ | ⟨other, rest⟩⟩
  · simp [checkOtadata]
  · change (if size ≠ OTADATA_SIZE ∨ name ≠ ERASE_PARTS then _ else _) = Except.ok () ↔ _
    simp only [ite_throw_eq_ok, not_or, ne_eq, not_not]
    constructor
    · rintro ⟨⟨rfl, rfl⟩, _⟩
      exact ⟨start, rfl⟩
    · rintro ⟨start, same⟩
      cases same
      exact ⟨⟨rfl, rfl⟩, rfl⟩
  · simp [checkOtadata]

theorem checkSlots_ok {ota0 ota1 : List (Int × Int × String)} {slot : Int} :
    checkSlots ota0 ota1 = .ok slot ↔
      ∃ first second, ota0 = [(first, slot, "ota_0")] ∧ ota1 = [(second, slot, "ota_1")] ∧
        APP_ALIGN ∣ first ∧ APP_ALIGN ∣ second ∧ APP_ALIGN ∣ slot := by
  constructor
  · intro accepted
    unfold checkSlots at accepted
    split at accepted
    · simp only [ite_throw_eq_ok, not_or, ne_eq, not_not] at accepted
      obtain ⟨⟨rfl, rfl⟩, rfl, ⟨firstAligned, slotAligned, secondAligned⟩, same⟩ := accepted
      cases same
      exact ⟨_, _, rfl, rfl, Int.dvd_of_emod_eq_zero firstAligned,
        Int.dvd_of_emod_eq_zero secondAligned, Int.dvd_of_emod_eq_zero slotAligned⟩
    · cases accepted
  · rintro ⟨first, second, rfl, rfl, firstAligned, secondAligned, slotAligned⟩
    simp only [checkSlots, ite_throw_eq_ok, not_or, ne_eq, not_not]
    exact ⟨⟨trivial, trivial⟩, trivial, ⟨Int.emod_eq_zero_of_dvd firstAligned, Int.emod_eq_zero_of_dvd slotAligned,
      Int.emod_eq_zero_of_dvd secondAligned⟩, rfl⟩

/-! ### All checks -/

/-- The table is sorted by the starts of its partitions. -/
theorem sorted_starts (regions : List Region) :
    (regions.mergeSort Region.before).Pairwise fun left right => left.start ≤ right.start := by
  have sorted : (regions.mergeSort Region.before).Pairwise fun left right =>
      Region.before left right = true := by
    refine List.pairwise_mergeSort (fun _ _ _ => ?_) (fun _ _ => ?_) regions
    · simpa [Region.before] using le_trans
    · simpa [Region.before] using le_total _ _
  refine sorted.imp fun {left right} below => ?_
  rcases Prod.Lex.toLex_le_toLex.mp (of_decide_eq_true below) with less | ⟨same, _⟩
  · exact le_of_lt less
  · exact le_of_eq same

theorem Sole.perm {regions others : List Region} (perm : regions.Perm others)
    {kind subtype name : String} {region : Region} (sole : Sole regions kind subtype name region) :
    Sole others kind subtype name region := by
  refine ⟨?_, sole.2⟩
  have filtered := perm.filter (Region.typed kind subtype)
  rw [sole.1] at filtered
  exact List.perm_singleton.mp filtered.symm

/-- Whether a layout is safe does not depend on the order of the rows. -/
theorem SafeLayout.perm {capacity slot : Int} {regions others : List Region}
    (perm : regions.Perm others) (safe : SafeLayout capacity regions slot) :
    SafeLayout capacity others slot where
  bounds region member := safe.bounds region (perm.mem_iff.mpr member)
  disjoint := (perm.pairwise_iff fun apart address both => apart address both.symm).mp safe.disjoint
  nvs := by
    obtain ⟨nvs, sole, placed⟩ := safe.nvs
    exact ⟨nvs, sole.perm perm, placed⟩
  factory region member := safe.factory region (perm.mem_iff.mpr member)
  otadata := by
    obtain ⟨otadata, sole, sized⟩ := safe.otadata
    exact ⟨otadata, sole.perm perm, sized⟩
  slots := by
    obtain ⟨first, second, soleFirst, soleSecond, sized⟩ := safe.slots
    exact ⟨first, second, soleFirst.perm perm, soleSecond.perm perm, sized⟩

theorem checkRegions_ok {capacity slot : Int} {regions : List Region}
    (sorted : regions.Pairwise fun left right => left.start ≤ right.start)
    (bounds : ∀ region ∈ regions, InBounds capacity region) :
    checkRegions regions = .ok slot ↔ SafeLayout capacity regions slot := by
  have nonempty : ∀ region ∈ regions, region.start < region.finish := by
    intro region member
    have positive := (bounds region member).2.1
    unfold Region.size at positive
    omega
  have disjoint := neighboursOverlap_sorted sorted nonempty
  simp only [checkRegions, ite_throw_eq_ok, bind_eq_ok, ne_eq, not_not, Bool.not_eq_true]
  rw [disjoint, bySubtype_singleton, bySubtype_empty]
  constructor
  · rintro ⟨apart, nvs, factory, ⟨⟩, otadata, slots⟩
    obtain ⟨otadataStart, otadata⟩ := checkOtadata_ok.mp otadata
    obtain ⟨region, sole, _, sized⟩ := bySubtype_singleton.mp otadata
    obtain ⟨firstStart, secondStart, ota0, ota1, aligned⟩ := checkSlots_ok.mp slots
    obtain ⟨first, soleFirst, rfl, firstSize⟩ := bySubtype_singleton.mp ota0
    obtain ⟨second, soleSecond, rfl, secondSize⟩ := bySubtype_singleton.mp ota1
    exact ⟨bounds, apart, nvs, factory, ⟨region, sole, sized⟩,
      first, second, soleFirst, soleSecond, firstSize, secondSize, aligned⟩
  · rintro ⟨_, apart, nvs, factory, ⟨otadata, sole, sized⟩,
      first, second, soleFirst, soleSecond, firstSize, secondSize, aligned⟩
    refine ⟨apart, nvs, factory, (), ?_, ?_⟩
    · exact checkOtadata_ok.mpr ⟨_, bySubtype_singleton.mpr ⟨otadata, sole, rfl, sized⟩⟩
    · exact checkSlots_ok.mpr ⟨_, _, bySubtype_singleton.mpr ⟨first, soleFirst, rfl, firstSize⟩,
        bySubtype_singleton.mpr ⟨second, soleSecond, rfl, secondSize⟩, aligned⟩

theorem validatePartitions_ok {int : String → Except String Int} {repr : String → String}
    {rows : List (List String)} {capacity slot : Int} :
    validatePartitions int repr rows capacity = .ok slot ↔
      ∃ regions, rows.mapM (parseRow int) = .ok regions ∧ SafeLayout capacity regions slot := by
  simp only [validatePartitions, bind_eq_ok, mapM_checked readRow_ok]
  constructor
  · rintro ⟨regions, ⟨parsed, bounds⟩, accepted⟩
    have perm := List.mergeSort_perm regions Region.before
    rw [checkRegions_ok (sorted_starts regions) fun region member =>
      bounds region (perm.mem_iff.mp member)] at accepted
    exact ⟨regions, parsed, accepted.perm perm⟩
  · rintro ⟨regions, parsed, safe⟩
    have perm := List.mergeSort_perm regions Region.before
    refine ⟨regions, ⟨parsed, safe.bounds⟩, ?_⟩
    rw [checkRegions_ok (sorted_starts regions) fun region member =>
      safe.bounds region (perm.mem_iff.mp member)]
    exact safe.perm perm.symm

/-! ### The flash layout gate -/

/-- The only partition of a kind is one of the partitions, of this kind. -/
theorem Sole.member {regions : List Region} {kind subtype name : String} {region : Region}
    (sole : Sole regions kind subtype name region) :
    region ∈ regions ∧ region.kind = kind ∧ region.subtype = subtype := by
  have member : region ∈ regions.filter (Region.typed kind subtype) := by
    rw [sole.1]
    exact List.mem_singleton_self region
  simpa [Region.typed] using member

/-- Nothing but the NVS partition itself touches the flash where the Home fabrics live. -/
theorem SafeLayout.spares {capacity slot : Int} {regions : List Region}
    (safe : SafeLayout capacity regions slot) {region : Region} (member : region ∈ regions)
    (other : ¬(region.kind = "data" ∧ region.subtype = "nvs")) {address : Int}
    (holds : region.Holds address) : ¬(0x9000 ≤ address ∧ address < 0x19000) := by
  obtain ⟨nvs, sole, start, size⟩ := safe.nvs
  have differs : region ≠ nvs := by
    rintro rfl
    exact other sole.member.2
  have finish : nvs.finish = 0x19000 := by
    unfold Region.size at size
    omega
  have disjoint : regions.Pairwise (Apart Region.start Region.finish) := safe.disjoint
  have apart := disjoint.forall member sole.member.1 differs address
  rw [start, finish] at apart
  exact fun touches => apart ⟨holds, touches⟩

/-- Exactly the tables of safe layouts are accepted, with the size of their app slots; none of
them lets an app slot or the erased partition overlap the NVS partition, and the order of the
rows does not matter. -/
theorem validatePartitions_safe (int : String → Except String Int) (repr : String → String)
    (rows : List (List String)) (capacity slot : Int) :
    (validatePartitions int repr rows capacity = .ok slot ↔
      ∃ regions, rows.mapM (parseRow int) = .ok regions ∧ SafeLayout capacity regions slot) ∧
    (validatePartitions int repr rows capacity = .ok slot →
      ∀ regions, rows.mapM (parseRow int) = .ok regions → ∀ region ∈ regions,
        (region.kind = "app" ∧ (region.subtype = "ota_0" ∨ region.subtype = "ota_1")) ∨
            (region.kind = "data" ∧ region.subtype = "ota") →
          ∀ address, region.Holds address → ¬(0x9000 ≤ address ∧ address < 0x19000)) ∧
    ∀ others : List (List String), rows.Perm others →
      (validatePartitions int repr others capacity = .ok slot ↔
        validatePartitions int repr rows capacity = .ok slot) := by
  refine ⟨validatePartitions_ok, fun accepted regions parsed region member kinds address holds => ?_,
    fun others perm => ?_⟩
  · obtain ⟨found, parsedToo, safe⟩ := validatePartitions_ok.mp accepted
    rw [parsed] at parsedToo
    cases parsedToo
    refine safe.spares member (fun nvs => ?_) holds
    rcases kinds with ⟨app, _⟩ | ⟨_, ota⟩
    · exact absurd (app.symm.trans nvs.1) (by decide)
    · exact absurd (ota.symm.trans nvs.2) (by decide)
  · have blind : ∀ {rows others : List (List String)}, rows.Perm others →
        validatePartitions int repr rows capacity = .ok slot →
        validatePartitions int repr others capacity = .ok slot := by
      intro rows others perm accepted
      obtain ⟨regions, parsed, safe⟩ := validatePartitions_ok.mp accepted
      obtain ⟨reordered, parsedToo, permuted⟩ := mapM_perm perm parsed
      exact validatePartitions_ok.mpr ⟨reordered, parsedToo, safe.perm permuted⟩
    exact ⟨blind perm.symm, blind perm⟩

/-! ### The shipped table -/

/-- Python's reading of the numbers of `firmware/app/partitions.csv`. -/
def shippedInt (text : String) : Except String Int :=
  match [("0x9000", 0x9000), ("0x10000", 0x10000), ("0x19000", 0x19000), ("0x2000", 0x2000),
    ("0x20000", 0x20000), ("0x1f0000", 0x1F0000), ("0x210000", 0x210000)].lookup text with
  | some value => .ok value
  | none => .error "invalid literal for int() with base 0"

def shippedRows : List (List String) :=
  [["nvs", " data", " nvs", " 0x9000", " 0x10000", ""],
    ["otadata", " data", " ota", " 0x19000", " 0x2000", ""],
    ["ota_0", " app", " ota_0", " 0x20000", " 0x1F0000", ""],
    ["ota_1", " app", " ota_1", " 0x210000", " 0x1F0000", ""]]

def shippedRegions : List Region :=
  [⟨0x9000, 0x19000, "nvs", "data", "nvs"⟩, ⟨0x19000, 0x1B000, "otadata", "data", "ota"⟩,
    ⟨0x20000, 0x210000, "ota_0", "app", "ota_0"⟩, ⟨0x210000, 0x400000, "ota_1", "app", "ota_1"⟩]

theorem shippedRegions_safe : SafeLayout 0x400000 shippedRegions 0x1F0000 where
  bounds := by decide
  disjoint := (neighboursOverlap_sorted (by decide) (by decide)).mp rfl
  nvs := ⟨_, ⟨rfl, rfl⟩, rfl, rfl⟩
  factory := by decide
  otadata := ⟨_, ⟨rfl, rfl⟩, rfl⟩
  slots := ⟨_, _, ⟨rfl, rfl⟩, ⟨rfl, rfl⟩, rfl, rfl, by decide, by decide, by decide⟩

theorem validatePartitions_safe_shipped :
    validatePartitions shippedInt id shippedRows 0x400000 = .ok 0x1F0000 :=
  (validatePartitions_safe shippedInt id shippedRows 0x400000 0x1F0000).1.mpr
    ⟨shippedRegions, by rfl, shippedRegions_safe⟩

end KeyRight.Scripts
