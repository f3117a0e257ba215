import MtpRs.Cli.Error
import MtpRs.Mtp.Hotplug
import MtpRs.Lib.Numerals

set_option autoImplicit false

namespace Mtp

/-- `Debug` of `UsbSpeed`. -/
def UsbSpeed.debug : UsbSpeed → String
  | low => "Low"
  | full => "Full"
  | high => "High"
  | super => "Super"
  | superPlus => "SuperPlus"

def MtpMatchReason.asStr : MtpMatchReason → String
  | standardClass => "standard_class"
  | interfaceString => "interface_string"
  | knownVidPid => "known_vid_pid"
  | openedDescriptorScan => "opened_descriptor_scan"

inductive StorageType where
  | undefined
  | fixedRom
  | removableRom
  | fixedRam
  | removableRam
  | other
deriving DecidableEq, Repr

def StorageType.debug : StorageType → String
  | undefined => "Undefined"
  | fixedRom => "FixedRom"
  | removableRom => "RemovableRom"
  | fixedRam => "FixedRam"
  | removableRam => "RemovableRam"
  | other => "Other"

inductive FilesystemType where
  | undefined
  | flat
  | hierarchical
  | dcf
  | other
deriving DecidableEq, Repr

def FilesystemType.debug : FilesystemType → String
  | undefined => "Undefined"
  | flat => "Flat"
  | hierarchical => "Hierarchical"
  | dcf => "Dcf"
  | other => "Other"

/-- Description of a storage, the same for both backends. -/
structure StorageInfo where
  id : StorageId
  description : String
  volumeIdentifier : String
  totalCapacity : UInt64
  freeSpace : UInt64
  isWritable : Bool
  storageType : StorageType
  filesystemType : FilesystemType
deriving DecidableEq, Repr

end Mtp

/- The rows that devices and storages are printed as, and the texts that select one of them. -/
namespace Cli

open Mtp (MtpDeviceInfo Storage StorageBackend StorageId StorageInfo)
open Numerals (Spells fromStrRadix)

/-- `format!("{:08x}")`. -/
def hex8 (n : UInt64) : String := String.ofList (List.leftpad 8 '0' (Nat.toDigits 16 n.toNat))

/-- `Display` of an integer. -/
def decimal (n : Nat) : String := String.ofList (Nat.toDigits 10 n)

structure DeviceRow where
  vendorId : UInt16
  productId : UInt16
  manufacturer : Option String
  product : Option String
  serialNumber : Option String
  locationId : UInt64
  location : String
  speed : Option String
  matchReason : String
deriving DecidableEq, Repr

def DeviceRow.of (info : MtpDeviceInfo) : DeviceRow where
  vendorId := info.vendorId
  productId := info.productId
  manufacturer := info.manufacturer
  product := info.product
  serialNumber := info.serialNumber
  locationId := info.locationId
  location := hex8 info.locationId
  speed := info.speed.map Mtp.UsbSpeed.debug
  matchReason := info.matchReason.asStr

structure StorageRow where
  index : Nat
  id : String
  idRaw : UInt64
  description : String
  volumeIdentifier : String
  maxCapacity : UInt64
  freeSpaceBytes : UInt64
  accessCapability : String
  storageType : String
  filesystemType : String
deriving DecidableEq, Repr

/-- The row of a storage with what `info` tells of it. -/
def StorageRow.fromStorage {σ : Type} (index : Nat) (storage : Storage σ) (info : StorageInfo) :
    StorageRow where
  index := index
  id := hex8 storage.id
  idRaw := storage.id
  description := info.description
  volumeIdentifier := info.volumeIdentifier
  maxCapacity := info.totalCapacity
  freeSpaceBytes := info.freeSpace
  accessCapability := if info.isWritable then "ReadWrite" else "ReadOnly"
  storageType := info.storageType.debug
  filesystemType := info.filesystemType.debug

/-- `u64::from_str_radix`; `usize` is as wide. -/
def u64FromStrRadix (radix : Nat) (text : List Char) : Option UInt64 :=
  (fromStrRadix radix (2 ^ 64 - 1) text).map UInt64.ofNat

/-- What follows `0x` or `0X`. -/
def stripHexPrefix : List Char → Option (List Char)
  | '0' :: 'x' :: hex => some hex
  | '0' :: 'X' :: hex => some hex
  | _ => none

/-- `'a'..='f' | 'A'..='F'`. -/
def isHexLetter (c : Char) : Bool := ('a' ≤ c ∧ c ≤ 'f') ∨ ('A' ≤ c ∧ c ≤ 'F')

/-- A number in hex, if a prefix or a letter says so, and else in decimal. -/
def parseHexOrDec {ε : Type} (hexError decimalError : ε) (input : String) : Except ε UInt64 :=
  match stripHexPrefix input.toList with
  | some hex => (u64FromStrRadix 16 hex).elim (.error hexError) .ok
  | none =>
      if input.toList.any isHexLetter
      then (u64FromStrRadix 16 input.toList).elim (.error hexError) .ok
      else (u64FromStrRadix 10 input.toList).elim (.error decimalError) .ok

def parseStorageId (selection : String) : Except CliError StorageId :=
  parseHexOrDec (.new .remotePath "invalid storage ID")
    (.new .remotePath "invalid storage selection")
    selection

def parseU64HexOrDec (input : String) : Except String UInt64 :=
  parseHexOrDec ("invalid hex u64 value '" ++ input ++ "'")
    ("invalid decimal u64 value '" ++ input ++ "'") input

def selectStorage {σ : Type} (storages : List (Storage σ)) (selection : String) :
    Except CliError (Storage σ) :=
  match (u64FromStrRadix 10 selection.toList).bind fun index => storages[index.toNat]? with
  | some storage => .ok storage
  | none => do
      let id ← parseStorageId selection
      match storages.find? fun storage => storage.id == id with
      | some storage => .ok storage
      | none => .error (.new .remotePath "storage not found")

/-- The hex form has a letter in it. -/
def HasLetter (n : Nat) : Prop := ∃ digit ∈ Nat.digits 16 n, 10 ≤ digit

/-- What the digits of the hex form stand for in decimal. -/
def inDecimal (n : Nat) : Nat := Nat.ofDigits 10 (Nat.digits 16 n)

section

variable {base n : Nat} {text : List Char} {ε : Type} {hexError decimalError : ε}

theorem no_hexPrefix (spells : Spells base n text) (several : 1 < base) (hexadecimal : base ≤ 16) :
    stripHexPrefix text = none := by
  have plain : 'x' ∉ text ∧ 'X' ∉ text := by
    have none : ∀ digit < 16, 'x' ≠ Nat.digitChar digit ∧ 'X' ≠ Nat.digitChar digit := by decide
    constructor
    all_goals
      intro mem
      obtain ⟨digit, below, same, _⟩ := spells.digit_of_mem hexadecimal several mem
    · exact (none digit below).1 same
    · exact (none digit below).2 same
  unfold stripHexPrefix
  split
  · simp at plain
  · simp at plain
  · rfl

theorem isHexLetter_digitChar : ∀ digit < 16, isHexLetter (Nat.digitChar digit) = decide
    (10 ≤ digit) := by
  decide

theorem any_isHexLetter (spells : Spells base n text) (several : 1 < base)
    (hexadecimal : base ≤ 16) :
    text.any isHexLetter = true ↔ ∃ digit ∈ Nat.digits base n, 10 ≤ digit := by
  rw [List.any_eq_true]
  constructor
  · intro ⟨c, mem, letter⟩
    obtain ⟨digit, below, same, zero⟩ := spells.digit_of_mem hexadecimal several mem
    rw [same, isHexLetter_digitChar digit below, decide_eq_true_eq] at letter
    cases zero with
    | inl zero => omega
    | inr own => exact ⟨digit, own, letter⟩
  · intro ⟨digit, mem, letter⟩
    have below := Nat.digits_lt_base several mem
    refine ⟨digit.digitChar, spells.digit_mem mem, ?_⟩
    rw [isHexLetter_digitChar digit (by omega), decide_eq_true_eq]
    exact letter

theorem spells_hex8 (n : UInt64) : Spells 16 n.toNat (hex8 n).toList := by
  rw [hex8, String.toList_ofList]
  exact (Numerals.spells_toDigits (by decide)).leftpad 8

theorem spells_decimal (n : Nat) : Spells 10 n (decimal n).toList := by
  rw [decimal, String.toList_ofList]
  exact Numerals.spells_toDigits (by decide)

theorem small_of_no_letter (plain : ¬ HasLetter n) : ∀ digit ∈ Nat.digits 16 n, digit < 10 := by
  intro digit mem
  by_contra large
  exact plain ⟨digit, mem, Nat.le_of_not_lt large⟩

theorem inDecimal_le (n : Nat) : inDecimal n ≤ n := by
  have monotone := Nat.ofDigits_monotone (p := 10) (q := 16) (Nat.digits 16 n) (by decide)
  rw [Nat.ofDigits_digits] at monotone
  exact monotone

/-- The two readings agree on a single digit only. -/
theorem inDecimal_eq (plain : ¬ HasLetter n) : inDecimal n = n ↔ n ≤ 9 := by
  have small := small_of_no_letter plain
  by_cases zero : n = 0
  · simp [zero, inDecimal]
  · have split := Nat.digits_def' (by decide : 1 < 16) (Nat.pos_of_ne_zero zero)
    have last := small (n % 16) (by rw [split]; exact List.mem_cons_self)
    have rest := inDecimal_le (n / 16)
    have value : inDecimal n = n % 16 + 10 * inDecimal (n / 16) := by
      rw [inDecimal, split, Nat.ofDigits_cons]
      rfl
    omega

theorem ofNat_toNat {id : UInt64} (below : n ≤ id.toNat) : (UInt64.ofNat n).toNat = n :=
  UInt64.toNat_ofNat_of_lt' (Nat.lt_of_le_of_lt below id.toNat_lt)

theorem u64FromStrRadix_own (spells : Spells base n text) (several : 1 < base)
    (hexadecimal : base ≤ 16) (fits : n < 2 ^ 64) :
    u64FromStrRadix base text = some (UInt64.ofNat n) := by
  rw [u64FromStrRadix, spells.read_own hexadecimal several (by omega), Option.map_some]

theorem u64FromStrRadix_decimal (n : UInt64) :
    u64FromStrRadix 10 (decimal n.toNat).toList = some n := by
  rw [u64FromStrRadix_own (spells_decimal n.toNat) (by decide) (by decide) n.toNat_lt,
    UInt64.ofNat_toNat]

theorem parse_decimal (n : UInt64) :
    parseHexOrDec hexError decimalError (decimal n.toNat) = .ok n := by
  have spells := spells_decimal n.toNat
  have plain : (decimal n.toNat).toList.any isHexLetter = false := by
    rw [Bool.eq_false_iff, ne_eq, any_isHexLetter spells (by decide) (by decide)]
    intro ⟨digit, mem, letter⟩
    have below := Nat.digits_lt_base (by decide) mem
    omega
  rw [parseHexOrDec, no_hexPrefix spells (by decide) (by decide)]
  simp only [plain, Bool.false_eq_true, if_false, u64FromStrRadix_decimal, Option.elim_some]

theorem u64FromStrRadix_hex8 {n : UInt64} (plain : ¬ HasLetter n.toNat) :
    u64FromStrRadix 10 (hex8 n).toList = some (UInt64.ofNat (inDecimal n.toNat)) := by
  have small := small_of_no_letter plain
  have fits : inDecimal n.toNat ≤ 2 ^ 64 - 1 := by
    have below := inDecimal_le n.toNat
    have bound := n.toNat_lt
    omega
  rw [u64FromStrRadix, (spells_hex8 n).read (by decide) (by decide) (by decide) small]
  rw [inDecimal] at fits ⊢
  rw [if_pos fits, Option.map_some]

/-- A letter is taken for hex, and digits alone for decimal. -/
theorem parse_hex8 (n : UInt64) :
    (HasLetter n.toNat → parseHexOrDec hexError decimalError (hex8 n) = .ok n) ∧
    (¬ HasLetter n.toNat → parseHexOrDec hexError decimalError (hex8 n) =
      .ok (UInt64.ofNat (inDecimal n.toNat))) := by
  have spells := spells_hex8 n
  have letters := any_isHexLetter spells (by decide) (by decide)
  constructor
  · intro letter
    have own := u64FromStrRadix_own spells (by decide) (by decide) n.toNat_lt
    rw [parseHexOrDec, no_hexPrefix spells (by decide) (by decide)]
    simp only [letters.mpr letter, if_true, own, Option.elim_some, UInt64.ofNat_toNat]
  · intro plain
    have none : (hex8 n).toList.any isHexLetter = false := by
      rw [Bool.eq_false_iff, ne_eq, letters]
      exact plain
    rw [parseHexOrDec, no_hexPrefix spells (by decide) (by decide)]
    simp only [none, Bool.false_eq_true, if_false, u64FromStrRadix_hex8 plain, Option.elim_some]

theorem location_hex8 (n : UInt64) :
    parseU64HexOrDec (hex8 n) = .ok n ↔ HasLetter n.toNat ∨ n.toNat ≤ 9 := by
  by_cases letter : HasLetter n.toNat
  · have parsed : parseU64HexOrDec (hex8 n) = .ok n := (parse_hex8 n).1 letter
    simp [parsed, letter]
  · have parsed : parseU64HexOrDec (hex8 n) = _ := (parse_hex8 n).2 letter
    have own := ofNat_toNat (inDecimal_le n.toNat)
    rw [parsed, Except.ok.injEq, ← inDecimal_eq letter]
    constructor
    · intro same
      rw [same] at own
      exact Or.inr own.symm
    · intro condition
      rw [condition.resolve_left letter, UInt64.ofNat_toNat]

end

section

variable {σ : Type} {storages : List (Storage σ)} {storage : Storage σ} {i : Nat} {text : String}

/-- Storages whose IDs tell them apart and are too large to be taken for an index. -/
structure Distinguished (storages : List (Storage σ)) : Prop where
  distinct : (storages.map Storage.id).Nodup
  large : ∀ storage ∈ storages, storages.length < storage.id.toNat

theorem Distinguished.find (distinguished : Distinguished storages)
    (there : storages[i]? = some storage) :
    storages.find? (fun other => other.id == storage.id) = some storage := by
  have mem := List.mem_of_getElem? there
  cases found : storages.find? fun other => other.id == storage.id with
  | none => exact absurd (List.find?_eq_none.mp found storage mem) (by simp)
  | some other =>
      have same := List.find?_some found
      rw [beq_iff_eq] at same
      rw [List.inj_on_of_nodup_map distinguished.distinct (List.mem_of_find?_eq_some found) mem
        same]

/-- The position of a storage is the only one with its ID. -/
theorem Distinguished.index (distinguished : Distinguished storages) {j : Nat}
    (there : storages[i]? = some storage) (other : storages[j]? = some storage) : i = j := by
  have own : (storages.map Storage.id)[i]? = (storages.map Storage.id)[j]? := by
    rw [List.getElem?_map, List.getElem?_map, there, other]
  have short := (List.getElem?_eq_some_iff.mp there).1
  exact (List.getElem?_inj (by rw [List.length_map]; exact short) distinguished.distinct).mp own

theorem selectStorage_index {index : UInt64} (read : u64FromStrRadix 10 text.toList = some index)
    (there : storages[index.toNat]? = some storage) :
    selectStorage storages text = .ok storage := by
  rw [selectStorage, read, Option.bind_some, there]

/-- What is too large for an index, or is no number, is an ID. -/
theorem selectStorage_id {id : StorageId} (parsed : parseStorageId text = .ok id)
    (large : ∀ index, u64FromStrRadix 10 text.toList = some index →
      storages.length ≤ index.toNat) :
    selectStorage storages text = .ok storage ↔
      storages.find? (fun other => other.id == id) = some storage := by
  have beyond : ((u64FromStrRadix 10 text.toList).bind fun index => storages[index.toNat]?) =
      none := by
    cases read : u64FromStrRadix 10 text.toList with
    | none => rfl
    | some index => exact List.getElem?_eq_none (large index read)
  rw [selectStorage, beyond, parsed]
  simp only [bind, Except.bind]
  cases storages.find? fun other => other.id == id with
  | none => simp
  | some other => simp

theorem selects_decimal (distinguished : Distinguished storages)
    (there : storages[i]? = some storage) :
    selectStorage storages (decimal storage.id.toNat) = .ok storage := by
  have large := distinguished.large storage (List.mem_of_getElem? there)
  apply (selectStorage_id (parse_decimal _) ?_).mpr (distinguished.find there)
  intro index read
  rw [u64FromStrRadix_decimal, Option.some.injEq] at read
  rw [← read]
  exact Nat.le_of_lt large

theorem selects_index (distinguished : Distinguished storages)
    (there : storages[i]? = some storage) :
    selectStorage storages (decimal i) = .ok storage := by
  have large := distinguished.large storage (List.mem_of_getElem? there)
  have short := (List.getElem?_eq_some_iff.mp there).1
  have own : (UInt64.ofNat i).toNat = i :=
    ofNat_toNat (Nat.le_of_lt (Nat.lt_trans short large))
  have read := u64FromStrRadix_decimal (UInt64.ofNat i)
  rw [own] at read
  apply selectStorage_index read
  rw [own]
  exact there

/-- Where all digits are decimal, the ID is read as another number, and mostly not found. -/
theorem selects_hex8 (distinguished : Distinguished storages)
    (there : storages[i]? = some storage) :
    selectStorage storages (hex8 storage.id) = .ok storage ↔
      HasLetter storage.id.toNat ∨ storage.id.toNat ≤ 9 ∨ inDecimal storage.id.toNat = i := by
  have large := distinguished.large storage (List.mem_of_getElem? there)
  have short := (List.getElem?_eq_some_iff.mp there).1
  by_cases letter : HasLetter storage.id.toNat
  · have unread : u64FromStrRadix 10 (hex8 storage.id).toList = none := by
      obtain ⟨digit, mem, above⟩ := letter
      rw [u64FromStrRadix,
        (spells_hex8 storage.id).read_none (by decide) (by decide) mem above, Option.map_none]
    have selected : selectStorage storages (hex8 storage.id) = .ok storage :=
      (selectStorage_id ((parse_hex8 storage.id).1 letter) (by simp [unread])).mpr
        (distinguished.find there)
    simp [selected, letter]
  · have read := u64FromStrRadix_hex8 letter
    have parsed : parseStorageId (hex8 storage.id) = _ := (parse_hex8 storage.id).2 letter
    have below := inDecimal_le storage.id.toNat
    have own := ofNat_toNat below
    have equal := inDecimal_eq letter
    by_cases index : inDecimal storage.id.toNat < storages.length
    · have other : storages[inDecimal storage.id.toNat]? =
          some storages[inDecimal storage.id.toNat] :=
        List.getElem?_eq_getElem index
      have selected : selectStorage storages (hex8 storage.id) =
          .ok storages[inDecimal storage.id.toNat] := selectStorage_index read (by rwa [own])
      rw [selected, Except.ok.injEq]
      constructor
      · intro same
        rw [same] at other
        exact Or.inr (Or.inr (distinguished.index other there))
      · intro condition
        have same : inDecimal storage.id.toNat = i := by
          rcases condition with lettered | single | same
          · exact absurd lettered letter
          · have equal := equal.mpr single
            omega
          · exact same
        rw [← same, other, Option.some.injEq] at there
        exact there
    · rw [selectStorage_id parsed (by
        intro found same
        rw [read, Option.some.injEq] at same
        rw [← same, own]
        exact Nat.le_of_not_lt index)]
      constructor
      · intro found
        have same := List.find?_some found
        rw [beq_iff_eq] at same
        rw [← same] at own
        exact Or.inr (Or.inl (equal.mp own.symm))
      · intro condition
        have single : storage.id.toNat ≤ 9 := by
          rcases condition with lettered | single | same
          · exact absurd lettered letter
          · exact single
          · omega
        rw [equal.mpr single, UInt64.ofNat_toNat]
        exact distinguished.find there

end

/-- What a storage is printed with, all of which is to select it. -/
structure Selects {σ : Type} (storages : List (Storage σ)) (storage : Storage σ)
    (row : StorageRow) :
    Prop where
  id : selectStorage storages row.id = .ok storage
  idRaw : selectStorage storages (decimal row.idRaw.toNat) = .ok storage
  index : selectStorage storages (decimal row.index) = .ok storage

/-- What a location is printed as, all of which is to be read as that location. -/
structure ReadsBack (row : DeviceRow) (locationId : UInt64) : Prop where
  location : parseU64HexOrDec row.location = .ok locationId
  decimal : parseU64HexOrDec (decimal row.locationId.toNat) = .ok locationId

/-- The hex form says that it is hex only if it has a letter. Else it is taken for decimal: the
index where it happens to be the right one, or a single digit. -/
theorem printed_selects {σ : Type} {storages : List (Storage σ)}
    (distinguished : Distinguished storages) {i : Nat} {storage : Storage σ}
    (there : storages[i]? = some storage) (info : StorageInfo) (device : MtpDeviceInfo) :
    (Selects storages storage (StorageRow.fromStorage i storage info) ↔
      HasLetter storage.id.toNat ∨ storage.id.toNat ≤ 9 ∨ inDecimal storage.id.toNat = i) ∧
    (ReadsBack (DeviceRow.of device) device.locationId ↔
      HasLetter device.locationId.toNat ∨ device.locationId.toNat ≤ 9) := by
  constructor
  · constructor
    · intro selects
      exact (selects_hex8 distinguished there).mp selects.id
    · intro condition
      exact ⟨(selects_hex8 distinguished there).mpr condition, selects_decimal distinguished there,
        selects_index distinguished there⟩
  · constructor
    · intro readsBack
      exact (location_hex8 device.locationId).mp readsBack.location
    · intro condition
      exact ⟨(location_hex8 device.locationId).mpr condition, parse_decimal device.locationId⟩

def noBackend : StorageBackend Unit where
  objectInfo _ _ := (.error .notFound, ())
  collect _ _ _ := (.ok [], ())
  copyObject _ _ _ _ := (.error .unsupported, ())
  supportsRename := false
  createFolder _ _ _ _ := (.error .unsupported, ())
  delete _ _ := (.error .notFound, ())
  moveObject _ _ _ _ := (.error .unsupported, ())
  rename _ _ _ := (.error .unsupported, ())

theorem printed_selects_letter :
    Selects [⟨noBackend, 10⟩] ⟨noBackend, 10⟩ (StorageRow.fromStorage 0 ⟨noBackend, 10⟩
      ⟨10, "", "", 0, 0, true, .fixedRam, .hierarchical⟩) :=
  ((printed_selects ⟨by decide, by simp⟩ rfl ⟨10, "", "", 0, 0, true, .fixedRam, .hierarchical⟩
    ⟨0, 0, none, none, none, 0, none, .standardClass⟩).1).mpr (Or.inl ⟨10, by simp, by decide⟩)

/-- The usual ID of a first storage, as what it is printed as is read. -/
theorem first_storage_not_found :
    Distinguished [(⟨noBackend, 0x10001⟩ : Storage Unit)] ∧ hex8 0x10001 = "00010001" ∧
      selectStorage [(⟨noBackend, 0x10001⟩ : Storage Unit)] "00010001" =
        .error (.new .remotePath "storage not found") ∧
      parseU64HexOrDec "00010001" = .ok 10001 :=
  ⟨⟨by decide, by simp⟩, by decide, rfl, rfl⟩

end Cli
