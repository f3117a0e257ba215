import MtpRs.Mtp.Datasets
import MtpRs.Mtp.ObjectInfoBytes
import MtpRs.Mtp.PropertyGrammar
import MtpRs.Ptp.ContainerParsing
import MtpRs.Ptp.DateParsing

set_option autoImplicit false

/- Parsing of datasets, with every index, slice, sum and preallocation that can go wrong. -/
namespace Ptp

open Cursors (Cursor Ends Follows Parses SafeWhen)
open Panics (add index multiply orReturn)
open Readers (Delimited Reader)

def unpackDatetimePanicking (bits : Nat) (buf : Bytes) :
    Option (Except PtpError (Option DateTime × Nat)) :=
  orReturn (unpackStringPanicking bits buf) fun result => do
    let date ← DateTime.parsePanicking result.1
    some (.ok (date, result.2))

namespace WholeObjectInfo

def readPanicking (bits : Nat) : Cursor UInt8 PtpError WholeObjectInfo := do
  let storageId ← Cursors.field bits 4 unpackU32Panicking
  let format ← Cursors.field bits 2 unpackU16Panicking
  let protectionStatus ← Cursors.field bits 2 unpackU16Panicking
  let size ← Cursors.field bits 4 unpackU32Panicking
  let thumbFormat ← Cursors.field bits 2 unpackU16Panicking
  let thumbSize ← Cursors.field bits 4 unpackU32Panicking
  let thumbWidth ← Cursors.field bits 4 unpackU32Panicking
  let thumbHeight ← Cursors.field bits 4 unpackU32Panicking
  let imageWidth ← Cursors.field bits 4 unpackU32Panicking
  let imageHeight ← Cursors.field bits 4 unpackU32Panicking
  let imageBitDepth ← Cursors.field bits 4 unpackU32Panicking
  let parent ← Cursors.field bits 4 unpackU32Panicking
  let associationType ← Cursors.field bits 2 unpackU16Panicking
  let associationDesc ← Cursors.field bits 4 unpackU32Panicking
  let sequenceNumber ← Cursors.field bits 4 unpackU32Panicking
  let filename ← Cursors.part bits (unpackStringPanicking bits)
  let created ← Cursors.part bits (unpackDatetimePanicking bits)
  let modified ← Cursors.part bits (unpackDatetimePanicking bits)
  let keywords ← Cursors.last (unpackStringPanicking bits)
  return {
    handle := 0
    storageId
    format := .ofCode format
    protectionStatus := .ofCode protectionStatus
    size := size.toNat
    thumbFormat := .ofCode thumbFormat
    thumbSize
    thumbWidth
    thumbHeight
    imageWidth
    imageHeight
    imageBitDepth
    parent
    associationType := .ofCode associationType
    associationDesc
    sequenceNumber
    filename
    created
    modified
    keywords }

def fromBytesPanicking (bits : Nat) : Bytes → Option (Except PtpError WholeObjectInfo) :=
  Cursors.run (readPanicking bits)

end WholeObjectInfo

namespace DeviceInfo

def readHeadPanicking (bits : Nat) : Cursor UInt8 PtpError Head := do
  let standardVersion ← Cursors.field bits 2 unpackU16Panicking
  let vendorExtensionId ← Cursors.field bits 4 unpackU32Panicking
  let vendorExtensionVersion ← Cursors.field bits 2 unpackU16Panicking
  let vendorExtensionDesc ← Cursors.part bits (unpackStringPanicking bits)
  let functionalMode ← Cursors.field bits 2 unpackU16Panicking
  return ⟨standardVersion, vendorExtensionId, vendorExtensionVersion, vendorExtensionDesc,
    functionalMode⟩

def readPanicking (bits : Nat) : Cursor UInt8 PtpError DeviceInfo := do
  let head ← readHeadPanicking bits
  let operations ← Cursors.part bits (unpackU16ArrayPanicking bits)
  let events ← Cursors.part bits (unpackU16ArrayPanicking bits)
  let devicePropertiesSupported ← Cursors.part bits (unpackU16ArrayPanicking bits)
  let capture ← Cursors.part bits (unpackU16ArrayPanicking bits)
  let playback ← Cursors.part bits (unpackU16ArrayPanicking bits)
  let manufacturer ← Cursors.part bits (unpackStringPanicking bits)
  let model ← Cursors.part bits (unpackStringPanicking bits)
  let deviceVersion ← Cursors.part bits (unpackStringPanicking bits)
  let serialNumber ← Cursors.last (unpackStringPanicking bits)
  return {
    standardVersion := head.standardVersion
    vendorExtensionId := head.vendorExtensionId
    vendorExtensionVersion := head.vendorExtensionVersion
    vendorExtensionDesc := head.vendorExtensionDesc
    functionalMode := head.functionalMode
    operationsSupported := operations.map OperationCode.ofCode
    eventsSupported := events.map EventCode.ofCode
    devicePropertiesSupported
    captureFormats := capture.map ObjectFormatCode.ofCode
    playbackFormats := playback.map ObjectFormatCode.ofCode
    manufacturer
    model
    deviceVersion
    serialNumber }

def fromBytesPanicking (bits : Nat) : Bytes → Option (Except PtpError DeviceInfo) :=
  Cursors.run (readPanicking bits)

/-- The sizes of so many arrays in a row can be computed. -/
def ArraysFit (bits : Nat) : Nat → Bytes → Prop
  | 0, _ => True
  | count + 1, rest =>
      CountFits bits 2 rest ∧ Cursors.After unpackU16Array (fun _ => ArraysFit bits count) rest

/-- The sizes of all five arrays can be computed. -/
def CountsFit (bits : Nat) (buf : Bytes) : Prop :=
  Cursors.After readHead (fun _ => ArraysFit bits 5) buf

end DeviceInfo

namespace StorageInfo

def readPanicking (bits : Nat) : Cursor UInt8 PtpError StorageInfo := do
  let storageType ← Cursors.field bits 2 unpackU16Panicking
  let filesystemType ← Cursors.field bits 2 unpackU16Panicking
  let accessCapability ← Cursors.field bits 2 unpackU16Panicking
  let maxCapacity ← Cursors.field bits 8 unpackU64Panicking
  let freeSpaceBytes ← Cursors.field bits 8 unpackU64Panicking
  let freeSpaceObjects ← Cursors.field bits 4 unpackU32Panicking
  let description ← Cursors.part bits (unpackStringPanicking bits)
  let volumeIdentifier ← Cursors.last (unpackStringPanicking bits)
  return {
    storageType := .ofCode storageType
    filesystemType := .ofCode filesystemType
    accessCapability := .ofCode accessCapability
    maxCapacity
    freeSpaceBytes
    freeSpaceObjects
    description
    volumeIdentifier }

def fromBytesPanicking (bits : Nat) : Bytes → Option (Except PtpError StorageInfo) :=
  Cursors.run (readPanicking bits)

end StorageInfo

namespace PropertyValue

def fromBytesPanicking (bits : Nat) (dataType : PropertyDataType) (buf : Bytes) :
    Option (Except PtpError (PropertyValue × Nat)) :=
  match dataType with
  | .int8 => orReturn (unpackI8Panicking buf) fun value => some (.ok (int8 value, 1))
  | .uint8 => orReturn (unpackU8Panicking buf) fun value => some (.ok (uint8 value, 1))
  | .int16 => orReturn (unpackI16Panicking buf) fun value => some (.ok (int16 value, 2))
  | .uint16 => orReturn (unpackU16Panicking buf) fun value => some (.ok (uint16 value, 2))
  | .int32 => orReturn (unpackI32Panicking buf) fun value => some (.ok (int32 value, 4))
  | .uint32 => orReturn (unpackU32Panicking buf) fun value => some (.ok (uint32 value, 4))
  | .int64 => orReturn (unpackI64Panicking buf) fun value => some (.ok (int64 value, 8))
  | .uint64 => orReturn (unpackU64Panicking buf) fun value => some (.ok (uint64 value, 8))
  | .string =>
      orReturn (unpackStringPanicking bits buf) fun result =>
        some (.ok (string result.1, result.2))
  | dataType =>
      some (.error (.invalidData ("unsupported property data type: " ++ dataType.debug)))

end PropertyValue

def PropertyRange.readPanicking (bits : Nat) (dataType : PropertyDataType) :
    Cursor UInt8 PtpError PropertyRange := do
  let min ← Cursors.part bits (PropertyValue.fromBytesPanicking bits dataType)
  let max ← Cursors.part bits (PropertyValue.fromBytesPanicking bits dataType)
  let step ← Cursors.part bits (PropertyValue.fromBytesPanicking bits dataType)
  return ⟨min, max, step⟩

def PropertyRange.fromBytesPanicking (bits : Nat) (dataType : PropertyDataType) (buf : Bytes) :
    Option (Except PtpError (PropertyRange × Nat)) :=
  PropertyRange.readPanicking bits dataType buf 0

namespace DevicePropDesc

/-- `buf[offset]`, where the length is checked first. -/
def flagPanicking (bits : Nat) (name : String) : Cursor UInt8 PtpError UInt8 := fun buf offset =>
  if buf.length ≤ offset then
    some (.error (.invalidData ("DevicePropDesc: insufficient bytes for " ++ name)))
  else do
    let flag ← index buf offset
    let moved ← add bits offset 1
    some (.ok (flag, moved))

def readHeadPanicking (bits : Nat) : Cursor UInt8 PtpError DevicePropDesc := do
  let propertyCode ← Cursors.field bits 2 unpackU16Panicking
  let dataType ← Cursors.field bits 2 unpackU16Panicking
  let getSet ← flagPanicking bits "GetSet"
  let defaultValue ← Cursors.part bits (PropertyValue.fromBytesPanicking bits (.ofCode dataType))
  let currentValue ← Cursors.part bits (PropertyValue.fromBytesPanicking bits (.ofCode dataType))
  let formFlag ← flagPanicking bits "FormFlag"
  return {
    propertyCode := .ofCode propertyCode
    dataType := .ofCode dataType
    writable := getSet ≠ 0
    defaultValue
    currentValue
    formType := .ofCode formFlag
    enumValues := none
    range := none }

def readFormPanicking (bits : Nat) (head : DevicePropDesc) :
    Cursor UInt8 PtpError DevicePropDesc :=
  match head.formType with
  | .unrestricted | .unknown _ => pure head
  | .range => do
      let range ← Cursors.last (PropertyRange.fromBytesPanicking bits head.dataType)
      return { head with range := some range }
  | .enumeration => do
      let count ← Cursors.field bits 2 unpackU16Panicking
      Cursors.preallocate count.toNat
      let values ← Cursors.many
        (Cursors.part bits (PropertyValue.fromBytesPanicking bits head.dataType)) count.toNat
      return { head with enumValues := some values }

def readPanicking (bits : Nat) : Cursor UInt8 PtpError DevicePropDesc := do
  let head ← readHeadPanicking bits
  readFormPanicking bits head

def fromBytesPanicking (bits : Nat) : Bytes → Option (Except PtpError DevicePropDesc) :=
  Cursors.run (readPanicking bits)

/-- No more values are announced than there are bytes behind their count. -/
def FormFits (head : DevicePropDesc) (rest : Bytes) : Prop :=
  head.formType = .enumeration →
    Cursors.After (Readers.field 2 unpackU16) (fun count values => count.toNat ≤ values.length) rest

def EnumerationFits (buf : Bytes) : Prop := Cursors.After readHead FormFits buf

end DevicePropDesc

namespace ObjectPropListElement

variable (bits : Nat)

/-- What a value is decoded to, and the bytes to step over for it. -/
def decodeValuePanicking (typeCode : UInt16) (rest : Bytes) :
    Option (Except PtpError (Option PropertyValue × Nat)) :=
  if 0x4001 ≤ typeCode ∧ typeCode ≤ 0x400A then
    match (PropertyDataType.ofCode (typeCode &&& 0x00FF)).byteSize with
    | none => some (.error (.invalidData
        ("unsupported array type 0x" ++ String.ofList (Nat.toDigits 16 typeCode.toNat))))
    | some size =>
        orReturn (unpackU32Panicking rest) fun count =>
          -- `checked_mul` and `checked_add`
          match (multiply bits count.toNat size).bind fun n => add bits n 4 with
          | none => some (.error (.invalidData "array property too long"))
          | some length => some (.ok (none, length))
  else
    match PropertyDataType.ofCode typeCode with
    | .int128 | .uint128 => some (.ok (none, 16))
    | .undefined => some (.ok (none, 0))
    | dataType =>
        orReturn (PropertyValue.fromBytesPanicking bits dataType rest) fun result =>
          some (.ok (some result.1, result.2))

/-- One element. `get(..).unwrap_or_default()` does not panic. -/
def readElementPanicking : Cursor UInt8 PtpError DecodedElement := fun buf offset =>
  let rest := buf.drop offset
  orReturn (unpackU32Panicking rest) fun handle =>
    orReturn (unpackU16Panicking (rest.drop 4)) fun property =>
      orReturn (unpackU16Panicking (rest.drop 6)) fun typeCode => do
        let offset ← add bits offset 8
        let rest := buf.drop offset
        orReturn (decodeValuePanicking bits typeCode rest) fun decoded =>
          if rest.length < decoded.2 then
            some (.error (.invalidData ("truncated " ++ (PropertyDataType.ofCode typeCode).debug ++
              " property " ++ (ObjectPropertyCode.ofCode property).debug)))
          else do
            let offset ← add bits offset decoded.2
            some (.ok (⟨⟨handle, .ofCode property, decoded.1⟩, .ofCode typeCode⟩, offset))

def listFromBytesPanicking (buf : Bytes) : Option (Except PtpError (List DecodedElement)) :=
  orReturn (unpackU32Panicking buf) fun count =>
    (Cursors.many (readElementPanicking bits) count.toNat buf 4).map fun result =>
      result.map Prod.fst

end ObjectPropListElement

section

variable {bits : Nat}

theorem follows_u16 : Follows (sliceLimit bits) (Cursors.field bits 2 unpackU16Panicking)
    (Readers.field 2 unpackU16) fun _ => True :=
  .field (.total fun buf _ => unpackU16Panicking_eq buf) delimited_u16 sliceLimit_le

theorem follows_u32 : Follows (sliceLimit bits) (Cursors.field bits 4 unpackU32Panicking)
    (Readers.field 4 unpackU32) fun _ => True :=
  .field (.total fun buf _ => unpackU32Panicking_eq buf) delimited_u32 sliceLimit_le

theorem follows_u64 : Follows (sliceLimit bits) (Cursors.field bits 8 unpackU64Panicking)
    (Readers.field 8 unpackU64) fun _ => True :=
  .field (.total fun buf _ => unpackU64Panicking_eq buf) delimited_u64 sliceLimit_le

theorem follows_string (wide : 32 ≤ bits) :
    Follows (sliceLimit bits) (Cursors.part bits (unpackStringPanicking bits))
      (unpackString : Reader UInt8 PtpError String) fun _ => True :=
  .part (parses_string wide) delimited_string sliceLimit_le

theorem parses_datetime (wide : 32 ≤ bits) :
    Parses (sliceLimit bits) (unpackDatetimePanicking bits) unpackDatetime fun _ => True := by
  apply Parses.total
  intro buf small
  rw [unpackDatetimePanicking, unpackDatetime, (parses_string wide buf small).same trivial]
  apply Panics.orReturn_eq
  intro result _
  rw [parsePanicking_eq]
  rfl

theorem follows_datetime (wide : 32 ≤ bits) :
    Follows (sliceLimit bits) (Cursors.part bits (unpackDatetimePanicking bits))
      (unpackDatetime : Reader UInt8 PtpError (Option DateTime)) fun _ => True :=
  .part (parses_datetime wide) delimited_datetime sliceLimit_le

theorem follows_u16Array :
    Follows (sliceLimit bits) (Cursors.part bits (unpackU16ArrayPanicking bits)) unpackU16Array
      (CountFits bits 2) :=
  .part parses_u16Array delimited_u16Array sliceLimit_le

theorem parses_objectInfo (wide : 32 ≤ bits) :
    Parses (sliceLimit bits) (WholeObjectInfo.fromBytesPanicking bits) WholeObjectInfo.fromBytes
      fun _ => True := by
  have strings := follows_string wide
  have dates := follows_datetime wide
  apply Ends.run
  exact .then follows_u32 delimited_u32 fun _ => .then follows_u16 delimited_u16 fun _ =>
    .then follows_u16 delimited_u16 fun _ => .then follows_u32 delimited_u32 fun _ =>
    .then follows_u16 delimited_u16 fun _ => .then follows_u32 delimited_u32 fun _ =>
    .then follows_u32 delimited_u32 fun _ => .then follows_u32 delimited_u32 fun _ =>
    .then follows_u32 delimited_u32 fun _ => .then follows_u32 delimited_u32 fun _ =>
    .then follows_u32 delimited_u32 fun _ => .then follows_u32 delimited_u32 fun _ =>
    .then follows_u16 delimited_u16 fun _ => .then follows_u32 delimited_u32 fun _ =>
    .then follows_u32 delimited_u32 fun _ => .then strings delimited_string fun _ =>
    .then dates delimited_datetime fun _ => .then dates delimited_datetime fun _ =>
    (Ends.last (parses_string wide)).return

theorem parses_storageInfo (wide : 32 ≤ bits) :
    Parses (sliceLimit bits) (StorageInfo.fromBytesPanicking bits) StorageInfo.fromBytes
      fun _ => True := by
  apply Ends.run
  exact .then follows_u16 delimited_u16 fun _ => .then follows_u16 delimited_u16 fun _ =>
    .then follows_u16 delimited_u16 fun _ => .then follows_u64 delimited_u64 fun _ =>
    .then follows_u64 delimited_u64 fun _ => .then follows_u32 delimited_u32 fun _ =>
    .then (follows_string wide) delimited_string fun _ =>
    (Ends.last (parses_string wide)).return

namespace DeviceInfo

theorem follows_head (wide : 32 ≤ bits) :
    Follows (sliceLimit bits) (readHeadPanicking bits) readHead fun _ => True :=
  .then follows_u16 delimited_u16 fun _ => .then follows_u32 delimited_u32 fun _ =>
    .then follows_u16 delimited_u16 fun _ => .then (follows_string wide) delimited_string fun _ =>
    .then follows_u16 delimited_u16 fun _ => .pure _

theorem ends_array {α : Type} {count : Nat} {next : List UInt16 → Cursor UInt8 PtpError α}
    {after : List UInt16 → Reader UInt8 PtpError α}
    (later : ∀ array, Ends (sliceLimit bits) (next array) (after array) (ArraysFit bits count)) :
    Ends (sliceLimit bits) (Cursors.part bits (unpackU16ArrayPanicking bits) >>= next)
      (unpackU16Array >>= after) (ArraysFit bits (count + 1)) :=
  Ends.bind follows_u16Array delimited_u16Array later

end DeviceInfo

theorem parses_deviceInfo (wide : 32 ≤ bits) :
    Parses (sliceLimit bits) (DeviceInfo.fromBytesPanicking bits) DeviceInfo.fromBytes
      (DeviceInfo.CountsFit bits) := by
  have strings := follows_string wide
  apply Ends.run
  refine (Ends.bind (DeviceInfo.follows_head wide) DeviceInfo.delimited_head fun _ => ?_).congr
    fun _ => Iff.of_eq (true_and _)
  exact DeviceInfo.ends_array fun _ => DeviceInfo.ends_array fun _ =>
    DeviceInfo.ends_array fun _ => DeviceInfo.ends_array fun _ => DeviceInfo.ends_array fun _ =>
    .then strings delimited_string fun _ => .then strings delimited_string fun _ =>
    .then strings delimited_string fun _ => (Ends.last (parses_string wide)).return

namespace PropertyValue

theorem number_parses {α : Type} {size : Nat} {panicking : Bytes → Option (Except PtpError α)}
    {plain : Bytes → Except PtpError α} (same : ∀ buf, panicking buf = some (plain buf))
    (f : α → PropertyValue) (buf : Bytes) :
    (orReturn (panicking buf) fun value => some (.ok (f value, size))) =
      some ((Readers.field size plain >>= fun value => pure (f value)) buf) := by
  rw [same, Readers.return_eq, Readers.field]
  cases plain buf <;> rfl

theorem parses (wide : 32 ≤ bits) (dataType : PropertyDataType) :
    Parses (sliceLimit bits) (fromBytesPanicking bits dataType) (fromBytes dataType)
      fun _ => True := by
  apply Parses.total
  intro buf small
  cases dataType with
  | int8 => exact number_parses unpackI8Panicking_eq int8 buf
  | uint8 => exact number_parses unpackU8Panicking_eq uint8 buf
  | int16 => exact number_parses unpackI16Panicking_eq int16 buf
  | uint16 => exact number_parses unpackU16Panicking_eq uint16 buf
  | int32 => exact number_parses unpackI32Panicking_eq int32 buf
  | uint32 => exact number_parses unpackU32Panicking_eq uint32 buf
  | int64 => exact number_parses unpackI64Panicking_eq int64 buf
  | uint64 => exact number_parses unpackU64Panicking_eq uint64 buf
  | string =>
      have whole : (((unpackString : Reader UInt8 PtpError String) >>= fun s => pure (string s)) :
          Reader UInt8 PtpError PropertyValue) buf =
            (unpackString buf).map fun result => (string result.1, result.2) :=
        Readers.return_eq _ _
      refine Eq.trans ?_ (congrArg some whole.symm)
      rw [fromBytesPanicking, (parses_string wide buf small).same trivial]
      cases unpackString buf <;> rfl
  | undefined | int128 | uint128 | unknown code => rfl

theorem follows (wide : 32 ≤ bits) (dataType : PropertyDataType) :
    Follows (sliceLimit bits) (Cursors.part bits (fromBytesPanicking bits dataType))
      (fromBytes dataType) fun _ => True :=
  .part (parses wide dataType) (delimited dataType) sliceLimit_le

end PropertyValue

theorem PropertyRange.parses (wide : 32 ≤ bits) (dataType : PropertyDataType) :
    Parses (sliceLimit bits) (fromBytesPanicking bits dataType) (fromBytes dataType)
      fun _ => True := by
  have value := PropertyValue.follows wide dataType
  have delimited := PropertyValue.delimited dataType
  apply Follows.run
  exact .then value delimited fun _ => .then value delimited fun _ =>
    .then value delimited fun _ => .pure _

namespace DevicePropDesc

theorem follows_flag (name : String) :
    Follows (sliceLimit bits) (flagPanicking bits name) (Readers.field 1 (unpackFlag name))
      fun _ => True := by
  intro buf offset small inside
  have limit := slice_fits small
  unfold flagPanicking
  by_cases missing : buf.length ≤ offset
  · rw [if_pos missing, List.drop_eq_nil_of_le missing]
    exact .some _
  · have there := Nat.lt_of_not_le missing
    rw [if_neg missing, index, List.getElem?_eq_getElem there, List.drop_eq_getElem_cons there]
    simp only [Option.bind_eq_bind, Option.bind_some]
    rw [Panics.add_eq (by omega)]
    exact .some _

theorem follows_head (wide : 32 ≤ bits) :
    Follows (sliceLimit bits) (readHeadPanicking bits) readHead fun _ => True :=
  .then follows_u16 delimited_u16 fun _ => .then follows_u16 delimited_u16 fun _ =>
    .then (follows_flag _) (delimited_flag _) fun _ =>
    .then (PropertyValue.follows wide _) (PropertyValue.delimited _) fun _ =>
    .then (PropertyValue.follows wide _) (PropertyValue.delimited _) fun _ =>
    .then (follows_flag _) (delimited_flag _) fun _ => .pure _

/-- The form data is parsed where the values announced may be there. -/
theorem ends_form (wide : 32 ≤ bits) (head : DevicePropDesc) :
    Ends (sliceLimit bits) (readFormPanicking bits head) (readForm head) (FormFits head) := by
  unfold readFormPanicking readForm FormFits
  cases form : head.formType with
  | unrestricted | unknown code =>
      exact (Follows.pure _).ends.congr fun _ => ⟨fun _ => nofun, fun _ => trivial⟩
  | range =>
      exact (Ends.last (PropertyRange.parses wide head.dataType)).return.congr
        fun _ => ⟨fun _ => nofun, fun _ => trivial⟩
  | enumeration =>
      have value := PropertyValue.follows wide head.dataType
      have delimited := PropertyValue.delimited head.dataType
      refine Ends.congr (Follows.bind follows_u16 delimited_u16 fun count =>
        Follows.preallocate (.then (value.many delimited _) (delimited.many _) fun _ => .pure _)
          count.toNat).ends fun input => ?_
      exact ⟨fun holds _ => holds.2, fun holds => ⟨trivial, holds rfl⟩⟩

end DevicePropDesc

theorem parses_devicePropDesc (wide : 32 ≤ bits) :
    Parses (sliceLimit bits) (DevicePropDesc.fromBytesPanicking bits) DevicePropDesc.fromBytes
      DevicePropDesc.EnumerationFits := by
  apply Ends.run
  exact (Ends.bind (DevicePropDesc.follows_head wide) DevicePropDesc.delimited_head fun head =>
    DevicePropDesc.ends_form wide head).congr fun _ => Iff.of_eq (true_and _)

namespace ObjectPropListElement

theorem decodeValuePanicking_eq (wide : 32 ≤ bits) {rest : Bytes}
    (small : rest.length < sliceLimit bits) (typeCode : UInt16) :
    decodeValuePanicking bits typeCode rest = some (decodeValue bits typeCode rest) := by
  unfold decodeValuePanicking decodeValue
  by_cases array : 0x4001 ≤ typeCode ∧ typeCode ≤ 0x400A
  · rw [if_pos array, if_pos array]
    cases (PropertyDataType.ofCode (typeCode &&& 0x00FF)).byteSize with
    | none => rfl
    | some size =>
        dsimp only
        rw [unpackU32Panicking_eq]
        apply Panics.orReturn_eq
        intro count _
        by_cases fits : count.toNat * size + 4 < 2 ^ bits
        · rw [if_pos fits, Panics.multiply_eq (by omega), Option.bind_some, Panics.add_eq fits]
        · rw [if_neg fits]
          by_cases elements : count.toNat * size < 2 ^ bits
          · rw [Panics.multiply_eq elements, Option.bind_some, add, if_neg fits]
          · rw [multiply, if_neg elements, Option.bind_none]
  · rw [if_neg array, if_neg array]
    have value := fun dataType => (PropertyValue.parses wide dataType rest small).same trivial
    cases PropertyDataType.ofCode typeCode with
    | undefined | int128 | uint128 => rfl
    | int8 | uint8 | int16 | uint16 | int32 | uint32 | int64 | uint64 | string | unknown code =>
        dsimp only
        rw [value]
        cases PropertyValue.fromBytes _ rest <;> rfl

theorem readElement_eq (rest : Bytes) : readElement bits rest =
    unpackU32 rest >>= fun handle =>
      unpackU16 (rest.drop 4) >>= fun property =>
        unpackU16 (rest.drop 6) >>= fun typeCode =>
          (readValue bits typeCode (.ofCode property) (rest.drop 8)).map fun result =>
            (⟨⟨handle, .ofCode property, result.1⟩, .ofCode typeCode⟩, 8 + result.2) := by
  rw [readElement, Readers.field_then]
  cases unpackU32 rest with
  | error e => rfl
  | ok handle =>
      change Except.map _ _ = _
      rw [Readers.field_then]
      cases unpackU16 (rest.drop 4) with
      | error e => rfl
      | ok property =>
          change Except.map _ (Except.map _ _) = _
          rw [Readers.field_then, List.drop_drop]
          cases unpackU16 (rest.drop (4 + 2)) with
          | error e => rfl
          | ok typeCode =>
              change Except.map _ (Except.map _ (Except.map _ _)) =
                Except.map _ (readValue bits typeCode _ (rest.drop (4 + 2 + 2)))
              rw [Readers.return_eq, List.drop_drop]
              cases readValue bits typeCode (.ofCode property) (rest.drop (4 + 2 + 2)) with
              | error e => rfl
              | ok result =>
                  have total : 4 + (2 + (2 + result.2)) = 8 + result.2 := by omega
                  simp only [Except.map, total]

theorem follows_element (wide : 32 ≤ bits) :
    Follows (sliceLimit bits) (readElementPanicking bits) (readElement bits) fun _ => True := by
  intro buf offset small inside
  have limit := slice_fits small
  suffices same : readElementPanicking bits buf offset =
      some ((readElement bits (buf.drop offset)).map fun result => (result.1, offset + result.2)) by
    rw [same]
    exact .some _
  rw [readElementPanicking, readElement_eq, unpackU32Panicking_eq, unpackU16Panicking_eq,
    unpackU16Panicking_eq]
  cases unpackU32 (buf.drop offset) with
  | error e => rfl
  | ok handle =>
      cases unpackU16 ((buf.drop offset).drop 4) with
      | error e => rfl
      | ok property =>
          cases read : unpackU16 ((buf.drop offset).drop 6) with
          | error e => rfl
          | ok typeCode =>
              have long := delimited_u16.within (Readers.map_eq_ok.mpr ⟨typeCode, read, rfl⟩)
              rw [List.length_drop, List.length_drop] at long
              simp only [orReturn]
              rw [Panics.add_eq (by omega)]
              simp only [Option.bind_eq_bind, Option.bind_some]
              change _ = some (Except.map _ (Except.map _
                (readValue bits typeCode _ ((buf.drop offset).drop 8))))
              rw [List.drop_drop, decodeValuePanicking_eq wide (Cursors.drop_length_lt _ small),
                readValue]
              cases decodeValue bits typeCode (buf.drop (offset + 8)) with
              | error e => rfl
              | ok decoded =>
                  simp only [bind, Except.bind]
                  by_cases missing : (buf.drop (offset + 8)).length < decoded.2
                  · rw [if_pos missing, if_pos missing]
                    rfl
                  · rw [if_neg missing, if_neg missing]
                    rw [List.length_drop] at missing
                    rw [Panics.add_eq (by omega), Nat.add_assoc]
                    rfl

theorem parses_list (wide : 32 ≤ bits) :
    Parses (sliceLimit bits) (listFromBytesPanicking bits) (listFromBytes bits) fun _ => True := by
  apply Parses.total
  intro buf small
  rw [listFromBytesPanicking, listFromBytes, unpackU32Panicking_eq, readList, Readers.field_then]
  cases read : unpackU32 buf with
  | error e => rfl
  | ok count =>
      have inside := delimited_u32.within (Readers.map_eq_ok.mpr ⟨count, read, rfl⟩)
      have elements := (follows_element wide).many delimited_element count.toNat
      simp only [orReturn]
      rw [(elements buf 4 small inside).same trivial]
      change _ = some (Except.map _ (Except.map _ (Readers.many (readElement bits) _ _)))
      cases Readers.many (readElement bits) count.toNat (buf.drop 4) <;> rfl

end ObjectPropListElement

namespace DeviceInfo

/-- 64 bits hold the size of any array. -/
theorem arraysFit_wide (wide : 36 ≤ bits) (count : Nat) (rest : Bytes) :
    ArraysFit bits count rest := by
  induction count generalizing rest with
  | zero => trivial
  | succ count ih => exact ⟨countFits_wide wide (by decide), fun _ _ _ => ih _⟩

end DeviceInfo

/-- Which parsers never panic, on what the others do, and that the bytes behind what is parsed do
not matter. -/
theorem parsers_panic_when (width : bits = 32 ∨ bits = 64) {buf : Bytes}
    (slice : buf.length < sliceLimit bits) :
    (WholeObjectInfo.fromBytesPanicking bits buf = some (WholeObjectInfo.fromBytes buf) ∧
      StorageInfo.fromBytesPanicking bits buf = some (StorageInfo.fromBytes buf) ∧
      ObjectPropListElement.listFromBytesPanicking bits buf =
        some (ObjectPropListElement.listFromBytes bits buf) ∧
      (∀ dataType, PropertyValue.fromBytesPanicking bits dataType buf =
        some (PropertyValue.fromBytes dataType buf)) ∧
      unpackStringPanicking bits buf = some (unpackString buf) ∧
      containerTypePanicking buf = some (containerType buf) ∧
      DataContainer.fromBytesPanicking buf = some (DataContainer.fromBytes buf) ∧
      ResponseContainer.fromBytesPanicking bits buf = some (ResponseContainer.fromBytes buf) ∧
      EventContainer.fromBytesPanicking buf = some (EventContainer.fromBytes buf)) ∧
    (SafeWhen (CountFits bits 2 buf) (unpackU16ArrayPanicking bits buf) (unpackU16Array buf) ∧
      SafeWhen (CountFits bits 4 buf) (unpackU32ArrayPanicking bits buf) (unpackU32Array buf) ∧
      SafeWhen (DeviceInfo.CountsFit bits buf) (DeviceInfo.fromBytesPanicking bits buf)
        (DeviceInfo.fromBytes buf) ∧
      SafeWhen (DevicePropDesc.EnumerationFits buf) (DevicePropDesc.fromBytesPanicking bits buf)
        (DevicePropDesc.fromBytes buf)) ∧
    (bits = 64 → CountFits bits 2 buf ∧ CountFits bits 4 buf ∧ DeviceInfo.CountsFit bits buf) ∧
    (Delimited unpackString ∧ Delimited unpackU16Array ∧ Delimited unpackU32Array ∧
      ∀ dataType, Delimited (PropertyValue.fromBytes dataType)) := by
  have wide : 32 ≤ bits := by omega
  refine ⟨⟨?_, ?_, ?_, ?_, ?_, ?_, ?_, ?_, ?_⟩, ⟨?_, ?_, ?_, ?_⟩, ?_, ⟨?_, ?_, ?_, ?_⟩⟩
  · exact (parses_objectInfo wide buf slice).same trivial
  · exact (parses_storageInfo wide buf slice).same trivial
  · exact (ObjectPropListElement.parses_list wide buf slice).same trivial
  · intro dataType
    exact (PropertyValue.parses wide dataType buf slice).same trivial
  · exact (parses_string wide buf slice).same trivial
  · exact (parses_containerType buf slice).same trivial
  · exact (parses_data buf slice).same trivial
  · exact (parses_response buf slice).same trivial
  · exact (parses_event buf slice).same trivial
  · exact parses_u16Array buf slice
  · exact parses_u32Array buf slice
  · exact parses_deviceInfo wide buf slice
  · exact parses_devicePropDesc wide buf slice
  · intro long
    have wider : 36 ≤ bits := by omega
    exact ⟨countFits_wide wider (by decide), countFits_wide wider (by decide),
      fun _ _ _ => DeviceInfo.arraysFit_wide wider _ _⟩
  · exact delimited_string
  · exact delimited_u16Array
  · exact delimited_u32Array
  · exact PropertyValue.delimited

end

/-- The descriptor of a battery level whose form is an enumeration of 65,535 values, and ends
there. -/
def endlessEnumeration : Bytes := [0x01, 0x50, 0x02, 0x00, 0x00, 0x32, 0x64, 0x02, 0xFF, 0xFF]

theorem parsers_panic_when_letter :
    unpackStringPanicking 32 [2, 65, 0, 0, 0] = some (.ok ("A", 5)) :=
  (parsers_panic_when (.inl rfl) (by decide)).1.2.2.2.2.1

/-- With nothing behind the count, 65,535 values are preallocated; and on 32 bits the size of an
array of as many words as a count can say overflows. -/
theorem counts_unchecked :
    DevicePropDesc.fromBytesPanicking 64 endlessEnumeration = none ∧
      (DevicePropDesc.fromBytes endlessEnumeration).isOk = false ∧
      unpackU32ArrayPanicking 32 [0xFF, 0xFF, 0xFF, 0xFF] = none := by
  refine ⟨?_, ?_, ?_⟩
  · rfl
  · rfl
  · rfl

end Ptp
