import MtpRs.Mtp.Upload
import MtpRs.Ptp.DateStrings
import MtpRs.Ptp.Fields

set_option autoImplicit false

/- The whole `ObjectInfo` dataset, written and read. -/
namespace Ptp

open Ascii (bytes digits)
open Readers (Delimited Reader Writes field)

structure WholeObjectInfo extends ObjectDataset where
  thumbFormat : ObjectFormatCode
  thumbSize : UInt32
  thumbWidth : UInt32
  thumbHeight : UInt32
  imageBitDepth : UInt32
  associationDesc : UInt32
  sequenceNumber : UInt32
  keywords : String
deriving DecidableEq, Repr

/-- Reading a code and writing it back gives the same sixteen bits. -/
theorem ObjectFormatCode.toCode_ofCode (code : UInt16) :
    (ObjectFormatCode.ofCode code).toCode = code := by
  unfold ObjectFormatCode.ofCode
  split <;> rfl

namespace WholeObjectInfo

/-- `ObjectInfo::from_bytes`, and how far it reads. -/
def read : Reader UInt8 PtpError WholeObjectInfo := do
  let storageId ← field 4 unpackU32
  let format ← field 2 unpackU16
  let protectionStatus ← field 2 unpackU16
  let size ← field 4 unpackU32
  let thumbFormat ← field 2 unpackU16
  let thumbSize ← field 4 unpackU32
  let thumbWidth ← field 4 unpackU32
  let thumbHeight ← field 4 unpackU32
  let imageWidth ← field 4 unpackU32
  let imageHeight ← field 4 unpackU32
  let imageBitDepth ← field 4 unpackU32
  let parent ← field 4 unpackU32
  let associationType ← field 2 unpackU16
  let associationDesc ← field 4 unpackU32
  let sequenceNumber ← field 4 unpackU32
  let filename ← (unpackString : Reader UInt8 PtpError String)
  let created ← (unpackDatetime : Reader UInt8 PtpError (Option DateTime))
  let modified ← (unpackDatetime : Reader UInt8 PtpError (Option DateTime))
  let keywords ← (unpackString : Reader UInt8 PtpError String)
  return {
    handle := 0
    storageId
    format := .ofCode format
    protectionStatus := .ofCode protectionStatus
    size := size.toNat
    thumbFormat := .ofCode thumbFormat
    thumbSize
    thumbWidth
    thumbHeight
    imageWidth
    imageHeight
    imageBitDepth
    parent
    associationType := .ofCode associationType
    associationDesc
    sequenceNumber
    filename
    created
    modified
    keywords }

def fromBytes (buf : Bytes) : Except PtpError WholeObjectInfo := (read buf).map Prod.fst

/-- The size that fits its field. -/
def sizeU32 (self : WholeObjectInfo) : UInt32 :=
  if UInt32.size - 1 < self.size then 0xFFFFFFFF else UInt32.ofNat self.size

def toBytes (self : WholeObjectInfo) : Except PtpError Bytes := do
  let filename ← packString self.filename
  let created ← packOptionalDatetime self.created
  let modified ← packOptionalDatetime self.modified
  let keywords ← packString self.keywords
  return packU32 self.storageId ++ (packU16 self.format.toCode ++
    (packU16 self.protectionStatus.toCode ++ (packU32 self.sizeU32 ++
    (packU16 self.thumbFormat.toCode ++ (packU32 self.thumbSize ++ (packU32 self.thumbWidth ++
    (packU32 self.thumbHeight ++ (packU32 self.imageWidth ++ (packU32 self.imageHeight ++
    (packU32 self.imageBitDepth ++ (packU32 self.parent ++
    (packU16 self.associationType.toCode ++ (packU32 self.associationDesc ++
    (packU32 self.sequenceNumber ++ (filename ++ (created ++ (modified ++ keywords)))))))))))))))))

/-- Its codes are what reading their own bits gives. -/
structure Canonical (info : WholeObjectInfo) : Prop where
  format : ObjectFormatCode.ofCode info.format.toCode = info.format
  protectionStatus : ProtectionStatus.ofCode info.protectionStatus.toCode = info.protectionStatus
  thumbFormat : ObjectFormatCode.ofCode info.thumbFormat.toCode = info.thumbFormat
  associationType : AssociationType.ofCode info.associationType.toCode = info.associationType

/-- Its strings fit their fields, and its dates are valid. -/
structure Packable (info : WholeObjectInfo) : Prop where
  filename : (encodeUtf16 info.filename).length ≤ maxStringUnits
  keywords : (encodeUtf16 info.keywords).length ≤ maxStringUnits
  created : ∀ dt ∈ info.created, dt.isValid = true
  modified : ∀ dt ∈ info.modified, dt.isValid = true

def received (self : WholeObjectInfo) : WholeObjectInfo :=
  { self with
    handle := 0
    size := min self.size (2 ^ 32 - 1)
    format := .ofCode self.format.toCode
    protectionStatus := .ofCode self.protectionStatus.toCode
    thumbFormat := .ofCode self.thumbFormat.toCode
    associationType := .ofCode self.associationType.toCode
    filename := receivedText self.filename
    keywords := receivedText self.keywords }

end WholeObjectInfo

section

variable {d : DateTime} {info : WholeObjectInfo}

/-- Text of so many characters at most, and none of them NUL. -/
def Short (size : Nat) (text : String) : Prop := text.toList.length ≤ size ∧ '\x00' ∉ text.toList

theorem Short.append {m n : Nat} {first second : String} (front : Short m first)
    (back : Short n second) : Short (m + n) (first ++ second) := by
  unfold Short
  rw [String.toList_append, List.length_append, List.mem_append, not_or]
  exact ⟨Nat.add_le_add front.1 back.1, front.2, back.2⟩

theorem short_padded {width n : Nat} (wide : 0 < width) (small : n < 10 ^ width) :
    Short width (padded width n) := by
  have fits := (Ascii.fill_toDigits wide small).1
  have text : (padded width n).toList =
      List.replicate (width - (Nat.toDigits 10 n).length) '0' ++ Nat.toDigits 10 n := by
    rw [padded, show toString n = String.ofList (Nat.toDigits 10 n) from rfl, String.length_ofList,
      String.toList_append, String.toList_ofList, String.toList_ofList]
  unfold Short
  rw [text, List.length_append, List.length_replicate, List.mem_append, not_or]
  refine ⟨by omega, ?_, ?_⟩
  · intro mem
    exact absurd (List.eq_of_mem_replicate mem) (by decide)
  · intro mem
    exact absurd (Nat.isDigit_of_mem_toDigits (by decide) (by decide) mem) (by decide)

theorem short_zoneText (offset : Option UtcOffset) : Short 5 (zoneText offset) := by
  cases offset with
  | none => exact ⟨by decide, by decide⟩
  | some offset =>
      have inRange := offset.inRange
      by_cases zero : offset.minutes = 0
      · rw [zoneText, if_pos zero]
        exact ⟨by decide, by decide⟩
      · rw [zoneText, if_neg zero]
        have sign : Short 1 (if offset.minutes < 0 then "-" else "+") := by
          split
          · exact ⟨by decide, by decide⟩
          · exact ⟨by decide, by decide⟩
        exact (sign.append (short_padded (by decide) (by omega))).append
          (short_padded (by decide) (by omega))

/-- A date's text is short, and has no NUL. -/
theorem short_date (real : d.Real) : Short 20 (d.stamp ++ zoneText d.offset) := by
  have year := real.year
  have month := real.month
  have day := real.day_le
  have hour := real.hour
  have minute := real.minute
  have second := real.second
  have t : Short 1 "T" := ⟨by decide, by decide⟩
  have y : Short 4 (padded 4 d.year) := short_padded (by decide) (by omega)
  have mo : Short 2 (padded 2 d.month) := short_padded (by decide) (by omega)
  have da : Short 2 (padded 2 d.day) := short_padded (by decide) (by omega)
  have h : Short 2 (padded 2 d.hour) := short_padded (by decide) (by omega)
  have mi : Short 2 (padded 2 d.minute) := short_padded (by decide) (by omega)
  have se : Short 2 (padded 2 d.second) := short_padded (by decide) (by omega)
  exact ((((((y.append mo).append da).append t).append h).append mi).append se).append
    (short_zoneText d.offset)

theorem charUnits_length_le (c : Char) : (charUnits c).length ≤ 2 := by
  unfold charUnits
  split <;> simp

theorem encodeUtf16_length_le (s : String) : (encodeUtf16 s).length ≤ 2 * s.toList.length := by
  unfold encodeUtf16
  induction s.toList with
  | nil => exact Nat.le_refl _
  | cons c chars ih =>
      have one := charUnits_length_le c
      rw [List.flatMap_cons, List.length_append, List.length_cons]
      omega

/-- A valid date is packed, and read back. -/
theorem packDatetime_real (real : d.Real) :
    ∃ bytes, packDatetime d = .ok bytes ∧
      Writes (unpackDatetime : Reader UInt8 PtpError (Option DateTime)) bytes (some d) := by
  have short := short_date real
  have units := encodeUtf16_length_le (d.stamp ++ zoneText d.offset)
  obtain ⟨bytes, packed⟩ := packString_ok (s := d.stamp ++ zoneText d.offset)
    (show _ ≤ 254 by have := short.1; omega)
  have parsed := parse_format real
  rw [format_eq real, Option.bind_some] at parsed
  refine ⟨bytes, ?_, ?_⟩
  · rw [packDatetime, format_eq real]
    exact packed
  · intro rest
    rw [unpackDatetime, unpackString_packString packed, receivedText_eq_iff.mpr short.2]
    dsimp only [bind, Except.bind]
    rw [parsed]
    rfl

theorem packDatetime_error_iff : (∃ e, packDatetime d = .error e) ↔ ¬ d.isValid = true := by
  constructor
  · intro ⟨e, failed⟩ valid
    obtain ⟨bytes, packed, -⟩ := packDatetime_real (isValid_iff.mp valid)
    rw [packed] at failed
    cases failed
  · intro invalid
    rw [packDatetime, DateTime.format, if_neg invalid]
    exact ⟨_, rfl⟩

theorem packOptionalDatetime_ok {date : Option DateTime}
    (valid : ∀ dt ∈ date, dt.isValid = true) :
    ∃ bytes, packOptionalDatetime date = .ok bytes ∧
      Writes (unpackDatetime : Reader UInt8 PtpError (Option DateTime)) bytes date := by
  cases date with
  | none => exact ⟨[0], rfl, fun rest => rfl⟩
  | some dt => exact packDatetime_real (isValid_iff.mp (valid dt rfl))

theorem packOptionalDatetime_error_iff {date : Option DateTime} :
    (∃ e, packOptionalDatetime date = .error e) ↔ ∃ dt ∈ date, ¬ dt.isValid = true := by
  cases date with
  | none =>
      refine iff_of_false ?_ ?_
      · intro ⟨e, failed⟩
        cases failed
      · intro ⟨dt, mem, _⟩
        cases mem
  | some dt =>
      rw [packOptionalDatetime, packDatetime_error_iff]
      simp

theorem writes_string {s : String} {bytes : Bytes} (packed : packString s = .ok bytes) :
    Writes (unpackString : Reader UInt8 PtpError String) bytes (receivedText s) :=
  unpackString_packString packed

theorem unpackDatetime_eq : @Eq (Reader UInt8 PtpError (Option DateTime)) unpackDatetime
    ((unpackString : Reader UInt8 PtpError String) >>= fun s => pure (DateTime.parse s)) := by
  funext buf
  cases read : unpackString buf with
  | error e =>
      rw [Readers.bind_error read, unpackDatetime, read]
      rfl
  | ok value =>
      rw [Readers.bind_ok read, unpackDatetime, read]
      rfl

theorem delimited_datetime :
    Delimited (unpackDatetime : Reader UInt8 PtpError (Option DateTime)) := by
  rw [unpackDatetime_eq]
  exact delimited_string.bind fun _ => .pure _

namespace WholeObjectInfo

theorem sizeU32_toNat : info.sizeU32.toNat = min info.size (2 ^ 32 - 1) := by
  unfold sizeU32
  split
  · next large =>
      exact (Nat.min_eq_right (Nat.le_of_lt large)).symm
  · next small =>
      have fits : info.size < 2 ^ 32 := by
        rw [UInt32.size] at small
        omega
      rw [UInt32.toNat_ofNat', Nat.mod_eq_of_lt fits, Nat.min_eq_left (by omega)]

theorem toBytes_ok {bytes : Bytes} (written : info.toBytes = .ok bytes) :
    ∃ filename created modified keywords, packString info.filename = .ok filename ∧
      packOptionalDatetime info.created = .ok created ∧
      packOptionalDatetime info.modified = .ok modified ∧
      packString info.keywords = .ok keywords ∧
      bytes = packU32 info.storageId ++ (packU16 info.format.toCode ++
        (packU16 info.protectionStatus.toCode ++ (packU32 info.sizeU32 ++
        (packU16 info.thumbFormat.toCode ++ (packU32 info.thumbSize ++ (packU32 info.thumbWidth ++
        (packU32 info.thumbHeight ++ (packU32 info.imageWidth ++ (packU32 info.imageHeight ++
        (packU32 info.imageBitDepth ++ (packU32 info.parent ++
        (packU16 info.associationType.toCode ++ (packU32 info.associationDesc ++
        (packU32 info.sequenceNumber ++
          (filename ++ (created ++ (modified ++ keywords))))))))))))))))) := by
  unfold toBytes at written
  cases filename : packString info.filename with
  | error e =>
      rw [filename] at written
      cases written
  | ok filename' =>
      cases created : packOptionalDatetime info.created with
      | error e =>
          rw [filename, created] at written
          cases written
      | ok created' =>
          cases modified : packOptionalDatetime info.modified with
          | error e =>
              rw [filename, created, modified] at written
              cases written
          | ok modified' =>
              cases keywords : packString info.keywords with
              | error e =>
                  rw [filename, created, modified, keywords] at written
                  cases written
              | ok keywords' =>
                  rw [filename, created, modified, keywords] at written
                  cases written
                  exact ⟨filename', created', modified', keywords', rfl, rfl, rfl, rfl, rfl⟩

theorem toBytes_error_iff : (∃ e, info.toBytes = .error e) ↔ ¬ info.Packable := by
  constructor
  · intro ⟨e, failed⟩ packable
    obtain ⟨filename, packedName⟩ := packString_ok packable.filename
    obtain ⟨keywords, packedKeywords⟩ := packString_ok packable.keywords
    obtain ⟨created, packedCreated, -⟩ := packOptionalDatetime_ok packable.created
    obtain ⟨modified, packedModified, -⟩ := packOptionalDatetime_ok packable.modified
    rw [toBytes, packedName, packedCreated, packedModified, packedKeywords] at failed
    cases failed
  · intro unpackable
    cases result : info.toBytes with
    | error e => exact ⟨e, rfl⟩
    | ok bytes =>
        obtain ⟨filename, created, modified, keywords, packedName, packedCreated, packedModified,
          packedKeywords, -⟩ := toBytes_ok result
        refine absurd ⟨?_, ?_, ?_, ?_⟩ unpackable
        · by_contra long
          obtain ⟨e, failed⟩ := packString_error_iff.mpr (Nat.lt_of_not_le long)
          rw [packedName] at failed
          cases failed
        · by_contra long
          obtain ⟨e, failed⟩ := packString_error_iff.mpr (Nat.lt_of_not_le long)
          rw [packedKeywords] at failed
          cases failed
        · intro dt mem
          by_contra invalid
          obtain ⟨e, failed⟩ := packOptionalDatetime_error_iff.mpr ⟨dt, mem, invalid⟩
          rw [packedCreated] at failed
          cases failed
        · intro dt mem
          by_contra invalid
          obtain ⟨e, failed⟩ := packOptionalDatetime_error_iff.mpr ⟨dt, mem, invalid⟩
          rw [packedModified] at failed
          cases failed

/-- A date that was packed is read back. -/
theorem writes_datetime {date : Option DateTime} {bytes : Bytes}
    (packed : packOptionalDatetime date = .ok bytes) :
    Writes (unpackDatetime : Reader UInt8 PtpError (Option DateTime)) bytes date := by
  by_cases valid : ∀ dt ∈ date, dt.isValid = true
  · obtain ⟨bytes', packed', writes⟩ := packOptionalDatetime_ok valid
    rw [packed] at packed'
    cases packed'
    exact writes
  · have failed : ∃ e, packOptionalDatetime date = .error e := by
      rw [packOptionalDatetime_error_iff]
      simpa using valid
    obtain ⟨e, failed⟩ := failed
    rw [packed] at failed
    cases failed

/-- What is written is read back, whatever follows it. -/
theorem writes_toBytes {bytes : Bytes} (written : info.toBytes = .ok bytes) :
    Writes read bytes info.received := by
  obtain ⟨filename, created, modified, keywords, packedName, packedCreated, packedModified,
    packedKeywords, rfl⟩ := toBytes_ok written
  rw [received, ← sizeU32_toNat]
  unfold read
  apply (writes_u32 _).bind
  apply (writes_u16 _).bind
  apply (writes_u16 _).bind
  apply (writes_u32 _).bind
  apply (writes_u16 _).bind
  apply (writes_u32 _).bind
  apply (writes_u32 _).bind
  apply (writes_u32 _).bind
  apply (writes_u32 _).bind
  apply (writes_u32 _).bind
  apply (writes_u32 _).bind
  apply (writes_u32 _).bind
  apply (writes_u16 _).bind
  apply (writes_u32 _).bind
  apply (writes_u32 _).bind
  apply (writes_string packedName).bind
  apply (writes_datetime packedCreated).bind
  apply (writes_datetime packedModified).bind
  exact (writes_string packedKeywords).return

theorem delimited_read : Delimited read := by
  unfold read
  apply delimited_u32.bind; intro _
  apply delimited_u16.bind; intro _
  apply delimited_u16.bind; intro _
  apply delimited_u32.bind; intro _
  apply delimited_u16.bind; intro _
  apply delimited_u32.bind; intro _
  apply delimited_u32.bind; intro _
  apply delimited_u32.bind; intro _
  apply delimited_u32.bind; intro _
  apply delimited_u32.bind; intro _
  apply delimited_u32.bind; intro _
  apply delimited_u32.bind; intro _
  apply delimited_u16.bind; intro _
  apply delimited_u32.bind; intro _
  apply delimited_u32.bind; intro _
  apply delimited_string.bind; intro _
  apply delimited_datetime.bind; intro _
  apply delimited_datetime.bind; intro _
  apply delimited_string.bind; intro _
  exact .pure _

theorem received_eq (canonical : info.Canonical) (name : '\x00' ∉ info.filename.toList)
    (words : '\x00' ∉ info.keywords.toList) :
    info.received = { info with handle := 0, size := min info.size (2 ^ 32 - 1) } := by
  rw [received, canonical.format, canonical.protectionStatus, canonical.thumbFormat,
    canonical.associationType, receivedText_eq_iff.mpr name, receivedText_eq_iff.mpr words]

/-- A listing reads its part of the same dataset. -/
theorem toObjectDataset_fromBytes (buf : Bytes) :
    ObjectDataset.fromBytes buf = (fromBytes buf).map (·.toObjectDataset) := by
  have composed : (fromBytes buf).map (·.toObjectDataset) =
      (read buf).map fun result => result.1.toObjectDataset := by
    rw [fromBytes]
    cases read buf <;> rfl
  rw [composed]
  unfold ObjectDataset.fromBytes read
  simp only [Readers.map_bind, Readers.map_bind (unpackString : Reader UInt8 PtpError String),
    Readers.map_bind (unpackDatetime : Reader UInt8 PtpError (Option DateTime)),
    Readers.field_bind, List.drop_drop, Nat.reduceAdd]
  repeat' refine bind_congr fun _ => ?_
  rfl

end WholeObjectInfo

end

/-- Object datasets are read as they were written, as far as the fields go, and refused cut
short. -/
theorem object_info_codec (info : WholeObjectInfo) :
    (info.Canonical → info.Packable → '\x00' ∉ info.filename.toList →
        '\x00' ∉ info.keywords.toList → ∃ bytes, info.toBytes = .ok bytes ∧ ∀ more,
          WholeObjectInfo.fromBytes (bytes ++ more) =
            .ok { info with handle := 0, size := min info.size (2 ^ 32 - 1) }) ∧
      ((∃ e, info.toBytes = .error e) ↔
        maxStringUnits < (encodeUtf16 info.filename).length ∨
          maxStringUnits < (encodeUtf16 info.keywords).length ∨
          (∃ dt ∈ info.created, ¬ dt.isValid = true) ∨
          ∃ dt ∈ info.modified, ¬ dt.isValid = true) ∧
      ∀ bytes front, info.toBytes = .ok bytes → front <+: bytes → front ≠ bytes →
        ∃ e, WholeObjectInfo.fromBytes front = .error e := by
  refine ⟨?_, ?_, ?_⟩
  · intro canonical packable name words
    cases written : info.toBytes with
    | error e => exact absurd packable (WholeObjectInfo.toBytes_error_iff.mp ⟨e, written⟩)
    | ok bytes =>
        refine ⟨bytes, rfl, fun more => ?_⟩
        rw [WholeObjectInfo.fromBytes, WholeObjectInfo.writes_toBytes written more,
          WholeObjectInfo.received_eq canonical name words]
        rfl
  · rw [WholeObjectInfo.toBytes_error_iff]
    constructor
    · intro unpackable
      by_contra fits
      simp only [not_or, not_exists, not_and, not_not, Nat.not_lt] at fits
      exact unpackable ⟨fits.1, fits.2.1, fits.2.2.1, fits.2.2.2⟩
    · rintro (long | long | ⟨dt, mem, invalid⟩ | ⟨dt, mem, invalid⟩) packable
      · exact absurd packable.filename (Nat.not_le_of_lt long)
      · exact absurd packable.keywords (Nat.not_le_of_lt long)
      · exact invalid (packable.created dt mem)
      · exact invalid (packable.modified dt mem)
  · intro bytes front written short cut
    obtain ⟨e, refused⟩ :=
      WholeObjectInfo.delimited_read.refuses_front (WholeObjectInfo.writes_toBytes written) short
        cut
    exact ⟨e, by rw [WholeObjectInfo.fromBytes, refused]; rfl⟩

def leapFolder : WholeObjectInfo :=
  ⟨⟨⟨9, 2 ^ 32⟩, 0x00010001, .association, .unprotected, 0, 0, 0, .genericFolder, "Tage",
    some ⟨2024, 2, 29, 23, 59, 59, some .utc⟩, none⟩, .undefined, 0, 0, 0, 0, 0, 0, ""⟩

def blankObject : WholeObjectInfo :=
  ⟨⟨⟨0, 0⟩, 0, .unknown 0, .unprotected, 0, 0, 0, .regular, "", none, none⟩, .unknown 0, 0, 0, 0, 0,
    0, 0, ""⟩

theorem object_info_codec_folder :
    (∃ bytes, leapFolder.toBytes = .ok bytes ∧ ∀ more,
        WholeObjectInfo.fromBytes (bytes ++ more) =
          .ok { leapFolder with handle := 0, size := 2 ^ 32 - 1 }) ∧
      ∃ e, WholeObjectInfo.fromBytes (List.replicate 55 0) = .error e :=
  ⟨(object_info_codec leapFolder).1 ⟨rfl, rfl, rfl, rfl⟩
      ⟨by decide, by decide, by decide, by decide⟩ (by decide) (by decide),
    (object_info_codec blankObject).2.2 (List.replicate 56 0) _ rfl ⟨[0], rfl⟩ (by decide)⟩

end Ptp
