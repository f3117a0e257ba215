import MtpRs.Mtp.ObjectInfoBytes
import MtpRs.Ptp.UnixTime
import MtpRs.VirtualDevice.Builders

set_option autoImplicit false

/- What the device's description of an object is read as. -/
namespace VirtualDevice

open Ptp (AssociationType Bytes DateTime ObjectDataset ObjectFormatCode ProtectionStatus PtpError
  UtcOffset WholeObjectInfo encodeUtf16 fromUnixSeconds_some isValid_iff maxStringUnits
  maxUnixSeconds minUnixSeconds packDatetime_real packOptionalDatetime packString packU16 packU32
  real_offset receivedText short_date unpackDatetime unpackString writes_string)
open Readers (Reader Writes)

section

variable {s : String}

theorem fittingChars_eq {units : Nat} {chars : List Char}
    (fits : units + (chars.flatMap Ptp.charUnits).length ≤ maxStringUnits) :
    fittingChars units chars = chars := by
  induction chars generalizing units with
  | nil => rfl
  | cons c rest ih =>
      rw [List.flatMap_cons, List.length_append] at fits
      have here : ¬ maxStringUnits < units + (Ptp.charUnits c).length := by omega
      rw [fittingChars, if_neg here, ih (by omega)]

/-- A string that fits is not cut. -/
theorem fittingPart_eq (fits : (encodeUtf16 s).length ≤ maxStringUnits) : fittingPart s = s := by
  have whole : 0 + (s.toList.flatMap Ptp.charUnits).length ≤ maxStringUnits := by
    rw [Nat.zero_add]
    exact fits
  rw [fittingPart, fittingChars_eq whole, String.ofList_toList]

theorem writes_packDeviceString (s : String) :
    Writes (unpackString : Reader UInt8 PtpError String) (packDeviceString s)
      (receivedText (fittingPart s)) :=
  writes_string (packString_fittingPart s)

end

namespace VirtualDeviceState

variable (self : VirtualDeviceState)

def fileDate (time : Option Int) : Option DateTime :=
  time.bind fun time =>
    (DateTime.fromUnixSeconds (unixSeconds time) self.config.utcOffset).map fun dt =>
      { dt with offset := dt.offset.filter fun _ => self.config.datesIncludeOffset }

def describe (facts : ObjectFacts) : WholeObjectInfo :=
  { ObjectDataset.empty with
    storageId := facts.storageId
    format := .ofCode facts.format
    size := facts.size.toNat
    parent := facts.parent
    associationType := if facts.isDir then .genericFolder else .regular
    filename := fittingPart facts.filename
    created := self.fileDate facts.created
    modified := self.fileDate facts.modified
    thumbFormat := .undefined
    thumbSize := 0
    thumbWidth := 0
    thumbHeight := 0
    imageBitDepth := 0
    associationDesc := 0
    sequenceNumber := 0
    keywords := "" }

section

variable {self} {time : Option Int} {facts : ObjectFacts} {handle : UInt32} {d : DateTime}

theorem fileDate_real (dated : self.fileDate time = some d) : d.Real := by
  obtain ⟨instant, -, made⟩ := Option.bind_eq_some_iff.mp dated
  obtain ⟨dt, found, same⟩ := Option.map_eq_some_iff.mp made
  rw [← same]
  exact (real_offset _).mpr (fromUnixSeconds_some found).1

theorem packFileTime_eq :
    self.packFileTime time = packDeviceString
      (((self.fileDate time).bind DateTime.format).getD "") := by
  unfold packFileTime fileDate
  cases time with
  | none => rfl
  | some time =>
      dsimp only [bind, Option.bind]
      cases DateTime.fromUnixSeconds (unixSeconds time) self.config.utcOffset <;> rfl

/-- A file time goes out as any date does. -/
theorem packOptionalDatetime_fileDate :
    packOptionalDatetime (self.fileDate time) = .ok (self.packFileTime time) := by
  rw [packFileTime_eq]
  cases dated : self.fileDate time with
  | none => rfl
  | some d =>
      have real := fileDate_real dated
      have short := (short_date real).1
      have units := Ptp.encodeUtf16_length_le (d.stamp ++ Ptp.zoneText d.offset)
      rw [packOptionalDatetime, Ptp.packDatetime, Option.bind_some, Ptp.format_eq real,
        Option.getD_some]
      have same : fittingPart (d.stamp ++ Ptp.zoneText d.offset) = d.stamp ++ Ptp.zoneText
        d.offset :=
        fittingPart_eq (by unfold maxStringUnits; omega)
      have packed := packString_fittingPart (d.stamp ++ Ptp.zoneText d.offset)
      rw [same] at packed
      exact packed

theorem writes_packFileTime :
    Writes (unpackDatetime : Reader UInt8 PtpError (Option DateTime)) (self.packFileTime time)
      (self.fileDate time) :=
  WholeObjectInfo.writes_datetime packOptionalDatetime_fileDate

/-- A device writes the dataset as the library would. -/
theorem buildObjectInfo_some (known : self.objectFacts handle = some facts) :
    ∃ payload, self.buildObjectInfo handle = some payload ∧
      (self.describe facts).toBytes = .ok payload := by
  have size : (self.describe facts).sizeU32 =
      UInt32.ofNat (min facts.size.toNat (2 ^ 32 - 1)) := by
    apply UInt32.toNat_inj.mp
    rw [WholeObjectInfo.sizeU32_toNat, UInt32.toNat_ofNat', Nat.mod_eq_of_lt (by omega)]
    rfl
  have association : (self.describe facts).associationType.toCode =
      if facts.isDir then 1 else 0 := by
    unfold describe
    cases facts.isDir <;> rfl
  have format : (self.describe facts).format.toCode = facts.format :=
    ObjectFormatCode.toCode_ofCode facts.format
  have words : packString (self.describe facts).keywords = .ok [0] := rfl
  have name : packString (self.describe facts).filename = .ok (packDeviceString facts.filename) :=
    packString_fittingPart facts.filename
  have created : packOptionalDatetime (self.describe facts).created =
      .ok (self.packFileTime facts.created) := packOptionalDatetime_fileDate
  have modified : packOptionalDatetime (self.describe facts).modified =
      .ok (self.packFileTime facts.modified) := packOptionalDatetime_fileDate
  refine ⟨(self.buildObjectInfo handle).getD [], ?_, ?_⟩
  · rw [buildObjectInfo, known]
    rfl
  · rw [buildObjectInfo, known, WholeObjectInfo.toBytes, size, association, format, words, name,
      created, modified]
    rfl

/-- The description is read as the dataset it is of, but for what no field can hold. -/
theorem read_buildObjectInfo (known : self.objectFacts handle = some facts) :
    ∃ payload, self.buildObjectInfo handle = some payload ∧
      ObjectDataset.fromBytes payload = .ok (self.describe facts).received.toObjectDataset := by
  obtain ⟨payload, built, written⟩ := buildObjectInfo_some known
  have read := (WholeObjectInfo.writes_toBytes written).result
  refine ⟨payload, built, ?_⟩
  rw [WholeObjectInfo.toObjectDataset_fromBytes, WholeObjectInfo.fromBytes, read]
  rfl

/-- A whole second is described by the date it is on the device's clock. -/
theorem fileDate_second {secs : Int} (low : minUnixSeconds ≤ secs + self.config.utcOffset.seconds)
    (high : secs + self.config.utcOffset.seconds ≤ maxUnixSeconds) :
    ∃ d, self.fileDate (some (systemTimeFromUnix secs)) = some d ∧ d.Real ∧
      d.toUnixSecondsWithFallback self.config.utcOffset = some secs ∧
      d.wallSeconds = secs + self.config.utcOffset.seconds := by
  have whole : unixSeconds (systemTimeFromUnix secs) = secs :=
    Int.mul_ediv_cancel secs (by decide)
  obtain ⟨dt, made, real, carried, wall⟩ := Ptp.fromUnixSeconds_within low high
  generalize kept : dt.offset.filter (fun _ => self.config.datesIncludeOffset) = offset
  have same : offset.getD self.config.utcOffset = self.config.utcOffset := by
    rw [← kept, carried]
    cases self.config.datesIncludeOffset <;> rfl
  have real' : ({ dt with offset := offset } : DateTime).Real := (real_offset offset).mpr real
  refine ⟨{ dt with offset := offset }, ?_, real', ?_, wall⟩
  · rw [fileDate, Option.bind_some, whole, made, Option.map_some, kept]
  · rw [Ptp.toUnixSecondsWithFallback_eq real', same]
    change some (dt.wallSeconds - _) = _
    rw [wall, Int.add_sub_cancel]

end

end VirtualDeviceState

end VirtualDevice
