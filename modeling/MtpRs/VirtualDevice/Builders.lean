import MtpRs.VirtualDevice.State

set_option autoImplicit false

/- Payloads of the device's data containers. -/
namespace VirtualDevice

open Ptp (Bytes DateTime ObjectFormatCode OperationCode charUnits encodeUtf16 maxStringUnits
  packString packString_ok packU16 packU16Array packU32 packU64)
open Files (Content Disk Path)

/-- The characters that fit, with the code units before them counted. -/
def fittingChars : Nat → List Char → List Char
  | _, [] => []
  | units, c :: rest =>
      if maxStringUnits < units + (charUnits c).length then []
      else c :: fittingChars (units + (charUnits c).length) rest

/-- The part of a string a device can send. -/
def fittingPart (s : String) : String := String.ofList (fittingChars 0 s.toList)

/-- A string cut where PTP cannot carry it. -/
def packDeviceString (s : String) : Bytes :=
  match packString (fittingPart s) with
  | .ok bytes => bytes
  | .error _ => []

theorem fittingChars_length (units : Nat) (chars : List Char) (room : units ≤ maxStringUnits) :
    units + ((fittingChars units chars).flatMap charUnits).length ≤ maxStringUnits := by
  induction chars generalizing units with
  | nil => exact room
  | cons c rest ih =>
      rw [fittingChars]
      by_cases full : maxStringUnits < units + (charUnits c).length
      · rw [if_pos full]
        exact room
      · rw [if_neg full, List.flatMap_cons, List.length_append, ← Nat.add_assoc]
        exact ih _ (Nat.le_of_not_lt full)

/-- The packing a device relies on never fails. -/
theorem packString_fittingPart (s : String) :
    packString (fittingPart s) = .ok (packDeviceString s) := by
  have fits : (encodeUtf16 (fittingPart s)).length ≤ maxStringUnits := by
    rw [encodeUtf16, fittingPart, String.toList_ofList]
    have length := fittingChars_length 0 s.toList (Nat.zero_le _)
    omega
  obtain ⟨bytes, packed⟩ := packString_ok fits
  rw [packDeviceString, packed]

namespace VirtualDeviceState

variable (self : VirtualDeviceState)

def operationsSupported : List OperationCode :=
  let always : List OperationCode :=
    [.getDeviceInfo, .openSession, .closeSession, .getStorageIds, .getStorageInfo,
      .getObjectHandles, .getObjectInfo, .getObject, .getThumb, .sendObjectInfo, .sendObject,
      .deleteObject, .moveObject, .copyObject, .getObjectPropValue]
  let flagged : List (Bool × OperationCode) :=
    [(self.config.supportsPartialObject, .getPartialObject),
      (self.config.supportsPartialObject64, .getPartialObject64),
      (self.config.supportsRename, .setObjectPropValue),
      (self.config.supportsObjectPropList, .getObjectPropList)]
  always ++ (flagged.filter Prod.fst).map Prod.snd

def buildDeviceInfo : Bytes :=
  [packU16 100, packU32 6, packU16 100, packDeviceString "microsoft.com: 1.0", packU16 0,
    packU16Array (self.operationsSupported.map OperationCode.toCode),
    packU16Array [Ptp.EventCode.objectAdded.toCode, Ptp.EventCode.objectRemoved.toCode,
      Ptp.EventCode.storageInfoChanged.toCode],
    packU16Array [], packU16Array [],
    packU16Array [ObjectFormatCode.undefined.toCode, ObjectFormatCode.association.toCode,
      ObjectFormatCode.text.toCode, ObjectFormatCode.jpeg.toCode, ObjectFormatCode.png.toCode,
      ObjectFormatCode.mp3.toCode, ObjectFormatCode.mp4Container.toCode],
    packDeviceString self.config.manufacturer, packDeviceString self.config.model,
    packDeviceString "1.0.0", packDeviceString self.config.serial].flatten

end VirtualDeviceState

/-- The bytes of the files below a directory, of those that can be listed, summed as a release
build does: without a check for overflow. -/
def dirSize (host : Host) (disk : Disk) : Nat → Path → UInt64
  | 0, _ => 0
  | fuel + 1, path =>
      match host.files.readDir disk path with
      | none => 0
      | some (entries, _) =>
          entries.foldl (fun total entry =>
            match disk.metadata (path.child entry) with
            | some ⟨.file bytes, _, _⟩ => total + UInt64.ofNat bytes.length
            | some ⟨.directory, _, _⟩ => total + dirSize host disk fuel (path.child entry)
            | none => total) 0

/-- `capacity` less what is used. No directory is deeper than there are places. -/
def computeFreeSpace (host : Host) (disk : Disk) (config : VirtualStorageConfig) : UInt64 :=
  let used := dirSize host disk (disk.domain.length + 1) config.backingDir
  -- `saturating_sub`.
  UInt64.ofNat (config.capacity.toNat - used.toNat)

namespace VirtualDeviceState

variable (host : Host) (self : VirtualDeviceState)

def buildStorageInfo (storageId : UInt32) : Option Bytes :=
  match self.findStorage storageId with
  | none => none
  | some storage => some
      [packU16 3, packU16 2, packU16 (if storage.config.readOnly then 1 else 0),
        packU64 storage.config.capacity,
        packU64 (computeFreeSpace host self.disk storage.config), packU32 0xFFFFFFFF,
        packDeviceString storage.config.description, packDeviceString ""].flatten

/-- Whole seconds since the Unix epoch, rounded down. -/
def unixSeconds (time : Int) : Int := time / 10 ^ 9

/-- The `SystemTime` at whole seconds since the Unix epoch. -/
def systemTimeFromUnix (secs : Int) : Int := secs * 10 ^ 9

/-- A file time on the device's clock, or the empty string for none that can be written. -/
def packFileTime (time : Option Int) : Bytes :=
  let formatted := do
    let time ← time
    let dt ← DateTime.fromUnixSeconds (unixSeconds time) self.config.utcOffset
    { dt with offset := dt.offset.filter fun _ => self.config.datesIncludeOffset }.format
  packDeviceString (formatted.getD "")

/-- What the device reports about one object, read from its backing file. -/
structure ObjectFacts where
  storageId : UInt32
  parent : UInt32
  filename : String
  isDir : Bool
  size : UInt64
  format : UInt16
  created : Option Int
  modified : Option Int

/-- `file_name().unwrap_or_default()`, as text. -/
def fileNameText (path : Path) : String :=
  match path.fileName with
  | some name => name.text
  | none => ""

def objectFacts (handle : UInt32) : Option ObjectFacts := do
  let obj ← self.objects.lookup handle
  let storage ← self.findStorage obj.storageId
  let metadata ← self.disk.metadata (storage.config.backingDir.join obj.relPath)
  let format : ObjectFormatCode :=
    if metadata.isDirectory then .association
    else .fromExtension (obj.relPath.extension.getD "")
  return {
    storageId := obj.storageId
    parent := obj.parent
    filename := fileNameText obj.relPath
    isDir := metadata.isDirectory
    size :=
      match metadata.content with
      | .directory => 0
      | .file bytes => UInt64.ofNat bytes.length
    format := format.toCode
    created := metadata.created
    modified := metadata.modified }

def buildObjectInfo (handle : UInt32) : Option Bytes := do
  let facts ← self.objectFacts handle
  return [packU32 facts.storageId, packU16 facts.format, packU16 0,
    packU32 (UInt32.ofNat (min facts.size.toNat (2 ^ 32 - 1))),
    packU16 ObjectFormatCode.undefined.toCode, packU32 0, packU32 0, packU32 0,
    packU32 0, packU32 0, packU32 0, packU32 facts.parent,
    packU16 (if facts.isDir then 1 else 0), packU32 0, packU32 0,
    packDeviceString facts.filename, self.packFileTime facts.created,
    self.packFileTime facts.modified, [0]].flatten

end VirtualDeviceState

end VirtualDevice
