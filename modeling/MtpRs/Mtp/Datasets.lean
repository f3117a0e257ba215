import MtpRs.Mtp.PropertyBytes
import MtpRs.Ptp.Arrays

set_option autoImplicit false

/- The datasets of devices, of their storages and of their properties. -/
namespace Ptp

open Readers (Delimited Reader field many)

structure DeviceInfo where
  standardVersion : UInt16
  vendorExtensionId : UInt32
  vendorExtensionVersion : UInt16
  vendorExtensionDesc : String
  functionalMode : UInt16
  operationsSupported : List OperationCode
  eventsSupported : List EventCode
  devicePropertiesSupported : List UInt16
  captureFormats : List ObjectFormatCode
  playbackFormats : List ObjectFormatCode
  manufacturer : String
  model : String
  deviceVersion : String
  serialNumber : String
deriving DecidableEq, Repr

namespace DeviceInfo

structure Head where
  standardVersion : UInt16
  vendorExtensionId : UInt32
  vendorExtensionVersion : UInt16
  vendorExtensionDesc : String
  functionalMode : UInt16
deriving DecidableEq, Repr

def readHead : Reader UInt8 PtpError Head := do
  let standardVersion ← field 2 unpackU16
  let vendorExtensionId ← field 4 unpackU32
  let vendorExtensionVersion ← field 2 unpackU16
  let vendorExtensionDesc ← (unpackString : Reader UInt8 PtpError String)
  let functionalMode ← field 2 unpackU16
  return ⟨standardVersion, vendorExtensionId, vendorExtensionVersion, vendorExtensionDesc,
    functionalMode⟩

theorem delimited_head : Delimited readHead :=
  delimited_u16.bind fun _ => delimited_u32.bind fun _ => delimited_u16.bind fun _ =>
    delimited_string.bind fun _ => delimited_u16.bind fun _ => .pure _

def read : Reader UInt8 PtpError DeviceInfo := do
  let head ← readHead
  let operations ← unpackU16Array
  let events ← unpackU16Array
  let devicePropertiesSupported ← unpackU16Array
  let capture ← unpackU16Array
  let playback ← unpackU16Array
  let manufacturer ← (unpackString : Reader UInt8 PtpError String)
  let model ← (unpackString : Reader UInt8 PtpError String)
  let deviceVersion ← (unpackString : Reader UInt8 PtpError String)
  let serialNumber ← (unpackString : Reader UInt8 PtpError String)
  return {
    standardVersion := head.standardVersion
    vendorExtensionId := head.vendorExtensionId
    vendorExtensionVersion := head.vendorExtensionVersion
    vendorExtensionDesc := head.vendorExtensionDesc
    functionalMode := head.functionalMode
    operationsSupported := operations.map OperationCode.ofCode
    eventsSupported := events.map EventCode.ofCode
    devicePropertiesSupported
    captureFormats := capture.map ObjectFormatCode.ofCode
    playbackFormats := playback.map ObjectFormatCode.ofCode
    manufacturer
    model
    deviceVersion
    serialNumber }

def fromBytes (buf : Bytes) : Except PtpError DeviceInfo := (read buf).map Prod.fst

end DeviceInfo

inductive StorageType where
  | undefined
  | fixedRom
  | removableRom
  | fixedRam
  | removableRam
  | unknown (code : UInt16)
deriving DecidableEq, Repr

def StorageType.ofCode (code : UInt16) : StorageType :=
  match code with
  | 0 => undefined
  | 1 => fixedRom
  | 2 => removableRom
  | 3 => fixedRam
  | 4 => removableRam
  | code => unknown code

inductive FilesystemType where
  | undefined
  | genericFlat
  | genericHierarchical
  | dcf
  | unknown (code : UInt16)
deriving DecidableEq, Repr

def FilesystemType.ofCode (code : UInt16) : FilesystemType :=
  match code with
  | 0 => undefined
  | 1 => genericFlat
  | 2 => genericHierarchical
  | 3 => dcf
  | code => unknown code

inductive AccessCapability where
  | readWrite
  | readOnlyWithoutDeletion
  | readOnlyWithDeletion
  | unknown (code : UInt16)
deriving DecidableEq, Repr

def AccessCapability.ofCode (code : UInt16) : AccessCapability :=
  match code with
  | 0 => readWrite
  | 1 => readOnlyWithoutDeletion
  | 2 => readOnlyWithDeletion
  | code => unknown code

structure StorageInfo where
  storageType : StorageType
  filesystemType : FilesystemType
  accessCapability : AccessCapability
  maxCapacity : UInt64
  freeSpaceBytes : UInt64
  freeSpaceObjects : UInt32
  description : String
  volumeIdentifier : String
deriving DecidableEq, Repr

namespace StorageInfo

def read : Reader UInt8 PtpError StorageInfo := do
  let storageType ← field 2 unpackU16
  let filesystemType ← field 2 unpackU16
  let accessCapability ← field 2 unpackU16
  let maxCapacity ← field 8 unpackU64
  let freeSpaceBytes ← field 8 unpackU64
  let freeSpaceObjects ← field 4 unpackU32
  let description ← (unpackString : Reader UInt8 PtpError String)
  let volumeIdentifier ← (unpackString : Reader UInt8 PtpError String)
  return {
    storageType := .ofCode storageType
    filesystemType := .ofCode filesystemType
    accessCapability := .ofCode accessCapability
    maxCapacity
    freeSpaceBytes
    freeSpaceObjects
    description
    volumeIdentifier }

def fromBytes (buf : Bytes) : Except PtpError StorageInfo := (read buf).map Prod.fst

end StorageInfo

inductive DevicePropertyCode where
  | undefined
  | batteryLevel
  | functionalMode
  | imageSize
  | compressionSetting
  | whiteBalance
  | rgbGain
  | fNumber
  | focalLength
  | focusDistance
  | focusMode
  | exposureMeteringMode
  | flashMode
  | exposureTime
  | exposureProgramMode
  | exposureIndex
  | exposureBiasCompensation
  | dateTime
  | captureDelay
  | stillCaptureMode
  | contrast
  | sharpness
  | digitalZoom
  | effectMode
  | burstNumber
  | burstInterval
  | timelapseNumber
  | timelapseInterval
  | focusMeteringMode
  | uploadUrl
  | artist
  | copyrightInfo
  | unknown (code : UInt16)
deriving DecidableEq, Repr

def DevicePropertyCode.ofCode (code : UInt16) : DevicePropertyCode :=
  match code with
  | 0x5000 => undefined
  | 0x5001 => batteryLevel
  | 0x5002 => functionalMode
  | 0x5003 => imageSize
  | 0x5004 => compressionSetting
  | 0x5005 => whiteBalance
  | 0x5006 => rgbGain
  | 0x5007 => fNumber
  | 0x5008 => focalLength
  | 0x5009 => focusDistance
  | 0x500A => focusMode
  | 0x500B => exposureMeteringMode
  | 0x500C => flashMode
  | 0x500D => exposureTime
  | 0x500E => exposureProgramMode
  | 0x500F => exposureIndex
  | 0x5010 => exposureBiasCompensation
  | 0x5011 => dateTime
  | 0x5012 => captureDelay
  | 0x5013 => stillCaptureMode
  | 0x5014 => contrast
  | 0x5015 => sharpness
  | 0x5016 => digitalZoom
  | 0x5017 => effectMode
  | 0x5018 => burstNumber
  | 0x5019 => burstInterval
  | 0x501A => timelapseNumber
  | 0x501B => timelapseInterval
  | 0x501C => focusMeteringMode
  | 0x501D => uploadUrl
  | 0x501E => artist
  | 0x501F => copyrightInfo
  | code => unknown code

inductive PropertyFormType where
  | unrestricted
  | range
  | enumeration
  | unknown (code : UInt8)
deriving DecidableEq, Repr

def PropertyFormType.ofCode (code : UInt8) : PropertyFormType :=
  match code with
  | 0 => unrestricted
  | 1 => range
  | 2 => enumeration
  | code => unknown code

structure PropertyRange where
  min : PropertyValue
  max : PropertyValue
  step : PropertyValue
deriving DecidableEq

def PropertyRange.fromBytes (dataType : PropertyDataType) :
    Reader UInt8 PtpError PropertyRange := do
  let min ← PropertyValue.fromBytes dataType
  let max ← PropertyValue.fromBytes dataType
  let step ← PropertyValue.fromBytes dataType
  return ⟨min, max, step⟩

structure DevicePropDesc where
  propertyCode : DevicePropertyCode
  dataType : PropertyDataType
  writable : Bool
  defaultValue : PropertyValue
  currentValue : PropertyValue
  formType : PropertyFormType
  enumValues : Option (List PropertyValue)
  range : Option PropertyRange
deriving DecidableEq

namespace DevicePropDesc

def unpackFlag (name : String) : Bytes → Except PtpError UInt8
  | flag :: _ => .ok flag
  | [] => .error (.invalidData ("DevicePropDesc: insufficient bytes for " ++ name))

def readHead : Reader UInt8 PtpError DevicePropDesc := do
  let propertyCode ← field 2 unpackU16
  let dataType ← field 2 unpackU16
  let getSet ← field 1 (unpackFlag "GetSet")
  let defaultValue ← PropertyValue.fromBytes (.ofCode dataType)
  let currentValue ← PropertyValue.fromBytes (.ofCode dataType)
  let formFlag ← field 1 (unpackFlag "FormFlag")
  return {
    propertyCode := .ofCode propertyCode
    dataType := .ofCode dataType
    writable := getSet ≠ 0
    defaultValue
    currentValue
    formType := .ofCode formFlag
    enumValues := none
    range := none }

theorem delimited_flag (name : String) : Delimited (field 1 (unpackFlag name)) := by
  apply Delimited.field
  · intro input value read
    match input, read with
    | _ :: _, _ => simp
  · intro input value read more
    match input, read with
    | _ :: _, read => exact read

theorem delimited_head : Delimited readHead :=
  delimited_u16.bind fun _ => delimited_u16.bind fun _ => (delimited_flag _).bind fun _ =>
    (PropertyValue.delimited _).bind fun _ => (PropertyValue.delimited _).bind fun _ =>
      (delimited_flag _).bind fun _ => .pure _

def readForm (head : DevicePropDesc) : Reader UInt8 PtpError DevicePropDesc :=
  match head.formType with
  | .unrestricted | .unknown _ => pure head
  | .range => do
      let range ← PropertyRange.fromBytes head.dataType
      return { head with range := some range }
  | .enumeration => do
      let count ← field 2 unpackU16
      let values ← many (PropertyValue.fromBytes head.dataType) count.toNat
      return { head with enumValues := some values }

def read : Reader UInt8 PtpError DevicePropDesc := do
  let head ← readHead
  readForm head

def fromBytes (buf : Bytes) : Except PtpError DevicePropDesc := (read buf).map Prod.fst

end DevicePropDesc

end Ptp
