import MtpRs.Cli.Selection
import MtpRs.Mtp.Datasets
import MtpRs.Mtp.Usb

set_option autoImplicit false

namespace Ptp

namespace DeviceInfo

def supportsOperation (self : DeviceInfo) (operation : OperationCode) : Bool :=
  self.operationsSupported.contains operation

def supportsRename (self : DeviceInfo) : Bool := self.supportsOperation .setObjectPropValue

/-- By a vendor extension, or by the edit operations only Android has. -/
def runsAndroidMtpServer (self : DeviceInfo) : Bool :=
  let lists (code : UInt16) := self.operationsSupported.any fun op => op.toCode == code
  decide ("android.com".toList <:+: self.vendorExtensionDesc.toList.map Char.toLower) ||
    ([0x95C3, 0x95C4, 0x95C5] : List UInt16).all lists

end DeviceInfo

end Ptp

/- What a device says of itself, as a caller of the high-level API gets it. -/
namespace Mtp

structure DeviceInfo where
  manufacturer : String
  model : String
  serialNumber : String
  deviceVersion : String
deriving DecidableEq, Repr

def DeviceInfo.fromPtp (d : Ptp.DeviceInfo) : DeviceInfo :=
  ⟨d.manufacturer, d.model, d.serialNumber, d.deviceVersion⟩

structure Capabilities where
  canUpload : Bool
  canDelete : Bool
  canRename : Bool
  canMove : Bool
  canCopy : Bool
  canCreateFolder : Bool
  supportsPartialDownload : Bool
  supportsThumbnails : Bool
  supportsEvents : Bool
deriving DecidableEq, Repr

def Capabilities.fromPtpDeviceInfo (d : Ptp.DeviceInfo) : Capabilities where
  canUpload := d.supportsOperation .sendObjectInfo && d.supportsOperation .sendObject
  canDelete := d.supportsOperation .deleteObject
  canRename := d.supportsRename
  canMove := d.supportsOperation .moveObject
  canCopy := d.supportsOperation .copyObject
  canCreateFolder := d.supportsOperation .sendObjectInfo
  supportsPartialDownload :=
    d.supportsOperation .getPartialObject64 || d.supportsOperation .getPartialObject
  supportsThumbnails := d.supportsOperation .getThumb
  supportsEvents := !d.eventsSupported.isEmpty

/-- `UsbBackend::new`, as far as partial reads go by it. -/
def UsbBackend.new (ptpInfo : Ptp.DeviceInfo) : UsbBackend where
  hasPartialObject64 := ptpInfo.supportsOperation .getPartialObject64
  hasPartialObject := ptpInfo.supportsOperation .getPartialObject

def StorageType.ofPtp : Ptp.StorageType → StorageType
  | .undefined => undefined
  | .fixedRom => fixedRom
  | .removableRom => removableRom
  | .fixedRam => fixedRam
  | .removableRam => removableRam
  | .unknown _ => other

def FilesystemType.ofPtp : Ptp.FilesystemType → FilesystemType
  | .undefined => undefined
  | .genericFlat => flat
  | .genericHierarchical => hierarchical
  | .dcf => dcf
  | .unknown _ => other

def StorageInfo.fromPtp (id : StorageId) (s : Ptp.StorageInfo) : StorageInfo where
  id := id
  description := s.description
  volumeIdentifier := s.volumeIdentifier
  totalCapacity := s.maxCapacity
  freeSpace := s.freeSpaceBytes
  isWritable := s.accessCapability == .readWrite
  storageType := .ofPtp s.storageType
  filesystemType := .ofPtp s.filesystemType

end Mtp
