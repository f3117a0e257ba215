import MtpRs.Mtp.Usb
import MtpRs.Ptp.DateTime

set_option autoImplicit false

/- What a listing reads of an object: the dataset `GetObjectInfo` answers, the properties
`GetObjectPropList` answers, and the record handed to a caller. -/
namespace Ptp

inductive ObjectFormatCode where
  | undefined
  | association
  | script
  | executable
  | text
  | html
  | dpof
  | aiff
  | wav
  | mp3
  | avi
  | mpeg
  | asf
  | jpeg
  | tiff
  | gif
  | bmp
  | pict
  | png
  | wmaAudio
  | oggAudio
  | aacAudio
  | flacAudio
  | wmvVideo
  | mp4Container
  | m4aAudio
  | unknown (code : UInt16)
deriving DecidableEq, Repr

def ObjectFormatCode.ofCode (code : UInt16) : ObjectFormatCode :=
  match code with
  | 0x3000 => undefined
  | 0x3001 => association
  | 0x3002 => script
  | 0x3003 => executable
  | 0x3004 => text
  | 0x3005 => html
  | 0x3006 => dpof
  | 0x3007 => aiff
  | 0x3008 => wav
  | 0x3009 => mp3
  | 0x300A => avi
  | 0x300B => mpeg
  | 0x300C => asf
  | 0x3801 => jpeg
  | 0x3804 => tiff
  | 0x3807 => gif
  | 0x3808 => bmp
  | 0x380A => pict
  | 0x380B => png
  | 0xB901 => wmaAudio
  | 0xB902 => oggAudio
  | 0xB903 => aacAudio
  | 0xB906 => flacAudio
  | 0xB981 => wmvVideo
  | 0xB982 => mp4Container
  | 0xB984 => m4aAudio
  | code => unknown code

def ObjectFormatCode.toCode : ObjectFormatCode → UInt16
  | undefined => 0x3000
  | association => 0x3001
  | script => 0x3002
  | executable => 0x3003
  | text => 0x3004
  | html => 0x3005
  | dpof => 0x3006
  | aiff => 0x3007
  | wav => 0x3008
  | mp3 => 0x3009
  | avi => 0x300A
  | mpeg => 0x300B
  | asf => 0x300C
  | jpeg => 0x3801
  | tiff => 0x3804
  | gif => 0x3807
  | bmp => 0x3808
  | pict => 0x380A
  | png => 0x380B
  | wmaAudio => 0xB901
  | oggAudio => 0xB902
  | aacAudio => 0xB903
  | flacAudio => 0xB906
  | wmvVideo => 0xB981
  | mp4Container => 0xB982
  | m4aAudio => 0xB984
  | unknown code => code

inductive ProtectionStatus where
  | unprotected
  | readOnly
  | unknown (code : UInt16)
deriving DecidableEq, Repr

def ProtectionStatus.ofCode (code : UInt16) : ProtectionStatus :=
  match code with
  | 0 => unprotected
  | 1 => readOnly
  | code => unknown code

inductive AssociationType where
  | regular
  | genericFolder
  | unknown (code : UInt16)
deriving DecidableEq, Repr

inductive ObjectPropertyCode where
  | storageId
  | objectFormat
  | protectionStatus
  | objectSize
  | objectFileName
  | dateCreated
  | dateModified
  | parentObject
  | name
  | unknown (code : UInt16)
deriving DecidableEq, Repr

inductive PropertyValue where
  | int8 (value : Int8)
  | uint8 (value : UInt8)
  | int16 (value : Int16)
  | uint16 (value : UInt16)
  | int32 (value : Int32)
  | uint32 (value : UInt32)
  | int64 (value : Int64)
  | uint64 (value : UInt64)
  | string (value : String)
deriving DecidableEq

/-- The unsigned integer a value holds, whatever its width. -/
def PropertyValue.unsigned : PropertyValue → Option Nat
  | uint8 n => some n.toNat
  | uint16 n => some n.toNat
  | uint32 n => some n.toNat
  | uint64 n => some n.toNat
  | _ => none

/-- One element of a `GetObjectPropList` dataset: one property of one object. Its value is
missing where the library decodes none. -/
structure ObjectPropListElement where
  handle : UInt32
  property : ObjectPropertyCode
  value : Option PropertyValue
deriving DecidableEq

/-- The `ObjectInfo` dataset, as far as a listing reads it. -/
structure ObjectDataset extends ObjectInfo where
  storageId : UInt32
  format : ObjectFormatCode
  protectionStatus : ProtectionStatus
  imageWidth : UInt32
  imageHeight : UInt32
  parent : UInt32
  associationType : AssociationType
  filename : String
  created : Option DateTime
  modified : Option DateTime
deriving DecidableEq, Repr

namespace ObjectDataset

/-- `ObjectInfo::default()`. -/
def empty : ObjectDataset where
  handle := 0
  size := 0
  storageId := 0
  format := .undefined
  protectionStatus := .unprotected
  imageWidth := 0
  imageHeight := 0
  parent := 0
  associationType := .regular
  filename := ""
  created := none
  modified := none

def isFolder (self : ObjectDataset) : Bool :=
  self.format == .association || self.associationType == .genericFolder

def setString (self : ObjectDataset) (property : ObjectPropertyCode) (s : String) :
    Option ObjectDataset :=
  match property with
  | .objectFileName => some { self with filename := s }
  | .dateCreated => some { self with created := DateTime.parse s }
  | .dateModified => some { self with modified := DateTime.parse s }
  | _ => none

/-- The field an unsigned integer sets, where it is not too wide for it. -/
def setUnsigned (self : ObjectDataset) (property : ObjectPropertyCode) (n : Nat) :
    Option ObjectDataset :=
  match property with
  | .objectSize => some { self with size := n }
  | .storageId => if n < 2 ^ 32 then some { self with storageId := UInt32.ofNat n } else none
  | .parentObject => if n < 2 ^ 32 then some { self with parent := UInt32.ofNat n } else none
  | .objectFormat =>
      if n < 2 ^ 16 then some { self with format := .ofCode (UInt16.ofNat n) } else none
  | .protectionStatus =>
      if n < 2 ^ 16 then some { self with protectionStatus := .ofCode (UInt16.ofNat n) } else none
  | _ => none

/-- Sets the field a property maps to, or refuses the value and sets nothing. -/
def setProperty (self : ObjectDataset) (property : ObjectPropertyCode) (value : PropertyValue) :
    Option ObjectDataset :=
  match value with
  | .string s => self.setString property s
  | value =>
      match value.unsigned with
      | some n => self.setUnsigned property n
      | none => none

end ObjectDataset

def getObjectDatasetFull (dataset : Except PtpError ObjectDataset)
    (objectSize : Except PtpError Bytes) : Except PtpError ObjectDataset := do
  let dataset ← dataset
  let info ← getObjectInfoFull (.ok dataset.toObjectInfo) objectSize
  .ok { dataset with toObjectInfo := info }

end Ptp

namespace Mtp

open Ptp (DateTime ObjectDataset)

/-- Metadata for one object, as a caller of the high-level API gets it. -/
structure ListedObject where
  handle : UInt32
  storageId : UInt32
  parent : UInt32
  filename : String
  size : Nat
  format : UInt16
  created : Option DateTime
  modified : Option DateTime
  imageWidth : UInt32
  imageHeight : UInt32
  folder : Bool
deriving DecidableEq, Repr

namespace ListedObject

def isFolder (self : ListedObject) : Bool := self.folder

def fromPtp (o : ObjectDataset) : ListedObject where
  handle := o.handle
  storageId := o.storageId
  parent := o.parent
  filename := o.filename
  size := o.size
  format := o.format.toCode
  created := o.created
  modified := o.modified
  imageWidth := o.imageWidth
  imageHeight := o.imageHeight
  folder := o.isFolder

end ListedObject

end Mtp
