import MtpRs.Mtp.Objects

set_option autoImplicit false

/- What both backends speak: handles and objects as a caller of the high-level API gets them. -/
namespace Mtp

open Ptp (DateTime)

/-- A backend's token for an object: the PTP handle widened, or a hash of the WPD object ID. -/
abbrev ObjectHandle := UInt64

abbrev StorageId := UInt64

/-- `ObjectHandle::ROOT`, the parent of what is at the top of a storage. -/
def ObjectHandle.root : ObjectHandle := 0

/-- The PTP handle, or storage ID, a token stands for. -/
def toPtp (token : UInt64) : UInt32 := token.toUInt32

/-- The token of a PTP handle or storage ID. -/
def ofPtp (handle : UInt32) : UInt64 := handle.toUInt64

@[simp] theorem toPtp_ofPtp (handle : UInt32) : toPtp (ofPtp handle) = handle := by
  rw [toPtp, ofPtp, UInt32.toUInt32_toUInt64]

theorem ofPtp_injective {handle other : UInt32} (same : ofPtp handle = ofPtp other) :
    handle = other := by
  rw [← toPtp_ofPtp handle, same, toPtp_ofPtp]

/-- The high-level `ObjectInfo`: metadata for one object. -/
structure ObjectEntry where
  handle : ObjectHandle
  storageId : StorageId
  parent : ObjectHandle
  filename : String
  size : Nat
  format : UInt16
  created : Option DateTime
  modified : Option DateTime
  imageWidth : UInt32
  imageHeight : UInt32
  folder : Bool
deriving DecidableEq, Repr

namespace ObjectEntry

def isFolder (self : ObjectEntry) : Bool := self.folder

/-- A listed object under its widened handle. -/
def ofListed (o : ListedObject) : ObjectEntry where
  handle := ofPtp o.handle
  storageId := ofPtp o.storageId
  parent := ofPtp o.parent
  filename := o.filename
  size := o.size
  format := o.format
  created := o.created
  modified := o.modified
  imageWidth := o.imageWidth
  imageHeight := o.imageHeight
  folder := o.folder

end ObjectEntry

/-- The high-level `SkippedObject`: what was listed and could not be described. -/
structure SkippedEntry where
  handle : ObjectHandle
  error : Error

/-- The high-level `ObjectCollection`: the answer of `collect_objects`. -/
structure EntryCollection where
  objects : List ObjectEntry
  skipped : List SkippedEntry

end Mtp
