import MtpRs.Mtp.Error
import MtpRs.Mtp.Neutral
import MtpRs.Mtp.ObjectBytes
import MtpRs.Ptp.Calendar
import MtpRs.Ptp.Container

set_option autoImplicit false

namespace Ptp

def AssociationType.toCode : AssociationType → UInt16
  | regular => 0
  | genericFolder => 1
  | unknown code => code

def ProtectionStatus.toCode : ProtectionStatus → UInt16
  | unprotected => 0
  | readOnly => 1
  | unknown code => code

def packDatetime (dt : DateTime) : Except PtpError Bytes :=
  match dt.format with
  | some formatted => packString formatted
  | none => .error (.invalidData (s!"invalid DateTime: year={dt.year}, month={dt.month}, " ++
      s!"day={dt.day}, hour={dt.hour}, minute={dt.minute}, second={dt.second}"))

def packOptionalDatetime (dt : Option DateTime) : Except PtpError Bytes :=
  match dt with
  | some dt => packDatetime dt
  | none => .ok [0]

/-- `to_bytes` of an `ObjectInfo` dataset. No upload sets the fields the dataset leaves out. -/
def ObjectDataset.toBytes (self : ObjectDataset) : Except PtpError Bytes := do
  let filename ← packString self.filename
  let created ← packOptionalDatetime self.created
  let modified ← packOptionalDatetime self.modified
  return packU32 self.storageId ++ packU16 self.format.toCode ++
    packU16 self.protectionStatus.toCode ++ packU32 (UInt32.ofNat (min self.size (2 ^ 32 - 1))) ++
    packU16 ObjectFormatCode.undefined.toCode ++ packU32 0 ++ packU32 0 ++ packU32 0 ++
    packU32 self.imageWidth ++ packU32 self.imageHeight ++ packU32 0 ++ packU32 self.parent ++
    packU16 self.associationType.toCode ++ packU32 0 ++ packU32 0 ++ filename ++ created ++
    modified ++ [0]

/-- An I/O error of a stream the library reads from. -/
structure IoError where
  kind : IoErrorKind
  text : String
deriving DecidableEq, Repr

def checkResponse (response : ResponseContainer) (operation : OperationCode) :
    Except PtpError Unit :=
  if response.code = .ok then .ok () else .error (.protocol response.code operation)

end Ptp

/- Uploads: what both backends are given and how they end, and the USB backend's. -/
namespace Mtp

open Ptp (Bytes DateTime IoError ObjectDataset ObjectFormatCode PtpError ResponseContainer)

structure NewObjectInfo where
  filename : String
  size : Nat
  format : Option UInt16
  modified : Option DateTime

def NewObjectInfo.toObjectInfo (self : NewObjectInfo) : ObjectDataset :=
  let format := self.format.getD 0x3000
  { ObjectDataset.empty with
    format := ObjectFormatCode.ofCode format
    size := self.size
    filename := self.filename
    modified := self.modified
    associationType := if format = 0x3001 then .genericFolder else .regular }

/-- A failed upload: why, and the object it may have left on the device. -/
structure UploadError where
  source : Error
  partialObject : Option ObjectHandle
deriving DecidableEq, Repr

structure Progress where
  bytesTransferred : Nat
  totalBytes : Option Nat

/-- A progress callback: whether its call of this number breaks. -/
abbrev ProgressFn := Nat → Progress → Bool

/-- A source's items: chunks, or the error it fails with. -/
abbrev UploadStream := List (Except IoError Bytes)

/-- Whether a call of the callback breaks, where there is one. -/
def breaks (progress : Option ProgressFn) (call bytesSent total : Nat) : Bool :=
  match progress with
  | some callback => callback call ⟨bytesSent, some total⟩
  | none => false

/-- What the session reads in place of the source: a break is an error of kind `Interrupted`. -/
def progressStream (progress : Option ProgressFn) (total call bytesSent : Nat) :
    UploadStream → UploadStream
  | [] => []
  | .error e :: rest => .error e :: progressStream progress total call bytesSent rest
  | .ok chunk :: rest =>
      let bytesSent := bytesSent + chunk.length
      let item := if breaks progress call bytesSent total then
        .error ⟨.interrupted, "cancelled"⟩ else .ok chunk
      item :: progressStream progress total (call + 1) bytesSent rest

/-- The device and the transport of one upload: the answer to `SendObjectInfo` and the object it
made, how the command and the transfers of the data phase go, and the answer to `SendObject`. -/
structure UploadPeer where
  split : Bool
  sendInfo : List UInt32 → Bytes → Except PtpError ResponseContainer
  created : Option UInt32
  command : Except PtpError Unit
  transfer : Nat → Except PtpError Unit
  finish : Except PtpError Unit
  respond : Except PtpError ResponseContainer
  names : ∀ params bytes response handle, sendInfo params bytes = .ok response →
    response.code = .ok → response.params[2]? = some handle → created = some handle

namespace UploadPeer

def sendObjectInfo (self : UploadPeer) (storageId parent : UInt32) (info : ObjectDataset) :
    Except PtpError UInt32 := do
  let data ← info.toBytes
  let response ← self.sendInfo [storageId, parent] data
  Ptp.checkResponse response .sendObjectInfo
  match response.params with
  | _ :: _ :: handle :: _ => .ok handle
  | _ => .error (.invalidData "SendObjectInfo response missing params")

/-- The data phase, read from a stream. With the header in a transfer of its own, empty chunks are
not sent; otherwise the transport makes one transfer of it all. -/
def sendData (self : UploadPeer) (sent : Nat) : UploadStream → Except PtpError Unit
  | [] => if self.split then .ok () else self.finish
  | .error e :: _ => .error (.io e.kind e.text)
  | .ok chunk :: rest =>
      if self.split && chunk.isEmpty then self.sendData sent rest
      else
        match self.transfer sent with
        | .error e => .error e
        | .ok _ => self.sendData (sent + 1) rest

def executeWithSendStream (self : UploadPeer) (data : UploadStream) :
    Except PtpError ResponseContainer := do
  self.command
  self.sendData 0 data
  self.respond

def sendObjectStream (self : UploadPeer) (data : UploadStream) : Except PtpError Unit := do
  let response ← self.executeWithSendStream data
  Ptp.checkResponse response .sendObject

end UploadPeer

/-- How `upload` reports an error of `send_object_stream`. -/
def sendObjectError : PtpError → Error
  | .io .interrupted _ => .cancelled
  | e => Error.ofPtp e

/-- `upload` over USB. -/
def UploadPeer.upload (self : UploadPeer) (storage : StorageId) (parent : Option ObjectHandle)
    (info : NewObjectInfo) (data : UploadStream) (progress : Option ProgressFn) :
    Except UploadError ObjectHandle :=
  let parentHandle := (parent.map toPtp).getD 0xFFFFFFFF
  match self.sendObjectInfo (toPtp storage) parentHandle info.toObjectInfo with
  | .error e => .error ⟨Error.ofPtp e, none⟩
  | .ok handle =>
      match self.sendObjectStream (progressStream progress info.size 0 0 data) with
      | .error e => .error ⟨sendObjectError e, some (ofPtp handle)⟩
      | .ok _ => .ok (ofPtp handle)

end Mtp
