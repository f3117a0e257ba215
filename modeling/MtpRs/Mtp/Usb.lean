import MtpRs.Mtp.FileDownload

set_option autoImplicit false

namespace Ptp

structure ObjectInfo where
  handle : UInt32
  size : Nat
deriving DecidableEq, Repr

/-- `get_object_info_full`, given what `GetObjectInfo` and the `ObjectSize` property
answer. The property is asked for a saturated size only. -/
def getObjectInfoFull (info : Except PtpError ObjectInfo) (objectSize : Except PtpError Bytes) :
    Except PtpError ObjectInfo := do
  let info ← info
  if info.size = 2 ^ 32 - 1 then
    match objectSize with
    | .error _ => .ok info
    | .ok bytes =>
        match unpackU64 bytes with
        | .error _ => .ok info
        | .ok realSize => .ok { info with size := realSize.toNat }
  else .ok info

section

variable {info : ObjectInfo}

theorem getObjectInfoFull_small (small : info.size ≠ 2 ^ 32 - 1)
    (objectSize : Except PtpError Bytes) : getObjectInfoFull (.ok info) objectSize = .ok info :=
  if_neg small

theorem getObjectInfoFull_refused (e : PtpError) :
    getObjectInfoFull (.ok info) (.error e) = .ok info := by
  by_cases saturated : info.size = 2 ^ 32 - 1
  · exact if_pos saturated
  · exact if_neg saturated

theorem getObjectInfoFull_resolved (saturated : info.size = 2 ^ 32 - 1) (realSize : UInt64) :
    getObjectInfoFull (.ok info) (.ok (packU64 realSize)) =
      .ok { info with size := realSize.toNat } := by
  have unpacked : unpackU64 (packU64 realSize) = .ok realSize := by
    simpa only [List.append_nil] using unpackU64_packU64 realSize []
  simp only [getObjectInfoFull, bind, Except.bind, if_pos saturated, unpacked]

end

end Ptp

/- The USB backend: an object's size, and the operation a read takes. -/
namespace Mtp

open Ptp (Bytes ObjectInfo OperationCode PtpError)

inductive PartialReadOp where
  | wide
  | narrow
deriving DecidableEq, Repr

/-- The 64-bit operation where the device has it, the 32-bit one where its offset reaches. -/
def planPartialRead (hasPartial64 hasPartial32 : Bool) (offset : Nat) :
    Except Error PartialReadOp :=
  if hasPartial64 then .ok .wide
  else if hasPartial32 then
    if u32Max < offset then
      .error (.invalidData ("offset " ++ toString offset ++
        " needs GetPartialObject64 (64-bit), which this device doesn't " ++
        "advertise; its 32-bit GetPartialObject can't reach past 4 GiB"))
    else .ok .narrow
  else .error .unsupported

/-- A command whose data phase is streamed, with the size it is bounded by. -/
structure StreamCommand where
  operation : OperationCode
  params : List UInt32
  size : Option Nat
deriving DecidableEq, Repr

structure UsbBackend where
  hasPartialObject64 : Bool
  hasPartialObject : Bool
deriving DecidableEq, Repr

namespace UsbBackend

def partialRead (self : UsbBackend) (offset : Nat) : Except Error PartialReadOp :=
  planPartialRead self.hasPartialObject64 self.hasPartialObject offset

def partialReadStream (self : UsbBackend) (obj : UInt32) (offset : Nat) (maxBytes : UInt32) :
    Except Error StreamCommand := do
  match ← self.partialRead offset with
  | .wide => .ok {
      operation := .getPartialObject64
      params := [obj, UInt32.ofNat offset, UInt32.ofNat (offset / 2 ^ 32), maxBytes]
      size := none }
  | .narrow => .ok {
      operation := .getPartialObject
      params := [obj, UInt32.ofNat offset, maxBytes]
      size := none }

def download (self : UsbBackend) (obj : UInt32) (range : ByteRange) (size : Nat) :
    Except Error StreamCommand :=
  let offset := range.offset
  if size < offset then
    .error (.invalidData ("download offset " ++ toString offset ++
      " is past the object size " ++ toString size))
  else
    -- one partial read covers at most `u32::MAX` bytes
    let partially (want : Nat) := self.partialReadStream obj offset
      (if want ≤ u32Max then UInt32.ofNat want else UInt32.ofNat u32Max)
    match range with
    -- a size still saturated is no bound
    | .full => .ok {
        operation := .getObject
        params := [obj]
        size := if u32Max < size then some size else none }
    | .from_ _ => partially (size - offset)
    | .range _ len => partially (min (size - offset) len)

def downloadWindow (self : UsbBackend) (obj : UInt32) (offset : Nat) (len : UInt32) :
    Except Error StreamCommand :=
  self.partialReadStream obj offset len

def canReadPartiallyAt (self : UsbBackend) (offset : Nat) : Bool :=
  (self.partialRead offset).isOk

def objectInfo (obj : UInt32) (info : Except PtpError ObjectInfo)
    (objectSize : Except PtpError Bytes) : Except Error ObjectInfo :=
  match Ptp.getObjectInfoFull info objectSize with
  | .error e => .error (.ofPtp e)
  | .ok info => .ok { info with handle := obj }

def backend (self : UsbBackend) : Backend where
  canReadPartiallyAt := self.canReadPartiallyAt

def command (self : UsbBackend) : DownloadRequest → Except Error StreamCommand
  | .window handle offset len => self.downloadWindow handle offset len
  | .transfer handle range size => self.download handle range size

end UsbBackend

/-- `download_with_pacing`, given the object's info. -/
def downloadWithPacing {ρ : Type} (backend : Backend) (handle : UInt32)
    (info : Except Error ObjectInfo) (range : ByteRange) (pacing : DownloadPacing)
    (transfer : Except Error Unit) (waited : Nat) : Except Error (FileDownload ρ) := do
  let info ← info
  FileDownload.startDownload backend handle info.size range pacing transfer waited

end Mtp
