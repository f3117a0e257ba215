import MtpRs.Ptp.Container

set_option autoImplicit false

/- Cancelling a transfer over USB: the class request, the drains of the two IN pipes, the status
polls, and the reset of a device that went silent. -/
namespace Nusb

open Ptp (Bytes PtpError headerSize packU16 packU32 unpackU16 unpackU32)

inductive TransferError where
  | cancelled
  | stall
  | disconnected
  | fault
  | invalidArgument
  | unknown (code : UInt32)
deriving DecidableEq, Repr

/-- The host: its operating system, the text the USB library has for an error, whether a cancel
drains the whole transfer, and the packet size of the bulk IN pipe. -/
structure Host where
  macos : Bool
  errorText : TransferError → String
  drainOnCancel : Bool
  maxPacketSize : Nat

/-- `is_disconnect`: macOS reports a pulled cable as one of two unknown codes. -/
def isDisconnect (host : Host) : TransferError → Bool
  | .disconnected => true
  | .unknown code => host.macos && (code == 0xe00002ed || code == 0xe00002cd)
  | _ => false

def convertTransferError (host : Host) (err : TransferError) : PtpError :=
  if isDisconnect host err then .disconnected
  else
    match err with
    | .cancelled => .timeout
    | .disconnected => .disconnected
    | .stall | .fault | .invalidArgument | .unknown _ => .io .other (host.errorText err)

def cancelWasNotActedOn (host : Host) : Except TransferError Unit → Except PtpError Bool
  | .ok _ => .ok false
  | .error .stall | .error .cancelled => .ok true
  | .error e => .error (convertTransferError host e)

def alignToPacketSize (size packetSize : Nat) : Nat :=
  if packetSize = 0 then max size 1
  else if size = 0 then packetSize
  else if size % packetSize = 0 then size
  else (size / packetSize + 1) * packetSize

/-- Whether one drained read is the response that closes the transaction. -/
def isResponseContainer (read : Bytes) (requested : Nat) : Bool :=
  if read.length < 12 ∨ requested ≤ read.length then false
  else
    match unpackU32 (read.take 4), unpackU16 ((read.take 6).drop 4) with
    | .ok length, .ok typeCode => length.toNat == read.length && typeCode == 3
    | _, _ => false

/-- What waiting for a read comes to: it completes, it fails, or nothing arrives for the idle
timeout. -/
inductive Completion where
  | read (bytes : Bytes)
  | failed (error : TransferError)
  | idle
deriving DecidableEq, Repr

/-- The loop of step 2, with what it leaves in the pipe, which is idle when nothing is left. -/
def drainBulkIn (host : Host) (readSize : Nat) :
    List Completion → Except PtpError Unit × List Completion
  | [] => (.ok (), [])
  | .read bytes :: rest =>
      if isResponseContainer bytes readSize then (.ok (), rest)
      else drainBulkIn host readSize rest
  | .failed e :: rest =>
      if isDisconnect host e then (.error .disconnected, rest) else (.ok (), rest)
  | .idle :: rest => (.ok (), rest)

def refusedCancelDrainRead : Nat := 64 * 1024

/-- The size of the reads in step 2. -/
def drainReadSize (host : Host) (refused : Bool) : Nat :=
  if refused then alignToPacketSize refusedCancelDrainRead host.maxPacketSize
  else alignToPacketSize host.maxPacketSize host.maxPacketSize

/-- The 32-bit parameters of a device status, as the endpoint addresses in their low bytes. -/
def statusEndpoints : Bytes → List UInt8
  | b0 :: _ :: _ :: _ :: rest => b0 :: statusEndpoints rest
  | _ => []

def parseDeviceStatus (data : Bytes) : Option (UInt16 × List UInt8) :=
  match unpackU16 (data.take 2), unpackU16 ((data.take 4).drop 2) with
  | .ok wlength, .ok code => some (code, statusEndpoints ((data.take wlength.toNat).drop 4))
  | _, _ => none

def sicStatusDeviceBusy : UInt16 := 0x2019

/-- The polls of `settle_after_cancel` that are left, from poll number `poll` on: whether the device
is wedged, and the endpoints whose halts were cleared. -/
def settleLoop (status : Nat → Except TransferError Bytes) (poll : Nat) : Nat → Bool × List UInt8
  | 0 => (false, [])
  | left + 1 =>
      match status poll with
      | .error .cancelled => (true, [])
      | .error _ => (false, [])
      | .ok data =>
          match parseDeviceStatus data with
          | none => (false, [])
          | some (code, endpoints) =>
              if code ≠ sicStatusDeviceBusy then (false, endpoints)
              else
                let later := settleLoop status (poll + 1) left
                (later.1, endpoints ++ later.2)

def settleAfterCancel (status : Nat → Except TransferError Bytes) : Bool × List UInt8 :=
  settleLoop status 0 100

/-- What the device does: its answers to `CLASS_CANCEL` and to `DEVICE_RESET`, the reads of the two
IN pipes in the order they are awaited, and its answers to the status polls. -/
structure Wire where
  cancel : Bytes → Except TransferError Unit
  bulkIn : List Completion
  interruptIn : List Completion
  status : Nat → Except TransferError Bytes
  reset : Except TransferError Unit

/-- The reads `reset_device` discards: all up to the first that brings nothing. -/
def drainStale : List Completion → List Completion
  | .read _ :: rest => drainStale rest
  | _ :: rest => rest
  | [] => []

def resetDevice (host : Host) (wire : Wire) : Except PtpError Unit × Wire :=
  match wire.reset with
  | .error e => (.error (convertTransferError host e), wire)
  | .ok _ => (.ok (), { wire with bulkIn := drainStale wire.bulkIn })

def cancelPayload (transactionId : UInt32) : Bytes := packU16 0x4001 ++ packU32 transactionId

/-- Step 1: whether the whole transfer has to be drained. -/
def requestCancel (host : Host) (transactionId : UInt32) (wire : Wire) : Except PtpError Bool :=
  if host.drainOnCancel then .ok true
  else cancelWasNotActedOn host (wire.cancel (cancelPayload transactionId))

def cancelTransfer (host : Host) (transactionId : UInt32) (wire : Wire) :
    Except PtpError Unit × Wire :=
  match requestCancel host transactionId wire with
  | .error e => (.error e, wire)
  | .ok refused =>
      let (drained, bulkIn) := drainBulkIn host (drainReadSize host refused) wire.bulkIn
      let wire := { wire with bulkIn }
      match drained with
      | .error e => (.error e, wire)
      | .ok _ =>
          let wire := { wire with interruptIn := wire.interruptIn.tail }
          if (settleAfterCancel wire.status).1 then (.error .deviceReset, (resetDevice host wire).2)
          else (.ok (), wire)

end Nusb
