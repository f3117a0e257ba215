import MtpRs.Ptp.Error

set_option autoImplicit false

namespace Mtp

open Ptp (PtpError ResponseCode)

/-- The error type of the high-level API. -/
inductive Error where
  | notFound
  | staleHandle
  | accessDenied
  | exclusiveAccess
  | permissionDenied
  | unsupported
  | busy
  | storageFull
  | cancelled
  | disconnected
  | deviceReset
  | timeout
  | noDevice
  | nameTooLong (units : Nat)
  | invalidData (message : String)
  | io (message : String)
  | other (detail : String)
  | alreadyExists
deriving DecidableEq, Repr

def mapResponseCode (code : ResponseCode) : Error :=
  match code with
  | .invalidObjectHandle | .invalidParentObject => .staleHandle
  | .invalidStorageId => .notFound
  | .storeReadOnly | .objectWriteProtected | .accessDenied => .accessDenied
  | .storeFull | .objectTooLarge => .storageFull
  | .deviceBusy => .busy
  | .operationNotSupported | .parameterNotSupported => .unsupported
  | .transactionCancelled => .cancelled
  | .sessionNotOpen => .disconnected
  | other => .other other.name

/-- What the PTP layer's error is to a caller of the high-level API. -/
def Error.ofPtp : PtpError → Error
  | .protocol code _ => mapResponseCode code
  | .usb .busy _ => .exclusiveAccess
  | .usb .permissionDenied _ => .permissionDenied
  | .usb .disconnected _ | .usb .notFound _ => .disconnected
  | .usb .unsupported _ => .unsupported
  | .usb .other text => .io text
  | .io .permissionDenied _ => .permissionDenied
  | .io _ text => .io text
  | .invalidData message => .invalidData message
  | .timeout => .timeout
  | .disconnected => .disconnected
  | .sessionNotOpen => .disconnected
  | .noDevice => .noDevice
  | .cancelled => .cancelled
  | .deviceReset => .deviceReset
  | .stringTooLong units => .nameTooLong units

end Mtp
