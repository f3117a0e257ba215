import MtpRs.Mtp.Storage

set_option autoImplicit false

namespace Mtp

def Error.text : Error → String
  | .notFound => "not found"
  | .staleHandle => "stale object handle (device re-keyed it; re-list and retry)"
  | .accessDenied => "access denied"
  | .exclusiveAccess => "device is held exclusively by another process"
  | .permissionDenied => "permission denied accessing the device"
  | .unsupported => "operation not supported by this device"
  | .busy => "device busy"
  | .storageFull => "storage full"
  | .cancelled => "operation cancelled"
  | .disconnected => "device disconnected"
  | .deviceReset => "device was reset to recover from a wedged cancel; reopen to continue"
  | .timeout => "operation timed out"
  | .noDevice => "no device found"
  | .nameTooLong units =>
      s!"name is {units} UTF-16 code units long; MTP names hold at most 254"
  | .invalidData message => "invalid data: " ++ message
  | .io message => "I/O error: " ++ message
  | .other detail => "device error: " ++ detail
  | .alreadyExists => "an object with that name already exists in the destination folder"

end Mtp

/- What the command line reports of an error. -/
namespace Cli

open Attempts (Attempt)
open Mtp (Error)

inductive CliErrorKind where
  | other
  | noDevice
  | ambiguousSelection
  | accessDenied
  | remotePath
  | transfer
  | verify
deriving DecidableEq, Repr

/-- The detail is the error whose `Debug` text is shown. -/
structure CliError where
  kind : CliErrorKind
  message : String
  detail : Option Error
  help : Option String
deriving DecidableEq, Repr

def CliError.new (kind : CliErrorKind) (message : String) : CliError := ⟨kind, message, none, none⟩

def exclusiveAccessHelp : String :=
  "Close other applications that may own the USB device, such as Photos, Android File Transfer, " ++
    "Garmin Express, or another file manager."

def macosUsbUserClientHelp : String :=
  "macOS can deny USB user-client access to non-app or background-launched processes. " ++
    "Try running mtp-rs from Terminal/iTerm with the Mac unlocked and the accessory allowed, " ++
    "or launch it from a signed app/helper context."

/-- What the commands are built for, and what the command line asks of all of them. -/
structure Settings where
  macos : Bool
  verbose : Bool

def containsText (text part : String) : Bool :=
  text.toList.tails.any fun rest => part.toList.isPrefixOf rest

def isMacosUsbUserClientDenied (settings : Settings) : Error → Bool
  | .io message =>
      settings.macos && containsText message "failed to create IOKit PlugInInterface"
  | _ => false

def CliError.fromMtp (settings : Settings) (context : String) (error : Error) : CliError :=
  let base :=
    if isMacosUsbUserClientDenied settings error then
      { CliError.new .accessDenied (context ++ ": macOS denied USB access for this process") with
        help := some macosUsbUserClientHelp }
    else
      match error with
      | .exclusiveAccess =>
          { CliError.new .accessDenied (context ++ ": device is already in use") with
            help := some exclusiveAccessHelp }
      | .noDevice => .new .noDevice "no MTP device found"
      | .timeout => .new .transfer (context ++ ": timed out")
      | .busy => .new .transfer (context ++ ": device busy, try again")
      | .disconnected => .new .transfer (context ++ ": device disconnected")
      | .staleHandle | .notFound => .new .remotePath (context ++ ": remote path not found")
      | .nameTooLong units =>
          .new .remotePath (context ++
            s!": name is too long for MTP ({units} UTF-16 units, max {Mtp.maxNameUnits})")
      | .alreadyExists =>
          .new .remotePath (context ++
            ": the destination folder already holds an object with that name")
      | .storageFull => .new .transfer (context ++ ": storage is full")
      | .accessDenied =>
          .new .accessDenied (context ++ ": storage is read-only or access denied")
      | .unsupported => .new .other (context ++ ": operation not supported by this device")
      | .cancelled => .new .transfer (context ++ ": cancelled")
      | .invalidData message => .new .transfer (context ++ ": invalid data: " ++ message)
      | .io message => .new .other (context ++ ": I/O error: " ++ message)
      | other => .new .other (context ++ ": " ++ other.text)
  { base with detail := if settings.verbose then some error else none }

/-- A request to the device, whose error the command ends with. -/
def request {σ α : Type} (settings : Settings) (context : String) (asked : Attempt σ Error α) :
    Attempt σ CliError α :=
  asked.mapError (CliError.fromMtp settings context)

end Cli
