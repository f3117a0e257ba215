import MtpRs.Ptp.Codes

set_option autoImplicit false

namespace Ptp

/-- The USB library's classification of a failure, as far as the source sorts by it. -/
inductive UsbErrorKind where
  | busy
  | permissionDenied
  | disconnected
  | notFound
  | unsupported
  | other
deriving DecidableEq, Repr

/-- The kinds of an I/O failure the source tells apart. -/
inductive IoErrorKind where
  | permissionDenied
  | interrupted
  | other
deriving DecidableEq, Repr

inductive PtpError where
  | usb (kind : UsbErrorKind) (text : String)
  | protocol (code : ResponseCode) (operation : OperationCode)
  | invalidData (message : String)
  | io (kind : IoErrorKind) (text : String)
  | timeout
  | disconnected
  | sessionNotOpen
  | noDevice
  | cancelled
  | stringTooLong (units : Nat)
  | deviceReset
deriving DecidableEq, Repr

/-- A result that fails, if at all, with `invalid_data`, as every parser's does. -/
def FailsInvalid {α : Type} (result : Except PtpError α) : Prop :=
  ∀ e, result = .error e → ∃ message, e = .invalidData message

namespace FailsInvalid

variable {α β : Type}

theorem ok (value : α) : FailsInvalid (.ok value) := fun _ same => by cases same

theorem invalidData (message : String) :
    FailsInvalid (.error (.invalidData message) : Except PtpError α) :=
  fun _ same => by
    cases same
    exact ⟨message, rfl⟩

theorem bind {result : Except PtpError α} {next : α → Except PtpError β}
    (first : FailsInvalid result) (second : ∀ value, FailsInvalid (next value)) :
    FailsInvalid (result >>= next) := by
  intro e failed
  cases result with
  | error inner =>
      cases failed
      exact first _ rfl
  | ok value => exact second value e failed

theorem mapM {f : α → Except PtpError β} (each : ∀ value, FailsInvalid (f value))
    (values : List α) : FailsInvalid (values.mapM f) := by
  induction values with
  | nil => exact ok []
  | cons value rest ih =>
      rw [List.mapM_cons]
      exact bind (each value) fun first => bind ih fun others => ok (first :: others)

end FailsInvalid

end Ptp
