import MtpRs.Lib.Feed
import MtpRs.Ptp.Session.Recovery

set_option autoImplicit false

/- The two read loops that buffer: `receive_response` and the loop of
`execute_with_receive`. Each is its turn function, one `receive_bulk` a turn. -/
namespace Ptp

open Feed (Turn)

abbrev Read := Except PtpError Bytes

/-- What a read loop takes off the wire, in order. `taken` is what leaves the
pipe or the stream's buffer with a reply. -/
inductive WireEvent where
  | reply (response : ResponseContainer) (taken : Bytes)
  | header (front : Bytes)
  | payload (bytes : Bytes)
deriving DecidableEq, Repr

namespace WireEvent

/-- The response containers parsed, in order. -/
@[simp] def replies : List WireEvent → List ResponseContainer
  | [] => []
  | .reply response _ :: rest => response :: replies rest
  | _ :: rest => replies rest

@[simp] def headers : List WireEvent → List Bytes
  | [] => []
  | .header front :: rest => front :: headers rest
  | _ :: rest => headers rest

@[simp] theorem headers_append (front back : List WireEvent) :
    headers (front ++ back) = headers front ++ headers back := by
  induction front with
  | nil => rfl
  | cons event rest ih => cases event <;> simp only [List.cons_append, headers, ih]

@[simp] theorem replies_append (front back : List WireEvent) :
    replies (front ++ back) = replies front ++ replies back := by
  induction front with
  | nil => rfl
  | cons event rest ih => cases event <;> simp only [List.cons_append, replies, ih]

end WireEvent

/-- One turn of the loop of `receive_response`; the state is `skipped`. -/
def receiveResponse (txId : UInt32) (operation : OperationCode) (skipped : Nat) (read : Read) :
    Turn Nat WireEvent (Except PtpError ResponseContainer) :=
  match read with
  | .error e => .done (.error e) []
  | .ok responseBytes =>
      match ResponseContainer.fromBytes responseBytes with
      | .error e => .done (.error e) []
      | .ok response =>
          if response.transactionId = txId then
            .done (.ok response) [.reply response responseBytes]
          else if isStaleReply response.transactionId txId &&
              maySkipStaleReply operation skipped then
            .again (skipped + 1) [.reply response responseBytes]
          else
            .done (.error (transactionMismatch txId response.transactionId))
              [.reply response responseBytes]

/-- The locals of `execute_with_receive`'s loop. `incomplete` holds the container
being completed and the total its header announced. -/
structure ReceiveLoop where
  data : Bytes
  skipped : Nat
  incomplete : Option (Bytes × Nat)
deriving DecidableEq, Repr

namespace ReceiveLoop

def initial : ReceiveLoop := ⟨[], 0, none⟩

end ReceiveLoop

/-- The end of the `Data` branch: the container is complete. -/
def closeContainer (state : ReceiveLoop) (bytes : Bytes) :
    Turn ReceiveLoop WireEvent (Except PtpError (ResponseContainer × Bytes)) :=
  match DataContainer.fromBytes bytes with
  | .error e => .done (.error e) []
  | .ok container =>
      .again { state with data := state.data ++ container.payload, incomplete := none }
        [.header (bytes.take headerSize), .payload container.payload]

/-- `while bytes.len() < total_length`: wait for more, or go on. -/
def completeContainer (state : ReceiveLoop) (bytes : Bytes) (totalLength : Nat) :
    Turn ReceiveLoop WireEvent (Except PtpError (ResponseContainer × Bytes)) :=
  if bytes.length < totalLength then
    .again { state with incomplete := some (bytes, totalLength) } []
  else
    closeContainer state bytes

def executeWithReceive (txId : UInt32) (operation : OperationCode) (state : ReceiveLoop)
    (read : Read) : Turn ReceiveLoop WireEvent (Except PtpError (ResponseContainer × Bytes)) :=
  match state.incomplete with
  | some (bytes, totalLength) =>
      match read with
      | .error e => .done (.error e) []
      | .ok more =>
          if more.isEmpty then
            .done (.error (.invalidData "Incomplete data container: device stopped sending")) []
          else
            completeContainer state (bytes ++ more) totalLength
  | none =>
      match read with
      | .error e => .done (.error e) []
      | .ok bytes =>
          if bytes.isEmpty then
            .done (.error (.invalidData "Empty response")) []
          else
            match containerType bytes with
            | .error e => .done (.error e) []
            | .ok .data =>
                -- `bytes.len() >= 4` holds here: `container_type` wants twelve bytes
                match unpackU32 (bytes.take 4) with
                | .error e => .done (.error e) []
                | .ok totalLength => completeContainer state bytes totalLength.toNat
            | .ok .response =>
                match ResponseContainer.fromBytes bytes with
                | .error e => .done (.error e) []
                | .ok response =>
                    if response.transactionId ≠ txId then
                      if state.data.isEmpty && isStaleReply response.transactionId txId &&
                          maySkipStaleReply operation state.skipped then
                        .again { state with skipped := state.skipped + 1 }
                          [.reply response bytes]
                      else
                        .done (.error (transactionMismatch txId response.transactionId))
                          [.reply response bytes]
                    else
                      .done (.ok (response, state.data)) [.reply response bytes]
            | .ok other => .done (.error (.invalidData
                ("Unexpected container type: " ++ other.name))) []

end Ptp
