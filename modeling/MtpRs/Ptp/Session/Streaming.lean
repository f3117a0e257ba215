import MtpRs.Ptp.Session.Receive

set_option autoImplicit false

/- `ReceiveStream`. The loop of `next_chunk` is cut at its `receive_bulk`: `pass`
is one trip through the loop body before it, `received` the part after it. -/
namespace Ptp

/-- How much a receiving stream asks the transport for in one bulk read. -/
def receiveChunk : Nat := 64 * 1024

/-- The length a responder sends when the data phase is bigger than 32 bits can say. -/
def largeObjectLengthSentinel : UInt32 := 0xFFFFFFFF

/-- What `consume_container_header` found at the front of the buffer. -/
inductive Header where
  | data
  | done
  | skippedStaleReply
deriving DecidableEq, Repr

abbrev Item := Option (Except PtpError Bytes)

/-- `guard` is whether the stream still holds the operation lock. `recovery` is
the session's shared cell, as the stream last saw or left it. -/
structure ReceiveStream where
  recovery : RecoveryState
  guard : Bool
  transactionId : UInt32
  operation : OperationCode
  buffer : Bytes
  expectedPayloadLen : Option Nat
  payloadRemaining : Option Nat
  payloadYielded : Nat
  largeObject : Bool
  inPayload : Bool
  shortRead : Bool
  expectZeroLengthPacket : Bool
  staleRepliesSkipped : Nat
  sawDataContainer : Bool
  done : Bool
deriving DecidableEq, Repr

/-- Where one trip through the loop body of `next_chunk` ends. -/
inductive Pass where
  | awaits (self : ReceiveStream)
  | continues (self : ReceiveStream)
  | returns (item : Item) (self : ReceiveStream)

/-- Where a call of `next_chunk` stands after the code up to its next await. -/
inductive Poll where
  | pending (self : ReceiveStream)
  | ready (item : Item) (self : ReceiveStream)

namespace ReceiveStream

/-- The stream `start_receive_stream` returns. -/
def start (recovery : RecoveryState) (transactionId : UInt32) (operation : OperationCode)
    (expectedPayloadLen : Option Nat) : ReceiveStream where
  recovery := recovery
  guard := true
  transactionId := transactionId
  operation := operation
  buffer := []
  expectedPayloadLen := expectedPayloadLen
  payloadRemaining := none
  payloadYielded := 0
  largeObject := false
  inPayload := false
  shortRead := false
  expectZeroLengthPacket := false
  staleRepliesSkipped := 0
  sawDataContainer := false
  done := false

/-- End the transfer: flag the pipe if it may still hold data, then give the session back. -/
def finish (self : ReceiveStream) (pipeInDoubt : Bool) : ReceiveStream :=
  { self with
    done := true
    recovery := if pipeInDoubt then self.recovery.flag self.transactionId else self.recovery
    guard := false }

/-- Finish the container being streamed and go back to expecting a header. -/
def endContainer (self : ReceiveStream) : ReceiveStream :=
  { self with
    expectZeroLengthPacket := true
    inPayload := false
    payloadRemaining := none
    payloadYielded := 0
    largeObject := false }

/-- The state once a data header of length field `length` has been taken. -/
def openContainer (self : ReceiveStream) (length : UInt32) : ReceiveStream :=
  { self with
    buffer := self.buffer.drop headerSize
    largeObject := length == largeObjectLengthSentinel
    payloadRemaining :=
      if length = largeObjectLengthSentinel then self.expectedPayloadLen
      else some (length.toNat - headerSize)
    payloadYielded := 0
    inPayload := true
    sawDataContainer := true }

def consumeContainerHeader (self : ReceiveStream) :
    ReceiveStream × List WireEvent × Except PtpError Header :=
  match containerType self.buffer with
  | .error e => (self, [], .error e)
  | .ok .data =>
      match unpackU32 (self.buffer.take 4) with
      | .error e => (self, [], .error e)
      | .ok length =>
          let taken := [WireEvent.header (self.buffer.take headerSize)]
          if length ≠ largeObjectLengthSentinel ∧ length.toNat < headerSize then
            ({ self with buffer := self.buffer.drop headerSize, largeObject := false }, taken,
              .error (.invalidData ("Data container length " ++ toString length ++
                " is shorter than its " ++ toString headerSize ++ "-byte header")))
          else
            (self.openContainer length, taken, .ok .data)
  | .ok .response =>
      match ResponseContainer.fromBytes self.buffer with
      | .error e => (self, [], .error e)
      | .ok response =>
          if response.transactionId ≠ self.transactionId then
            if !self.sawDataContainer &&
                isStaleReply response.transactionId self.transactionId &&
                maySkipStaleReply self.operation self.staleRepliesSkipped then
              match unpackU32 (self.buffer.take 4) with
              | .error e => (self, [], .error e)
              | .ok length =>
                  -- `clamp(HEADER_SIZE, self.buffer.len())`
                  let length := min (max length.toNat headerSize) self.buffer.length
                  ({ self with
                      staleRepliesSkipped := self.staleRepliesSkipped + 1
                      buffer := self.buffer.drop length },
                    [.reply response (self.buffer.take length)], .ok .skippedStaleReply)
            else
              (self, [.reply response []],
                .error (transactionMismatch self.transactionId response.transactionId))
          else if response.code ≠ .ok then
            (self, [.reply response []], .error (.protocol response.code self.operation))
          else
            (self, [.reply response []], .ok .done)
  | .ok other => (self, [], .error (.invalidData ("Unexpected container type: " ++ other.name)))

/-- The end-of-phase rule for a container whose header cannot say where it ends:
after a short read whatever is buffered is the last of the payload. -/
def boundLargeObject (self : ReceiveStream) : ReceiveStream :=
  if self.inPayload && self.largeObject && self.shortRead && decide (0 < self.payloadYielded) then
    { self with payloadRemaining := some (match self.payloadRemaining with
        | none => self.buffer.length
        | some left => min left self.buffer.length) }
  else self

/-- How many buffered bytes belong to the container being streamed. -/
def takeLength (self : ReceiveStream) : Nat :=
  match self.payloadRemaining with
  | none => self.buffer.length
  | some left => min left self.buffer.length

/-- The chunk `split_to(take)` hands over, and what it leaves. -/
def yieldChunk (self : ReceiveStream) : Bytes × ReceiveStream :=
  let rest := { self with
    buffer := self.buffer.drop self.takeLength
    payloadYielded := self.payloadYielded + self.takeLength
    payloadRemaining := self.payloadRemaining.map (· - self.takeLength) }
  (self.buffer.take self.takeLength,
    if rest.payloadRemaining = some 0 then rest.endContainer else rest)

/-- The loop body from the end-of-phase rule on. -/
def passPayload (self : ReceiveStream) : List WireEvent × Pass :=
  let self := self.boundLargeObject
  if self.inPayload = true ∧ 0 < self.takeLength then
    ([.payload self.yieldChunk.1], .returns (some (.ok self.yieldChunk.1)) self.yieldChunk.2)
  else if self.inPayload = true ∧ self.payloadRemaining = some 0 then
    ([], .continues self.endContainer)
  else
    ([], .awaits { self with shortRead := false })

/-- An error response closes the transaction; anything else leaves the pipe in doubt. -/
def pipeInDoubt : PtpError → Bool
  | .protocol .. => false
  | _ => true

/-- One trip through the loop body, up to its `receive_bulk`. -/
def pass (self : ReceiveStream) : List WireEvent × Pass :=
  if self.inPayload = false ∧ headerSize ≤ self.buffer.length then
    match self.consumeContainerHeader with
    | (self, events, .ok .done) => (events, .returns none (self.finish false))
    | (self, events, .error e) =>
        (events, .returns (some (.error e)) (self.finish (pipeInDoubt e)))
    | (self, events, .ok _) => (events ++ self.passPayload.1, self.passPayload.2)
  else
    self.passPayload

/-- The loop body from `receive_bulk`'s answer on. -/
def received (self : ReceiveStream) (read : Read) : Pass :=
  match read with
  | .ok bytes =>
      if bytes.isEmpty then
        if self.inPayload && self.largeObject then
          .continues { self with shortRead := true }
        else if self.expectZeroLengthPacket then
          .continues { self with expectZeroLengthPacket := false }
        else
          .returns (some (.error (.invalidData "Empty response from device"))) self
      else
        .continues { self with
          expectZeroLengthPacket := false
          shortRead := decide (bytes.length < receiveChunk)
          buffer := self.buffer ++ bytes }
  | .error e => .returns (some (.error e)) (self.finish (e != .deviceReset))

end ReceiveStream

end Ptp
