import MtpRs.Lib.Attempts
import MtpRs.Ptp.Container

set_option autoImplicit false

/- The host's data phase: the container header, and the calls of the transport it goes out with,
from a buffer or from a stream. -/
namespace Ptp

open Attempts (Attempt)

/-- The chunks of a data phase, in order; a source that fails ends with an error. -/
abbrev BulkStream := List (Except (IoErrorKind × String) Bytes)

structure Sender (σ : Type) where
  sendBulk : Bytes → Attempt σ PtpError Unit
  /-- All chunks as one logical transfer. -/
  sendBulkStreaming : BulkStream → Attempt σ PtpError Unit

/-- The header with `total_len as u32`, of `execute_with_send` in split mode. -/
def bufferedHeader (operation : OperationCode) (txId : UInt32) (data : Bytes) : Bytes :=
  let totalLen := UInt32.ofNat (headerSize + data.length)
  packHeader ⟨totalLen, ContainerType.data.toCode, operation.toCode, txId⟩

def streamLength (totalSize : UInt64) : UInt32 :=
  let containerLength := UInt64.ofNat headerSize + totalSize
  if containerLength ≤ UInt64.ofNat (2 ^ 32 - 1) then containerLength.toUInt32 else 0xFFFFFFFF

def streamHeader (operation : OperationCode) (txId : UInt32) (totalSize : UInt64) : Bytes :=
  packHeader ⟨streamLength totalSize, ContainerType.data.toCode, operation.toCode, txId⟩

namespace Sender

variable {σ : Type} (sender : Sender σ)

/-- The data phase of `execute_with_send`, behind its command. -/
def sendData (split : Bool) (operation : OperationCode) (txId : UInt32) (data : Bytes) :
    Attempt σ PtpError Unit :=
  if split then
    (sender.sendBulk (bufferedHeader operation txId data)).andThen fun _ =>
      if !data.isEmpty then sender.sendBulk data else Attempt.done ()
  else sender.sendBulk (DataContainer.toBytes ⟨operation, txId, data⟩)

/-- The loop over the stream in split mode: a transfer for each chunk that is not empty. -/
def sendChunks : BulkStream → Attempt σ PtpError Unit
  | [] => Attempt.done ()
  | .error (kind, text) :: _ => Attempt.fail (.io kind text)
  | .ok chunk :: rest =>
      if !chunk.isEmpty then (sender.sendBulk chunk).andThen fun _ => sendChunks rest
      else sendChunks rest

/-- The data phase of `execute_with_send_stream`, behind its command. -/
def sendDataStream (split : Bool) (operation : OperationCode) (txId : UInt32)
    (totalSize : UInt64) (data : BulkStream) : Attempt σ PtpError Unit :=
  let header := streamHeader operation txId totalSize
  if split then (sender.sendBulk header).andThen fun _ => sender.sendChunks data
  else sender.sendBulkStreaming (.ok header :: data)

end Sender

/-- The length field a data container of the protocol has: its size, or the sentinel where 32 bits
do not hold it. -/
def dataLength (payloadLen : Nat) : UInt32 :=
  if headerSize + payloadLen < 2 ^ 32 then UInt32.ofNat (headerSize + payloadLen) else 0xFFFFFFFF

def dataPhase (operation : OperationCode) (txId : UInt32) (payload : Bytes) : Bytes :=
  packHeader ⟨dataLength payload.length, ContainerType.data.toCode, operation.toCode, txId⟩ ++
    payload

/-- Two containers of one payload differ in their length fields only. -/
theorem packHeader_append_eq_iff {length other : UInt32} {typeCode code : UInt16} {txId : UInt32}
    {payload : Bytes} :
    packHeader ⟨length, typeCode, code, txId⟩ ++ payload =
        packHeader ⟨other, typeCode, code, txId⟩ ++ payload ↔ length = other := by
  constructor
  · intro same
    have read := congrArg unpackHeader same
    rw [unpackHeader_packHeader, unpackHeader_packHeader, Except.ok.injEq,
      ContainerHeader.mk.injEq] at read
    exact read.1
  · intro same
    rw [same]

/-- The truncated length is the protocol's where it fits, or where it wraps to the sentinel. -/
theorem ofNat_eq_dataLength_iff (payloadLen : Nat) :
    UInt32.ofNat (headerSize + payloadLen) = dataLength payloadLen ↔
      headerSize + payloadLen < 2 ^ 32 ∨ (headerSize + payloadLen) % 2 ^ 32 = 2 ^ 32 - 1 := by
  unfold dataLength
  by_cases fits : headerSize + payloadLen < 2 ^ 32
  · rw [if_pos fits]
    exact iff_of_true rfl (Or.inl fits)
  · rw [if_neg fits, ← UInt32.toNat_inj, UInt32.toNat_ofNat']
    constructor
    · intro same
      exact Or.inr same
    · intro either
      exact either.resolve_left fits

/-- The streaming length is the protocol's for every size whose container a `u64` can count. -/
theorem streamLength_eq_dataLength {totalSize : UInt64}
    (counts : headerSize + totalSize.toNat < 2 ^ 64) :
    streamLength totalSize = dataLength totalSize.toNat := by
  have container : (UInt64.ofNat headerSize + totalSize).toNat = headerSize + totalSize.toNat := by
    rw [UInt64.toNat_add, UInt64.toNat_ofNat']
    unfold headerSize at counts ⊢
    omega
  have small : UInt64.ofNat headerSize + totalSize ≤ UInt64.ofNat (2 ^ 32 - 1) ↔
      headerSize + totalSize.toNat < 2 ^ 32 := by
    rw [UInt64.le_iff_toNat_le, container, UInt64.toNat_ofNat']
    omega
  unfold streamLength dataLength
  dsimp only
  by_cases fits : headerSize + totalSize.toNat < 2 ^ 32
  · rw [if_pos fits, if_pos (small.mpr fits), ← UInt32.toNat_inj, UInt64.toNat_toUInt32,
      container, UInt32.toNat_ofNat']
  · rw [if_neg fits, if_neg fun less => fits (small.mp less)]

/-- Where the two length fields are the same: where the buffered one fits or wraps to the sentinel,
and where both wrap. -/
theorem ofNat_eq_streamLength_iff (totalSize : UInt64) :
    UInt32.ofNat (headerSize + totalSize.toNat) = streamLength totalSize ↔
      headerSize + totalSize.toNat < 2 ^ 32 ∨
        (headerSize + totalSize.toNat) % 2 ^ 32 = 2 ^ 32 - 1 ∨
        2 ^ 64 ≤ headerSize + totalSize.toNat := by
  by_cases counts : headerSize + totalSize.toNat < 2 ^ 64
  · rw [streamLength_eq_dataLength counts, ofNat_eq_dataLength_iff]
    omega
  · have bound := totalSize.toNat_lt
    have container : (UInt64.ofNat headerSize + totalSize).toNat =
        headerSize + totalSize.toNat - 2 ^ 64 := by
      rw [UInt64.toNat_add, UInt64.toNat_ofNat']
      unfold headerSize at counts ⊢
      omega
    have small : UInt64.ofNat headerSize + totalSize ≤ UInt64.ofNat (2 ^ 32 - 1) := by
      rw [UInt64.le_iff_toNat_le, container, UInt64.toNat_ofNat']
      unfold headerSize at counts ⊢
      omega
    refine iff_of_true ?_ (Or.inr (Or.inr (Nat.le_of_not_lt counts)))
    unfold streamLength
    dsimp only
    rw [if_pos small, ← UInt32.toNat_inj, UInt64.toNat_toUInt32, container, UInt32.toNat_ofNat']
    omega

end Ptp
