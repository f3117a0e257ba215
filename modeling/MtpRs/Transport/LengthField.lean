import MtpRs.Transport.BulkOut

set_option autoImplicit false

/- What the data containers of the two senders are on the wire, and the length field they
declare. -/
namespace Nusb

open Ptp (Bytes OperationCode bufferedHeader dataPhase streamHeader)

namespace BulkOut

section

variable {host : Host} {out : BulkOut} {pipe : Pipe}

/-- The buffered container, whatever the mode. -/
theorem sendData_wire (succeeds : out.Succeeds) (split : Bool) (operation : OperationCode)
    (txId : UInt32) (payload : Bytes) :
    (transfersOf ((out.sender host).sendData split operation txId payload) pipe).flatten =
      bufferedHeader operation txId payload ++ payload := by
  rw [transfersOf_sendData host pipe succeeds]
  cases split with
  | false => exact List.flatten_singleton
  | true =>
      by_cases empty : payload = []
      · simp [empty]
      · simp [empty]

theorem flatten_filter_ne_nil (chunks : List Bytes) :
    (chunks.filter (· ≠ [])).flatten = chunks.flatten := by
  induction chunks with
  | nil => rfl
  | cons chunk rest ih =>
      cases chunk with
      | nil => simpa using ih
      | cons byte others => simpa using ih

/-- The streamed container, whatever the mode and the chunks. -/
theorem sendDataStream_wire (succeeds : out.Succeeds) (split : Bool) (operation : OperationCode)
    (txId : UInt32) (totalSize : UInt64) (chunks : List Bytes) :
    (transfersOf ((out.sender host).sendDataStream split operation txId totalSize
        (chunks.map .ok)) pipe).flatten =
      streamHeader operation txId totalSize ++ chunks.flatten := by
  cases split with
  | true =>
      rw [transfersOf_sendDataStream_split host pipe succeeds, List.flatten_cons,
        flatten_filter_ne_nil]
  | false =>
      obtain ⟨transfers, sent, taken, -, -⟩ :=
        transfersOf_sendDataStream_combined host pipe succeeds operation txId totalSize chunks
      rw [sent, List.flatten_append, taken]
      split
      · rw [List.flatten_singleton, List.append_nil]
      · rw [List.flatten_nil, List.append_nil]

/-- The three encoders write the protocol's container: its length field, and the same bytes. -/
def WriteDataPhase (host : Host) (out : BulkOut) (pipe : Pipe) (operation : OperationCode)
    (txId : UInt32) (totalSize : UInt64) (chunks : List Bytes) : Prop :=
  (∀ split, (transfersOf ((out.sender host).sendData split operation txId chunks.flatten)
      pipe).flatten = dataPhase operation txId chunks.flatten) ∧
  ∀ split, (transfersOf ((out.sender host).sendDataStream split operation txId totalSize
      (chunks.map .ok)) pipe).flatten = dataPhase operation txId chunks.flatten

/-- A length that does not fit leaves the buffered header wrong, unless it wraps to the sentinel. -/
theorem WriteDataPhase.length_fits (succeeds : out.Succeeds) {operation : OperationCode}
    {txId : UInt32} {totalSize : UInt64} {chunks : List Bytes}
    (writes : WriteDataPhase host out pipe operation txId totalSize chunks) :
    Ptp.headerSize + chunks.flatten.length < 2 ^ 32 ∨
      (Ptp.headerSize + chunks.flatten.length) % 2 ^ 32 = 2 ^ 32 - 1 := by
  have buffered := writes.1 false
  rw [sendData_wire succeeds, bufferedHeader, dataPhase] at buffered
  rw [← Ptp.ofNat_eq_dataLength_iff]
  exact Ptp.packHeader_append_eq_iff.mp buffered

/-- The buffered encoders truncate the length, so that they agree with the streaming one where it
fits in 32 bits, or wraps to the sentinel by chance. -/
theorem length_field_iff (host : Host) (out : BulkOut) (pipe : Pipe) (succeeds : out.Succeeds)
    (operation : OperationCode) (txId : UInt32) (totalSize : UInt64) (chunks : List Bytes)
    (declared : totalSize.toNat = chunks.flatten.length) :
    WriteDataPhase host out pipe operation txId totalSize chunks ↔
      Ptp.headerSize + chunks.flatten.length < 2 ^ 32 ∨
        (Ptp.headerSize + chunks.flatten.length) % 2 ^ 32 = 2 ^ 32 - 1 := by
  constructor
  · exact WriteDataPhase.length_fits succeeds
  · intro fits
    have same := (Ptp.ofNat_eq_dataLength_iff _).mpr fits
    constructor
    · intro split
      rw [sendData_wire succeeds, bufferedHeader, dataPhase]
      exact Ptp.packHeader_append_eq_iff.mpr same
    · intro split
      have counts : Ptp.headerSize + totalSize.toNat < 2 ^ 64 := by
        have bound := totalSize.toNat_lt
        unfold Ptp.headerSize at fits ⊢
        omega
      rw [sendDataStream_wire succeeds, streamHeader, dataPhase,
        Ptp.streamLength_eq_dataLength counts, declared]

theorem length_field_three_bytes :
    WriteDataPhase usualHost steady ⟨[], 0⟩ .sendObject 1 3 [[1, 2], [3]] :=
  (length_field_iff usualHost steady ⟨[], 0⟩ (fun _ => rfl) .sendObject 1 3 [[1, 2], [3]] rfl).mpr
    (Or.inl (by decide))

/-- A payload of 4 GiB: the buffered header declares a container of twelve bytes. -/
theorem four_gigabytes_wrap :
    ¬ WriteDataPhase usualHost steady ⟨[], 0⟩ .sendObject 1 0x100000000
      [List.replicate (2 ^ 32) 0] := by
  have wraps : ∀ payload : Bytes, payload.length = 2 ^ 32 →
      ¬ WriteDataPhase usualHost steady ⟨[], 0⟩ .sendObject 1 0x100000000
        [payload] := by
    intro payload long writes
    have fits := writes.length_fits fun _ => rfl
    rw [List.flatten_singleton, long, Ptp.headerSize] at fits
    omega
  exact wraps _ List.length_replicate

end

end BulkOut

end Nusb
