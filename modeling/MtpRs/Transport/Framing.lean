import MtpRs.Transport.LengthField

set_option autoImplicit false

/- How the data phases of the two senders are cut into packets, and where a device sees their
end. -/
namespace Nusb

open Packets (Framed packets)
open Ptp (Bytes OperationCode bufferedHeader streamHeader)

namespace BulkOut

def packetsOf (out : BulkOut) (transfers : List Bytes) : List Bytes :=
  transfers.flatMap (packets out.maxPacketSize)

/-- The device sees the end of the data phase, and only its end: that of the container, or in split
mode that of the payload, which has no transfer where it is empty. -/
def EndSeen (out : BulkOut) (split : Bool) (payload : Bytes) (transfers : List Bytes) : Prop :=
  if split then
    payload = [] ∧ transfers.tail = [] ∨ Framed out.maxPacketSize (out.packetsOf transfers.tail)
  else Framed out.maxPacketSize (out.packetsOf transfers)

/-- In a mode the two senders frame their data phase, and present the same packets. -/
def FramesIn (host : Host) (out : BulkOut) (pipe : Pipe) (operation : OperationCode)
    (txId : UInt32) (totalSize : UInt64) (chunks : List Bytes) (split : Bool) : Prop :=
  let buffered := transfersOf
    ((out.sender host).sendData split operation txId chunks.flatten) pipe
  let streamed := transfersOf
    ((out.sender host).sendDataStream split operation txId totalSize (chunks.map .ok)) pipe
  out.EndSeen split chunks.flatten buffered ∧ out.EndSeen split chunks.flatten streamed ∧
    out.packetsOf buffered = out.packetsOf streamed

/-- They do in both. -/
def FrameDataPhase (host : Host) (out : BulkOut) (pipe : Pipe) (operation : OperationCode)
    (txId : UInt32) (totalSize : UInt64) (chunks : List Bytes) : Prop :=
  ∀ split, FramesIn host out pipe operation txId totalSize chunks split

section

variable {host : Host} {out : BulkOut} {pipe : Pipe} {operation : OperationCode} {txId : UInt32}
  {totalSize : UInt64} {chunks : List Bytes}

theorem packetsOf_flatten (out : BulkOut) (transfers : List Bytes) :
    (out.packetsOf transfers).flatten = transfers.flatten := by
  induction transfers with
  | nil => rfl
  | cons transfer rest ih =>
      rw [packetsOf, List.flatMap_cons, List.flatten_append, ← packetsOf, ih,
        Packets.packets_flatten, List.flatten_cons]

/-- One transfer that is not empty ends in a short packet unless it is full packets. -/
theorem framed_singleton {transfer : Bytes} (nonempty : transfer ≠ []) :
    Framed out.maxPacketSize (out.packetsOf [transfer]) ↔
      ¬ out.maxPacketSize ∣ transfer.length := by
  rw [packetsOf, List.flatMap_singleton, Packets.framed_packets out.positive,
    or_iff_right nonempty]

theorem header_append_ne_nil {header : Ptp.ContainerHeader} {payload : Bytes} :
    Ptp.packHeader header ++ payload ≠ [] :=
  List.append_ne_nil_of_left_ne_nil (List.cons_ne_nil _ _) _

/-- The buffered sender in combined mode: nothing ends a container of full packets. -/
theorem combined_buffered_endSeen (succeeds : out.Succeeds) (payload : Bytes) :
    out.EndSeen false payload
        (transfersOf ((out.sender host).sendData false operation txId payload) pipe) ↔
      ¬ out.maxPacketSize ∣ Ptp.headerSize + payload.length := by
  rw [transfersOf_sendData host pipe succeeds]
  unfold EndSeen
  simp only [Bool.false_eq_true, if_false]
  have some : bufferedHeader operation txId payload ++ payload ≠ [] := header_append_ne_nil
  rw [framed_singleton some, List.length_append]
  rfl

/-- In split mode, nothing ends a payload of full packets. -/
theorem split_buffered_endSeen (succeeds : out.Succeeds) (payload : Bytes) :
    out.EndSeen true payload
        (transfersOf ((out.sender host).sendData true operation txId payload) pipe) ↔
      payload = [] ∨ ¬ out.maxPacketSize ∣ payload.length := by
  rw [transfersOf_sendData host pipe succeeds]
  unfold EndSeen
  simp only [if_true, List.tail_cons]
  by_cases empty : payload = []
  · simp [empty]
  · simp only [empty, if_false, false_and, false_or]
    exact framed_singleton empty

/-- The streaming sender ends a combined container, whatever its length and chunks. -/
theorem combined_streaming_endSeen (succeeds : out.Succeeds) (chunks : List Bytes) :
    out.EndSeen false chunks.flatten
      (transfersOf ((out.sender host).sendDataStream false operation txId totalSize
        (chunks.map .ok)) pipe) := by
  obtain ⟨transfers, sent, taken, full, fits⟩ :=
    transfersOf_sendDataStream_combined host pipe succeeds operation txId totalSize chunks
  rw [sent]
  unfold EndSeen
  simp only [Bool.false_eq_true, if_false]
  have total : transfers.flatten = (streamHeader operation txId totalSize :: chunks).flatten := by
    rw [taken, List.flatten_cons]
  rw [← total]
  have nonempty : transfers ≠ [] := by
    intro none
    rw [none, List.flatten_nil] at taken
    exact header_append_ne_nil taken.symm
  have some : 0 < transfers.flatten.length := by
    rw [taken]
    exact List.length_pos_iff.mpr header_append_ne_nil
  have shape := (List.dropLast_concat_getLast nonempty).symm
  have wholes : ∀ transfer ∈ transfers.dropLast,
      transfer ≠ [] ∧ out.maxPacketSize ∣ transfer.length := by
    intro transfer mem
    refine ⟨(fits transfer (List.mem_of_mem_dropLast mem)).1, ?_⟩
    rw [full transfer mem]
    exact out.transferSize_least.1
  have divides : out.maxPacketSize ∣ transfers.flatten.length ↔
      out.maxPacketSize ∣ (transfers.getLast nonempty).length := by
    have lengths : transfers.flatten.length =
        (transfers.dropLast ++ [transfers.getLast nonempty]).flatten.length := by
      rw [← shape]
    rw [lengths, List.flatten_append, List.length_append, List.flatten_singleton,
      Packets.length_flatten_of_full full]
    exact Nat.dvd_add_right (Nat.dvd_mul_right_of_dvd out.transferSize_least.1 _)
  by_cases ends : out.maxPacketSize ∣ transfers.flatten.length
  · rw [if_pos ⟨some, ends⟩, packetsOf, Packets.framed_flatMap out.positive]
    refine ⟨?_, Or.inl rfl⟩
    intro transfer mem
    rw [shape, List.mem_append, List.mem_singleton] at mem
    rcases mem with before | last
    · exact wholes transfer before
    · rw [last]
      exact ⟨(fits _ (List.getLast_mem nonempty)).1, divides.mp ends⟩
  · rw [if_neg fun both => ends both.2, List.append_nil, shape, packetsOf,
      Packets.framed_flatMap out.positive]
    exact ⟨wholes, Or.inr fun last => ends (divides.mpr last)⟩

/-- In split mode the streaming sender's chunks frame the payload where all but the last are full
packets, and the last is not. -/
theorem split_streaming_endSeen (succeeds : out.Succeeds) {init : List Bytes} {last : Bytes}
    (pieces : chunks.filter (· ≠ []) = init ++ [last]) :
    out.EndSeen true chunks.flatten
        (transfersOf ((out.sender host).sendDataStream true operation txId totalSize
          (chunks.map .ok)) pipe) ↔
      (∀ chunk ∈ init, out.maxPacketSize ∣ chunk.length) ∧
        ¬ out.maxPacketSize ∣ last.length := by
  have nonempty : ∀ chunk ∈ init ++ [last], chunk ≠ [] := by
    intro chunk mem
    rw [← pieces] at mem
    simpa using (List.mem_filter.mp mem).2
  have lastSome := nonempty last (List.mem_append_right _ List.mem_cons_self)
  rw [transfersOf_sendDataStream_split host pipe succeeds]
  unfold EndSeen
  simp only [if_true, List.tail_cons]
  rw [pieces, packetsOf, Packets.framed_flatMap out.positive, or_iff_right lastSome, or_iff_right]
  · constructor
    · intro both
      exact ⟨fun chunk mem => (both.1 chunk mem).2, both.2⟩
    · intro both
      exact ⟨fun chunk mem => ⟨nonempty chunk (List.mem_append_left _ mem), both.1 chunk mem⟩,
        both.2⟩
  · intro both
    exact List.append_ne_nil_of_right_ne_nil _ (List.cons_ne_nil _ _) both.2

/-- The chunks in split mode, where there are any. -/
theorem pieces_cases (chunks : List Bytes) :
    chunks.flatten = [] ∧ chunks.filter (· ≠ []) = [] ∨
      ∃ last, chunks.flatten ≠ [] ∧
        chunks.filter (· ≠ []) = (chunks.filter (· ≠ [])).dropLast ++ [last] := by
  by_cases none : chunks.filter (· ≠ []) = []
  · refine Or.inl ⟨?_, none⟩
    rw [← flatten_filter_ne_nil, none, List.flatten_nil]
  · refine Or.inr ⟨(chunks.filter (· ≠ [])).getLast none, ?_,
      (List.dropLast_concat_getLast none).symm⟩
    have nonempty : (chunks.filter (· ≠ [])).getLast none ≠ [] := by
      simpa using (List.mem_filter.mp (List.getLast_mem none)).2
    rw [← flatten_filter_ne_nil, ← List.dropLast_concat_getLast none, List.flatten_append,
      List.flatten_singleton]
    exact List.append_ne_nil_of_right_ne_nil _ nonempty

/-- The packets carry the containers, so that they differ where the length fields do. -/
theorem FramesIn.same_length (succeeds : out.Succeeds) {split : Bool}
    (frames : FramesIn host out pipe operation txId totalSize chunks split) :
    UInt32.ofNat (Ptp.headerSize + chunks.flatten.length) = Ptp.streamLength totalSize := by
  have same := congrArg List.flatten frames.2.2
  rw [packetsOf_flatten, packetsOf_flatten, sendData_wire succeeds,
    sendDataStream_wire succeeds] at same
  exact Ptp.packHeader_append_eq_iff.mp same

theorem headers_eq (same : UInt32.ofNat (Ptp.headerSize + chunks.flatten.length) =
    Ptp.streamLength totalSize) :
    bufferedHeader operation txId chunks.flatten = streamHeader operation txId totalSize := by
  rw [bufferedHeader, streamHeader, ← same]

/-- In combined mode the buffered sender decides, and the length it writes. -/
theorem combined_framing_iff (succeeds : out.Succeeds) :
    FramesIn host out pipe operation txId totalSize chunks false ↔
      ¬ out.maxPacketSize ∣ Ptp.headerSize + chunks.flatten.length ∧
        UInt32.ofNat (Ptp.headerSize + chunks.flatten.length) = Ptp.streamLength totalSize := by
  constructor
  · intro frames
    exact ⟨(combined_buffered_endSeen succeeds _).mp frames.1,
      frames.same_length succeeds⟩
  · rintro ⟨container, same⟩
    have buffered : out.EndSeen false chunks.flatten (transfersOf
        ((out.sender host).sendData false operation txId chunks.flatten) pipe) :=
      (combined_buffered_endSeen succeeds _).mpr container
    have streamed : out.EndSeen false chunks.flatten (transfersOf
        ((out.sender host).sendDataStream false operation txId totalSize
          (chunks.map .ok)) pipe) :=
      combined_streaming_endSeen succeeds chunks
    refine ⟨buffered, streamed, ?_⟩
    apply Packets.Cut.unique buffered streamed
    rw [packetsOf_flatten, packetsOf_flatten, sendData_wire succeeds,
      sendDataStream_wire succeeds, headers_eq same]

/-- In split mode the payload's length decides, and its chunks up to the last. -/
theorem split_framing_iff (succeeds : out.Succeeds) :
    FramesIn host out pipe operation txId totalSize chunks true ↔
      (chunks.flatten = [] ∨ ¬ out.maxPacketSize ∣ chunks.flatten.length) ∧
      (∀ chunk ∈ (chunks.filter (· ≠ [])).dropLast, out.maxPacketSize ∣ chunk.length) ∧
        UInt32.ofNat (Ptp.headerSize + chunks.flatten.length) = Ptp.streamLength totalSize := by
  constructor
  · intro frames
    refine ⟨(split_buffered_endSeen succeeds _).mp frames.1, ?_,
      frames.same_length succeeds⟩
    rcases pieces_cases chunks with ⟨-, none⟩ | ⟨last, -, pieces⟩
    · rw [none]
      exact fun chunk mem => absurd mem List.not_mem_nil
    · exact ((split_streaming_endSeen succeeds pieces).mp frames.2.1).1
  · rintro ⟨payload, whole, same⟩
    refine ⟨(split_buffered_endSeen succeeds _).mpr payload, ?_⟩
    rcases pieces_cases chunks with ⟨empty, none⟩ | ⟨last, some, pieces⟩
    · rw [transfersOf_sendData host pipe succeeds,
        transfersOf_sendDataStream_split host pipe succeeds, if_pos rfl, headers_eq same, empty,
        none, if_pos rfl]
      exact ⟨Or.inl ⟨rfl, rfl⟩, rfl⟩
    · have joined : chunks.flatten = ((chunks.filter (· ≠ [])).dropLast ++ [last]).flatten := by
        rw [← pieces, flatten_filter_ne_nil]
      have divides : out.maxPacketSize ∣ chunks.flatten.length ↔
          out.maxPacketSize ∣ last.length := by
        rw [joined, List.flatten_append, List.length_append, List.flatten_singleton]
        exact Nat.dvd_add_right (Packets.dvd_length_flatten whole)
      have partly : ¬ out.maxPacketSize ∣ last.length :=
        fun ends => payload.resolve_left some (divides.mpr ends)
      refine ⟨(split_streaming_endSeen succeeds pieces).mpr ⟨whole, partly⟩, ?_⟩
      rw [transfersOf_sendData host pipe succeeds,
        transfersOf_sendDataStream_split host pipe succeeds, if_pos rfl, if_neg some,
        headers_eq same, packetsOf, packetsOf, List.flatMap_cons, List.flatMap_cons,
        List.flatMap_nil, List.append_nil, List.flatMap_cons]
      congr 1
      rw [pieces, joined]
      apply (Packets.packets_flatten_eq out.positive _ last _).mpr whole
      intro chunk mem
      rw [← pieces] at mem
      simpa using (List.mem_filter.mp mem).2

/-- The conditions under which both senders frame their data phase. In combined mode: no container
of full packets. In split mode: no payload of full packets, and chunks of full packets up to the
last. In each: a length the buffered header does not truncate. -/
theorem framing_iff (host : Host) (out : BulkOut) (pipe : Pipe) (succeeds : out.Succeeds)
    (operation : OperationCode) (txId : UInt32) (totalSize : UInt64) (chunks : List Bytes)
    (declared : totalSize.toNat = chunks.flatten.length) :
    (FramesIn host out pipe operation txId totalSize chunks false ↔
      ¬ out.maxPacketSize ∣ Ptp.headerSize + chunks.flatten.length ∧
      (Ptp.headerSize + chunks.flatten.length < 2 ^ 32 ∨
        (Ptp.headerSize + chunks.flatten.length) % 2 ^ 32 = 2 ^ 32 - 1 ∨
        2 ^ 64 ≤ Ptp.headerSize + chunks.flatten.length)) ∧
    (FramesIn host out pipe operation txId totalSize chunks true ↔
      (chunks.flatten = [] ∨ ¬ out.maxPacketSize ∣ chunks.flatten.length) ∧
      (∀ chunk ∈ (chunks.filter (· ≠ [])).dropLast, out.maxPacketSize ∣ chunk.length) ∧
      (Ptp.headerSize + chunks.flatten.length < 2 ^ 32 ∨
        (Ptp.headerSize + chunks.flatten.length) % 2 ^ 32 = 2 ^ 32 - 1 ∨
        2 ^ 64 ≤ Ptp.headerSize + chunks.flatten.length)) ∧
    (FrameDataPhase host out pipe operation txId totalSize chunks ↔
      ¬ out.maxPacketSize ∣ Ptp.headerSize + chunks.flatten.length ∧
      (chunks.flatten = [] ∨ ¬ out.maxPacketSize ∣ chunks.flatten.length) ∧
      (∀ chunk ∈ (chunks.filter (· ≠ [])).dropLast, out.maxPacketSize ∣ chunk.length) ∧
      (Ptp.headerSize + chunks.flatten.length < 2 ^ 32 ∨
        (Ptp.headerSize + chunks.flatten.length) % 2 ^ 32 = 2 ^ 32 - 1 ∨
        2 ^ 64 ≤ Ptp.headerSize + chunks.flatten.length)) := by
  have lengths := Ptp.ofNat_eq_streamLength_iff totalSize
  rw [declared] at lengths
  rw [← lengths]
  have combined : FramesIn host out pipe operation txId totalSize chunks false ↔ _ :=
    combined_framing_iff succeeds
  have split : FramesIn host out pipe operation txId totalSize chunks true ↔ _ :=
    split_framing_iff succeeds
  refine ⟨combined, split, fun frames => ?_, fun conditions mode => ?_⟩
  · exact ⟨(combined.mp (frames false)).1, split.mp (frames true)⟩
  · obtain ⟨container, payload, whole, same⟩ := conditions
    cases mode with
    | false => exact combined.mpr ⟨container, same⟩
    | true => exact split.mpr ⟨payload, whole, same⟩

theorem framing_three_bytes :
    FrameDataPhase usualHost steady ⟨[], 0⟩ .sendObject 1 3 [[1, 2, 3]] :=
  (framing_iff usualHost steady ⟨[], 0⟩ (fun _ => rfl) .sendObject 1 3 [[1, 2, 3]] rfl).2.2.mpr
    ⟨by decide, by decide, by decide, by decide⟩

/-- A payload of 500 bytes on a pipe of 512-byte packets: the buffered container is one full
packet, and nothing ends it. -/
theorem full_packet_not_ended :
    ¬ FrameDataPhase usualHost steady ⟨[], 0⟩ .sendObject 1 500
      [List.replicate 500 0] := by
  have full : ∀ payload : Bytes, payload.length = 500 →
      ¬ FrameDataPhase usualHost steady ⟨[], 0⟩ .sendObject 1 500
        [payload] := by
    intro payload long frames
    have ended := (combined_buffered_endSeen (fun _ => rfl) _).mp (frames false).1
    rw [List.flatten_singleton, long] at ended
    exact ended (Nat.dvd_refl 512)
  exact full _ List.length_replicate

end

end BulkOut

end Nusb
