import MtpRs.Ptp.Session.ReceiveStep
import MtpRs.Ptp.Session.Streaming

set_option autoImplicit false

/- One bulk transfer, as the host reads it, and what `execute_with_receive` makes of it. -/
namespace Ptp

/-- The reads of one bulk transfer. They are full until a short one ends it,
which is empty when the transfer fills whole reads. -/
def transferReads (bytes : Bytes) : List Bytes :=
  if bytes.length < receiveChunk then [bytes]
  else bytes.take receiveChunk :: transferReads (bytes.drop receiveChunk)
termination_by bytes.length
decreasing_by
  simp only [List.length_drop, receiveChunk] at *
  omega

theorem transferReads_short {bytes : Bytes} (short : bytes.length < receiveChunk) :
    transferReads bytes = [bytes] := by
  rw [transferReads, if_pos short]

theorem transferReads_full {bytes : Bytes} (full : ¬ bytes.length < receiveChunk) :
    transferReads bytes = bytes.take receiveChunk :: transferReads (bytes.drop receiveChunk) := by
  rw [transferReads, if_neg full]

/-- A transfer of at least a header has it in its first read. -/
theorem transferReads_front (bytes : Bytes) (long : headerSize ≤ bytes.length) :
    ∃ piece rest, transferReads bytes = piece :: rest ∧ piece ++ bytes.drop piece.length = bytes ∧
      headerSize ≤ piece.length := by
  by_cases short : bytes.length < receiveChunk
  · exact ⟨bytes, [], transferReads_short short, by rw [List.drop_length, List.append_nil], long⟩
  · refine ⟨bytes.take receiveChunk, _, transferReads_full short, ?_, ?_⟩
    · rw [List.length_take, Nat.min_eq_left (Nat.le_of_not_lt short), List.take_append_drop]
    · rw [List.length_take, Nat.min_eq_left (Nat.le_of_not_lt short)]
      decide

theorem receiveChunk_eq : receiveChunk = 65536 := rfl

/-- The bytes of a transfer run out in the read that ends its container. -/
def EndsInLastRead (needed : Nat) (bytes : Bytes) : Prop :=
  0 < needed ∧ needed ≤ bytes.length ∧
    bytes.length ≤ (needed + receiveChunk - 1) / receiveChunk * receiveChunk

section Buffered

variable {txId : UInt32} {operation : OperationCode} {state : ReceiveLoop}
  {container : DataContainer} {extra : Bytes}

theorem completeContainer_whole
    (fits : headerSize + container.payload.length < 2 ^ 32) :
    completeContainer state (container.toBytes ++ extra)
        (headerSize + container.payload.length) =
      .again { state with data := state.data ++ container.payload, incomplete := none }
        [.header ((container.toBytes ++ extra).take headerSize), .payload container.payload] := by
  have whole : ¬ (container.toBytes ++ extra).length < headerSize + container.payload.length := by
    rw [List.length_append, DataContainer.toBytes_length]
    omega
  rw [completeContainer, if_neg whole, closeContainer, container.fromBytes_toBytes fits]

theorem completeContainer_short {bytes : Bytes} {totalLength : Nat}
    (short : bytes.length < totalLength) :
    completeContainer state bytes totalLength =
      .again { state with incomplete := some (bytes, totalLength) } [] := by
  rw [completeContainer, if_pos short]

variable (txId operation state) in
theorem executeWithReceive_incomplete (front : Bytes) {more : Bytes} (totalLength : Nat)
    (solid : more ≠ []) :
    executeWithReceive txId operation { state with incomplete := some (front, totalLength) }
        (.ok more) =
      completeContainer { state with incomplete := some (front, totalLength) } (front ++ more)
        totalLength := by
  simp only [executeWithReceive, List.isEmpty_iff, solid, ↓reduceIte]

/-- The read that ends a transfer is a failure when it is empty. -/
theorem executeWithReceive_empty (between : state.incomplete = none) :
    executeWithReceive txId operation state (.ok []) =
      .done (.error (.invalidData "Empty response")) [] := by
  simp only [executeWithReceive, between, List.isEmpty_nil, ↓reduceIte]

/-- The rest of a transfer completes its container. What follows depends on how
the transfer ends. -/
theorem executeWithReceive_rest (fits : headerSize + container.payload.length < 2 ^ 32)
    (later : List Read) (back : Bytes) : ∀ front,
    front ++ back = container.toBytes ++ extra →
    EndsInLastRead (headerSize + container.payload.length - front.length) back →
    (Feed.run (executeWithReceive txId operation)
        { state with incomplete := some (front, headerSize + container.payload.length) }
        ((transferReads back).map .ok ++ later)).outcome =
      if back.length % receiveChunk = 0 then .inr (.error (.invalidData "Empty response"))
      else (Feed.run (executeWithReceive txId operation)
        { state with data := state.data ++ container.payload, incomplete := none }
          later).outcome := by
  induction back using transferReads.induct with
  | case1 back short =>
      intro front whole ends
      obtain ⟨needed, reached, last⟩ := ends
      have solid : back ≠ [] := fun empty => by
        rw [empty, List.length_nil] at reached
        omega
      have rest : ¬ back.length % receiveChunk = 0 := by
        have := List.length_pos_of_ne_nil solid
        rw [Nat.mod_eq_of_lt short]
        omega
      rw [transferReads_short short, if_neg rest, List.map_singleton, List.singleton_append,
        Feed.run_again _ ((executeWithReceive_incomplete _ _ _ front _ solid).trans
          (by rw [whole]; exact completeContainer_whole fits))]
  | case2 back full ih =>
      intro front whole ends
      obtain ⟨needed, reached, last⟩ := ends
      have chunk : (back.take receiveChunk).length = receiveChunk := by
        rw [List.length_take]
        omega
      have solid : back.take receiveChunk ≠ [] := fun empty => by
        rw [empty] at chunk
        cases chunk
      have halves : back.take receiveChunk ++ back.drop receiveChunk = back :=
        List.take_append_drop receiveChunk back
      have length : (back.drop receiveChunk).length = back.length - receiveChunk :=
        List.length_drop
      have turn := executeWithReceive_incomplete txId operation state front
        (headerSize + container.payload.length) solid
      rw [transferReads_full full, List.map_cons, List.cons_append]
      by_cases more : back.drop receiveChunk = []
      · have whole' : front ++ back.take receiveChunk = container.toBytes ++ extra := by
          rw [← whole, ← halves, more, List.append_nil]
          simp only [List.take_take, Nat.min_self]
        rw [Feed.run_again _ (turn.trans (by rw [whole']; exact completeContainer_whole fits)),
          more, transferReads_short (by decide), List.map_singleton, List.singleton_append,
          Feed.run_done _ (executeWithReceive_empty rfl), if_pos]
        rw [more, List.length_nil] at length
        rw [show back.length = receiveChunk by omega, Nat.mod_self]
      · have positive := List.length_pos_of_ne_nil more
        have ahead : receiveChunk < headerSize + container.payload.length - front.length := by
          rw [receiveChunk_eq] at *
          omega
        have short : (front ++ back.take receiveChunk).length <
            headerSize + container.payload.length := by
          rw [List.length_append, chunk]
          omega
        have ends' : EndsInLastRead (headerSize + container.payload.length -
            (front ++ back.take receiveChunk).length) (back.drop receiveChunk) := by
          rw [EndsInLastRead, List.length_append, chunk, length, receiveChunk_eq] at *
          omega
        rw [Feed.run_again _ (turn.trans (completeContainer_short short)),
          ih (front ++ back.take receiveChunk) (by rw [List.append_assoc, halves, whole]) ends',
          length, ← Nat.mod_eq_sub_mod (Nat.le_of_not_lt full)]

/-- The read that starts a transfer names the container's total length. -/
theorem executeWithReceive_first (between : state.incomplete = none) {piece more : Bytes}
    (front : piece ++ more = container.toBytes ++ extra) (long : headerSize ≤ piece.length)
    (fits : headerSize + container.payload.length < 2 ^ 32) :
    executeWithReceive txId operation state (.ok piece) =
      completeContainer state piece (headerSize + container.payload.length) := by
  have solid : piece ≠ [] := fun empty => by
    rw [empty] at long
    cases long
  simp only [executeWithReceive, between, List.isEmpty_iff, solid, ↓reduceIte,
    containerType_of_header long (container.header_of_front front long)
      (show ContainerType.ofCode container.header.typeCode = some .data from rfl),
    container.length_of_front front long, container.header_length fits]

variable (txId operation) in
/-- A transfer adds its container's payload, unless it fills whole reads: then
the loop takes the empty read that ends it for a failure. -/
theorem executeWithReceive_transfer (between : state.incomplete = none)
    (fits : headerSize + container.payload.length < 2 ^ 32)
    (ends : EndsInLastRead (headerSize + container.payload.length) (container.toBytes ++ extra))
    (later : List Read) :
    (Feed.run (executeWithReceive txId operation) state
        ((transferReads (container.toBytes ++ extra)).map .ok ++ later)).outcome =
      if (container.toBytes ++ extra).length % receiveChunk = 0 then
        .inr (.error (.invalidData "Empty response"))
      else (Feed.run (executeWithReceive txId operation)
        { state with data := state.data ++ container.payload, incomplete := none }
          later).outcome := by
  rw [← executeWithReceive_rest fits later _ [] (List.nil_append _) (by simpa using ends)]
  obtain ⟨piece, rest, reads, front, long⟩ := transferReads_front (container.toBytes ++ extra)
    (by
      rw [List.length_append, DataContainer.toBytes_length]
      omega)
  have solid : piece ≠ [] := fun empty => by
    rw [empty] at long
    cases long
  rw [reads, List.map_cons, List.cons_append, Feed.run_congr]
  rw [executeWithReceive_first between front long fits,
    executeWithReceive_incomplete _ _ _ _ _ solid,
    List.nil_append]
  rfl

end Buffered

end Ptp
