import MtpRs.Lib.Packets
import MtpRs.Ptp.Session.SendData
import MtpRs.Transport.Nusb

set_option autoImplicit false

/- The bulk OUT pipe of the USB transport: one buffer sent as one transfer, and a stream of chunks
sent as one run of transfers that ends in a short packet. -/
namespace Nusb

open Ptp (BulkStream Bytes PtpError Sender)
open Attempts (Attempt)

/-- The endpoint: its packet size, and how the transfers submitted to it complete, by their number;
nothing where the wait for one times out. -/
structure BulkOut where
  maxPacketSize : Nat
  positive : 0 < maxPacketSize
  complete : Nat → Option (Except TransferError Unit)

structure Pipe where
  submitted : List Bytes
  haltsCleared : Nat
deriving DecidableEq, Repr

namespace BulkOut

def submit (host : Host) (out : BulkOut) (buf : Bytes) : Attempt Pipe PtpError Unit := fun pipe =>
  let after : Pipe := { pipe with submitted := pipe.submitted ++ [buf] }
  match out.complete pipe.submitted.length with
  | none => (.error .timeout, after)
  | some (.ok _) => (.ok (), after)
  | some (.error e) =>
      -- a stalled endpoint is usable again afterwards
      let cleared := pipe.haltsCleared + if e = .stall then 1 else 0
      (.error (convertTransferError host e), { after with haltsCleared := cleared })

/-- `send_bulk`. A transfer that times out is cancelled, and reported as timed out. -/
def sendBulk (host : Host) (out : BulkOut) (data : Bytes) : Attempt Pipe PtpError Unit :=
  out.submit host data

/-- 256 KiB, rounded up to whole packets. -/
def transferSize (out : BulkOut) : Nat :=
  max ((256 * 1024 + out.maxPacketSize - 1) / out.maxPacketSize) 1 * out.maxPacketSize

structure Buffer (capacity : Nat) where
  data : Bytes
  room : data.length < capacity

theorem transferSize_positive (out : BulkOut) : 0 < out.transferSize :=
  Nat.mul_pos (Nat.lt_of_lt_of_le Nat.zero_lt_one (Nat.le_max_right ..)) out.positive

def allocate (out : BulkOut) : Buffer out.transferSize := ⟨[], out.transferSize_positive⟩

/-- The inner loop: the chunk is copied piece by piece, and a buffer that is full is submitted. -/
def copyChunk (host : Host) (out : BulkOut) (remaining : Bytes)
    (current : Buffer out.transferSize) (totalSent : Nat) (pipe : Pipe) :
    Except PtpError (Buffer out.transferSize × Nat) × Pipe :=
  if _ : remaining = [] then (.ok (current, totalSent), pipe)
  else
    let space := out.transferSize - current.data.length
    let toCopy := min remaining.length space
    let data := current.data ++ remaining.take toCopy
    if room : data.length < out.transferSize then
      copyChunk host out (remaining.drop toCopy) ⟨data, room⟩ totalSent pipe
    else
      match out.submit host data pipe with
      | (.error e, pipe) => (.error e, pipe)
      | (.ok _, pipe) =>
          copyChunk host out (remaining.drop toCopy) out.allocate (totalSent + out.transferSize)
            pipe
termination_by remaining.length
decreasing_by
  all_goals
    have some := List.length_pos_iff.mpr ‹_›
    have left := current.room
    rw [List.length_drop]
    omega

def copyChunks (host : Host) (out : BulkOut) (current : Buffer out.transferSize) (totalSent : Nat)
    (pipe : Pipe) : BulkStream → Except PtpError (Buffer out.transferSize × Nat) × Pipe
  | [] => (.ok (current, totalSent), pipe)
  | .error (kind, text) :: _ => (.error (.io kind text), pipe)
  | .ok chunk :: rest =>
      match out.copyChunk host chunk current totalSent pipe with
      | (.error e, pipe) => (.error e, pipe)
      | (.ok (current, totalSent), pipe) => copyChunks host out current totalSent pipe rest

/-- What is left in the buffer, and the packet that ends a run of full ones. -/
def finish (host : Host) (out : BulkOut) (current : Buffer out.transferSize) (totalSent : Nat) :
    Attempt Pipe PtpError Unit := fun pipe =>
  let finalLen := current.data.length
  if finalLen > 0 then
    match out.submit host current.data pipe with
    | (.error e, pipe) => (.error e, pipe)
    | (.ok _, pipe) =>
        if finalLen % out.maxPacketSize = 0 then out.submit host [] pipe else (.ok (), pipe)
  else if totalSent > 0 ∧ totalSent % out.maxPacketSize = 0 then out.submit host [] pipe
  else (.ok (), pipe)

def sendBulkStreaming (host : Host) (out : BulkOut) (chunks : BulkStream) :
    Attempt Pipe PtpError Unit := fun pipe =>
  match out.copyChunks host out.allocate 0 pipe chunks with
  | (.error e, pipe) => (.error e, pipe)
  | (.ok (current, totalSent), pipe) => out.finish host current totalSent pipe

/-- Every transfer succeeds. -/
def Succeeds (out : BulkOut) : Prop := ∀ transfer, out.complete transfer = some (.ok ())

section

variable {host : Host} {out : BulkOut} {pipe : Pipe}

theorem submit_of_succeeds (succeeds : out.Succeeds) (buf : Bytes) (pipe : Pipe) :
    out.submit host buf pipe =
      (.ok (), { pipe with submitted := pipe.submitted ++ [buf] }) := by
  simp only [submit, succeeds pipe.submitted.length]

/-- A transfer is the least multiple of the packet size that is not below 256 KiB. -/
theorem transferSize_least (out : BulkOut) :
    out.maxPacketSize ∣ out.transferSize ∧ 256 * 1024 ≤ out.transferSize ∧
      ∀ size, out.maxPacketSize ∣ size → 256 * 1024 ≤ size → out.transferSize ≤ size := by
  have positive := out.positive
  have rounded := Nat.div_add_mod (256 * 1024 + out.maxPacketSize - 1) out.maxPacketSize
  have less := Nat.mod_lt (256 * 1024 + out.maxPacketSize - 1) positive
  have some : 1 ≤ (256 * 1024 + out.maxPacketSize - 1) / out.maxPacketSize := by
    apply (Nat.one_le_div_iff positive).mpr
    omega
  have size : out.transferSize =
      out.maxPacketSize * ((256 * 1024 + out.maxPacketSize - 1) / out.maxPacketSize) := by
    rw [transferSize, Nat.max_eq_left some, Nat.mul_comm]
  refine ⟨Nat.dvd_mul_left .., by omega, ?_⟩
  intro other divides enough
  obtain ⟨packets, rfl⟩ := divides
  rw [size]
  apply Nat.mul_le_mul_left
  apply Nat.le_of_lt_succ
  have grown : packets.succ * out.maxPacketSize =
      out.maxPacketSize * packets + out.maxPacketSize := by
    rw [Nat.succ_mul, Nat.mul_comm]
  rw [Nat.div_lt_iff_lt_mul positive, grown]
  omega

/-- The bytes taken from the stream so far are in full transfers, submitted after `before`, and in
the buffer. -/
structure Filled (out : BulkOut) (before : List Bytes) (consumed : Bytes)
    (current : Buffer out.transferSize) (totalSent : Nat) (pipe : Pipe) : Prop where
  split : ∃ sent, pipe.submitted = before ++ sent ∧ sent.flatten ++ current.data = consumed ∧
    (∀ transfer ∈ sent, transfer.length = out.transferSize) ∧
    totalSent = out.transferSize * sent.length

theorem copyChunk_filled (succeeds : out.Succeeds) {before : List Bytes} {consumed : Bytes}
    (remaining : Bytes) {current : Buffer out.transferSize} {totalSent : Nat}
    (filled : Filled out before consumed current totalSent pipe) :
    ∃ current' totalSent' pipe', out.copyChunk host remaining current totalSent pipe =
        (.ok (current', totalSent'), pipe') ∧
      Filled out before (consumed ++ remaining) current' totalSent' pipe' := by
  induction size : remaining.length using Nat.strong_induction_on
    generalizing remaining current totalSent pipe consumed with
  | _ size ih =>
    subst size
    rw [copyChunk]
    by_cases empty : remaining = []
    · rw [dif_pos empty, empty, List.append_nil]
      exact ⟨current, totalSent, pipe, rfl, filled⟩
    · rw [dif_neg empty]
      dsimp only
      have some := List.length_pos_iff.mpr empty
      have left := current.room
      generalize copied : min remaining.length (out.transferSize - current.data.length) = toCopy
      have shorter : (remaining.drop toCopy).length < remaining.length := by
        rw [List.length_drop]
        omega
      have rejoined : consumed ++ remaining.take toCopy ++ remaining.drop toCopy =
          consumed ++ remaining := by
        rw [List.append_assoc, List.take_append_drop]
      obtain ⟨sent, submitted, taken, full, total⟩ := filled.split
      by_cases room : (current.data ++ remaining.take toCopy).length < out.transferSize
      · rw [dif_pos room, ← rejoined]
        apply ih _ shorter _ _ rfl
        refine ⟨sent, submitted, ?_, full, total⟩
        rw [← taken, List.append_assoc]
      · rw [dif_neg room, submit_of_succeeds succeeds, ← rejoined]
        apply ih _ shorter _ _ rfl
        refine ⟨sent ++ [current.data ++ remaining.take toCopy], ?_, ?_, ?_, ?_⟩
        · rw [submitted, List.append_assoc]
        · rw [← taken, List.flatten_append, List.flatten_singleton, allocate, List.append_nil,
            List.append_assoc]
        · intro transfer mem
          rcases List.mem_append.mp mem with earlier | last
          · exact full transfer earlier
          · rw [List.mem_singleton.mp last]
            rw [List.length_append, List.length_take] at room ⊢
            omega
        · rw [total, List.length_append, List.length_singleton, Nat.mul_succ]

theorem copyChunks_filled (succeeds : out.Succeeds) {before : List Bytes} {consumed : Bytes}
    {current : Buffer out.transferSize} {totalSent : Nat}
    (filled : Filled out before consumed current totalSent pipe) (chunks : List Bytes)
    (rest : BulkStream) :
    ∃ current' totalSent' pipe',
      out.copyChunks host current totalSent pipe (chunks.map .ok ++ rest) =
        out.copyChunks host current' totalSent' pipe' rest ∧
      Filled out before (consumed ++ chunks.flatten) current' totalSent' pipe' := by
  induction chunks generalizing consumed current totalSent pipe with
  | nil => exact ⟨current, totalSent, pipe, rfl, by simpa using filled⟩
  | cons chunk others ih =>
      obtain ⟨current', totalSent', pipe', copied, filled'⟩ :=
        copyChunk_filled succeeds chunk filled
      obtain ⟨last, lastSent, lastPipe, later, filled''⟩ := ih filled'
      refine ⟨last, lastSent, lastPipe, ?_, ?_⟩
      · rw [List.map_cons, List.cons_append, copyChunks, copied]
        exact later
      · rwa [List.flatten_cons, ← List.append_assoc]

/-- How the buffer's rest goes out: the transfers submitted carry all that was taken, all but the
last are full, none is empty, and a zero-length packet follows where no short one does. -/
theorem finish_filled (succeeds : out.Succeeds) {before : List Bytes} {consumed : Bytes}
    {current : Buffer out.transferSize} {totalSent : Nat}
    (filled : Filled out before consumed current totalSent pipe) :
    ∃ transfers after, out.finish host current totalSent pipe = (.ok (), after) ∧
      after.submitted = before ++ transfers ++
        (if 0 < consumed.length ∧ out.maxPacketSize ∣ consumed.length then [[]] else []) ∧
      transfers.flatten = consumed ∧
      (∀ transfer ∈ transfers.dropLast, transfer.length = out.transferSize) ∧
      ∀ transfer ∈ transfers, transfer ≠ [] ∧ transfer.length ≤ out.transferSize := by
  obtain ⟨sent, submitted, taken, full, total⟩ := filled.split
  have lengths := congrArg List.length taken
  rw [List.length_append, Packets.length_flatten_of_full full] at lengths
  have whole : out.maxPacketSize ∣ out.transferSize * sent.length :=
    Nat.dvd_mul_right_of_dvd out.transferSize_least.1 _
  have divides : out.maxPacketSize ∣ consumed.length ↔
      out.maxPacketSize ∣ current.data.length := by
    rw [← lengths]
    exact Nat.dvd_add_right whole
  have fits : ∀ transfer ∈ sent, transfer ≠ [] ∧ transfer.length ≤ out.transferSize := by
    intro transfer mem
    have size := full transfer mem
    refine ⟨fun empty => ?_, Nat.le_of_eq size⟩
    rw [empty, List.length_nil] at size
    exact absurd size.symm (Nat.pos_iff_ne_zero.mp out.transferSize_positive)
  simp only [finish]
  by_cases rest : current.data.length > 0
  · have nonempty : current.data ≠ [] := List.length_pos_iff.mp rest
    have some : 0 < consumed.length := by omega
    refine ⟨sent ++ [current.data], ?_⟩
    rw [if_pos rest, submit_of_succeeds succeeds]
    dsimp only
    have shape : (sent ++ [current.data]).flatten = consumed := by
      rw [List.flatten_append, List.flatten_singleton, taken]
    have allFit : ∀ transfer ∈ sent ++ [current.data],
        transfer ≠ [] ∧ transfer.length ≤ out.transferSize := by
      intro transfer mem
      rcases List.mem_append.mp mem with earlier | last
      · exact fits transfer earlier
      · rw [List.mem_singleton.mp last]
        exact ⟨nonempty, Nat.le_of_lt current.room⟩
    by_cases ends : current.data.length % out.maxPacketSize = 0
    · rw [if_pos ends, submit_of_succeeds succeeds,
        if_pos ⟨some, divides.mpr (Nat.dvd_of_mod_eq_zero ends)⟩]
      refine ⟨_, rfl, ?_, shape, ?_, allFit⟩
      · dsimp only
        rw [submitted, List.append_assoc before]
      · rwa [List.dropLast_concat]
    · rw [if_neg ends, if_neg fun both => ends (Nat.mod_eq_zero_of_dvd (divides.mp both.2))]
      refine ⟨_, rfl, ?_, shape, ?_, allFit⟩
      · rw [submitted, List.append_assoc, List.append_nil]
      · rwa [List.dropLast_concat]
  · have none : current.data = [] := List.length_eq_zero_iff.mp (by omega)
    have shape : sent.flatten = consumed := by rw [← taken, none, List.append_nil]
    have last : ∀ transfer ∈ sent.dropLast, transfer.length = out.transferSize := fun t mem =>
      full t (List.mem_of_mem_dropLast mem)
    have consumedAll : consumed.length = totalSent := by omega
    refine ⟨sent, ?_⟩
    rw [if_neg rest, consumedAll]
    by_cases ends : totalSent > 0 ∧ totalSent % out.maxPacketSize = 0
    · rw [if_pos ends, if_pos ⟨ends.1, Nat.dvd_of_mod_eq_zero ends.2⟩,
        submit_of_succeeds succeeds]
      refine ⟨_, rfl, ?_, shape, last, fits⟩
      rw [submitted]
    · rw [if_neg ends, if_neg fun both => ends ⟨both.1, Nat.mod_eq_zero_of_dvd both.2⟩]
      refine ⟨pipe, rfl, ?_, shape, last, fits⟩
      rw [submitted, List.append_nil]

theorem filled_start (out : BulkOut) (pipe : Pipe) :
    Filled out pipe.submitted [] out.allocate 0 pipe :=
  ⟨[], by rw [List.append_nil], rfl, fun t mem => absurd mem List.not_mem_nil, rfl⟩

/-- A stream that does not fail, with all transfers succeeding. -/
theorem sendBulkStreaming_ok (host : Host) (pipe : Pipe) (succeeds : out.Succeeds)
    (chunks : List Bytes) :
    ∃ transfers after,
      out.sendBulkStreaming host (chunks.map .ok) pipe = (.ok (), after) ∧
      after.submitted = pipe.submitted ++ transfers ++
        (if 0 < chunks.flatten.length ∧ out.maxPacketSize ∣ chunks.flatten.length then [[]]
          else []) ∧
      transfers.flatten = chunks.flatten ∧
      (∀ transfer ∈ transfers.dropLast, transfer.length = out.transferSize) ∧
      ∀ transfer ∈ transfers, transfer ≠ [] ∧ transfer.length ≤ out.transferSize := by
  obtain ⟨current, totalSent, after, copied, filled⟩ :=
    copyChunks_filled succeeds (filled_start out pipe) chunks []
  rw [List.append_nil, copyChunks] at copied
  rw [List.nil_append] at filled
  rw [sendBulkStreaming, copied]
  exact finish_filled succeeds filled

/-- `send_bulk_streaming` loses nothing, with all transfers succeeding and a total that `usize`
holds. The transfers carry the chunks; all but the last have the full size, which is the least
multiple of the packet size not below 256 KiB; one zero-length packet follows where the total is a
positive multiple of the packet size. Where a chunk is an error, full transfers of a prefix of the
data were submitted, and nothing after them. -/
theorem send_bulk_streaming_complete (host : Host) (out : BulkOut) (pipe : Pipe)
    (succeeds : out.Succeeds) (chunks : List Bytes) :
    (∃ transfers after,
      out.sendBulkStreaming host (chunks.map .ok) pipe = (.ok (), after) ∧
      after.submitted = pipe.submitted ++ transfers ++
        (if 0 < chunks.flatten.length ∧ out.maxPacketSize ∣ chunks.flatten.length then [[]]
          else []) ∧
      transfers.flatten = chunks.flatten ∧
      (∀ transfer ∈ transfers.dropLast, transfer.length = out.transferSize) ∧
      ∀ transfer ∈ transfers, transfer ≠ [] ∧ transfer.length ≤ out.transferSize) ∧
    (∀ kind text later, ∃ transfers after,
      out.sendBulkStreaming host (chunks.map .ok ++ .error (kind, text) :: later) pipe =
        (.error (.io kind text), after) ∧
      after.submitted = pipe.submitted ++ transfers ∧
      transfers.flatten <+: chunks.flatten ∧
      ∀ transfer ∈ transfers, transfer.length = out.transferSize) ∧
    out.maxPacketSize ∣ out.transferSize ∧ 256 * 1024 ≤ out.transferSize ∧
      ∀ size, out.maxPacketSize ∣ size → 256 * 1024 ≤ size → out.transferSize ≤ size := by
  refine ⟨?_, ?_, out.transferSize_least⟩
  · exact sendBulkStreaming_ok host pipe succeeds chunks
  · intro kind text later
    obtain ⟨current, totalSent, after, copied, filled⟩ :=
      copyChunks_filled succeeds (filled_start out pipe) chunks
        (.error (kind, text) :: later)
    rw [copyChunks] at copied
    rw [List.nil_append] at filled
    obtain ⟨sent, submitted, taken, full, -⟩ := filled.split
    rw [sendBulkStreaming, copied]
    exact ⟨sent, after, rfl, submitted, ⟨_, taken⟩, full⟩

def usualHost : Host := ⟨false, fun _ => "transfer failed", false, 512⟩

/-- A pipe of 512-byte packets on which every transfer succeeds. -/
def steady : BulkOut := ⟨512, Nat.succ_pos 511, fun _ => some (.ok ())⟩

theorem send_bulk_streaming_four_bytes :
    ∃ transfers after,
      steady.sendBulkStreaming usualHost ([[1, 2, 3], [], [4]].map .ok) ⟨[], 0⟩ = (.ok (), after) ∧
      after.submitted = [] ++ transfers ++ [] ∧ transfers.flatten = [1, 2, 3, 4] ∧
      (∀ transfer ∈ transfers.dropLast, transfer.length = steady.transferSize) ∧
      ∀ transfer ∈ transfers, transfer ≠ [] ∧ transfer.length ≤ steady.transferSize :=
  (send_bulk_streaming_complete usualHost steady ⟨[], 0⟩ (fun _ => rfl) [[1, 2, 3], [], [4]]).1

end

def sender (host : Host) (out : BulkOut) : Sender Pipe where
  sendBulk := out.sendBulk host
  sendBulkStreaming := out.sendBulkStreaming host

def transfersOf {α : Type} (attempt : Attempt Pipe PtpError α) (pipe : Pipe) : List Bytes :=
  (attempt pipe).2.submitted.drop pipe.submitted.length

section

variable {host : Host} {out : BulkOut} {pipe : Pipe}

open Ptp (OperationCode bufferedHeader streamHeader)

/-- The transfers of the buffered data phase. -/
theorem transfersOf_sendData (host : Host) (pipe : Pipe) (succeeds : out.Succeeds) (split : Bool)
    (operation : OperationCode) (txId : UInt32) (data : Bytes) :
    transfersOf ((out.sender host).sendData split operation txId data) pipe =
      if split then bufferedHeader operation txId data :: if data = [] then [] else [data]
      else [bufferedHeader operation txId data ++ data] := by
  cases split with
  | false =>
      simp only [transfersOf, Sender.sendData, sender, sendBulk, Bool.false_eq_true, if_false,
        submit_of_succeeds succeeds, List.drop_left]
      rfl
  | true =>
      cases data with
      | nil =>
          simp only [transfersOf, Sender.sendData, sender, sendBulk, if_true, Attempt.andThen,
            submit_of_succeeds succeeds, List.isEmpty_nil, Bool.not_true, Bool.false_eq_true,
            if_false, Attempt.done, List.drop_left]
      | cons byte rest =>
          simp only [transfersOf, Sender.sendData, sender, sendBulk, if_true, Attempt.andThen,
            submit_of_succeeds succeeds, List.isEmpty_cons, Bool.not_false, List.append_assoc,
            List.drop_left, reduceCtorEq, if_false]
          rfl

theorem sendChunks_ok (succeeds : out.Succeeds) (chunks : List Bytes) (pipe : Pipe) :
    (out.sender host).sendChunks (chunks.map .ok) pipe =
      (.ok (), { pipe with submitted := pipe.submitted ++ chunks.filter (· ≠ []) }) := by
  induction chunks generalizing pipe with
  | nil => simp [Sender.sendChunks, Attempt.done]
  | cons chunk rest ih =>
      rw [List.map_cons, Sender.sendChunks]
      cases chunk with
      | nil => simpa using ih pipe
      | cons byte others =>
          simp only [List.isEmpty_cons, Bool.not_false, if_true, Attempt.andThen, sender, sendBulk,
            submit_of_succeeds succeeds]
          rw [← sender, ih]
          simp

/-- Those of the streaming one in split mode. -/
theorem transfersOf_sendDataStream_split (host : Host) (pipe : Pipe) (succeeds : out.Succeeds)
    (operation : OperationCode) (txId : UInt32) (totalSize : UInt64) (chunks : List Bytes) :
    transfersOf ((out.sender host).sendDataStream true operation txId totalSize
        (chunks.map .ok)) pipe =
      streamHeader operation txId totalSize :: chunks.filter (· ≠ []) := by
  simp only [transfersOf, Sender.sendDataStream, if_true, Attempt.andThen]
  have header : (out.sender host).sendBulk (streamHeader operation txId totalSize) pipe =
      (.ok (), { pipe with
        submitted := pipe.submitted ++ [streamHeader operation txId totalSize] }) :=
    submit_of_succeeds succeeds _ _
  rw [header]
  dsimp only
  rw [sendChunks_ok succeeds, List.append_assoc, List.drop_left]
  rfl

/-- And in combined mode: one run of transfers, ended by a zero-length packet where it has to be. -/
theorem transfersOf_sendDataStream_combined (host : Host) (pipe : Pipe)
    (succeeds : out.Succeeds) (operation : OperationCode) (txId : UInt32) (totalSize : UInt64)
    (chunks : List Bytes) :
    ∃ transfers,
      transfersOf ((out.sender host).sendDataStream false operation txId totalSize
          (chunks.map .ok)) pipe =
        transfers ++ (if 0 < (streamHeader operation txId totalSize :: chunks).flatten.length ∧
          out.maxPacketSize ∣ (streamHeader operation txId totalSize :: chunks).flatten.length
          then [[]] else []) ∧
      transfers.flatten = streamHeader operation txId totalSize ++ chunks.flatten ∧
      (∀ transfer ∈ transfers.dropLast, transfer.length = out.transferSize) ∧
      ∀ transfer ∈ transfers, transfer ≠ [] ∧ transfer.length ≤ out.transferSize := by
  obtain ⟨transfers, after, sent, submitted, taken, full, fits⟩ :=
    sendBulkStreaming_ok host pipe succeeds (streamHeader operation txId totalSize :: chunks)
  refine ⟨transfers, ?_, taken, full, fits⟩
  have ran : (out.sender host).sendDataStream false operation txId totalSize (chunks.map .ok) pipe =
      (.ok (), after) := sent
  rw [transfersOf, ran, submitted, List.append_assoc, List.drop_left]

end

end BulkOut

end Nusb
