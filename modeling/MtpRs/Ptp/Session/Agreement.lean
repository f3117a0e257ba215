import MtpRs.Ptp.Session.StreamTransfer

set_option autoImplicit false

/- The buffered and the streaming receive over one legal data phase. -/
namespace Ptp

/-- A data phase that ends in `Ok`: each container is one bulk transfer. `joined`
is the last container, when the response comes in the read of its last bytes. -/
structure DataPhase where
  containers : List DataContainer
  joined : Option DataContainer
  closing : Bytes
  response : ResponseContainer
  fits : ∀ container ∈ containers ++ joined.toList,
    headerSize + container.payload.length < 2 ^ 32
  parsed : ResponseContainer.fromBytes closing = .ok response
  accepted : response.code = .ok
  room : ∀ container, joined = some container →
    container.toBytes.length % receiveChunk ≠ 0 ∧
      container.toBytes.length % receiveChunk + closing.length ≤ receiveChunk

namespace DataPhase

def tail (self : DataPhase) : List Bytes :=
  match self.joined with
  | none => [self.closing]
  | some container => transferReads (container.toBytes ++ self.closing)

def reads (self : DataPhase) : List Bytes :=
  self.containers.flatMap (fun container => transferReads container.toBytes) ++ self.tail

def payload (self : DataPhase) : Bytes :=
  payloadBytes (self.containers ++ self.joined.toList)

theorem long_closing (self : DataPhase) : headerSize ≤ self.closing.length := by
  obtain ⟨header, view⟩ := ResponseContainer.parsed_of_fromBytes self.parsed
  exact view.long

end DataPhase

/-- `ReceiveStream::collect` over the items of its calls, `none` while one waits. -/
def collect : List Item → Option (Except PtpError Bytes)
  | [] => none
  | none :: _ => some (.ok [])
  | some (.error e) :: _ => some (.error e)
  | some (.ok chunk) :: rest =>
      (collect rest).map fun result => result.map fun data => chunk ++ data

theorem collect_chunks (chunks : List Bytes) (rest : List Item) :
    collect ((chunks.map fun chunk => some (.ok chunk)) ++ rest) =
      (collect rest).map fun result => result.map fun data => chunks.flatten ++ data := by
  induction chunks with
  | nil =>
      rw [List.map_nil, List.nil_append]
      rcases collect rest with _ | _ | _ <;> rfl
  | cons chunk more ih =>
      simp only [List.map_cons, List.cons_append, collect, ih, Option.map_map]
      rcases collect rest with _ | _ | _ <;>
        simp only [Option.map_none, Option.map_some, Function.comp_apply, Except.map,
          List.flatten_cons, List.append_assoc]

/-- A transfer that holds nothing but its container ends in its last read. -/
theorem endsInLastRead_alone (container : DataContainer) :
    EndsInLastRead (headerSize + container.payload.length) (container.toBytes ++ []) := by
  rw [EndsInLastRead, List.append_nil, DataContainer.toBytes_length, receiveChunk_eq]
  unfold headerSize
  omega

theorem endsInLastRead_joined (phase : DataPhase) {container : DataContainer}
    (joined : phase.joined = some container) :
    EndsInLastRead (headerSize + container.payload.length)
      (container.toBytes ++ phase.closing) := by
  obtain ⟨uneven, room⟩ := phase.room container joined
  rw [EndsInLastRead, List.length_append]
  rw [DataContainer.toBytes_length, receiveChunk_eq] at *
  unfold headerSize at *
  omega

section Buffered

variable {txId : UInt32} {operation : OperationCode}

/-- Whole containers are added up, unless one fills whole reads. -/
theorem executeWithReceive_containers (later : List Read) (containers : List DataContainer) :
    ∀ state : ReceiveLoop, state.incomplete = none →
    (∀ container ∈ containers, headerSize + container.payload.length < 2 ^ 32) →
    (Feed.run (executeWithReceive txId operation) state
        ((containers.flatMap fun container => transferReads container.toBytes).map .ok ++
          later)).outcome =
      if ∀ container ∈ containers, container.toBytes.length % receiveChunk ≠ 0 then
        (Feed.run (executeWithReceive txId operation)
          { state with data := state.data ++ payloadBytes containers } later).outcome
      else .inr (.error (.invalidData "Empty response")) := by
  induction containers with
  | nil =>
      intro state between fits
      simp
  | cons container rest ih =>
      intro state between fits
      have turn := executeWithReceive_transfer txId operation between
        (fits container List.mem_cons_self) (endsInLastRead_alone container)
      simp only [List.append_nil] at turn
      rw [List.flatMap_cons, List.map_append, List.append_assoc, turn]
      by_cases whole : container.toBytes.length % receiveChunk = 0
      · rw [if_pos whole, if_neg fun all => all container List.mem_cons_self whole]
      · rw [if_neg whole, ih _ rfl fun other inside => fits other (List.mem_cons_of_mem _ inside)]
        simp only [List.mem_cons, forall_eq_or_imp, whole, not_false_eq_true, ne_eq, true_and,
          List.append_assoc, between]
        rfl

/-- A response in a read of its own is taken. -/
theorem executeWithReceive_separate (phase : DataPhase) (separate : phase.joined = none)
    (state : ReceiveLoop) (between : state.incomplete = none) :
    (Feed.run (executeWithReceive phase.response.transactionId operation) state
      (phase.tail.map .ok)).outcome = .inr (.ok (phase.response, state.data)) := by
  have solid : phase.closing ≠ [] := fun empty => by
    have long := phase.long_closing
    rw [empty] at long
    cases long
  have turn : executeWithReceive phase.response.transactionId operation state (.ok phase.closing) =
      .done (.ok (phase.response, state.data)) [.reply phase.response phase.closing] := by
    simp only [executeWithReceive, between, List.isEmpty_iff, solid, ↓reduceIte,
      ResponseContainer.containerType_of_fromBytes phase.parsed, phase.parsed, ne_eq, not_true]
  rw [DataPhase.tail, separate, List.map_singleton, Feed.run_done _ turn]

/-- A response behind a container is dropped with the rest of that read. -/
theorem executeWithReceive_joined (phase : DataPhase) {container : DataContainer}
    (joined : phase.joined = some container) (state : ReceiveLoop)
    (between : state.incomplete = none) (result : ResponseContainer × Bytes) :
    (Feed.run (executeWithReceive txId operation) state
      (phase.tail.map .ok)).outcome ≠ .inr (.ok result) := by
  have turn := executeWithReceive_transfer txId operation between
    (phase.fits container (by simp [joined])) (endsInLastRead_joined phase joined) []
  rw [List.append_nil] at turn
  rw [DataPhase.tail, joined, turn]
  split
  · exact fun same => by cases same
  · exact fun same => by cases same

/-- `execute_with_receive` returns the payload of the phases it can read, and of
no others. -/
theorem executeWithReceive_phase (phase : DataPhase) (operation : OperationCode) (data : Bytes) :
    (∃ response, (Feed.run (executeWithReceive phase.response.transactionId operation) .initial
        (phase.reads.map .ok)).outcome = .inr (.ok (response, data))) ↔
      data = phase.payload ∧ phase.joined = none ∧
        ∀ container ∈ phase.containers, container.toBytes.length % receiveChunk ≠ 0 := by
  rw [DataPhase.reads, List.map_append, executeWithReceive_containers _ _ _ rfl
    fun container inside => phase.fits container (List.mem_append_left _ inside)]
  by_cases uneven : ∀ container ∈ phase.containers, container.toBytes.length % receiveChunk ≠ 0
  · rw [if_pos uneven]
    cases joined : phase.joined with
    | none =>
        rw [executeWithReceive_separate phase joined _ rfl]
        have all : phase.payload = payloadBytes phase.containers := by
          rw [DataPhase.payload, joined, Option.toList_none, List.append_nil]
        constructor
        · rintro ⟨response, same⟩
          cases same
          exact ⟨all.symm, rfl, uneven⟩
        · rintro ⟨same, _⟩
          exact ⟨phase.response, by rw [same, all]; rfl⟩
    | some container =>
        constructor
        · rintro ⟨response, same⟩
          exact absurd same (executeWithReceive_joined phase joined _ rfl _)
        · rintro ⟨_, none_joined, _⟩
          cases none_joined
  · rw [if_neg uneven]
    constructor
    · rintro ⟨response, same⟩
      cases same
    · rintro ⟨_, _, even⟩
      exact absurd even uneven

end Buffered

namespace ReceiveStream

section Streaming

variable {txId : UInt32}

/-- The zero-length packet behind whole reads goes unnoticed. -/
theorem Paused.packet {stream : ReceiveStream} (paused : Paused txId [] stream)
    (expected : stream.expectZeroLengthPacket = true) (bytes : Bytes) :
    ∃ next, Paused txId [] next ∧ ∀ later,
      stream.serveRun (packetReads bytes ++ later) = next.run later := by
  have waiting : Paused txId [] { stream with shortRead := false } := { paused with }
  unfold packetReads
  split
  · have quiet : { stream with shortRead := false }.received (.ok []) =
        .continues { stream with shortRead := false, expectZeroLengthPacket := false } := by
      simp only [received, List.isEmpty_nil, ↓reduceIte, paused.idle, Bool.false_and,
        Bool.false_eq_true, expected]
    have atEnd : Paused txId [] { stream with
        shortRead := false, expectZeroLengthPacket := false } := { paused with }
    refine ⟨_, atEnd, fun later => ?_⟩
    rw [serveRun_waits paused.serve, List.singleton_append, run_continues quiet,
      serveRun_waits atEnd.serve]
  · exact ⟨_, waiting, fun later => serveRun_waits paused.serve _⟩

/-- Whole containers are delivered, whatever their lengths. -/
theorem Paused.containers (containers : List DataContainer) : ∀ {stream : ReceiveStream},
    Paused txId [] stream →
    (∀ container ∈ containers, headerSize + container.payload.length < 2 ^ 32) →
    ∃ events next, Delivers events (payloadBytes containers) ∧ Paused txId [] next ∧ ∀ later,
      stream.run ((containers.flatMap fun container => transferReads container.toBytes).map .ok ++
        later) = (next.run later).after events := by
  induction containers with
  | nil =>
      intro stream paused fits
      exact ⟨[], stream, Delivers.nil, paused, fun later => rfl⟩
  | cons container rest ih =>
      intro stream paused fits
      obtain ⟨events, next, delivers, ends, packet, runs⟩ := paused.transfer
        (fits container List.mem_cons_self) (fun behind => absurd rfl behind)
        (endsInLastRead_alone container)
      obtain ⟨idle, paused', quiet⟩ := ends.packet packet (container.toBytes ++ [])
      obtain ⟨events', final, delivers', paused'', runs'⟩ :=
        ih paused' fun other inside => fits other (List.mem_cons_of_mem _ inside)
      refine ⟨events ++ events', final, delivers.append delivers', paused'', fun later => ?_⟩
      rw [List.append_nil] at runs quiet
      rw [List.flatMap_cons, List.map_append, List.append_assoc, runs, quiet, runs',
        Feed.Progress.after_after]

/-- The end of a phase is delivered, and ends the stream. -/
theorem Paused.tail {stream : ReceiveStream} (phase : DataPhase)
    (paused : Paused phase.response.transactionId [] stream) :
    ∃ events, Delivers events (payloadBytes phase.joined.toList) ∧
      ∃ (wires : List WireEvent) (unread : List Read) (final : ReceiveStream),
        stream.run (phase.tail.map .ok) =
        ⟨events ++ wires.map .wire ++ [.returned none], .inr final, unread⟩ := by
  unfold DataPhase.tail
  cases joined : phase.joined with
  | none =>
      have solid : phase.closing ≠ [] := fun empty => by
        have long := phase.long_closing
        rw [empty] at long
        cases long
      have filled : Paused phase.response.transactionId phase.closing
        (stream.filled phase.closing) := { paused with buffer := rfl }
      refine ⟨[], Delivers.nil, [.reply phase.response []], [],
        (stream.filled phase.closing).finish false, ?_⟩
      rw [List.map_singleton, run_continues (received_filled paused.buffer solid), serveRun,
        filled.serve_closing phase.parsed phase.accepted]
      rfl
  | some container =>
      obtain ⟨uneven, room⟩ := phase.room container joined
      have long := phase.long_closing
      have fits := phase.fits container (by simp [joined])
      have sized : headerSize + container.payload.length < 2 ^ 32 - 1 := by
        rw [DataContainer.toBytes_length, receiveChunk_eq] at room uneven
        unfold headerSize at *
        omega
      obtain ⟨events, next, delivers, ends, packet, runs⟩ := paused.transfer fits
        (fun _ => sized) (endsInLastRead_joined phase joined)
      refine ⟨events, by simpa using delivers, [.reply phase.response []],
        packetReads (container.toBytes ++ phase.closing), next.finish false, ?_⟩
      have all := runs []
      rw [List.append_nil, List.append_nil] at all
      rw [all, serveRun, ends.serve_closing phase.parsed phase.accepted]
      simp [Feed.Progress.after]

end Streaming

/-- `collect` returns the payload of every legal phase. -/
theorem collect_phase (phase : DataPhase) (operation : OperationCode) (recovery : RecoveryState) :
    collect (StreamEvent.items ((start recovery phase.response.transactionId operation none).run
      (phase.reads.map .ok)).events) = some (.ok phase.payload) := by
  have paused : Paused phase.response.transactionId []
      (start recovery phase.response.transactionId operation none) := ⟨rfl, rfl, rfl, rfl, rfl⟩
  obtain ⟨events, next, ⟨chunks, items, whole⟩, paused', runs⟩ := Paused.containers
    phase.containers paused fun container inside =>
      phase.fits container (List.mem_append_left _ inside)
  obtain ⟨events', ⟨chunks', items', whole'⟩, wires, unread, final, ends⟩ :=
    Paused.tail phase paused'
  rw [DataPhase.reads, List.map_append, runs, ends]
  simp only [Feed.Progress.after, StreamEvent.items_append, items, items',
    StreamEvent.items_wire, StreamEvent.items, List.nil_append, List.append_assoc]
  rw [collect_chunks, collect_chunks]
  simp only [collect, Option.map_some, Except.map, List.append_nil, whole, whole',
    DataPhase.payload, payloadBytes_append]

end ReceiveStream

/-- Both return the same bytes over the reads of a phase. -/
def Agree (phase : DataPhase) (operation : OperationCode) (recovery : RecoveryState) : Prop :=
  ∃ data, collect (StreamEvent.items ((ReceiveStream.start recovery phase.response.transactionId
      operation none).run (phase.reads.map .ok)).events) = some (.ok data) ∧
    ∃ response, (Feed.run (executeWithReceive phase.response.transactionId operation) .initial
      (phase.reads.map .ok)).outcome = .inr (.ok (response, data))

/-- The buffered receive keeps up with the streaming one exactly when no
container fills whole reads and the response comes in a read of its own. -/
theorem buffered_agrees_iff (phase : DataPhase) (operation : OperationCode)
    (recovery : RecoveryState) :
    Agree phase operation recovery ↔ phase.joined = none ∧
      ∀ container ∈ phase.containers, container.toBytes.length % receiveChunk ≠ 0 := by
  constructor
  · rintro ⟨data, _, returned⟩
    exact ((executeWithReceive_phase phase operation data).mp returned).2
  · intro readable
    exact ⟨phase.payload, ReceiveStream.collect_phase phase operation recovery,
      (executeWithReceive_phase phase operation phase.payload).mpr ⟨rfl, readable⟩⟩

/-- One byte of payload, with the response in the same read. -/
def coalescedPhase : DataPhase where
  containers := []
  joined := some ⟨.getObject, 1, [0xAA]⟩
  closing := [12, 0, 0, 0, 3, 0, 1, 32, 1, 0, 0, 0]
  response := ⟨.ok, 1, []⟩
  fits := by decide
  parsed := rfl
  accepted := rfl
  room := by
    intro container joined
    cases joined
    decide

/-- A container that fills one read. -/
def wholeReadContainer : DataContainer :=
  ⟨.getObject, 1, List.replicate (receiveChunk - headerSize) 0⟩

theorem wholeReadContainer_payload :
    wholeReadContainer.payload.length = receiveChunk - headerSize := List.length_replicate

/-- Such a container, the response in a read of its own. -/
def wholeReadPhase : DataPhase where
  containers := [wholeReadContainer]
  joined := none
  closing := [12, 0, 0, 0, 3, 0, 1, 32, 1, 0, 0, 0]
  response := ⟨.ok, 1, []⟩
  fits := by
    intro container inside
    simp only [Option.toList_none, List.append_nil, List.mem_singleton] at inside
    rw [inside, wholeReadContainer_payload]
    decide
  parsed := rfl
  accepted := rfl
  room := fun container joined => by cases joined

/-- The buffered receive fails on both, where the streaming one succeeds. -/
theorem buffered_disagrees :
    ¬ Agree coalescedPhase .getObject .initial ∧ ¬ Agree wholeReadPhase .getObject .initial := by
  constructor
  · rintro ⟨data, _, returned⟩
    have separate := ((executeWithReceive_phase coalescedPhase .getObject data).mp returned).2.1
    cases separate
  · rintro ⟨data, _, returned⟩
    have uneven := ((executeWithReceive_phase wholeReadPhase .getObject data).mp returned).2.2
      wholeReadContainer List.mem_cons_self
    rw [DataContainer.toBytes_length, wholeReadContainer_payload] at uneven
    exact uneven (by decide)

end Ptp
