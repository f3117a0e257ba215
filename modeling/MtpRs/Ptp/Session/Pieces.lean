import MtpRs.Ptp.Session.ReceiveStep
import MtpRs.Ptp.Session.StreamRule

set_option autoImplicit false

/- The containers a call takes its reads for. -/
namespace Ptp

open WireEvent (headers)

/-- A container a call has taken: a response, or data as far as it was handed out. -/
inductive Piece where
  | response (reply : ResponseContainer) (bytes : Bytes)
  | data (front payload : Bytes)
deriving DecidableEq, Repr

/-- `front` is a data header and `payload` stays inside the length it gives. -/
def Framed (front payload : Bytes) : Prop :=
  front.length = headerSize ∧ ∃ header, unpackHeader front = .ok header ∧
    header.typeCode = ContainerType.data.toCode ∧
    (header.length = largeObjectLengthSentinel ∨
      headerSize + payload.length ≤ header.length.toNat)

namespace Piece

@[simp] def bytes : Piece → Bytes
  | response _ bytes => bytes
  | data front payload => front ++ payload

@[simp] def payload : Piece → Bytes
  | response _ _ => []
  | data _ payload => payload

@[simp] def replies : List Piece → List ResponseContainer
  | [] => []
  | response reply _ :: rest => reply :: replies rest
  | data _ _ :: rest => replies rest

@[simp] theorem replies_append (front back : List Piece) :
    replies (front ++ back) = replies front ++ replies back := by
  induction front with
  | nil => rfl
  | cons piece rest ih => cases piece <;> simp only [List.cons_append, replies, ih]

/-- The piece is what its bytes parse to. -/
def Parsed : Piece → Prop
  | response reply bytes => reply.Fills bytes
  | data front payload => Framed front payload

end Piece

/-- The containers some whole reads hold. A response has a read of its own, a data
container as many as its length takes; what follows in the last one is dropped. -/
inductive Gathers : List Bytes → List Piece → Prop where
  | nil : Gathers [] []
  | response {reads : List Bytes} {pieces : List Piece} {bytes : Bytes}
      {reply : ResponseContainer} (before : Gathers reads pieces)
      (parsed : ResponseContainer.fromBytes bytes = .ok reply) :
      Gathers (reads ++ [bytes]) (pieces ++ [.response reply bytes])
  | data {reads parts : List Bytes} {pieces : List Piece} {last : Bytes}
      {container : DataContainer} (before : Gathers reads pieces)
      (parsed : DataContainer.fromBytes (parts.flatten ++ last) = .ok container)
      (needed : parts.flatten.length < headerSize + container.payload.length) :
      Gathers (reads ++ (parts ++ [last]))
        (pieces ++ [.data ((parts.flatten ++ last).take headerSize) container.payload])

@[simp] def yielded : List Item → Bytes
  | [] => []
  | some (.ok chunk) :: rest => chunk ++ yielded rest
  | _ :: rest => yielded rest

@[simp] theorem yielded_append (front back : List Item) :
    yielded (front ++ back) = yielded front ++ yielded back := by
  induction front with
  | nil => rfl
  | cons item rest ih =>
      rcases item with _ | _ | _ <;> simp only [List.cons_append, yielded, ih, List.append_assoc]

/-- The pieces are what the bytes of the reads start with, and hold what was handed out. -/
structure Covers (pieces : List Piece) (left : Bytes) (fed : List Read)
    (acc : List StreamEvent) : Prop where
  whole : pieces.flatMap Piece.bytes ++ left = readBytes fed
  held : pieces.flatMap Piece.payload = yielded (StreamEvent.items acc)
  parsed : ∀ piece ∈ pieces, piece.Parsed
  taken : ∀ front payload, .data front payload ∈ pieces →
    front ∈ headers (StreamEvent.wires acc)

namespace Covers

variable {pieces : List Piece} {left : Bytes} {fed : List Read} {acc : List StreamEvent}

/-- Events that hand nothing out change no account. -/
theorem quiet (covers : Covers pieces left fed acc) (more : List StreamEvent)
    (silent : yielded (StreamEvent.items more) = []) : Covers pieces left fed (acc ++ more) where
  whole := covers.whole
  held := by
    rw [StreamEvent.items_append, yielded_append, silent, List.append_nil]
    exact covers.held
  parsed := covers.parsed
  taken := fun front payload inside => by
    rw [StreamEvent.wires_append, WireEvent.headers_append]
    exact List.mem_append_left _ (covers.taken front payload inside)

/-- What is read waits behind what was taken. -/
theorem arrives (covers : Covers pieces left fed acc) (read : Read) :
    Covers pieces (left ++ readBytes [read]) (fed ++ [read]) acc where
  whole := by rw [readBytes_append, ← covers.whole, List.append_assoc]
  held := covers.held
  parsed := covers.parsed
  taken := covers.taken

theorem response {rest bytes : Bytes} (covers : Covers pieces left fed acc)
    (front : left = bytes ++ rest) {reply : ResponseContainer} (fills : reply.Fills bytes) :
    Covers (pieces ++ [.response reply bytes]) rest fed acc where
  whole := by
    rw [← covers.whole, front]
    simp
  held := by simpa using covers.held
  parsed := fun piece inside => by
    rcases List.mem_append.mp inside with earlier | last
    · exact covers.parsed piece earlier
    · rw [List.mem_singleton.mp last]
      exact fills
  taken := fun front payload inside => by
    rcases List.mem_append.mp inside with earlier | last
    · exact covers.taken front payload earlier
    · cases List.mem_singleton.mp last

end Covers

namespace ReceiveStream

/-- How much more an open container may hold. -/
def Room (front payload : Bytes) (stream : ReceiveStream) : Prop :=
  ∃ header, unpackHeader front = .ok header ∧ (header.length = largeObjectLengthSentinel ∨
    stream.largeObject = false ∧ ∃ left, stream.payloadRemaining = some left ∧
      headerSize + payload.length + left ≤ header.length.toNat)

/-- How a stream that goes on accounts for the bytes it has read. -/
structure Accounts (pieces : List Piece) (fed : List Read) (acc : List StreamEvent)
    (stream : ReceiveStream) : Prop extends Covers pieces stream.buffer fed acc where
  room : stream.inPayload = true → ∃ earlier front payload,
    pieces = earlier ++ [.data front payload] ∧ Room front payload stream

section

variable {pieces : List Piece} {fed : List Read} {acc : List StreamEvent} {stream : ReceiveStream}

/-- Bounding an over-long container takes no room it did not have. -/
theorem Room.bound {front payload : Bytes} (room : Room front payload stream) :
    Room front payload stream.boundLargeObject := by
  obtain ⟨header, read, bound⟩ := room
  refine ⟨header, read, ?_⟩
  rcases bound with sentinel | ⟨small, left, remaining, inside⟩
  · exact Or.inl sentinel
  · have same : stream.boundLargeObject = stream := by
      simp only [boundLargeObject, small, Bool.and_false, Bool.false_and, Bool.false_eq_true,
        ↓reduceIte]
    rw [same]
    exact Or.inr ⟨small, left, remaining, inside⟩

theorem Accounts.bound (accounts : Accounts pieces fed acc stream) :
    Accounts pieces fed acc stream.boundLargeObject where
  toCovers := by
    rw [boundLargeObject_buffer]
    exact accounts.toCovers
  room := by
    rw [boundLargeObject_inPayload]
    intro streaming
    obtain ⟨earlier, front, payload, last, room⟩ := accounts.room streaming
    exact ⟨earlier, front, payload, last, room.bound⟩

/-- A payload that has room for more bytes is framed with them. -/
theorem Room.framed {front payload chunk : Bytes} (room : Room front payload stream)
    (framed : Framed front payload)
    (inside : ∀ left, stream.payloadRemaining = some left → chunk.length ≤ left) :
    Framed front (payload ++ chunk) := by
  obtain ⟨length, header, read, type, _⟩ := framed
  obtain ⟨header', read', bound⟩ := room
  have same : header' = header := Except.ok.inj (read'.symm.trans read)
  subst same
  refine ⟨length, header', read, type, ?_⟩
  rcases bound with sentinel | ⟨_, left, remaining, fits⟩
  · exact Or.inl sentinel
  · have := inside left remaining
    exact Or.inr (by rw [List.length_append]; omega)

/-- A chunk takes what it holds off the room. -/
theorem Room.chunk {front payload : Bytes} (room : Room front payload stream)
    (onward : stream.yieldChunk.2.inPayload = true) :
    Room front (payload ++ stream.yieldChunk.1) stream.yieldChunk.2 := by
  obtain ⟨header, read, bound⟩ := room
  refine ⟨header, read, ?_⟩
  rcases bound with sentinel | ⟨small, left, remaining, fits⟩
  · exact Or.inl sentinel
  · have bounded : stream.takeLength ≤ left := by
      simp only [takeLength, remaining]
      omega
    right
    revert onward
    unfold yieldChunk
    dsimp only
    split
    · exact fun onward => by cases onward
    · intro onward
      refine ⟨small, left - stream.takeLength, by rw [remaining]; rfl, ?_⟩
      rw [List.length_append, List.length_take]
      omega

/-- A chunk lengthens the container that is open. -/
theorem Accounts.chunk (accounts : Accounts pieces fed acc stream)
    (streaming : stream.inPayload = true) :
    ∃ earlier front payload, pieces = earlier ++ [.data front payload] ∧
      Accounts (earlier ++ [.data front (payload ++ stream.yieldChunk.1)]) fed
        (acc ++ [.wire (.payload stream.yieldChunk.1)] ++
          [.returned (some (.ok stream.yieldChunk.1))]) stream.yieldChunk.2 := by
  obtain ⟨earlier, front, payload, rfl, room⟩ := accounts.room streaming
  have inside : ∀ left, stream.payloadRemaining = some left →
      stream.yieldChunk.1.length ≤ left := fun left remaining => by
    simp only [yieldChunk, takeLength, remaining, List.length_take]
    omega
  have whole := accounts.whole
  have held := accounts.held
  refine ⟨earlier, front, payload, rfl, ?_⟩
  exact {
    whole := by
      rw [yieldChunk_buffer, ← whole]
      simp [yieldChunk]
    held := by
      simp only [List.flatMap_append, List.flatMap_cons, List.flatMap_nil, Piece.payload,
        List.append_nil] at held
      simp [← held]
    parsed := fun piece member => by
      rcases List.mem_append.mp member with before | here
      · exact accounts.parsed piece (List.mem_append_left _ before)
      · rw [List.mem_singleton.mp here]
        exact room.framed (accounts.parsed (.data front payload) (by simp)) inside
    taken := fun front' payload' member => by
      rcases List.mem_append.mp member with before | here
      · have known := accounts.taken front' payload' (List.mem_append_left _ before)
        simp [known]
      · cases List.mem_singleton.mp here
        have known := accounts.taken front payload (by simp)
        simp [known]
    room := fun onward => ⟨earlier, front, _, rfl, room.chunk onward⟩ }

/-- A data header starts a container. -/
theorem Accounts.opens (accounts : Accounts pieces fed acc stream) {length : UInt32}
    (type : containerType stream.buffer = .ok .data)
    (read : unpackU32 (stream.buffer.take 4) = .ok length)
    (least : length = largeObjectLengthSentinel ∨ headerSize ≤ length.toNat) :
    Accounts (pieces ++ [.data (stream.buffer.take headerSize) []]) fed
      (acc ++ [.wire (.header (stream.buffer.take headerSize))]) (stream.openContainer length) := by
  have whole := accounts.whole
  have long := length_of_containerType type
  obtain ⟨header, unpacked, typeCode⟩ := header_of_containerType type
  have same : header.length = length :=
    Except.ok.inj ((unpackHeader_fields unpacked).1.symm.trans read)
  have front : (stream.buffer.take headerSize).length = headerSize := by
    rw [List.length_take]
    omega
  have unpacked' : unpackHeader (stream.buffer.take headerSize) = .ok header := by
    rw [← unpackHeader_append (Nat.le_of_eq front.symm) (stream.buffer.drop headerSize),
      List.take_append_drop]
    exact unpacked
  exact {
    whole := by
      rw [← whole]
      simp [openContainer]
    held := by simpa using accounts.held
    parsed := fun piece member => by
      rcases List.mem_append.mp member with before | here
      · exact accounts.parsed piece before
      · rw [List.mem_singleton.mp here]
        refine ⟨front, header, unpacked', typeCode, ?_⟩
        rw [same]
        exact least
    taken := fun front' payload' member => by
      rcases List.mem_append.mp member with before | here
      · have known := accounts.taken front' payload' before
        simp [known]
      · cases List.mem_singleton.mp here
        simp
    room := fun _ => ⟨pieces, _, [], rfl, header, unpacked', by
      rw [same]
      by_cases sentinel : length = largeObjectLengthSentinel
      · exact Or.inl sentinel
      · refine Or.inr ⟨?_, length.toNat - headerSize, ?_, ?_⟩
        · simp only [openContainer, beq_eq_false_iff_ne, ne_eq, sentinel, not_false_eq_true]
        · simp only [openContainer, sentinel, ↓reduceIte]
        · have := least.resolve_left sentinel
          rw [List.length_nil]
          omega⟩ }

end

end ReceiveStream

end Ptp
