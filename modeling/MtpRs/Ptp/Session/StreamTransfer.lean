import MtpRs.Ptp.Session.StreamCut
import MtpRs.Ptp.Session.Transfer

set_option autoImplicit false

/- What a stream makes of one bulk transfer. -/
namespace Ptp

namespace ReceiveStream

/-- A stream between two containers, with `extra` buffered. -/
structure Paused (txId : UInt32) (extra : Bytes) (stream : ReceiveStream) : Prop where
  idle : stream.inPayload = false
  buffer : stream.buffer = extra
  going : stream.done = false
  transactionId : stream.transactionId = txId
  unsized : stream.expectedPayloadLen = none

/-- A stream inside a container of whose payload `left` is still to be yielded. -/
structure Inside (txId : UInt32) (left : Bytes) (stream : ReceiveStream) : Prop where
  streaming : stream.inPayload = true
  going : stream.done = false
  transactionId : stream.transactionId = txId
  unsized : stream.expectedPayloadLen = none
  counted : stream.largeObject = false ∧ stream.payloadRemaining = some left.length ∨
    stream.largeObject = true ∧ stream.payloadRemaining = none

section Transfer

variable {txId : UInt32} {left more extra : Bytes} {stream : ReceiveStream}

theorem boundLargeObject_of_full (full : stream.shortRead = false) :
    stream.boundLargeObject = stream := by
  simp only [boundLargeObject, full, Bool.and_false, Bool.false_and, Bool.false_eq_true,
    ↓reduceIte]

/-- The stream that yielding everything buffered leaves. -/
def emptied (stream : ReceiveStream) : ReceiveStream :=
  { stream with
    buffer := []
    payloadYielded := stream.payloadYielded + stream.buffer.length
    payloadRemaining := stream.payloadRemaining.map (· - stream.buffer.length) }

/-- Everything buffered is yielded while the container goes on. -/
theorem Inside.chunk (inside : Inside txId (stream.buffer ++ more) stream)
    (solid : stream.buffer ≠ []) (unfinished : more ≠ []) (full : stream.shortRead = false) :
    stream.passPayload =
      ([.payload stream.buffer], .returns (some (.ok stream.buffer)) stream.emptied) := by
  have same := boundLargeObject_of_full full
  have positive := List.length_pos_of_ne_nil solid
  have positive' := List.length_pos_of_ne_nil unfinished
  have length : stream.takeLength = stream.buffer.length := by
    rcases inside.counted with ⟨_, counted⟩ | ⟨_, counted⟩
    · simp only [takeLength, counted, List.length_append]
      omega
    · simp only [takeLength, counted]
  have goes_on : stream.payloadRemaining.map (· - stream.buffer.length) ≠ some 0 := by
    rcases inside.counted with ⟨_, counted⟩ | ⟨_, counted⟩
    · rw [counted, Option.map_some, ne_eq, Option.some.injEq, List.length_append]
      omega
    · rw [counted]
      exact fun same => by cases same
  simp only [passPayload, same, inside.streaming, length, positive, true_and, ↓reduceIte,
    yieldChunk, goes_on, List.take_length, List.drop_length, emptied]

theorem Inside.emptied (inside : Inside txId (stream.buffer ++ more) stream) :
    Inside txId more stream.emptied where
  streaming := inside.streaming
  going := inside.going
  transactionId := inside.transactionId
  unsized := inside.unsized
  counted := by
    rcases inside.counted with ⟨small, counted⟩ | ⟨big, counted⟩
    · refine Or.inl ⟨small, ?_⟩
      simp only [ReceiveStream.emptied, counted, Option.map_some, List.length_append,
        Nat.add_sub_cancel_left]
    · exact Or.inr ⟨big, by simp only [ReceiveStream.emptied, counted, Option.map_none]⟩

/-- The last of a container is yielded. What is buffered behind it stays. -/
theorem Inside.last (inside : Inside txId left stream) (solid : left ≠ [])
    (buffered : stream.buffer = left ++ extra)
    (large : stream.largeObject = true →
      stream.shortRead = true ∧ 0 < stream.payloadYielded ∧ extra = []) :
    ∃ next, stream.passPayload = ([.payload left], .returns (some (.ok left)) next) ∧
      Paused txId extra next ∧ next.expectZeroLengthPacket = true := by
  have counted : stream.boundLargeObject.payloadRemaining = some left.length ∧
      stream.boundLargeObject = { stream with
        payloadRemaining := stream.boundLargeObject.payloadRemaining } := by
    rcases inside.counted with ⟨small, counted⟩ | ⟨big, counted⟩
    · rw [boundLargeObject_of_sized small]
      exact ⟨counted, rfl⟩
    · obtain ⟨short, yielded, none_behind⟩ := large big
      simp only [boundLargeObject, inside.streaming, big, short, yielded, decide_true,
        Bool.and_self, ↓reduceIte, counted, buffered, none_behind, List.append_nil, and_self]
  obtain ⟨remaining, same⟩ := counted
  have positive := List.length_pos_of_ne_nil solid
  have length : stream.boundLargeObject.takeLength = left.length := by
    simp only [takeLength, remaining, boundLargeObject_buffer, buffered, List.length_append]
    omega
  have ends : (some left.length).map (· - left.length) = some 0 := by
    rw [Option.map_some, Nat.sub_self]
  refine ⟨stream.boundLargeObject.yieldChunk.2, ?_, ?_, ?_⟩
  · simp only [passPayload, boundLargeObject_inPayload, inside.streaming, length, positive,
      true_and, ↓reduceIte, yieldChunk, boundLargeObject_buffer, buffered, List.take_left]
  · simp only [yieldChunk, remaining, length, ends, ↓reduceIte]
    exact {
      idle := rfl
      buffer := by
        change stream.boundLargeObject.buffer.drop left.length = extra
        rw [boundLargeObject_buffer, buffered, List.drop_left]
      going := by rw [same]; exact inside.going
      transactionId := by rw [same]; exact inside.transactionId
      unsized := by rw [same]; exact inside.unsized }
  · simp only [yieldChunk, remaining, length, ends, ↓reduceIte]
    rfl

/-- An empty container ends where it starts. -/
theorem Inside.nothing (inside : Inside txId [] stream) (small : stream.largeObject = false) :
    stream.passPayload = ([], .continues stream.endContainer) := by
  rcases inside.counted with ⟨_, counted⟩ | ⟨big, _⟩
  · have zero : stream.takeLength = 0 := by
      simp only [takeLength, counted, List.length_nil, Nat.zero_min]
    simp only [passPayload, boundLargeObject_of_sized small, inside.streaming, zero, counted,
      Nat.lt_irrefl, and_false, List.length_nil, and_self, ↓reduceIte]
  · rw [small] at big
    cases big

theorem Inside.endContainer (inside : Inside txId left stream) :
    Paused txId stream.buffer stream.endContainer where
  idle := rfl
  buffer := rfl
  going := inside.going
  transactionId := inside.transactionId
  unsized := inside.unsized

/-- A paused stream with nothing buffered reads. -/
theorem Paused.serve (paused : Paused txId [] stream) :
    stream.serve = ([], .inl { stream with shortRead := false }) := by
  have same : stream.boundLargeObject = stream := by
    simp only [boundLargeObject, paused.idle, Bool.false_and, Bool.false_eq_true, ↓reduceIte]
  have passed : stream.pass = ([], .awaits { stream with shortRead := false }) := by
    rw [pass_of_payload fun _ => by rw [paused.buffer]; decide]
    simp only [passPayload, same, paused.idle, Bool.false_eq_true, false_and, ↓reduceIte]
  rw [serve_awaits passed, List.map_nil]

/-- So does one that has yielded all it holds of a container. -/
theorem Inside.serve (inside : Inside txId left stream) (solid : left ≠ [])
    (empty : stream.buffer = []) (full : stream.shortRead = false) :
    stream.serve = ([], .inl stream) := by
  have same := boundLargeObject_of_full full
  have positive := List.length_pos_of_ne_nil solid
  have zero : stream.takeLength = 0 := by
    unfold takeLength
    rw [empty]
    split <;> simp
  have unfinished : stream.payloadRemaining ≠ some 0 := by
    rcases inside.counted with ⟨_, counted⟩ | ⟨_, counted⟩
    · rw [counted, ne_eq, Option.some.injEq]
      omega
    · rw [counted]
      exact fun same => by cases same
  have kept : { stream with shortRead := false } = stream := by rw [← full]
  have passed : stream.pass = ([], .awaits stream) := by
    rw [pass_of_payload fun idle => by rw [inside.streaming] at idle; cases idle]
    simp only [passPayload, same, zero, Nat.lt_irrefl, and_false, unfinished, ↓reduceIte, kept]
  rw [serve_awaits passed, List.map_nil]

/-- The response behind the last container ends the stream. -/
theorem Paused.serve_closing {response : ResponseContainer} {closing : Bytes}
    (paused : Paused response.transactionId closing stream)
    (parsed : ResponseContainer.fromBytes closing = .ok response)
    (accepted : response.code = .ok) :
    stream.serve = ([.wire (.reply response []), .returned none], .inr (stream.finish false)) := by
  obtain ⟨header, view⟩ := ResponseContainer.parsed_of_fromBytes parsed
  rw [serve_ends (pass_of_done paused.idle (by rw [paused.buffer]; exact view.long)
    (consumeContainerHeader_done (by rw [paused.buffer]; exact parsed)
      paused.transactionId.symm accepted)) rfl]
  rfl

theorem Paused.open (paused : Paused txId extra stream) {container : DataContainer} {rest : Bytes}
    (front : extra ++ more = container.toBytes ++ rest) (long : headerSize ≤ extra.length)
    (fits : headerSize + container.payload.length < 2 ^ 32) :
    stream.pass =
        ([.header (stream.buffer.take headerSize)] ++
            (stream.openContainer container.header.length).passPayload.1,
          (stream.openContainer container.header.length).passPayload.2) ∧
      Inside txId container.payload (stream.openContainer container.header.length) := by
  have total := container.header_length fits
  constructor
  · exact pass_of_data paused.idle (by rw [paused.buffer]; exact long)
      (consumeContainerHeader_data (by rw [paused.buffer]; exact front)
        (by rw [paused.buffer]; exact long) fits)
  · refine ⟨rfl, paused.going, paused.transactionId, paused.unsized, ?_⟩
    by_cases sized : headerSize + container.payload.length < 2 ^ 32 - 1
    · obtain ⟨remaining, small⟩ := openContainer_sized stream sized
      exact Or.inl ⟨small, remaining⟩
    · have sentinel : container.header.length = largeObjectLengthSentinel := by
        rw [← UInt32.toNat_inj, total]
        change _ = 2 ^ 32 - 1
        omega
      refine Or.inr ⟨?_, ?_⟩
      · simp only [openContainer, sentinel, BEq.rfl]
      · simp only [openContainer, sentinel, ↓reduceIte, paused.unsized]

end Transfer

/-- The calls returned chunks, and these make up `bytes`. -/
def Delivers (events : List StreamEvent) (bytes : Bytes) : Prop :=
  ∃ chunks : List Bytes, StreamEvent.items events = (chunks.map fun chunk => some (.ok chunk)) ∧
    chunks.flatten = bytes

theorem Delivers.nil : Delivers [] [] := ⟨[], rfl, rfl⟩

theorem Delivers.append {front back : List StreamEvent} {bytes more : Bytes}
    (first : Delivers front bytes) (second : Delivers back more) :
    Delivers (front ++ back) (bytes ++ more) := by
  obtain ⟨chunks, items, whole⟩ := first
  obtain ⟨others, items', whole'⟩ := second
  exact ⟨chunks ++ others, by rw [StreamEvent.items_append, items, items', List.map_append],
    by rw [List.flatten_append, whole, whole']⟩

theorem Delivers.one (wires : List WireEvent) (chunk : Bytes) :
    Delivers (wires.map .wire ++ [.returned (some (.ok chunk))]) chunk :=
  ⟨[chunk], by simp, by simp⟩

theorem Delivers.none (wires : List WireEvent) : Delivers (wires.map .wire) [] :=
  ⟨[], by simp, rfl⟩

/-- The empty read that ends a transfer of whole reads. -/
def packetReads (bytes : Bytes) : List Read :=
  if bytes.length % receiveChunk = 0 then [.ok []] else []

/-- A stream that has read up to the end of a container, `reads` being what its
transfer has left. -/
def Completes (txId : UInt32) (extra : Bytes) (stream : ReceiveStream) (bytes payload : Bytes) :
    Prop :=
  ∃ events next, Delivers events payload ∧ Paused txId extra next ∧
    next.expectZeroLengthPacket = true ∧ ∀ later,
    stream.run ((transferReads bytes).map .ok ++ later) =
      (next.serveRun (packetReads bytes ++ later)).after events

section Transfer

variable {txId : UInt32} {extra : Bytes}

/-- The stream that a read of `piece` leaves, with nothing buffered before it. -/
def filled (stream : ReceiveStream) (piece : Bytes) : ReceiveStream :=
  { stream with
    expectZeroLengthPacket := false
    shortRead := decide (piece.length < receiveChunk)
    buffer := piece }

theorem received_filled {stream : ReceiveStream} {piece : Bytes} (empty : stream.buffer = [])
    (solid : piece ≠ []) : stream.received (.ok piece) = .continues (stream.filled piece) := by
  simp only [received, List.isEmpty_iff, solid, ↓reduceIte, empty, List.nil_append, filled]

theorem Inside.pass {left : Bytes} {stream : ReceiveStream} (inside : Inside txId left stream) :
    stream.pass = stream.passPayload :=
  pass_of_payload fun idle => by
    rw [inside.streaming] at idle
    cases idle

/-- The read that ends a container's transfer. -/
theorem Inside.completes {left piece : Bytes} {stream : ReceiveStream}
    (inside : Inside txId left stream) (solid : left ≠ []) (empty : stream.buffer = [])
    (whole : piece = left ++ extra)
    (large : stream.largeObject = true →
      piece.length < receiveChunk ∧ 0 < stream.payloadYielded ∧ extra = []) :
    ∃ events next, Delivers events left ∧ Paused txId extra next ∧
      next.expectZeroLengthPacket = true ∧ ∀ later,
      stream.run (.ok piece :: later) = (next.serveRun later).after events := by
  have filled : Inside txId left (stream.filled piece) := { inside with }
  obtain ⟨next, passed, paused, packet⟩ := filled.last solid whole (fun big => by
    obtain ⟨short, yielded, none_behind⟩ := large big
    exact ⟨decide_eq_true short, yielded, none_behind⟩)
  have solid' : piece ≠ [] := fun none_read =>
    solid (List.append_eq_nil_iff.mp (whole.symm.trans none_read)).1
  refine ⟨_, next, Delivers.one [.payload left] left, paused, packet, fun later => ?_⟩
  rw [run_continues (received_filled empty solid'),
    serveRun_after (serve_returns (filled.pass.trans passed) paused.going)]

/-- A full read inside a container is one chunk. -/
theorem Inside.advances {piece more : Bytes} {stream : ReceiveStream}
    (inside : Inside txId (piece ++ more) stream) (empty : stream.buffer = [])
    (full : piece.length = receiveChunk) (unfinished : more ≠ []) :
    ∃ next, Inside txId more next ∧ next.buffer = [] ∧ 0 < next.payloadYielded ∧
      next.largeObject = stream.largeObject ∧ ∀ later,
      stream.run (.ok piece :: later) = (next.run later).after
        ([.payload piece].map .wire ++ [.returned (some (.ok piece))]) := by
  have solid : piece ≠ [] := fun none_read => by
    rw [none_read] at full
    cases full
  have inside' : Inside txId ((stream.filled piece).buffer ++ more) (stream.filled piece) :=
    { inside with }
  have long : (stream.filled piece).shortRead = false :=
    decide_eq_false (by omega)
  have passed := inside'.pass.trans (inside'.chunk solid unfinished long)
  have next := inside'.emptied
  refine ⟨_, next, rfl, ?_, rfl, fun later => ?_⟩
  · simp only [ReceiveStream.emptied, filled, full, receiveChunk_eq]
    omega
  · rw [run_continues (received_filled empty solid),
      serveRun_after (serve_returns passed next.going),
      serveRun_waits (next.serve unfinished rfl long)]
    rfl

/-- The reads that are left of a container's transfer. -/
theorem Inside.transfer (bytes : Bytes) : ∀ left stream, bytes = left ++ extra →
    Inside txId left stream → stream.buffer = [] → left ≠ [] →
    (stream.largeObject = true →
      0 < stream.payloadYielded ∧ extra = [] ∧ left.length % receiveChunk ≠ 0) →
    EndsInLastRead left.length bytes → Completes txId extra stream bytes left := by
  induction bytes using transferReads.induct with
  | case1 bytes short =>
      intro left stream whole inside empty solid large ends
      obtain ⟨events, next, delivers, paused, packet, runs⟩ := inside.completes solid empty whole
        fun big => ⟨short, (large big).1, (large big).2.1⟩
      refine ⟨events, next, delivers, paused, packet, fun later => ?_⟩
      have rest : ¬ bytes.length % receiveChunk = 0 := by
        rw [Nat.mod_eq_of_lt short]
        unfold EndsInLastRead at ends
        omega
      rw [transferReads_short short, packetReads, if_neg rest]
      exact runs later
  | case2 bytes full ih =>
      intro left stream whole inside empty solid large ends
      have halves : bytes.take receiveChunk ++ bytes.drop receiveChunk = bytes :=
        List.take_append_drop receiveChunk bytes
      have piece : (bytes.take receiveChunk).length = receiveChunk := by
        rw [List.length_take]
        omega
      have rest : (bytes.drop receiveChunk).length = bytes.length - receiveChunk :=
        List.length_drop
      by_cases last : bytes.drop receiveChunk = []
      · rw [last, List.append_nil] at halves
        rw [last, List.length_nil] at rest
        have exactly : bytes.length = receiveChunk := by omega
        obtain ⟨events, next, delivers, paused, packet, runs⟩ := inside.completes solid empty whole
          fun big => by
            obtain ⟨yielded, none_behind, uneven⟩ := large big
            rw [none_behind, List.append_nil] at whole
            rw [← whole, exactly, Nat.mod_self] at uneven
            exact absurd rfl uneven
        refine ⟨events, next, delivers, paused, packet, fun later => ?_⟩
        rw [transferReads_full full, last, halves, transferReads_short (by decide), packetReads,
          if_pos (by rw [exactly, Nat.mod_self])]
        exact runs _
      · have positive := List.length_pos_of_ne_nil last
        have ahead : receiveChunk < left.length := by
          rw [EndsInLastRead] at ends
          rw [receiveChunk_eq] at *
          omega
        obtain ⟨front, back⟩ := take_drop_of_append receiveChunk
          (show bytes ++ [] = left ++ extra by rw [List.append_nil, whole]) (by omega) (by omega)
        have unfinished : left.drop receiveChunk ≠ [] := fun none_left => by
          have := congrArg List.length none_left
          rw [List.length_drop, List.length_nil] at this
          omega
        have split : left = bytes.take receiveChunk ++ left.drop receiveChunk := by
          rw [front, List.take_append_drop]
        obtain ⟨next, inside', empty', yielded, same, advance⟩ :=
          Inside.advances (split ▸ inside) empty piece unfinished
        obtain ⟨events, final, delivers, paused, packet, runs⟩ :=
          ih (left.drop receiveChunk) next (by rwa [List.append_nil] at back) inside' empty'
            unfinished (fun big => ⟨yielded, (large (same ▸ big)).2.1, by
              rw [List.length_drop, ← Nat.mod_eq_sub_mod (Nat.le_of_lt ahead)]
              exact (large (same ▸ big)).2.2⟩) (by
              unfold EndsInLastRead at ends ⊢
              rw [List.length_drop, rest]
              rw [receiveChunk_eq] at ends ahead ⊢
              omega)
        have whole_left := (Delivers.one [.payload (bytes.take receiveChunk)]
          (bytes.take receiveChunk)).append delivers
        rw [← split] at whole_left
        refine ⟨_, final, whole_left, paused, packet, fun later => ?_⟩
        rw [transferReads_full full, List.map_cons, List.cons_append, advance, runs,
          Feed.Progress.after_after, packetReads, packetReads, rest,
          ← Nat.mod_eq_sub_mod (Nat.le_of_not_lt full)]

/-- The read that holds a whole container, with `extra` behind it. -/
theorem Paused.completes {stream : ReceiveStream} {container : DataContainer} {piece : Bytes}
    (paused : Paused txId [] stream) (whole : piece = container.toBytes ++ extra)
    (fits : headerSize + container.payload.length < 2 ^ 32 - 1) :
    ∃ events next, Delivers events container.payload ∧ Paused txId extra next ∧
      next.expectZeroLengthPacket = true ∧ ∀ later,
      stream.run (.ok piece :: later) = (next.serveRun later).after events := by
  have long : headerSize ≤ piece.length := by
    rw [whole, List.length_append, DataContainer.toBytes_length]
    omega
  have solid : piece ≠ [] := fun none_read => by
    rw [none_read] at long
    cases long
  have filled : Paused txId piece (stream.filled piece) := { paused with buffer := rfl }
  have front : piece ++ [] = container.toBytes ++ extra := (List.append_nil piece).trans whole
  obtain ⟨passed, inside⟩ := filled.open front long (by omega)
  obtain ⟨remaining, small⟩ := openContainer_sized (stream.filled piece) fits
  have buffered : ((stream.filled piece).openContainer container.header.length).buffer =
      container.payload ++ extra := by
    change piece.drop headerSize = _
    rw [whole, List.drop_append_of_le_length (by rw [DataContainer.toBytes_length]; omega),
      DataContainer.drop_toBytes]
  by_cases empty : container.payload = []
  · rw [empty] at inside buffered
    rw [inside.nothing small] at passed
    have next := inside.endContainer
    rw [buffered, List.nil_append] at next
    refine ⟨([WireEvent.header (piece.take headerSize)] ++ []).map .wire, _, ?_,
      next, rfl, fun later => ?_⟩
    · rw [empty]
      exact Delivers.none _
    · rw [run_continues (received_filled paused.buffer solid),
        serveRun_after (serve_continues passed)]
      rfl
  · obtain ⟨next, last, ends, packet⟩ := inside.last empty buffered (fun big => by
      rw [small] at big
      cases big)
    rw [last] at passed
    refine ⟨_, next, Delivers.one
      ([.header (piece.take headerSize)] ++ [.payload container.payload])
      container.payload, ends, packet, fun later => ?_⟩
    rw [run_continues (received_filled paused.buffer solid),
      serveRun_after (serve_returns passed ends.going)]
    rfl

/-- The first read of a container that takes more than one. -/
theorem Paused.advances {stream : ReceiveStream} {container : DataContainer} {piece more : Bytes}
    (paused : Paused txId [] stream) (whole : piece ++ more = container.toBytes)
    (full : piece.length = receiveChunk) (unfinished : more ≠ [])
    (fits : headerSize + container.payload.length < 2 ^ 32) :
    container.payload = piece.drop headerSize ++ more ∧
    ∃ events next, Delivers events (piece.drop headerSize) ∧ Inside txId more next ∧
      next.buffer = [] ∧ 0 < next.payloadYielded ∧
      (next.largeObject = true → ¬ headerSize + container.payload.length < 2 ^ 32 - 1) ∧
      ∀ later, stream.run (.ok piece :: later) = (next.run later).after events := by
  have long : headerSize ≤ piece.length := by
    rw [full]
    decide
  have solid : piece ≠ [] := fun none_read => by
    rw [none_read] at long
    cases long
  have payload : container.payload = piece.drop headerSize ++ more := by
    rw [← DataContainer.drop_toBytes, ← whole, List.drop_append_of_le_length long]
  have filled : Paused txId piece (stream.filled piece) := { paused with buffer := rfl }
  obtain ⟨passed, inside⟩ := filled.open (whole.trans (List.append_nil _).symm) long fits
  have inside' : Inside txId
      (((stream.filled piece).openContainer container.header.length).buffer ++ more)
      ((stream.filled piece).openContainer container.header.length) := payload ▸ inside
  have chunk : (piece.drop headerSize).length = receiveChunk - headerSize := by
    rw [List.length_drop, full]
  have some : piece.drop headerSize ≠ [] := fun none_left => by
    rw [none_left] at chunk
    cases chunk
  have short : ((stream.filled piece).openContainer container.header.length).shortRead = false :=
    decide_eq_false (by omega)
  rw [inside'.chunk some unfinished short] at passed
  have next := inside'.emptied
  refine ⟨payload, _, _, Delivers.one ([.header (piece.take headerSize)] ++
    [.payload (piece.drop headerSize)]) (piece.drop headerSize), next, rfl, ?_,
    fun big sized => ?_, fun later => ?_⟩
  · change 0 < 0 + (piece.drop headerSize).length
    rw [chunk]
    decide
  · have small := (openContainer_sized (stream.filled piece) sized).2
    exact absurd big (by rw [ReceiveStream.emptied, small]; exact Bool.false_ne_true)
  · rw [run_continues (received_filled paused.buffer solid),
      serveRun_after (serve_returns passed next.going),
      serveRun_waits (next.serve unfinished rfl short)]
    rfl

/-- The transfer of a container, with `extra` behind it. -/
theorem Paused.transfer {stream : ReceiveStream} {container : DataContainer}
    (paused : Paused txId [] stream) (fits : headerSize + container.payload.length < 2 ^ 32)
    (alone : extra ≠ [] → headerSize + container.payload.length < 2 ^ 32 - 1)
    (ends : EndsInLastRead (headerSize + container.payload.length)
      (container.toBytes ++ extra)) :
    Completes txId extra stream (container.toBytes ++ extra) container.payload := by
  have total := container.toBytes_length
  by_cases short : (container.toBytes ++ extra).length < receiveChunk
  · have sized : headerSize + container.payload.length < 2 ^ 32 - 1 := by
      rw [List.length_append, total, receiveChunk_eq] at short
      omega
    obtain ⟨events, next, delivers, paused', packet, runs⟩ := paused.completes rfl sized
    refine ⟨events, next, delivers, paused', packet, fun later => ?_⟩
    have rest : ¬ (container.toBytes ++ extra).length % receiveChunk = 0 := by
      rw [Nat.mod_eq_of_lt short]
      unfold EndsInLastRead at ends
      omega
    rw [transferReads_short short, packetReads, if_neg rest]
    exact runs later
  · have halves : (container.toBytes ++ extra).take receiveChunk ++
        (container.toBytes ++ extra).drop receiveChunk = container.toBytes ++ extra :=
      List.take_append_drop receiveChunk _
    have piece : ((container.toBytes ++ extra).take receiveChunk).length = receiveChunk := by
      rw [List.length_take]
      omega
    have rest : ((container.toBytes ++ extra).drop receiveChunk).length =
        (container.toBytes ++ extra).length - receiveChunk := List.length_drop
    by_cases last : (container.toBytes ++ extra).drop receiveChunk = []
    · rw [last, List.append_nil] at halves
      rw [last, List.length_nil] at rest
      have exactly : (container.toBytes ++ extra).length = receiveChunk := by omega
      have sized : headerSize + container.payload.length < 2 ^ 32 - 1 := by
        rw [List.length_append, total, receiveChunk_eq] at exactly
        omega
      obtain ⟨events, next, delivers, paused', packet, runs⟩ := paused.completes rfl sized
      refine ⟨events, next, delivers, paused', packet, fun later => ?_⟩
      rw [transferReads_full short, last, halves, transferReads_short (by decide), packetReads,
        if_pos (by rw [exactly, Nat.mod_self])]
      exact runs _
    · have positive := List.length_pos_of_ne_nil last
      have ahead : receiveChunk < container.toBytes.length := by
        rw [total]
        rw [EndsInLastRead] at ends
        rw [receiveChunk_eq] at *
        omega
      obtain ⟨front, back⟩ := take_drop_of_append receiveChunk
        (List.append_nil (container.toBytes ++ extra)) (by omega) (Nat.le_of_lt ahead)
      rw [List.append_nil] at back
      have left : (container.toBytes.drop receiveChunk).length =
          headerSize + container.payload.length - receiveChunk := by
        rw [List.length_drop, total]
      have unfinished : container.toBytes.drop receiveChunk ≠ [] := fun none_left => by
        rw [none_left, List.length_nil] at left
        omega
      obtain ⟨payload, events, next, delivers, inside, empty, yielded, large, advance⟩ :=
        paused.advances (by rw [front, List.take_append_drop]) piece unfinished fits
      have uneven : next.largeObject = true → 0 < next.payloadYielded ∧ extra = [] ∧
          (container.toBytes.drop receiveChunk).length % receiveChunk ≠ 0 := by
        intro big
        have sentinel := large big
        refine ⟨yielded, Decidable.not_not.mp fun behind => sentinel (alone behind), ?_⟩
        rw [left, receiveChunk_eq]
        omega
      have ends' : EndsInLastRead (container.toBytes.drop receiveChunk).length
          ((container.toBytes ++ extra).drop receiveChunk) := by
        unfold EndsInLastRead at ends ⊢
        rw [rest, left]
        rw [total, receiveChunk_eq] at ahead
        rw [receiveChunk_eq] at ends ⊢
        omega
      obtain ⟨events', final, delivers', paused', packet, runs⟩ :=
        Inside.transfer _ _ next back inside empty unfinished uneven ends'
      have all := delivers.append delivers'
      rw [← payload] at all
      refine ⟨_, final, all, paused', packet, fun later => ?_⟩
      rw [transferReads_full short, List.map_cons, List.cons_append, advance, runs,
        Feed.Progress.after_after, packetReads, packetReads, rest,
        ← Nat.mod_eq_sub_mod (Nat.le_of_not_lt short)]

end Transfer

end ReceiveStream

end Ptp
