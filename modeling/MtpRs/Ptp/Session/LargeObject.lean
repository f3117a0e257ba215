import MtpRs.Ptp.Session.Custody
import MtpRs.Ptp.Session.StreamTransfer

set_option autoImplicit false

/- A container whose length field cannot say where it ends: what a stream makes
of the reads a device sends for it. -/
namespace Ptp

/-- The reads of `bytes`: every one but the last is full. -/
structure PayloadReads (bytes : Bytes) (fulls : List Bytes) (last : Bytes) : Prop where
  whole : fulls.flatten ++ last = bytes
  full : ∀ piece ∈ fulls, piece.length = receiveChunk
  solid : last ≠ []
  fits : last.length ≤ receiveChunk

/-- The zero-length packet behind a full read arrives as an empty read. -/
def packetAfter (last : Bytes) : List Bytes :=
  if last.length = receiveChunk then [[]] else []

/-- What a device sends for a large object: the header alone or in front of the
payload, and the response by itself or, where `behind`, in the payload's last read. -/
inductive LargeObjectReads (header payload closing : Bytes) : (behind : Bool) → List Bytes →
    Prop where
  | headerAlone {fulls : List Bytes} {last : Bytes} (reads : PayloadReads payload fulls last) :
      LargeObjectReads header payload closing false
        (header :: (fulls ++ last :: (packetAfter last ++ [closing])))
  | headerInFront {fulls : List Bytes} {last : Bytes}
      (reads : PayloadReads (header ++ payload) fulls last) :
      LargeObjectReads header payload closing false
        (fulls ++ last :: (packetAfter last ++ [closing]))
  | headerAloneBehind {fulls : List Bytes} {last : Bytes} (reads : PayloadReads payload fulls last)
      (fits : (last ++ closing).length ≤ receiveChunk) :
      LargeObjectReads header payload closing true (header :: (fulls ++ [last ++ closing]))
  | headerInFrontBehind {fulls : List Bytes} {last : Bytes}
      (reads : PayloadReads (header ++ payload) fulls last)
      (fits : (last ++ closing).length ≤ receiveChunk) :
      LargeObjectReads header payload closing true (fulls ++ [last ++ closing])

namespace ReceiveStream

/-- The calls yielded `payload`, then `None`; the lock is free and nothing flagged. -/
structure Streamed (recovery : RecoveryState) (payload : Bytes) (later : List Read)
    (progress : Feed.Progress ReceiveStream Read StreamEvent ReceiveStream) : Prop where
  items : ∃ chunks : List Bytes, StreamEvent.items progress.events =
    (chunks.map fun chunk => some (.ok chunk)) ++ [none] ∧ chunks.flatten = payload
  ended : ∃ final : ReceiveStream, progress.outcome = .inr final ∧ final.done = true ∧
    final.guard = false ∧ final.recovery = recovery
  unread : progress.unread = later

/-- A stream inside a large object of whose payload `left` is still to be yielded. -/
structure Flowing (recovery : RecoveryState) (txId : UInt32) (left : Bytes)
    (stream : ReceiveStream) : Prop where
  streaming : stream.inPayload = true
  large : stream.largeObject = true
  held : stream.holding = (recovery, true, txId, false)
  counted : stream.payloadRemaining = none ∨ stream.payloadRemaining = some left.length

/-- A stream behind the container, with `extra` buffered. -/
structure Behind (recovery : RecoveryState) (txId : UInt32) (extra : Bytes)
    (stream : ReceiveStream) : Prop where
  idle : stream.inPayload = false
  buffer : stream.buffer = extra
  held : stream.holding = (recovery, true, txId, false)

section

variable {recovery : RecoveryState} {txId : UInt32} {left more extra piece : Bytes}
  {stream : ReceiveStream} {later : List Read}

theorem Streamed.after {progress : Feed.Progress ReceiveStream Read StreamEvent ReceiveStream}
    {events : List StreamEvent} {front : Bytes} (delivers : Delivers events front)
    (streamed : Streamed recovery left later progress) :
    Streamed recovery (front ++ left) later (progress.after events) where
  items := by
    obtain ⟨chunks, items, whole⟩ := delivers
    obtain ⟨others, items', whole'⟩ := streamed.items
    refine ⟨chunks ++ others, ?_, by rw [List.flatten_append, whole, whole']⟩
    show StreamEvent.items (events ++ progress.events) = _
    rw [StreamEvent.items_append, items, items', List.map_append, List.append_assoc]
  ended := streamed.ended
  unread := streamed.unread

/-- What one trip through the loop took off the wire comes first. -/
theorem serve_of_pass {next : ReceiveStream} {events : List WireEvent}
    (passed : stream.pass = (events ++ next.pass.1, next.pass.2)) :
    stream.serve = (events.map .wire ++ next.serve.1, next.serve.2) := by
  rcases same : next.pass with ⟨wires, waiting | onward | ⟨item, last⟩⟩ <;> rw [same] at passed
  · rw [serve_awaits passed, serve_awaits same, List.map_append]
  · rw [serve_continues passed, serve_continues same, List.map_append, List.append_assoc]
  · cases done : last.done with
    | false =>
        rw [serve_returns passed done, serve_returns same done]
        simp only [List.map_append, List.append_assoc]
    | true =>
        rw [serve_ends passed done, serve_ends same done]
        simp only [List.map_append, List.append_assoc]

theorem Flowing.going (flowing : Flowing recovery txId left stream) : stream.done = false :=
  congrArg (fun holding => holding.2.2.2) flowing.held

theorem Flowing.pass (flowing : Flowing recovery txId left stream) :
    stream.pass = stream.passPayload := by
  apply pass_of_payload
  intro idle
  rw [flowing.streaming] at idle
  cases idle

theorem Flowing.takeLength (flowing : Flowing recovery txId left stream)
    (buffered : stream.buffer = piece) (inside : piece.length ≤ left.length) :
    stream.takeLength = piece.length := by
  rcases flowing.counted with none_left | sized
  · simp only [ReceiveStream.takeLength, none_left, buffered]
  · simp only [ReceiveStream.takeLength, sized, buffered]
    omega

/-- The chunk handed over is all that was buffered, and the container goes on. -/
theorem Flowing.yields (flowing : Flowing recovery txId left stream)
    (solid : stream.buffer ≠ []) (inside : stream.buffer.length ≤ left.length)
    (unfinished : stream.payloadRemaining = none ∨ stream.buffer.length < left.length)
    (unbounded : stream.boundLargeObject = stream) :
    stream.passPayload =
      ([.payload stream.buffer], .returns (some (.ok stream.buffer)) stream.emptied) := by
  have positive := List.length_pos_of_ne_nil solid
  have length := flowing.takeLength rfl inside
  have goes_on : stream.payloadRemaining.map (· - stream.buffer.length) ≠ some 0 := by
    rcases flowing.counted with none_left | sized
    · rw [none_left]
      exact fun same => by cases same
    · have shorter : stream.buffer.length < left.length := by
        rcases unfinished with none_left | shorter
        · rw [none_left] at sized
          cases sized
        · exact shorter
      rw [sized, Option.map_some, ne_eq, Option.some.injEq]
      omega
  simp only [passPayload, unbounded, flowing.streaming, length, positive, true_and, ↓reduceIte,
    yieldChunk, goes_on, List.take_length, List.drop_length, emptied]

theorem Flowing.unfinished (flowing : Flowing recovery txId left stream)
    (more : stream.payloadRemaining = none ∨ left ≠ []) : stream.payloadRemaining ≠ some 0 := by
  intro zero
  rcases flowing.counted with none_left | sized
  · rw [none_left] at zero
    cases zero
  · rcases more with none_left | solid
    · rw [none_left] at zero
      cases zero
    · have positive := List.length_pos_of_ne_nil solid
      rw [sized, Option.some.injEq] at zero
      omega

/-- Nothing is buffered: the stream reads. -/
theorem Flowing.serve (flowing : Flowing recovery txId left stream)
    (more : stream.payloadRemaining = none ∨ left ≠ []) (empty : stream.buffer = [])
    (unbounded : stream.boundLargeObject = stream) :
    stream.serve = ([], .inl { stream with shortRead := false }) := by
  have zero : stream.takeLength = 0 := flowing.takeLength empty (Nat.zero_le _)
  have unfinished := flowing.unfinished more
  have passed : stream.pass = ([], .awaits { stream with shortRead := false }) := by
    rw [flowing.pass]
    simp only [passPayload, unbounded, zero, Nat.lt_irrefl, and_false, unfinished, ↓reduceIte]
  rw [serve_awaits passed, List.map_nil]

/-- A full read inside the payload is one chunk, and the stream reads on. -/
theorem Flowing.advances (flowing : Flowing recovery txId (piece ++ more) stream)
    (buffered : stream.buffer = piece) (solid : piece ≠ []) (unfinished : more ≠ [])
    (full : stream.shortRead = false) :
    ∃ next, Flowing recovery txId more next ∧ next.buffer = [] ∧
      (next.payloadRemaining = none → stream.payloadRemaining = none) ∧
      ∀ reads, stream.serveRun reads = (next.run reads).after
        ([.payload piece].map .wire ++ [.returned (some (.ok piece))]) := by
  have length : (piece ++ more).length = piece.length + more.length := List.length_append
  have positive := List.length_pos_of_ne_nil unfinished
  have chunk := flowing.yields (by rw [buffered]; exact solid) (by rw [buffered]; omega)
    (Or.inr (by rw [buffered]; omega)) (boundLargeObject_of_full full)
  rw [← flowing.pass, buffered] at chunk
  have next : Flowing recovery txId more stream.emptied := {
    streaming := flowing.streaming
    large := flowing.large
    held := flowing.held
    counted := by
      rcases flowing.counted with none_left | sized
      · exact Or.inl (by simp only [emptied, none_left, Option.map_none])
      · refine Or.inr ?_
        simp only [emptied, sized, buffered, Option.map_some, length, Nat.add_sub_cancel_left] }
  have waits := next.serve (Or.inr unfinished) rfl (boundLargeObject_of_full full)
  refine ⟨{ stream.emptied with shortRead := false }, { next with }, rfl,
    fun nothing => Option.map_eq_none_iff.mp nothing, fun reads => ?_⟩
  rw [serveRun_after (serve_returns chunk next.going), serveRun_waits waits]

/-- A stream behind the container with nothing buffered reads. -/
theorem Behind.serve (behind : Behind recovery txId [] stream) :
    stream.serve = ([], .inl { stream with shortRead := false }) := by
  have same : stream.boundLargeObject = stream := by
    simp only [boundLargeObject, behind.idle, Bool.false_and, Bool.false_eq_true, ↓reduceIte]
  have passed : stream.pass = ([], .awaits { stream with shortRead := false }) := by
    rw [pass_of_payload fun _ => by rw [behind.buffer]; decide]
    simp only [passPayload, same, behind.idle, Bool.false_eq_true, false_and, ↓reduceIte]
  rw [serve_awaits passed, List.map_nil]

/-- The response behind the container ends the stream. -/
theorem Behind.closes {response : ResponseContainer} {closing : Bytes}
    (behind : Behind recovery response.transactionId closing stream)
    (parsed : ResponseContainer.fromBytes closing = .ok response) (accepted : response.code = .ok)
    (later : List Read) : Streamed recovery [] later (stream.serveRun later) := by
  obtain ⟨header, view⟩ := ResponseContainer.parsed_of_fromBytes parsed
  have own : response.transactionId = stream.transactionId :=
    (congrArg (fun holding => holding.2.2.1) behind.held).symm
  have served : stream.serve =
      ([.wire (.reply response []), .returned none], .inr (stream.finish false)) := by
    rw [serve_ends (pass_of_done behind.idle (by rw [behind.buffer]; exact view.long)
      (consumeContainerHeader_done (by rw [behind.buffer]; exact parsed) own accepted)) rfl]
    rfl
  have same : stream.recovery = recovery := congrArg (fun holding => holding.1) behind.held
  rw [serveRun, served]
  exact ⟨⟨[], rfl, rfl⟩, ⟨_, rfl, rfl, rfl, same⟩, rfl⟩

/-- The last of the payload is yielded, and what is behind it stays. -/
theorem Flowing.ends (flowing : Flowing recovery txId left stream) (solid : left ≠ [])
    (buffered : stream.buffer = left ++ extra)
    (bounded : stream.boundLargeObject.payloadRemaining = some left.length) :
    ∃ next, Behind recovery txId extra next ∧ next.expectZeroLengthPacket = true ∧
      ∀ reads, stream.serveRun reads = (next.serveRun reads).after
        ([.payload left].map .wire ++ [.returned (some (.ok left))]) := by
  have positive := List.length_pos_of_ne_nil solid
  have length : stream.boundLargeObject.takeLength = left.length := by
    simp only [ReceiveStream.takeLength, bounded, boundLargeObject_buffer, buffered,
      List.length_append]
    omega
  have ends : (some left.length).map (· - left.length) = some 0 := by
    rw [Option.map_some, Nat.sub_self]
  have passed : stream.pass =
      ([.payload left], .returns (some (.ok left)) stream.boundLargeObject.yieldChunk.2) := by
    rw [flowing.pass]
    simp only [passPayload, boundLargeObject_inPayload, flowing.streaming, length, positive,
      true_and, ↓reduceIte, yieldChunk, boundLargeObject_buffer, buffered, List.take_left]
  have held : stream.boundLargeObject.yieldChunk.2.holding = (recovery, true, txId, false) := by
    rw [yieldChunk_holding, boundLargeObject_holding, flowing.held]
  have next : Behind recovery txId extra stream.boundLargeObject.yieldChunk.2 ∧
      stream.boundLargeObject.yieldChunk.2.expectZeroLengthPacket = true := by
    refine ⟨⟨?_, ?_, held⟩, ?_⟩ <;>
      simp only [yieldChunk, bounded, length, ends, ↓reduceIte, endContainer,
        boundLargeObject_buffer, buffered, List.drop_left]
  refine ⟨_, next.1, next.2, fun reads => ?_⟩
  exact serveRun_after (serve_returns passed (congrArg (fun holding => holding.2.2.2) held)) reads

/-- A short read behind which nothing is buffered ends the payload. -/
theorem Flowing.drained (flowing : Flowing recovery txId left stream) (empty : stream.buffer = [])
    (unsized : stream.payloadRemaining = none) (short : stream.shortRead = true)
    (yielded : 0 < stream.payloadYielded) :
    ∃ next, Behind recovery txId [] next ∧ stream.serve = ([], .inl next) := by
  have bounded : stream.boundLargeObject = { stream with payloadRemaining := some 0 } := by
    simp only [boundLargeObject, flowing.streaming, flowing.large, short, yielded, decide_true,
      Bool.and_self, ↓reduceIte, unsized, empty, List.length_nil]
  have passed : stream.pass = ([], .continues stream.boundLargeObject.endContainer) := by
    rw [flowing.pass]
    simp only [passPayload, bounded, flowing.streaming, ReceiveStream.takeLength, empty,
      List.length_nil, Nat.min_self, Nat.lt_irrefl, and_false, and_self, ↓reduceIte]
  have behind : Behind recovery txId [] stream.boundLargeObject.endContainer := by
    refine ⟨rfl, ?_, ?_⟩
    · show stream.boundLargeObject.buffer = []
      rw [boundLargeObject_buffer, empty]
    · show stream.boundLargeObject.holding = _
      rw [boundLargeObject_holding, flowing.held]
  refine ⟨{ stream.boundLargeObject.endContainer with shortRead := false }, { behind with }, ?_⟩
  rw [serve_continues passed, behind.serve]
  rfl

/-- The empty read that an ended container lets expect. -/
theorem Behind.packet (behind : Behind recovery txId [] stream)
    (expected : stream.expectZeroLengthPacket = true) :
    ∃ next, Behind recovery txId [] next ∧
      ∀ later, stream.run (.ok [] :: later) = next.run later := by
  have taken : stream.received (.ok []) =
      .continues { stream with expectZeroLengthPacket := false } := by
    simp only [received, List.isEmpty_nil, behind.idle, expected, Bool.false_and,
      Bool.false_eq_true, ↓reduceIte]
  have next : Behind recovery txId [] { stream with expectZeroLengthPacket := false } :=
    { behind with }
  refine ⟨{ stream with expectZeroLengthPacket := false, shortRead := false }, { behind with },
    fun later => ?_⟩
  rw [run_continues taken, serveRun_waits next.serve]

/-- The read that holds the end of the payload and nothing else, and the packet
behind it if it was full. -/
theorem Flowing.completes (flowing : Flowing recovery txId left stream) (solid : left ≠ [])
    (buffered : stream.buffer = left) {last : Bytes} (fits : last.length ≤ receiveChunk)
    (short : stream.shortRead = decide (last.length < receiveChunk)) :
    ∃ events next, Delivers events left ∧ Behind recovery txId [] next ∧
      ∀ later, stream.serveRun ((packetAfter last).map .ok ++ later) =
        (next.run later).after events := by
  have delivers := Delivers.one [.payload left] left
  by_cases bounded : stream.boundLargeObject.payloadRemaining = some left.length
  · obtain ⟨next, behind, packet, served⟩ := flowing.ends solid
      (buffered.trans (List.append_nil left).symm) bounded
    have waits : Behind recovery txId [] { next with shortRead := false } := { behind with }
    by_cases full : last.length = receiveChunk
    · obtain ⟨after, behind', ran⟩ := waits.packet packet
      refine ⟨_, after, delivers, behind', fun later => ?_⟩
      rw [served, serveRun_waits behind.serve, packetAfter, if_pos full]
      exact congrArg (Feed.Progress.after _) (ran later)
    · refine ⟨_, _, delivers, waits, fun later => ?_⟩
      rw [served, serveRun_waits behind.serve, packetAfter, if_neg full]
      rfl
  · -- no size is known, and the end is not yet told by a short read
    have unsized : stream.payloadRemaining = none := by
      rcases flowing.counted with none_left | sized
      · exact none_left
      · refine absurd ?_ bounded
        unfold boundLargeObject
        split
        · simp only [sized, buffered, Nat.min_self]
        · exact sized
    have unbounded : stream.boundLargeObject = stream := by
      unfold boundLargeObject at bounded ⊢
      split at bounded
      · simp only [unsized, buffered, not_true] at bounded
      · rename_i unmet
        rw [if_neg unmet]
    have chunk := flowing.yields (by rw [buffered]; exact solid) (by rw [buffered])
      (Or.inl unsized) unbounded
    rw [← flowing.pass, buffered] at chunk
    have emptied : Flowing recovery txId [] stream.emptied := {
      streaming := flowing.streaming
      large := flowing.large
      held := flowing.held
      counted := Or.inl (by simp only [ReceiveStream.emptied, unsized, Option.map_none]) }
    have unsized' : stream.emptied.payloadRemaining = none := by
      simp only [ReceiveStream.emptied, unsized, Option.map_none]
    have yielded : 0 < stream.emptied.payloadYielded := by
      have positive := List.length_pos_of_ne_nil solid
      show 0 < stream.payloadYielded + stream.buffer.length
      rw [buffered]
      omega
    by_cases full : last.length = receiveChunk
    · have long : stream.emptied.shortRead = false := by
        show stream.shortRead = false
        rw [short, full]
        exact decide_eq_false (Nat.lt_irrefl _)
      have waits := emptied.serve (Or.inl unsized') rfl (boundLargeObject_of_full long)
      have kept : { stream.emptied with shortRead := false } = stream.emptied := by rw [← long]
      have taken : stream.emptied.received (.ok []) =
          .continues { stream.emptied with shortRead := true } := by
        simp only [received, List.isEmpty_nil, emptied.streaming, emptied.large, Bool.and_self,
          ↓reduceIte]
      have ending : Flowing recovery txId [] { stream.emptied with shortRead := true } :=
        { emptied with }
      obtain ⟨next, behind, served⟩ := ending.drained rfl unsized' rfl yielded
      refine ⟨_, next, delivers, behind, fun later => ?_⟩
      have ran : stream.emptied.run (.ok [] :: later) = next.run later := by
        rw [run_continues taken, serveRun_waits served]
      rw [serveRun_after (serve_returns chunk emptied.going), serveRun_waits waits, kept,
        packetAfter, if_pos full]
      exact congrArg (Feed.Progress.after _) ran
    · have brief : stream.emptied.shortRead = true := by
        show stream.shortRead = true
        rw [short]
        exact decide_eq_true (by omega)
      obtain ⟨next, behind, served⟩ := emptied.drained rfl unsized' brief yielded
      refine ⟨_, next, delivers, behind, fun later => ?_⟩
      rw [serveRun_after (serve_returns chunk emptied.going), packetAfter, if_neg full,
        List.map_nil, List.nil_append, serveRun_waits served]

/-- So does the response in a read of its own. -/
theorem Behind.run_closes {response : ResponseContainer} {closing : Bytes}
    (behind : Behind recovery response.transactionId [] stream)
    (parsed : ResponseContainer.fromBytes closing = .ok response) (accepted : response.code = .ok)
    (later : List Read) : Streamed recovery [] later (stream.run (.ok closing :: later)) := by
  have solid : closing ≠ [] := by
    intro none_read
    rw [none_read] at parsed
    cases parsed
  have filled : Behind recovery response.transactionId closing (stream.filled closing) :=
    { behind with buffer := rfl }
  rw [run_continues (received_filled behind.buffer solid)]
  exact filled.closes parsed accepted later

/-- The full reads in front of the last one. -/
theorem Flowing.run_fulls (fulls : List Bytes) : ∀ {stream : ReceiveStream},
    (∀ piece ∈ fulls, piece.length = receiveChunk) →
    Flowing recovery txId (fulls.flatten ++ left) stream → stream.buffer = [] → left ≠ [] →
    ∃ events next, Delivers events fulls.flatten ∧ Flowing recovery txId left next ∧
      next.buffer = [] ∧ (next.payloadRemaining = none → stream.payloadRemaining = none) ∧
      ∀ reads, stream.run (fulls.map .ok ++ reads) = (next.run reads).after events := by
  induction fulls with
  | nil =>
      intro stream full flowing empty solid
      exact ⟨[], stream, Delivers.nil, flowing, empty, fun nothing => nothing, fun reads => rfl⟩
  | cons piece rest ih =>
      intro stream full flowing empty solid
      have length := full piece List.mem_cons_self
      have solid' : piece ≠ [] := by
        intro none_read
        rw [none_read] at length
        cases length
      have unfinished : rest.flatten ++ left ≠ [] := fun nothing =>
        solid (List.append_eq_nil_iff.mp nothing).2
      have filled : Flowing recovery txId (piece ++ (rest.flatten ++ left))
        (stream.filled piece) := by
        rw [← List.append_assoc, ← List.flatten_cons]
        exact { flowing with }
      have long : (stream.filled piece).shortRead = false :=
        decide_eq_false (by omega)
      obtain ⟨middle, flowing', empty', sized, served⟩ :=
        filled.advances rfl solid' unfinished long
      obtain ⟨events, next, delivers, last, empty'', sized', ran⟩ := ih
        (fun other inside => full other (List.mem_cons_of_mem _ inside)) flowing' empty' solid
      refine ⟨_, next, (Delivers.one [.payload piece] piece).append delivers, last, empty'',
        fun nothing => sized (sized' nothing), fun reads => ?_⟩
      rw [List.map_cons, List.cons_append, run_continues (received_filled empty solid'), served,
        ran, Feed.Progress.after_after]

/-- How the response comes: behind the payload's end, or in a read of its own. -/
def lastReads (last closing : Bytes) (behind : Bool) : List Bytes :=
  if behind then [last ++ closing] else last :: (packetAfter last ++ [closing])

variable {response : ResponseContainer} {closing : Bytes} {behind : Bool}

/-- The stream with the end of the payload buffered, `last` being the read it came in. -/
theorem Flowing.closes (flowing : Flowing recovery response.transactionId left stream)
    (solid : left ≠ []) {last : Bytes}
    (sized : behind = true → stream.payloadRemaining ≠ none)
    (buffered : stream.buffer = left ++ if behind then closing else [])
    (fits : last.length ≤ receiveChunk)
    (short : behind = false → stream.shortRead = decide (last.length < receiveChunk))
    (parsed : ResponseContainer.fromBytes closing = .ok response) (accepted : response.code = .ok)
    (later : List Read) :
    Streamed recovery left later (stream.serveRun
      ((if behind then [] else (packetAfter last ++ [closing]).map .ok) ++ later)) := by
  have whole : left ++ [] = left := List.append_nil left
  cases behind with
  | true =>
      have counted := flowing.counted.resolve_left (sized rfl)
      have bounded : stream.boundLargeObject.payloadRemaining = some left.length := by
        unfold boundLargeObject
        split
        · simp only [counted, buffered, List.length_append]
          congr 1
          omega
        · exact counted
      obtain ⟨next, behind, _, served⟩ := flowing.ends solid buffered bounded
      rw [← whole, if_pos rfl, served]
      exact (behind.closes parsed accepted later).after (Delivers.one [.payload left] left)
  | false =>
      obtain ⟨events, next, delivers, behind, served⟩ :=
        flowing.completes solid (buffered.trans whole) fits (short rfl)
      have split : (if false = true then [] else (packetAfter last ++ [closing]).map Except.ok) ++
          later = (packetAfter last).map .ok ++ (.ok closing :: later) := by
        simp
      rw [← whole, split, served]
      exact (behind.run_closes parsed accepted later).after delivers

/-- The rest of the reads, from a stream that waits inside the payload. -/
theorem Flowing.streams {fulls : List Bytes} {last : Bytes}
    (flowing : Flowing recovery response.transactionId left stream) (empty : stream.buffer = [])
    (reads : PayloadReads left fulls last)
    (sized : behind = true → stream.payloadRemaining ≠ none)
    (parsed : ResponseContainer.fromBytes closing = .ok response) (accepted : response.code = .ok)
    (later : List Read) :
    Streamed recovery left later
      (stream.run ((fulls ++ lastReads last closing behind).map .ok ++ later)) := by
  have flowing' : Flowing recovery response.transactionId (fulls.flatten ++ last) stream := by
    rw [reads.whole]
    exact flowing
  obtain ⟨events, next, delivers, flows, empty', sized', ran⟩ :=
    Flowing.run_fulls fulls reads.full flowing' empty reads.solid
  have piece : last ++ (if behind then closing else []) ≠ [] := fun nothing =>
    reads.solid (List.append_eq_nil_iff.mp nothing).1
  have filled : Flowing recovery response.transactionId last
      (next.filled (last ++ if behind then closing else [])) := { flows with }
  have short : behind = false → (next.filled (last ++ if behind then closing else [])).shortRead =
      decide (last.length < receiveChunk) := by
    intro alone
    rw [alone, if_neg Bool.false_ne_true, List.append_nil]
    rfl
  have streamed := filled.closes reads.solid
    (fun together nothing => sized together (sized' nothing)) rfl reads.fits short parsed accepted
    later
  have split : (fulls ++ lastReads last closing behind).map Except.ok ++ later =
      fulls.map .ok ++ (.ok (last ++ if behind then closing else []) ::
        ((if behind then [] else (packetAfter last ++ [closing]).map .ok) ++ later)) := by
    cases behind <;> simp [lastReads]
  rw [split, ran, run_continues (received_filled empty' piece), ← reads.whole]
  exact streamed.after delivers

/-- A stream at a header that cannot say the length goes on inside the payload. -/
theorem open_large {header : ContainerHeader} {front payload : Bytes}
    (sentinel : header.length = largeObjectLengthSentinel)
    (type : header.typeCode = ContainerType.data.toCode) (idle : stream.inPayload = false)
    (held : stream.holding = (recovery, true, txId, false))
    (buffered : stream.buffer = packHeader header ++ front)
    (size : stream.expectedPayloadLen = none ∨ stream.expectedPayloadLen = some payload.length) :
    Flowing recovery txId payload (stream.openContainer header.length) ∧
      (stream.openContainer header.length).buffer = front ∧
      ∀ reads, stream.serveRun reads = ((stream.openContainer header.length).serveRun reads).after
        [.wire (.header (packHeader header))] := by
  have long : headerSize ≤ stream.buffer.length := by
    rw [buffered, List.length_append, packHeader_length]
    omega
  have read : unpackHeader stream.buffer = .ok header := by
    rw [buffered, unpackHeader_packHeader]
  have taken : stream.buffer.take headerSize = packHeader header := by
    rw [buffered]
    exact List.take_left' (packHeader_length header)
  have consumed : stream.consumeContainerHeader =
      (stream.openContainer header.length, [.header (packHeader header)], .ok .data) := by
    simp only [consumeContainerHeader, containerType_of_header long read (by rw [type]; rfl :
      ContainerType.ofCode header.typeCode = some .data), (unpackHeader_fields read).1, sentinel,
      ne_eq, not_true, false_and, ↓reduceIte, taken]
  have flowing : Flowing recovery txId payload (stream.openContainer header.length) := by
    refine ⟨rfl, ?_, held, ?_⟩
    · simp only [openContainer, sentinel, BEq.rfl]
    · simpa only [openContainer, sentinel, ↓reduceIte] using size
  refine ⟨flowing, ?_, fun reads => ?_⟩
  · simp only [openContainer, buffered]
    exact List.drop_left' (packHeader_length header)
  · have passed : stream.pass = ([.header (packHeader header)] ++
        (stream.openContainer header.length).pass.1,
          (stream.openContainer header.length).pass.2) := by
      rw [pass_of_data idle long consumed, flowing.pass]
    exact serveRun_after (serve_of_pass passed) reads

/-- The stream a started one is, once it waits for its first read. -/
theorem start_waits (recovery : RecoveryState) (txId : UInt32) (operation : OperationCode)
    (size : Option Nat) (reads : List Read) :
    (start recovery txId operation size).serveRun reads =
      (start recovery txId operation size).run reads := by
  have passed : (start recovery txId operation size).pass =
      ([], .awaits (start recovery txId operation size)) := rfl
  exact serveRun_waits (serve_awaits passed) reads

/-- The first read of a large object opens it, whatever it holds behind the header. -/
theorem start_opens (recovery : RecoveryState) (txId : UInt32) (operation : OperationCode)
    (first : Bytes) {header : ContainerHeader} {payload : Bytes} {size : Option Nat}
    (sentinel : header.length = largeObjectLengthSentinel)
    (type : header.typeCode = ContainerType.data.toCode)
    (sizes : size = none ∨ size = some payload.length) :
    ∃ next, Flowing recovery txId payload next ∧ next.buffer = first ∧
      next.payloadRemaining = size ∧ next.payloadYielded = 0 ∧
      next.shortRead = decide ((packHeader header ++ first).length < receiveChunk) ∧
      ∀ reads, (start recovery txId operation size).run
          (.ok (packHeader header ++ first) :: reads) =
        (next.serveRun reads).after [.wire (.header (packHeader header))] := by
  have solid : packHeader header ++ first ≠ [] := fun nothing => by
    have length := congrArg List.length nothing
    simp [headerSize] at length
  have idle : ((start recovery txId operation size).filled
      (packHeader header ++ first)).inPayload = false := rfl
  obtain ⟨flowing, buffer, served⟩ := open_large sentinel type idle rfl rfl sizes
  refine ⟨_, flowing, buffer, ?_, rfl, rfl, fun reads => ?_⟩
  · simp only [openContainer, sentinel, ↓reduceIte, filled, start]
  · rw [run_continues (received_filled rfl solid), served]

/-- The payload's first read has the header in front of it. -/
theorem start_streams_in_front {header : ContainerHeader} {payload : Bytes} {fulls : List Bytes}
    {last : Bytes} (operation : OperationCode) {size : Option Nat}
    (sentinel : header.length = largeObjectLengthSentinel)
    (type : header.typeCode = ContainerType.data.toCode) (solid : payload ≠ [])
    (reads : PayloadReads (packHeader header ++ payload) fulls last)
    (sizes : size = none ∨ size = some payload.length) (sized : behind = true → size ≠ none)
    (parsed : ResponseContainer.fromBytes closing = .ok response) (accepted : response.code = .ok)
    (later : List Read) :
    Streamed recovery payload later
      ((start recovery response.transactionId operation size).run
        ((fulls ++ lastReads last closing behind).map .ok ++ later)) := by
  have opened := Delivers.none [.header (packHeader header)]
  cases fulls with
  | nil =>
      have whole : last = packHeader header ++ payload := reads.whole
      obtain ⟨next, flowing, buffer, remaining, _, short, ran⟩ :=
        start_opens recovery response.transactionId operation
          (payload ++ if behind then closing else []) sentinel type sizes
      have streamed := flowing.closes solid
        (fun together => by rw [remaining]; exact sized together) buffer reads.fits
        (fun alone => by rw [short, alone, whole]; simp) parsed accepted later
      have split : ([] ++ lastReads last closing behind).map Except.ok ++ later =
          .ok (packHeader header ++ (payload ++ if behind then closing else [])) ::
            ((if behind then [] else (packetAfter last ++ [closing]).map .ok) ++ later) := by
        rw [← List.append_assoc, ← whole]
        cases behind <;> simp [lastReads]
      rw [split, ran]
      exact streamed.after opened
  | cons first rest =>
      have length := reads.full first List.mem_cons_self
      have header_length := packHeader_length header
      have whole : first ++ (rest.flatten ++ last) = packHeader header ++ payload := by
        rw [← reads.whole, List.flatten_cons, List.append_assoc]
      have unfinished : rest.flatten ++ last ≠ [] := fun nothing =>
        reads.solid (List.append_eq_nil_iff.mp nothing).2
      rcases List.append_eq_append_iff.mp whole with ⟨middle, early, _⟩ | ⟨front, same, payload'⟩
      · have lengths := congrArg List.length early
        rw [List.length_append, header_length, length] at lengths
        unfold headerSize receiveChunk at lengths
        omega
      · have front_length := congrArg List.length same
        rw [List.length_append, header_length, length] at front_length
        have some : front ≠ [] := by
          intro nothing
          rw [nothing] at front_length
          cases front_length
        obtain ⟨next, flowing, buffer, remaining, _, short, ran⟩ :=
          start_opens recovery response.transactionId operation front sentinel type sizes
        rw [payload'] at flowing
        have long : next.shortRead = false := by
          rw [short, ← same, length]
          exact decide_eq_false (Nat.lt_irrefl _)
        obtain ⟨middle, flows, empty, sized', served⟩ :=
          flowing.advances buffer some unfinished long
        have streamed : Streamed recovery (rest.flatten ++ last) later
            (middle.run ((rest ++ lastReads last closing behind).map .ok ++ later)) :=
          flows.streams empty
            ⟨rfl, fun piece inside => reads.full piece (List.mem_cons_of_mem _ inside),
              reads.solid, reads.fits⟩
            (fun together nothing => sized together (by rw [← remaining]; exact sized' nothing))
            parsed accepted later
        have whole := (streamed.after (Delivers.one [.payload front] front)).after opened
        rw [List.cons_append, List.map_cons, List.cons_append, same, ran, served, payload']
        exact whole

/-- A large object is streamed byte for byte: without an expected size when the
response comes by itself, and with the payload's length either way. -/
theorem large_object_streamed (recovery : RecoveryState) (operation : OperationCode)
    {header : ContainerHeader} (sentinel : header.length = largeObjectLengthSentinel)
    (type : header.typeCode = ContainerType.data.toCode) {payload : Bytes} (solid : payload ≠ [])
    {response : ResponseContainer} {closing : Bytes}
    (parsed : ResponseContainer.fromBytes closing = .ok response) (accepted : response.code = .ok)
    {behind : Bool} {reads : List Bytes}
    (sends : LargeObjectReads (packHeader header) payload closing behind reads) {size : Option Nat}
    (sizes : size = some payload.length ∨ size = none ∧ behind = false) (later : List Read) :
    Streamed recovery payload later
      ((start recovery response.transactionId operation size).serveRun
        (reads.map .ok ++ later)) := by
  have expected : size = none ∨ size = some payload.length :=
    sizes.elim Or.inr fun unsized => Or.inl unsized.1
  have sized : behind = true → size ≠ none := by
    intro together nothing
    rcases sizes with same | alone
    · rw [nothing] at same
      cases same
    · rw [alone.2] at together
      cases together
  -- the header came alone: the reads behind it, from the stream it opens
  have alone : ∀ {fulls : List Bytes} {last : Bytes}, PayloadReads payload fulls last →
      Streamed recovery payload later
        ((start recovery response.transactionId operation size).run
          (.ok (packHeader header) :: ((fulls ++ lastReads last closing behind).map .ok ++
            later))) := by
    intro fulls last reads
    obtain ⟨next, flowing, buffer, remaining, yielded, _, ran⟩ :=
      start_opens recovery response.transactionId operation [] sentinel type expected
    have unbounded : next.boundLargeObject = next := by
      simp only [boundLargeObject, yielded, Nat.lt_irrefl, decide_false, Bool.and_false,
        Bool.false_eq_true, ↓reduceIte]
    have waits : Flowing recovery response.transactionId payload { next with shortRead := false } :=
      { flowing with }
    have streamed : Streamed recovery payload later
        (({ next with shortRead := false } : ReceiveStream).run
          ((fulls ++ lastReads last closing behind).map .ok ++ later)) := waits.streams buffer reads
      (fun together => by
        rw [show next.payloadRemaining = size from remaining]
        exact sized together)
      parsed accepted later
    rw [List.append_nil] at ran
    rw [ran, serveRun_waits (flowing.serve (Or.inr solid) buffer unbounded)]
    exact streamed.after (Delivers.none [.header (packHeader header)])
  rw [start_waits]
  cases sends with
  | headerAlone reads => exact alone reads
  | headerInFront reads =>
      exact start_streams_in_front operation sentinel type solid reads expected sized parsed
        accepted later
  | headerAloneBehind reads fits => exact alone reads
  | headerInFrontBehind reads fits =>
      exact start_streams_in_front operation sentinel type solid reads expected sized parsed
        accepted later

end

/-- One byte behind a header that came alone, with its length expected and the
response behind it. -/
theorem large_object_streamed_one_byte :
    Streamed .initial [0xAA] [] ((start .initial 1 .getObject (some 1)).serveRun
      ([packHeader ⟨largeObjectLengthSentinel, 2, 0x1009, 1⟩,
        [0xAA, 12, 0, 0, 0, 3, 0, 0x01, 0x20, 1, 0, 0, 0]].map .ok ++ [])) := by
  have reads : PayloadReads [0xAA] [] [0xAA] := by
    refine ⟨rfl, fun _ inside => ?_, List.cons_ne_nil _ _, by decide⟩
    cases inside
  have parsed : ResponseContainer.fromBytes [12, 0, 0, 0, 3, 0, 0x01, 0x20, 1, 0, 0, 0] =
      .ok ⟨.ok, 1, []⟩ := rfl
  exact large_object_streamed .initial .getObject rfl rfl (List.cons_ne_nil _ _) parsed rfl
    (.headerAloneBehind reads (by decide)) (Or.inl rfl) []

end ReceiveStream

end Ptp
