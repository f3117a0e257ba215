import MtpRs.Ptp.Session.StreamRule

set_option autoImplicit false

/- A legal data phase cut into bulk reads anywhere, and what a stream makes of it. -/
namespace Ptp

def wireBytes (containers : List DataContainer) : Bytes :=
  containers.flatMap DataContainer.toBytes

def payloadBytes (containers : List DataContainer) : Bytes :=
  containers.flatMap DataContainer.payload

section WireBytes

variable (container : DataContainer) (front back : List DataContainer)

@[simp] theorem wireBytes_nil : wireBytes [] = [] := rfl

@[simp] theorem wireBytes_cons :
    wireBytes (container :: back) = container.toBytes ++ wireBytes back := rfl

@[simp] theorem wireBytes_append : wireBytes (front ++ back) = wireBytes front ++ wireBytes back :=
  List.flatMap_append

@[simp] theorem payloadBytes_nil : payloadBytes [] = [] := rfl

@[simp] theorem payloadBytes_append :
    payloadBytes (front ++ back) = payloadBytes front ++ payloadBytes back :=
  List.flatMap_append

@[simp] theorem payloadBytes_singleton : payloadBytes [container] = container.payload := by
  simp only [payloadBytes, List.flatMap_cons, List.flatMap_nil, List.append_nil]

end WireBytes

/-- Any container on the wire is at least its header. -/
theorem eq_nil_of_wireBytes_lt {containers : List DataContainer}
    (short : (wireBytes containers).length < headerSize) : containers = [] := by
  cases containers with
  | nil => rfl
  | cons container rest =>
      simp only [wireBytes_cons, List.length_append, DataContainer.toBytes_length] at short
      omega

/-- Take the same number of elements off both sides of two equal concatenations. -/
theorem take_drop_of_append {front back front' back' : Bytes} (count : Nat)
    (same : front ++ back = front' ++ back') (inside : count ≤ front.length)
    (inside' : count ≤ front'.length) :
    front.take count = front'.take count ∧
      front.drop count ++ back = front'.drop count ++ back' := by
  constructor
  · have taken := congrArg (List.take count) same
    rwa [List.take_append_of_le_length inside, List.take_append_of_le_length inside'] at taken
  · have dropped := congrArg (List.drop count) same
    rwa [List.drop_append_of_le_length inside, List.drop_append_of_le_length inside'] at dropped

/-- The reads of a data phase: `containers`, then a response that no read cuts
apart. An empty read stands only behind a container that is wholly read, and
never behind another one. -/
structure Cut (containers : List DataContainer) (closing : Bytes) (reads : List Bytes) :
    Prop where
  whole : reads.flatten = wireBytes containers ++ closing
  uncut : ∃ front last, reads = front ++ [last] ∧ closing <:+ last
  empties : ∀ front back, reads = front ++ [] :: back →
    (∃ read unread, read ≠ [] ∧ containers = read ++ unread ∧ front.flatten = wireBytes read) ∧
      front.getLast? ≠ some []

namespace ReceiveStream

/-- A long enough buffer that starts a data container has its header taken. -/
theorem consumeContainerHeader_data {self : ReceiveStream} {container : DataContainer}
    {more rest : Bytes} (front : self.buffer ++ more = container.toBytes ++ rest)
    (long : headerSize ≤ self.buffer.length)
    (fits : headerSize + container.payload.length < 2 ^ 32) :
    self.consumeContainerHeader = (self.openContainer container.header.length,
      [.header (self.buffer.take headerSize)], .ok .data) := by
  have type : containerType self.buffer = .ok .data :=
    containerType_of_header long (container.header_of_front front long) rfl
  have length := container.length_of_front front long
  have least : ¬ (container.header.length ≠ largeObjectLengthSentinel ∧
      container.header.length.toNat < headerSize) := by
    intro less
    rw [container.header_length fits] at less
    omega
  simp only [consumeContainerHeader, type, length, least, ↓reduceIte]

/-- The transaction's own `Ok` response ends the stream. -/
theorem consumeContainerHeader_done {self : ReceiveStream} {response : ResponseContainer}
    (parsed : ResponseContainer.fromBytes self.buffer = .ok response)
    (own : response.transactionId = self.transactionId) (accepted : response.code = .ok) :
    self.consumeContainerHeader = (self, [.reply response []], .ok .done) := by
  have type := ResponseContainer.containerType_of_fromBytes parsed
  have foreign : ¬ response.transactionId ≠ self.transactionId := fun other => other own
  have bad : ¬ response.code ≠ .ok := fun other => other accepted
  simp only [consumeContainerHeader, type, parsed, foreign, bad, ↓reduceIte]

/-- The header of a data container goes first, and its payload is next. -/
theorem pass_of_data {self next : ReceiveStream} {events : List WireEvent}
    (between : self.inPayload = false) (long : headerSize ≤ self.buffer.length)
    (consumed : self.consumeContainerHeader = (next, events, .ok .data)) :
    self.pass = (events ++ next.passPayload.1, next.passPayload.2) := by
  rw [pass, if_pos ⟨between, long⟩, consumed]

theorem pass_of_done {self next : ReceiveStream} {events : List WireEvent}
    (between : self.inPayload = false) (long : headerSize ≤ self.buffer.length)
    (consumed : self.consumeContainerHeader = (next, events, .ok .done)) :
    self.pass = (events, .returns none (next.finish false)) := by
  rw [pass, if_pos ⟨between, long⟩, consumed]

theorem pass_of_payload {self : ReceiveStream}
    (none_waiting : self.inPayload = false → self.buffer.length < headerSize) :
    self.pass = self.passPayload := by
  rw [pass, if_neg fun waiting => absurd waiting.2 (Nat.not_le_of_lt (none_waiting waiting.1))]

/-- A container whose length field is true is bounded by it. -/
theorem openContainer_sized (self : ReceiveStream) {container : DataContainer}
    (fits : headerSize + container.payload.length < 2 ^ 32 - 1) :
    (self.openContainer container.header.length).payloadRemaining =
        some container.payload.length ∧
      (self.openContainer container.header.length).largeObject = false := by
  have total := container.header_length (by omega)
  have sized : container.header.length ≠ largeObjectLengthSentinel := by
    intro same
    rw [same] at total
    change 2 ^ 32 - 1 = _ at total
    omega
  simp only [openContainer, sized, ↓reduceIte, total, beq_eq_false_iff_ne, ne_eq, not_false_eq_true,
    and_true, Option.some.injEq]
  omega

theorem boundLargeObject_of_sized {self : ReceiveStream} (sized : self.largeObject = false) :
    self.boundLargeObject = self := by
  simp only [boundLargeObject, sized, Bool.and_false, Bool.false_and, Bool.false_eq_true,
    ↓reduceIte]

/-- Where a stream stands in a data phase: the chunks it has yielded, the
containers whose header it has taken and those to come, and the payload left of
the last one taken while that is open. -/
structure Place where
  chunks : List Bytes
  gone : List DataContainer
  rest : List DataContainer
  left : Option Bytes

variable (recovery : RecoveryState) (containers : List DataContainer) (closing : Bytes)
  (response : ResponseContainer)

/-- The stream stands at `place`, with `taken` read and `later` to come. -/
structure Within (place : Place) (taken later : List Bytes) (acc : List StreamEvent)
    (stream : ReceiveStream) : Prop where
  recovery : stream.recovery = recovery
  transactionId : stream.transactionId = response.transactionId
  going : stream.done = false
  sized : stream.largeObject = false
  split : containers = place.gone ++ place.rest
  wire : stream.buffer ++ later.flatten = place.left.getD [] ++ (wireBytes place.rest ++ closing)
  inPayload : stream.inPayload = place.left.isSome
  remaining : stream.payloadRemaining = place.left.map List.length
  tail : ∀ left, place.left = some left →
    ∃ first last, place.gone = first ++ [last] ∧ left.length ≤ last.payload.length
  packet : place.left = none → stream.buffer = [] → place.gone ≠ [] →
    stream.expectZeroLengthPacket = true ∨ taken.getLast? = some []
  items : StreamEvent.items acc = place.chunks.map fun chunk => some (.ok chunk)
  solid : [] ∉ place.chunks
  yielded : place.chunks.flatten ++ place.left.getD [] = payloadBytes place.gone

variable {recovery containers closing response}

section Within

variable {place : Place} {taken later : List Bytes} {acc : List StreamEvent}
  {stream : ReceiveStream}

/-- Only a boundary between containers, with nothing buffered, is where an empty
read can stand. -/
theorem Within.boundary (within : Within recovery containers closing response place taken later
      acc stream)
    (open_ : ∀ left, place.left = some left → left ≠ [] ∧ stream.buffer = [])
    (short : stream.buffer.length < headerSize) {read unread : List DataContainer}
    (split : containers = read ++ unread)
    (rest : later.flatten = wireBytes unread ++ closing) :
    place.left = none ∧ stream.buffer = [] ∧ place.gone = read := by
  have same : stream.buffer ++ wireBytes unread = place.left.getD [] ++ wireBytes place.rest := by
    have wire := within.wire
    rw [rest, ← List.append_assoc, ← List.append_assoc] at wire
    exact List.append_cancel_right wire
  rcases List.append_eq_append_iff.mp (within.split.symm.trans split) with
    ⟨ahead, reached, later⟩ | ⟨behind, reached, later⟩
  · rw [later, wireBytes_append, ← List.append_assoc] at same
    have buffered := List.append_cancel_right same
    cases open' : place.left with
    | none =>
        rw [open', Option.getD_none, List.nil_append] at buffered
        have none_ahead : ahead = [] := eq_nil_of_wireBytes_lt (by rw [← buffered]; exact short)
        subst none_ahead
        exact ⟨rfl, buffered, by rw [reached, List.append_nil]⟩
    | some left =>
        have stuck := open_ left open'
        rw [open', stuck.2] at buffered
        exact absurd (List.append_eq_nil_iff.mp buffered.symm).1 stuck.1
  · rw [later, wireBytes_append, ← List.append_assoc] at same
    have buffered := List.append_cancel_right same
    cases open' : place.left with
    | none =>
        rw [open', Option.getD_none] at buffered
        have empty := List.append_eq_nil_iff.mp buffered
        have none_behind : behind = [] := eq_nil_of_wireBytes_lt (by rw [empty.2]; decide)
        subst none_behind
        exact ⟨rfl, empty.1, by rw [reached, List.append_nil]⟩
    | some left =>
        have stuck := open_ left open'
        obtain ⟨first, last, ends, bound⟩ := within.tail left open'
        rw [open', stuck.2, List.nil_append, Option.getD_some] at buffered
        rw [reached] at ends
        rcases List.eq_nil_or_concat behind with empty | ⟨front, final, ends'⟩
        · rw [empty] at buffered
          exact absurd buffered.symm stuck.1
        · rw [ends', List.concat_eq_append, ← List.append_assoc] at ends
          have same := List.append_inj_right' ends rfl
          cases same
          have length := congrArg List.length buffered
          rw [ends', List.concat_eq_append, wireBytes_append, List.length_append] at length
          simp only [wireBytes_cons, wireBytes_nil, List.append_nil,
            DataContainer.toBytes_length] at length
          unfold headerSize at length
          omega

/-- What leaves the wire is not what the calls return. -/
theorem Within.wires (within : Within recovery containers closing response place taken later acc
      stream) (events : List WireEvent) :
    Within recovery containers closing response place taken later (acc ++ events.map .wire)
      stream :=
  { within with items := by simpa using within.items }

/-- Between containers, the next one is what comes next. -/
theorem Within.next_header (within : Within recovery containers closing response place taken later
      acc stream) (between : place.left = none) {container : DataContainer}
    {more : List DataContainer} (next : place.rest = container :: more) :
    stream.buffer ++ later.flatten = container.toBytes ++ (wireBytes more ++ closing) := by
  rw [within.wire, between, next, Option.getD_none, List.nil_append, wireBytes_cons,
    List.append_assoc]

/-- The header of the next container is taken. -/
theorem Within.header (within : Within recovery containers closing response place taken later acc
      stream) (between : place.left = none) {container : DataContainer}
    {more : List DataContainer} (next : place.rest = container :: more)
    (long : headerSize ≤ stream.buffer.length)
    (fits : headerSize + container.payload.length < 2 ^ 32 - 1) :
    Within recovery containers closing response
      ⟨place.chunks, place.gone ++ [container], more, some container.payload⟩ taken later acc
      (stream.openContainer container.header.length) := by
  obtain ⟨remaining, sized⟩ := openContainer_sized stream fits
  have front := (take_drop_of_append _ (within.next_header between next) long (by
    rw [DataContainer.toBytes_length]
    omega)).2
  have yielded := within.yielded
  rw [between, Option.getD_none, List.append_nil] at yielded
  exact {
    recovery := within.recovery
    transactionId := within.transactionId
    going := within.going
    sized := sized
    split := by rw [within.split, next, List.append_assoc, List.singleton_append]
    wire := by rwa [DataContainer.drop_toBytes] at front
    inPayload := rfl
    remaining := by rw [remaining]; rfl
    tail := fun left same => by
      cases same
      exact ⟨place.gone, container, rfl, Nat.le_refl _⟩
    packet := fun open_ => by cases open_
    items := within.items
    solid := within.solid
    yielded := by
      simp only [Option.getD_some, yielded, payloadBytes_append, payloadBytes_singleton] }

theorem Within.endContainer (within : Within recovery containers closing response place taken
      later acc stream) (empty : place.left = some []) :
    Within recovery containers closing response { place with left := none } taken later acc
      stream.endContainer := by
  have wire := within.wire
  have yielded := within.yielded
  rw [empty] at wire yielded
  exact {
    recovery := within.recovery
    transactionId := within.transactionId
    going := within.going
    sized := rfl
    split := within.split
    wire := wire
    inPayload := rfl
    remaining := rfl
    tail := fun left open_ => by cases open_
    packet := fun _ _ _ => Or.inl rfl
    items := within.items
    solid := within.solid
    yielded := yielded }

/-- A chunk is the next bytes of the payload. -/
theorem Within.chunk (within : Within recovery containers closing response place taken later acc
      stream) {left : Bytes} (open_ : place.left = some left) (positive : 0 < stream.takeLength) :
    ∃ place', Within recovery containers closing response place' taken later
      (acc ++ [.returned (some (.ok stream.yieldChunk.1))]) stream.yieldChunk.2 := by
  have remaining := within.remaining
  have wire := within.wire
  have yielded := within.yielded
  rw [open_] at remaining wire yielded
  have length : stream.takeLength = min left.length stream.buffer.length := by
    simp only [takeLength, remaining, Option.map_some]
  obtain ⟨taken_eq, dropped⟩ := take_drop_of_append stream.takeLength wire (by omega)
    (by simp only [Option.getD_some]; omega)
  rw [Option.getD_some] at taken_eq dropped yielded
  have rest : Within recovery containers closing response
      ⟨place.chunks ++ [stream.yieldChunk.1], place.gone, place.rest,
        some (left.drop stream.takeLength)⟩ taken later
      (acc ++ [.returned (some (.ok stream.yieldChunk.1))])
      { stream with
        buffer := stream.buffer.drop stream.takeLength
        payloadYielded := stream.payloadYielded + stream.takeLength
        payloadRemaining := stream.payloadRemaining.map (· - stream.takeLength) } := {
    recovery := within.recovery
    transactionId := within.transactionId
    going := within.going
    sized := within.sized
    split := within.split
    wire := dropped
    inPayload := by rw [within.inPayload, open_]; rfl
    remaining := by
      simp only [remaining, Option.map_some, List.length_drop]
    tail := fun other same => by
      obtain ⟨first, last, ends, bound⟩ := within.tail left open_
      cases same
      exact ⟨first, last, ends, by rw [List.length_drop]; omega⟩
    packet := fun closed => by cases closed
    items := by
      simp only [StreamEvent.items_append, within.items, List.map_append, List.map_cons,
        List.map_nil, StreamEvent.items]
    solid := by
      rw [List.mem_append, List.mem_singleton]
      rintro (inside | empty)
      · exact within.solid inside
      · have none_taken := congrArg List.length empty
        simp only [yieldChunk, List.length_nil, List.length_take] at none_taken
        omega
    yielded := by
      rw [← yielded, List.flatten_append, List.append_assoc]
      simp only [yieldChunk, List.flatten_cons, List.flatten_nil, List.append_nil,
        Option.getD_some, taken_eq, List.take_append_drop] }
  have counted : stream.payloadRemaining.map (· - stream.takeLength) =
      some (left.drop stream.takeLength).length := by
    rw [remaining, List.length_drop]
    rfl
  by_cases atEnd : left.drop stream.takeLength = []
  · have zero : stream.payloadRemaining.map (· - stream.takeLength) = some 0 := by
      rw [counted, atEnd]
      rfl
    have ended := rest.endContainer (by rw [atEnd])
    simp only [yieldChunk, zero, ↓reduceIte] at ended ⊢
    exact ⟨_, ended⟩
  · have more : stream.payloadRemaining.map (· - stream.takeLength) ≠ some 0 := by
      intro zero
      rw [counted, Option.some.injEq] at zero
      exact atEnd (List.length_eq_zero_iff.mp zero)
    simp only [yieldChunk, more, ↓reduceIte] at rest ⊢
    exact ⟨_, rest⟩

/-- Where a stream stands at the top of the loop. -/
def AtTop (recovery : RecoveryState) (containers : List DataContainer) (closing : Bytes)
    (response : ResponseContainer) (parts : List Bytes × List Bytes) (_ : List Read)
    (acc : List StreamEvent) (stream : ReceiveStream) : Prop :=
  ∃ place, Within recovery containers closing response place parts.1 parts.2 acc stream

/-- Where a stream stands while it reads: less than a header is buffered, and
nothing of a payload that is open. -/
def AtRead (recovery : RecoveryState) (containers : List DataContainer) (closing : Bytes)
    (response : ResponseContainer) (parts : List Bytes × List Bytes) (_ : List Read)
    (acc : List StreamEvent) (stream : ReceiveStream) : Prop :=
  ∃ place, Within recovery containers closing response place parts.1 parts.2 acc stream ∧
    stream.buffer.length < headerSize ∧
    ∀ left, place.left = some left → left ≠ [] ∧ stream.buffer = []

/-- What a finished stream has returned and left behind. -/
def AtEnd (recovery : RecoveryState) (containers : List DataContainer)
    (parts : List Bytes × List Bytes) (_ : List Read) (acc : List StreamEvent)
    (stream : ReceiveStream) : Prop :=
  parts.2 = [] ∧ stream.guard = false ∧ stream.recovery = recovery ∧
  ∃ chunks : List Bytes, StreamEvent.items acc = (chunks.map fun chunk => some (.ok chunk)) ++
    [none] ∧
    [] ∉ chunks ∧ chunks.flatten = payloadBytes containers

theorem Within.passPayload (within : Within recovery containers closing response place taken later
      acc stream) (short : place.left = none → stream.buffer.length < headerSize)
    (fed : List Read) :
    Holds (AtTop recovery containers closing response (taken, later))
      (AtRead recovery containers closing response (taken, later))
      (AtEnd recovery containers (taken, later)) fed acc stream.passPayload := by
  have step := passPayload_step stream
  have same := boundLargeObject_of_sized within.sized
  rcases passed : stream.passPayload with ⟨events, pass⟩
  rw [passed] at step
  have streaming : stream.inPayload = true → ∃ left, place.left = some left := fun streaming =>
    Option.isSome_iff_exists.mp (within.inPayload ▸ streaming)
  cases step with
  | chunk streaming' positive =>
      rw [same] at positive ⊢
      obtain ⟨left, open_⟩ := streaming streaming'
      obtain ⟨place', yielded⟩ := (within.wires [.payload stream.yieldChunk.1]).chunk open_ positive
      refine ⟨fun _ => ⟨place', yielded⟩, fun atEnd => ?_⟩
      have going := yielded.going
      rw [atEnd] at going
      cases going
  | ends streaming' nothing =>
      rw [same] at nothing ⊢
      obtain ⟨left, open_⟩ := streaming streaming'
      have remaining := within.remaining
      rw [nothing, open_] at remaining
      have empty : left = [] := List.length_eq_zero_iff.mp (Option.some.inj remaining).symm
      exact ⟨_, (within.wires []).endContainer (by rw [open_, empty])⟩
  | waits idle =>
      rw [same] at idle ⊢
      refine ⟨place, { within.wires [] with }, ?_⟩
      cases open_ : place.left with
      | none => exact ⟨short open_, fun left closed => by cases closed⟩
      | some left =>
          have remaining := within.remaining
          obtain ⟨none_taken, more⟩ := idle (by rw [within.inPayload, open_]; rfl)
          rw [open_] at remaining
          have solid : left ≠ [] := fun empty => more (by rw [remaining, empty]; rfl)
          have positive := List.length_pos_of_ne_nil solid
          have empty : stream.buffer = [] := by
            simp only [takeLength, remaining, Option.map_some] at none_taken
            exact List.length_eq_zero_iff.mp (by omega)
          refine ⟨by change stream.buffer.length < _; rw [empty]; decide, fun other same => ?_⟩
          cases same
          exact ⟨solid, empty⟩

/-- Once every container is gone, the response is what is buffered. -/
theorem Within.only_response (within : Within recovery containers closing response place taken later
    acc
      stream) {reads : List Bytes} (cut : Cut containers closing reads)
    (split : reads = taken ++ later) (between : place.left = none) (last : place.rest = [])
    (long : headerSize ≤ stream.buffer.length) : later = [] ∧ stream.buffer = closing := by
  have wire := within.wire
  rw [between, last, Option.getD_none, wireBytes_nil, List.nil_append, List.nil_append] at wire
  rcases List.eq_nil_or_concat later with none_later | ⟨front, final, ends⟩
  · subst none_later
    rw [List.flatten_nil, List.append_nil] at wire
    exact ⟨rfl, wire⟩
  · obtain ⟨front', final', ends', whole⟩ := cut.uncut
    rw [split, ends, List.concat_eq_append, ← List.append_assoc] at ends'
    have same := List.append_inj_right' ends' rfl
    cases same
    have bound := whole.length_le
    have length := congrArg List.length wire
    rw [ends, List.concat_eq_append] at length
    simp only [List.length_append, List.flatten_append, List.flatten_cons, List.flatten_nil,
      List.append_nil] at length
    unfold headerSize at long
    omega

theorem Within.pass (within : Within recovery containers closing response place taken later acc
      stream) {reads : List Bytes} (cut : Cut containers closing reads)
    (split : reads = taken ++ later)
    (fits : ∀ container ∈ containers, headerSize + container.payload.length < 2 ^ 32 - 1)
    (parsed : ResponseContainer.fromBytes closing = .ok response) (accepted : response.code = .ok)
    (fed : List Read) :
    Holds (AtTop recovery containers closing response (taken, later))
      (AtRead recovery containers closing response (taken, later))
      (AtEnd recovery containers (taken, later)) fed acc stream.pass := by
  by_cases front : place.left = none ∧ headerSize ≤ stream.buffer.length
  · obtain ⟨between, long⟩ := front
    have idle : stream.inPayload = false := by rw [within.inPayload, between]; rfl
    cases next : place.rest with
    | cons container more =>
        have bound := fits container (by rw [within.split, next]; simp)
        rw [pass_of_data idle long (consumeContainerHeader_data (within.next_header between next)
          long (by omega))]
        apply Holds.after_wires
        exact ((within.header between next long bound).wires _).passPayload
          (fun closed => by cases closed) fed
    | nil =>
        obtain ⟨none_later, whole⟩ := within.only_response cut split between next long
        rw [pass_of_done idle long (consumeContainerHeader_done (by rw [whole]; exact parsed)
          within.transactionId.symm accepted)]
        refine ⟨fun going => (by cases going), fun _ => ⟨none_later, rfl, within.recovery,
          place.chunks, ?_, within.solid, ?_⟩⟩
        · simpa [StreamEvent.items] using within.items
        · have yielded := within.yielded
          rw [between, Option.getD_none, List.append_nil] at yielded
          rw [yielded, within.split, next, List.append_nil]
  · have short : place.left = none → stream.buffer.length < headerSize := fun between =>
      Nat.lt_of_not_le fun long => front ⟨between, long⟩
    rw [pass_of_payload fun idle => short (by
      rw [within.inPayload] at idle
      exact Option.not_isSome_iff_eq_none.mp (Bool.eq_false_iff.mp idle))]
    exact within.passPayload short fed

theorem Within.arrive {bytes : Bytes} (within : Within recovery containers closing response place
      taken (bytes :: later) acc stream) (solid : bytes ≠ []) :
    stream.received (.ok bytes) = .continues { stream with
        expectZeroLengthPacket := false
        shortRead := decide (bytes.length < receiveChunk)
        buffer := stream.buffer ++ bytes } ∧
      Within recovery containers closing response place (taken ++ [bytes]) later acc
        { stream with
          expectZeroLengthPacket := false
          shortRead := decide (bytes.length < receiveChunk)
          buffer := stream.buffer ++ bytes } := by
  constructor
  · simp only [received, List.isEmpty_iff, solid, ↓reduceIte]
  · exact { within with
      wire := by simpa only [List.flatten_cons, List.append_assoc] using within.wire
      packet := fun _ empty => absurd (List.append_eq_nil_iff.mp empty).2 solid }

/-- A zero-length packet arrives behind a container that is wholly read. -/
theorem Within.packet_arrives (within : Within recovery containers closing response place taken
      ([] :: later) acc stream) (expected : stream.expectZeroLengthPacket = true) :
    stream.received (.ok []) = .continues { stream with expectZeroLengthPacket := false } ∧
      Within recovery containers closing response place (taken ++ [[]]) later acc
        { stream with expectZeroLengthPacket := false } := by
  constructor
  · simp only [received, List.isEmpty_nil, ↓reduceIte, within.sized, Bool.and_false,
      Bool.false_eq_true, expected]
  · exact { within with
      wire := by simpa only [List.flatten_cons, List.nil_append] using within.wire
      packet := fun _ _ _ => Or.inr (by rw [List.getLast?_concat]) }

end Within

/-- A split of the reads into those taken and those to come. -/
def Splits (reads : List Bytes) (parts : List Bytes × List Bytes) (fed : List Read) : Prop :=
  reads = parts.1 ++ parts.2 ∧ fed = parts.1.map .ok

variable (recovery) in
/-- Every run over the reads of a data phase keeps its place in it. -/
theorem rule_of_cut {reads : List Bytes} (cut : Cut containers closing reads)
    (fits : ∀ container ∈ containers, headerSize + container.payload.length < 2 ^ 32 - 1)
    (parsed : ResponseContainer.fromBytes closing = .ok response)
    (accepted : response.code = .ok) :
    Rule
      (fun fed acc stream => ∀ parts, Splits reads parts fed →
        AtTop recovery containers closing response parts fed acc stream)
      (fun fed acc stream => ∀ parts, Splits reads parts fed →
        AtRead recovery containers closing response parts fed acc stream)
      (fun fed acc stream => ∀ parts, Splits reads parts fed →
        AtEnd recovery containers parts fed acc stream) where
  pass := by
    intro fed acc stream holds
    apply Holds.intro
    intro parts splits
    obtain ⟨place, within⟩ := holds parts splits
    exact within.pass cut splits.1 fits parsed accepted fed
  received := by
    intro fed acc stream read holds
    apply Holds.intro
    rintro ⟨taken, later⟩ ⟨split, fed_eq⟩
    obtain ⟨front, final, ends, fed_front, last⟩ := List.map_eq_append_iff.mp fed_eq.symm
    obtain ⟨bytes, only, same⟩ := List.map_eq_singleton_iff.mp last
    dsimp only at ends split
    subst only same ends
    have split' : reads = front ++ (bytes :: later) := by simpa using split
    obtain ⟨place, within, short, open_⟩ := holds (front, bytes :: later) ⟨split', fed_front.symm⟩
    by_cases solid : bytes = []
    · subst solid
      obtain ⟨⟨read, unread, some, split'', reached⟩, fresh⟩ := cut.empties front later split'
      have rest : later.flatten = wireBytes unread ++ closing := by
        have whole := cut.whole
        rw [split', split'', wireBytes_append, List.flatten_append, reached,
          List.append_assoc] at whole
        simpa using List.append_cancel_left whole
      obtain ⟨between, empty, gone⟩ := within.boundary open_ short split'' (by simpa using rest)
      have expected := (within.packet between empty (by rw [gone]; exact some)).resolve_right fresh
      obtain ⟨continues, next⟩ := within.packet_arrives expected
      rw [continues]
      exact ⟨place, by simpa [Holds] using next⟩
    · obtain ⟨continues, next⟩ := within.arrive solid
      rw [continues]
      exact ⟨place, by simpa using next⟩

/-- A new stream stands in front of everything. -/
theorem within_start (recovery : RecoveryState) (operation : OperationCode)
    (expectedPayloadLen : Option Nat) {reads : List Bytes}
    (cut : Cut containers closing reads) :
    Within recovery containers closing response ⟨[], [], containers, none⟩ [] reads []
      (start recovery response.transactionId operation expectedPayloadLen) where
  recovery := rfl
  transactionId := rfl
  going := rfl
  sized := rfl
  split := rfl
  wire := cut.whole
  inPayload := rfl
  remaining := rfl
  tail := fun left open_ => by cases open_
  packet := fun _ _ some => absurd rfl some
  items := rfl
  solid := List.not_mem_nil
  yielded := rfl

/-- No stream waits for more than its data phase holds. -/
theorem not_atRead_nil (parsed : ResponseContainer.fromBytes closing = .ok response)
    (taken : List Bytes) (fed : List Read) (acc : List StreamEvent) (stream : ReceiveStream) :
    ¬ AtRead recovery containers closing response (taken, []) fed acc stream := by
  rintro ⟨place, within, short, open_⟩
  obtain ⟨header, view⟩ := ResponseContainer.parsed_of_fromBytes parsed
  have long := view.long
  have wire := congrArg List.length within.wire
  simp only [List.flatten_nil, List.length_append, List.length_nil] at wire
  omega

/-- However the wire is cut into reads, a stream yields the payloads, byte for
byte and in order, then ends, and gives the session back with nothing in doubt. -/
theorem nextChunk_of_cut {reads : List Bytes} (poisonedTxId : UInt32) (operation : OperationCode)
    (expectedPayloadLen : Option Nat)
    (fits : ∀ container ∈ containers, headerSize + container.payload.length < 2 ^ 32 - 1)
    (parsed : ResponseContainer.fromBytes closing = .ok response)
    (accepted : response.code = .ok) (cut : Cut containers closing reads) :
    ∃ (events : List StreamEvent) (chunks : List Bytes) (final : ReceiveStream),
      (start ⟨false, poisonedTxId⟩ response.transactionId operation expectedPayloadLen).run
        (reads.map .ok) = ⟨events, .inr final, []⟩ ∧
      StreamEvent.items events = (chunks.map fun chunk => some (.ok chunk)) ++ [none] ∧
      [] ∉ chunks ∧ chunks.flatten = payloadBytes containers ∧
      final.guard = false ∧ final.recovery.needed = false := by
  have rule := rule_of_cut ⟨false, poisonedTxId⟩ cut fits parsed accepted
  have standing : ∀ parts, Splits reads parts [] →
      AtRead ⟨false, poisonedTxId⟩ containers closing response parts [] []
        (start ⟨false, poisonedTxId⟩ response.transactionId operation expectedPayloadLen) := by
    rintro ⟨taken, later⟩ ⟨split, fed⟩
    have none_taken : taken = [] := List.map_eq_nil_iff.mp fed.symm
    subst none_taken
    cases split
    exact ⟨_, within_start _ operation expectedPayloadLen cut, Nat.zero_lt_succ 11,
      fun left open_ => by cases open_⟩
  have reached := rule.run [] [] _ standing (reads.map .ok)
  rcases progress : (start ⟨false, poisonedTxId⟩ response.transactionId operation
    expectedPayloadLen).run (reads.map .ok) with ⟨events, waiting | final, unread⟩
  · rw [progress] at reached
    exact absurd (reached.waiting rfl (reads, []) ⟨by simp, by simp⟩)
      (not_atRead_nil parsed _ _ _ _)
  · rw [progress] at reached
    obtain ⟨used, split, ends⟩ := reached.atEnd rfl
    obtain ⟨taken, later, parts, used_eq, unread_eq⟩ := List.map_eq_append_iff.mp split
    obtain ⟨none_later, guard, recovery, chunks, items, solid, whole⟩ :=
      ends (taken, later) ⟨parts, by rw [List.nil_append, used_eq]⟩
    dsimp only at none_later unread_eq
    subst none_later
    refine ⟨events, chunks, final, ?_, items, solid, whole, guard, by rw [recovery]⟩
    rw [← unread_eq]
    rfl

/-- A header cut in two, a payload over two reads, and the response behind the
last payload byte. -/
theorem nextChunk_of_cut_two_byte_object :
    ∃ (events : List StreamEvent) (chunks : List Bytes) (final : ReceiveStream),
      (start ⟨false, 0⟩ 5 .getObject none).run
        ([[14, 0, 0, 0, 2], [0, 9, 16, 5, 0, 0, 0, 0xAA],
          [0xBB, 12, 0, 0, 0, 3, 0, 1, 32, 5, 0, 0, 0]].map .ok) = ⟨events, .inr final, []⟩ ∧
      StreamEvent.items events = (chunks.map fun chunk => some (.ok chunk)) ++ [none] ∧
      [] ∉ chunks ∧ chunks.flatten = payloadBytes [⟨.getObject, 5, [0xAA, 0xBB]⟩] ∧
      final.guard = false ∧ final.recovery.needed = false :=
  nextChunk_of_cut 0 .getObject none (by decide)
    (show ResponseContainer.fromBytes [12, 0, 0, 0, 3, 0, 1, 32, 5, 0, 0, 0] = .ok ⟨.ok, 5, []⟩ from
      rfl)
    rfl
    { whole := by decide
      uncut := ⟨[[14, 0, 0, 0, 2], [0, 9, 16, 5, 0, 0, 0, 0xAA]], _, rfl, [0xBB], rfl⟩
      empties := fun front back same => by
        have empty : ([] : Bytes) ∈ front ++ [] :: back :=
          List.mem_append_right front List.mem_cons_self
        rw [← same] at empty
        exact absurd empty (by decide) }

end ReceiveStream

end Ptp
