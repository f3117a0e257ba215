import MtpRs.Ptp.Session.Matching

set_option autoImplicit false

/- Where on the wire the bytes stand that a call hands out. -/
namespace Ptp

open WireEvent (headers)

/-- A stretch of the wire: a data container as far as it was handed out, or
bytes that were not. -/
inductive Stretch where
  | container (front payload : Bytes)
  | other (bytes : Bytes)
deriving DecidableEq, Repr

namespace Stretch

@[simp] def bytes : Stretch → Bytes
  | container front payload => front ++ payload
  | other bytes => bytes

@[simp] def data : Stretch → Bytes
  | container _ payload => payload
  | other _ => []

end Stretch

/-- The header carries the transaction ID. -/
def CarriesId (txId : UInt32) (front : Bytes) : Prop :=
  ∃ header, unpackHeader front = .ok header ∧ header.transactionId = txId

/-- `data` is what the containers of `wire` hold, each under an allowed header. -/
def Drawn (allowed : Bytes → Prop) (wire data : Bytes) : Prop :=
  ∃ stretches : List Stretch, stretches.flatMap Stretch.bytes = wire ∧
    stretches.flatMap Stretch.data = data ∧
    ∀ front payload, .container front payload ∈ stretches → allowed front ∧ Framed front payload

namespace Drawn

variable {allowed : Bytes → Prop} {wire data : Bytes}

theorem nil (allowed : Bytes → Prop) : Drawn allowed [] [] :=
  ⟨[], rfl, rfl, fun _ _ inside => absurd inside List.not_mem_nil⟩

theorem mono (drawn : Drawn allowed wire data) {weaker : Bytes → Prop}
    (implies : ∀ front, allowed front → weaker front) : Drawn weaker wire data := by
  obtain ⟨stretches, whole, held, each⟩ := drawn
  exact ⟨stretches, whole, held, fun front payload inside =>
    (each front payload inside).imp_left (implies front)⟩

theorem other (drawn : Drawn allowed wire data) (bytes : Bytes) :
    Drawn allowed (wire ++ bytes) data := by
  obtain ⟨stretches, whole, held, each⟩ := drawn
  refine ⟨stretches ++ [.other bytes], ?_, ?_, fun front payload inside => ?_⟩
  · simp only [List.flatMap_append, whole, List.flatMap_cons, List.flatMap_nil, Stretch.bytes,
      List.append_nil]
  · simp only [List.flatMap_append, held, List.flatMap_cons, List.flatMap_nil, Stretch.data,
      List.append_nil]
  · rcases List.mem_append.mp inside with earlier | last
    · exact each front payload earlier
    · cases List.mem_singleton.mp last

theorem container (drawn : Drawn allowed wire data) {front payload : Bytes} (ok : allowed front)
    (framed : Framed front payload) :
    Drawn allowed (wire ++ (front ++ payload)) (data ++ payload) := by
  obtain ⟨stretches, whole, held, each⟩ := drawn
  refine ⟨stretches ++ [.container front payload], ?_, ?_, fun front' payload' inside => ?_⟩
  · simp only [List.flatMap_append, whole, List.flatMap_cons, List.flatMap_nil, Stretch.bytes,
      List.append_nil]
  · simp only [List.flatMap_append, held, List.flatMap_cons, List.flatMap_nil, Stretch.data,
      List.append_nil]
  · rcases List.mem_append.mp inside with earlier | last
    · exact each front' payload' earlier
    · cases List.mem_singleton.mp last
      exact ⟨ok, framed⟩

/-- Data that is drawn at all is drawn behind some allowed data header. -/
theorem exists_header (drawn : Drawn allowed wire data) (some : data ≠ []) {whole : Bytes}
    (inside : wire <+: whole) :
    ∃ start < whole.length - headerSize, allowed ((whole.drop start).take headerSize) ∧
      ∃ header, unpackHeader ((whole.drop start).take headerSize) = .ok header ∧
        header.typeCode = ContainerType.data.toCode := by
  obtain ⟨stretches, spelled, held, each⟩ := drawn
  have solid : ∃ stretch ∈ stretches, stretch.data ≠ [] := by
    by_contra none_solid
    push Not at none_solid
    exact some (held.symm.trans (List.flatMap_eq_nil_iff.mpr none_solid))
  obtain ⟨stretch, member, solid⟩ := solid
  cases stretch with
  | other bytes => exact absurd rfl solid
  | container front payload =>
      obtain ⟨ok, length, header, read, type, _⟩ := each front payload member
      obtain ⟨before, after, split⟩ := List.append_of_mem member
      obtain ⟨rest, ends⟩ := inside
      have layout : whole = before.flatMap Stretch.bytes ++ (front ++ (payload ++
          (after.flatMap Stretch.bytes ++ rest))) := by
        rw [← ends, ← spelled, split]
        simp
      have found : (whole.drop (before.flatMap Stretch.bytes).length).take headerSize = front := by
        rw [layout, List.drop_left, ← length, List.take_left]
      refine ⟨(before.flatMap Stretch.bytes).length,
        ?_, by rwa [found], header, by rwa [found], type⟩
      have positive := List.length_pos_of_ne_nil (show payload ≠ [] from solid)
      rw [layout]
      simp only [List.length_append]
      omega

end Drawn

/-- The header of a parsed container frames its payload. -/
theorem framed_of_fromBytes {buf : Bytes} {container : DataContainer}
    (parsed : DataContainer.fromBytes buf = .ok container) :
    Framed (buf.take headerSize) container.payload ∧
      ∃ dropped, buf = (buf.take headerSize ++ container.payload) ++ dropped := by
  obtain ⟨header, view⟩ := DataContainer.parsed_of_fromBytes parsed
  have long := view.long
  have least := view.least
  have inside := view.inside
  have front : (buf.take headerSize).length = headerSize := by
    rw [List.length_take]
    omega
  constructor
  · refine ⟨front, header, ?_, view.type, Or.inr ?_⟩
    · rw [← unpackHeader_append (Nat.le_of_eq front.symm) (buf.drop headerSize),
        List.take_append_drop]
      exact view.read
    · rw [view.payload, List.length_drop, List.length_take]
      omega
  · refine ⟨buf.drop header.length.toNat, ?_⟩
    have halves : buf.take headerSize = (buf.take header.length.toNat).take headerSize := by
      rw [List.take_take, Nat.min_eq_left least]
    rw [view.payload, halves, List.take_append_drop, List.take_append_drop]

section Buffered

variable (txId : UInt32) (operation : OperationCode)

/-- What `execute_with_receive` returns is drawn from containers it took the
header of, in the bytes it read. -/
theorem executeWithReceive_drawn (reads : List Read) {response : ResponseContainer} {data : Bytes}
    (returned : (Feed.run (executeWithReceive txId operation) .initial reads).outcome =
      .inr (.ok (response, data))) :
    ∃ wire, wire <+: readBytes reads ∧
      Drawn (· ∈ headers (Feed.run (executeWithReceive txId operation) .initial reads).events)
        wire data := by
  have reached := Feed.run_rule (executeWithReceive txId operation)
    (fun fed events state => ∃ wire, wire ++ state.pending = readBytes fed ∧
      Drawn (· ∈ headers events) wire state.data)
    (fun fed events result => ∀ response data, result = .ok (response, data) →
      ∃ wire, wire <+: readBytes fed ∧ Drawn (· ∈ headers events) wire data)
    (fun fed events state read next more => by
      rintro ⟨wire, whole, drawn⟩ taken
      have step := executeWithReceive_step txId operation state read
      rw [taken] at step
      cases step with
      | collects short =>
          refine ⟨wire, ?_, by simpa using drawn⟩
          rw [readBytes_append, ← whole]
          simp [ReceiveLoop.pending]
      | @closes more' container parsed =>
          obtain ⟨framed, dropped, split⟩ := framed_of_fromBytes parsed
          have wider : Drawn (· ∈ headers (events ++
              [.header ((state.pending ++ more').take headerSize), .payload container.payload]))
              wire state.data := drawn.mono fun front inside => by simp [inside]
          refine ⟨_, ?_, (wider.container (by simp) framed).other dropped⟩
          rw [readBytes_append, ← whole]
          simp only [ReceiveLoop.pending, List.append_nil, readBytes, List.append_assoc] at split ⊢
          rw [← split]
      | @skips bytes reply between parsed empty stale may =>
          refine ⟨wire ++ bytes, ?_, (drawn.mono (by simp)).other bytes⟩
          rw [readBytes_append, ← whole]
          simp [ReceiveLoop.pending, between])
    (fun fed events state read result more => by
      rintro ⟨wire, whole, drawn⟩ taken response data returned
      have step := executeWithReceive_step txId operation state read
      rw [taken, returned] at step
      cases step with
      | accepts between parsed own =>
          refine ⟨wire, ?_, drawn.mono (by simp)⟩
          rw [readBytes_append, ← whole, List.append_assoc]
          exact List.prefix_append wire _)
    reads [] [] .initial ⟨[], rfl, Drawn.nil _⟩
  obtain ⟨used, split, ends⟩ := reached.atEnd returned
  obtain ⟨wire, inside, drawn⟩ := ends response data rfl
  refine ⟨wire, inside.trans ?_, drawn⟩
  rw [List.nil_append, split, readBytes_append]
  exact List.prefix_append _ _

end Buffered

def Piece.stretch : Piece → Stretch
  | response _ bytes => .other bytes
  | data front payload => .container front payload

theorem Piece.bytes_stretch (piece : Piece) : piece.stretch.bytes = piece.bytes := by
  cases piece <;> rfl

theorem Piece.data_stretch (piece : Piece) : piece.stretch.data = piece.payload := by
  cases piece <;> rfl

theorem Covers.drawn {pieces : List Piece} {left : Bytes} {fed : List Read}
    {acc : List StreamEvent} (covers : Covers pieces left fed acc) :
    ∃ wire, wire <+: readBytes fed ∧
      Drawn (· ∈ headers (StreamEvent.wires acc)) wire (yielded (StreamEvent.items acc)) := by
  refine ⟨pieces.flatMap Piece.bytes, ?_, pieces.map Piece.stretch, ?_, ?_, ?_⟩
  · rw [← covers.whole]
    exact List.prefix_append _ _
  · simp only [List.flatMap_map, Piece.bytes_stretch]
  · simp only [List.flatMap_map, Piece.data_stretch]
    exact covers.held
  · intro front payload inside
    obtain ⟨piece, member, same⟩ := List.mem_map.mp inside
    cases piece with
    | response reply bytes => cases same
    | data front' payload' =>
        cases same
        exact ⟨covers.taken front payload member, covers.parsed _ member⟩

/-- Whatever a stream has handed out so far is drawn from the bytes it has read. -/
theorem ReceiveStream.stream_drawn (recovery : RecoveryState) (txId : UInt32)
    (operation : OperationCode) (expectedPayloadLen : Option Nat) (reads : List Read) :
    ∃ wire, wire <+: readBytes reads ∧ Drawn
      (· ∈ headers (StreamEvent.wires
        ((start recovery txId operation expectedPayloadLen).run reads).events)) wire
      (yielded (StreamEvent.items
        ((start recovery txId operation expectedPayloadLen).run reads).events)) := by
  obtain ⟨used, pieces, left, split, covers, _⟩ :=
    stream_matched ⟨operation, txId, []⟩ recovery expectedPayloadLen reads
  obtain ⟨wire, inside, drawn⟩ := covers.drawn
  refine ⟨wire, inside.trans ?_, drawn⟩
  rw [split, readBytes_append]
  exact List.prefix_append _ _

/-- Every data header that was taken carries the call's transaction ID. -/
def OwnHeaders (txId : UInt32) (events : List WireEvent) : Prop :=
  ∀ front ∈ headers events, CarriesId txId front

/-- A call that takes no other transaction's data header hands out its own data only. -/
theorem data_own (txId : UInt32) (operation : OperationCode) (recovery : RecoveryState)
    (expectedPayloadLen : Option Nat) (reads : List Read) :
    (∀ response data,
      (Feed.run (executeWithReceive txId operation) .initial reads).outcome =
        .inr (.ok (response, data)) →
      OwnHeaders txId (Feed.run (executeWithReceive txId operation) .initial reads).events →
      ∃ wire, wire <+: readBytes reads ∧ Drawn (CarriesId txId) wire data) ∧
    (OwnHeaders txId (StreamEvent.wires ((ReceiveStream.start recovery txId operation
        expectedPayloadLen).run reads).events) →
      ∃ wire, wire <+: readBytes reads ∧ Drawn (CarriesId txId) wire (yielded (StreamEvent.items
        ((ReceiveStream.start recovery txId operation expectedPayloadLen).run reads).events))) := by
  constructor
  · intro response data returned own
    obtain ⟨wire, inside, drawn⟩ := executeWithReceive_drawn txId operation reads returned
    exact ⟨wire, inside, drawn.mono own⟩
  · intro own
    obtain ⟨wire, inside, drawn⟩ := ReceiveStream.stream_drawn recovery txId operation
      expectedPayloadLen reads
    exact ⟨wire, inside, drawn.mono own⟩

/-- One container and its response, for the call's own transaction. -/
theorem data_own_two_bytes :
    (∃ wire, wire <+: readBytes
        [.ok [14, 0, 0, 0, 2, 0, 9, 16, 5, 0, 0, 0, 0xAA, 0xBB],
          .ok [12, 0, 0, 0, 3, 0, 1, 32, 5, 0, 0, 0]] ∧
      Drawn (CarriesId 5) wire [0xAA, 0xBB]) ∧
    (∃ wire, wire <+: readBytes
        [.ok [14, 0, 0, 0, 2, 0, 9, 16, 5, 0, 0, 0, 0xAA, 0xBB],
          .ok [12, 0, 0, 0, 3, 0, 1, 32, 5, 0, 0, 0]] ∧
      Drawn (CarriesId 5) wire (yielded (StreamEvent.items ((ReceiveStream.start .initial 5
        .getObject none).run
        [.ok [14, 0, 0, 0, 2, 0, 9, 16, 5, 0, 0, 0, 0xAA, 0xBB],
          .ok [12, 0, 0, 0, 3, 0, 1, 32, 5, 0, 0, 0]]).events))) := by
  obtain ⟨buffered, streamed⟩ := data_own 5 .getObject .initial none
    [.ok [14, 0, 0, 0, 2, 0, 9, 16, 5, 0, 0, 0, 0xAA, 0xBB],
      .ok [12, 0, 0, 0, 3, 0, 1, 32, 5, 0, 0, 0]]
  refine ⟨buffered ⟨.ok, 5, []⟩ [0xAA, 0xBB] rfl ?_, streamed ?_⟩
  · intro front taken
    have same : front = [14, 0, 0, 0, 2, 0, 9, 16, 5, 0, 0, 0] := List.mem_singleton.mp taken
    rw [same]
    exact ⟨_, rfl, rfl⟩
  · intro front taken
    have all : headers (StreamEvent.wires ((ReceiveStream.start .initial 5 .getObject none).run
        [.ok [14, 0, 0, 0, 2, 0, 9, 16, 5, 0, 0, 0, 0xAA, 0xBB],
          .ok [12, 0, 0, 0, 3, 0, 1, 32, 5, 0, 0, 0]]).events) =
        [[14, 0, 0, 0, 2, 0, 9, 16, 5, 0, 0, 0]] := by decide +kernel
    rw [all] at taken
    rw [List.mem_singleton.mp taken]
    exact ⟨_, rfl, rfl⟩

/-- A data container of transaction 1 and the response to transaction 2. -/
def foreignReads : List Read :=
  [.ok [13, 0, 0, 0, 2, 0, 9, 16, 1, 0, 0, 0, 0xAA], .ok [12, 0, 0, 0, 3, 0, 1, 32, 2, 0, 0, 0]]

/-- Transaction 2 returns the byte, and no container of its own holds it. -/
theorem foreign_data_returned :
    (Feed.run (executeWithReceive 2 .getObject) .initial foreignReads).outcome =
        .inr (.ok (⟨.ok, 2, []⟩, [0xAA])) ∧
      yielded (StreamEvent.items ((ReceiveStream.start .initial 2 .getObject none).run
        foreignReads).events) = [0xAA] ∧
      ¬ ∃ wire, wire <+: readBytes foreignReads ∧ Drawn (CarriesId 2) wire [0xAA] := by
  refine ⟨rfl, by decide +kernel, ?_⟩
  rintro ⟨wire, inside, drawn⟩
  obtain ⟨start, bound, ⟨own, read, carries⟩, header, read', type⟩ :=
    drawn.exists_header (by decide) inside
  have same : own = header := Except.ok.inj (read.symm.trans read')
  subst same
  have none_own : ∀ start < (readBytes foreignReads).length - headerSize,
      ∀ header ∈ (unpackHeader (((readBytes foreignReads).drop start).take headerSize)).toOption,
        header.typeCode = ContainerType.data.toCode → header.transactionId ≠ 2 := by decide
  exact none_own start bound own (by rw [read]; rfl) type carries

end Ptp
