import MtpRs.Ptp.Session.Pieces

set_option autoImplicit false

/- Which response a call acts on. The three read loops each keep their own count
of late replies; what they skip and what they accept is the same. -/
namespace Ptp

open Feed (Turn)
open Piece (replies)

/-- The replies a call has skipped: late ones, few, before any payload byte, and
none at all for `CloseSession`. -/
structure Skipped (command : CommandContainer) (pieces : List Piece)
    (skipped : List ResponseContainer) : Prop where
  all : replies pieces = skipped
  before : ∃ front back, pieces = front ++ back ∧ front.flatMap Piece.payload = [] ∧
    replies back = []
  few : skipped.length ≤ maxStaleReplies
  stale : ∀ reply ∈ skipped, 1 ≤ (command.transactionId - reply.transactionId).toNat ∧
    (command.transactionId - reply.transactionId).toNat ≤ 2 ^ 31 - 1
  closing : command.code = .closeSession → skipped = []

namespace Skipped

variable {command : CommandContainer} {pieces : List Piece} {skipped : List ResponseContainer}

theorem nil (command : CommandContainer) : Skipped command [] [] where
  all := rfl
  before := ⟨[], [], rfl, rfl, rfl⟩
  few := Nat.zero_le _
  stale := fun _ inside => absurd inside List.not_mem_nil
  closing := fun _ => rfl

/-- Data leaves what was skipped as it was. -/
theorem data (holds : Skipped command pieces skipped) (header payload : Bytes) :
    Skipped command (pieces ++ [.data header payload]) skipped := by
  obtain ⟨front, back, rfl, clean, after⟩ := holds.before
  exact { holds with
    all := by
      rw [Piece.replies_append, holds.all]
      exact List.append_nil _
    before := ⟨front, back ++ [.data header payload], List.append_assoc .., clean, by
      rw [Piece.replies_append, after]
      rfl⟩ }

/-- So does more of the same data. -/
theorem lengthen {header payload : Bytes}
    (holds : Skipped command (pieces ++ [.data header payload]) skipped) (chunk : Bytes) :
    Skipped command (pieces ++ [.data header (payload ++ chunk)]) skipped := by
  have all := holds.all
  rw [Piece.replies_append] at all
  refine { holds with
    all := by
      rw [Piece.replies_append]
      exact all
    before := ?_ }
  obtain ⟨front, back, split, clean, after⟩ := holds.before
  rcases List.eq_nil_or_concat back with rfl | ⟨middle, last, rfl⟩
  · rw [List.append_nil] at split
    rw [← split, List.flatMap_append] at clean
    exact ⟨pieces, [.data header (payload ++ chunk)], rfl, (List.append_eq_nil_iff.mp clean).1,
      rfl⟩
  · rw [List.concat_eq_append, ← List.append_assoc] at split
    obtain ⟨same, -⟩ := List.append_inj' split rfl
    rw [List.concat_eq_append, Piece.replies_append] at after
    refine ⟨front, middle ++ [.data header (payload ++ chunk)], ?_, clean, ?_⟩
    · rw [same, List.append_assoc]
    · rw [Piece.replies_append, (List.append_eq_nil_iff.mp after).1]
      rfl

/-- The skip rule adds a reply. -/
theorem skip (holds : Skipped command pieces skipped)
    (clean : pieces.flatMap Piece.payload = []) {reply : ResponseContainer} {bytes : Bytes}
    (stale : isStaleReply reply.transactionId command.transactionId = true)
    (may : maySkipStaleReply command.code skipped.length = true) :
    Skipped command (pieces ++ [.response reply bytes]) (skipped ++ [reply]) := by
  obtain ⟨open_, few⟩ := (maySkipStaleReply_iff command.code skipped.length).mp may
  exact {
    all := by
      rw [Piece.replies_append, holds.all]
      rfl
    before := ⟨pieces ++ [.response reply bytes], [], (List.append_nil _).symm, by
      rw [List.flatMap_append, clean]
      rfl, rfl⟩
    few := by
      rw [List.length_append, List.length_singleton]
      omega
    stale := fun late inside => by
      rcases List.mem_append.mp inside with earlier | last
      · exact holds.stale late earlier
      · rw [List.mem_singleton.mp last]
        exact (isStaleReply_iff reply.transactionId command.transactionId).mp stale
    closing := fun closes => absurd closes open_ }

end Skipped

/-- How the responses a call has taken stand to its verdict, `none` while it reads. -/
inductive Matched (command : CommandContainer) :
    List Piece → Option (Except PtpError ResponseContainer) → Prop where
  | reads {pieces : List Piece} {skipped : List ResponseContainer}
      (before : Skipped command pieces skipped) : Matched command pieces none
  | succeeds {pieces : List Piece} {skipped : List ResponseContainer}
      {reply : ResponseContainer} {bytes : Bytes} (before : Skipped command pieces skipped)
      (own : reply.transactionId = command.transactionId) :
      Matched command (pieces ++ [.response reply bytes]) (some (.ok reply))
  | mismatches {pieces : List Piece} {skipped : List ResponseContainer}
      {reply : ResponseContainer} {bytes : Bytes} (before : Skipped command pieces skipped)
      (foreign : reply.transactionId ≠ command.transactionId) :
      Matched command (pieces ++ [.response reply bytes])
        (some (.error (transactionMismatch command.transactionId reply.transactionId)))
  | refuses {pieces : List Piece} {skipped : List ResponseContainer}
      {reply : ResponseContainer} {bytes : Bytes} (before : Skipped command pieces skipped)
      (own : reply.transactionId = command.transactionId) (bad : reply.code ≠ .ok) :
      Matched command (pieces ++ [.response reply bytes])
        (some (.error (.protocol reply.code command.code)))
  | fails {pieces : List Piece} {skipped : List ResponseContainer} {e : PtpError}
      (before : Skipped command pieces skipped) : Matched command pieces (some (.error e))

/-- The verdict of a loop that hands over its response. -/
def verdict {σ α : Type} (response : α → ResponseContainer) :
    σ ⊕ Except PtpError α → Option (Except PtpError ResponseContainer)
  | .inl _ => none
  | .inr result => some (result.map response)

section Loops

variable (command : CommandContainer) {σ α : Type}

/-- What a buffered loop has made of the reads it used: whole containers, and
behind them reads that hold no response. A loop that succeeds leaves none over. -/
def JudgedReads (response : α → ResponseContainer) (data : α → Bytes) (used : List Read)
    (outcome : σ ⊕ Except PtpError α) : Prop :=
  ∃ (whole : List Bytes) (left : List Read) (pieces : List Piece),
    used = whole.map .ok ++ left ∧ Gathers whole pieces ∧
    (∀ reply, ResponseContainer.fromBytes (readBytes left) ≠ .ok reply) ∧
    (∀ value, outcome = .inr (.ok value) →
      left = [] ∧ pieces.flatMap Piece.payload = data value) ∧
    Matched command pieces (verdict response outcome)

/-- Where `execute_with_receive` stands between two reads: `parts` are the reads
of the container that is not yet complete. -/
structure Collects (whole parts : List Bytes) (pieces : List Piece)
    (skipped : List ResponseContainer) (state : ReceiveLoop) : Prop where
  gathers : Gathers whole pieces
  pending : parts.flatten = state.pending
  between : state.incomplete = none → parts = []
  announced : state.Announced
  holds : Skipped command pieces skipped
  data : pieces.flatMap Piece.payload = state.data
  count : skipped.length = state.skipped

namespace Collects

variable {command} {whole parts : List Bytes} {pieces : List Piece}
  {skipped : List ResponseContainer} {state : ReceiveLoop}

theorem waiting (collects : Collects command whole parts pieces skipped state) :
    JudgedReads command Prod.fst Prod.snd ((whole ++ parts).map .ok)
      (.inl state : ReceiveLoop ⊕ Except PtpError (ResponseContainer × Bytes)) := by
  refine ⟨whole, parts.map .ok, pieces, List.map_append, collects.gathers, fun reply => ?_, nofun,
    .reads collects.holds⟩
  rw [readBytes_ok, collects.pending]
  exact no_reply_pending state collects.announced reply

theorem again (collects : Collects command whole parts pieces skipped state) {read : Read}
    {next : ReceiveLoop} {more : List WireEvent}
    (taken : executeWithReceive command.transactionId command.code state read =
      .again next more) :
    ∃ whole' parts' pieces' skipped', (whole ++ parts).map .ok ++ [read] =
      (whole' ++ parts').map .ok ∧ Collects command whole' parts' pieces' skipped' next := by
  have step := executeWithReceive_step command.transactionId command.code state read
  rw [taken] at step
  cases step with
  | @collects bytes total short announces =>
      refine ⟨whole, parts ++ [bytes], pieces, skipped, by simp, { collects with
        pending := ?_
        between := nofun
        announced := ?_ }⟩
      · rw [List.flatten_append, collects.pending, List.flatten_singleton]
        rfl
      · intro bytes' total' same
        cases same
        exact ⟨announces collects.announced, short⟩
  | @closes bytes container parsed needed =>
      rw [← collects.pending] at parsed
      refine ⟨whole ++ (parts ++ [bytes]), [], _, skipped, by simp, {
        gathers := .data collects.gathers parsed (by
          rw [collects.pending]
          exact needed collects.announced)
        pending := rfl
        between := fun _ => rfl
        announced := nofun
        holds := collects.holds.data _ _
        data := ?_
        count := collects.count }⟩
      rw [List.flatMap_append, collects.data]
      simp
  | @skips bytes reply between parsed empty stale may =>
      have clean : pieces.flatMap Piece.payload = [] := collects.data.trans empty
      rw [← collects.count] at may
      cases collects.between between
      refine ⟨whole ++ [bytes], [], _, _, by simp, {
        gathers := .response collects.gathers parsed
        pending := collects.pending
        between := fun _ => rfl
        announced := collects.announced
        holds := collects.holds.skip clean stale may
        data := ?_
        count := ?_ }⟩
      · rw [List.flatMap_append, collects.data]
        simp
      · rw [List.length_append, collects.count, List.length_singleton]

theorem done (collects : Collects command whole parts pieces skipped state) {read : Read}
    {result : Except PtpError (ResponseContainer × Bytes)} {more : List WireEvent}
    (taken : executeWithReceive command.transactionId command.code state read =
      .done result more) :
    JudgedReads command Prod.fst Prod.snd ((whole ++ parts).map .ok ++ [read])
      (.inr result : ReceiveLoop ⊕ Except PtpError (ResponseContainer × Bytes)) := by
  have step := executeWithReceive_step command.transactionId command.code state read
  rw [taken] at step
  cases step with
  | fails unread =>
      refine ⟨whole, parts.map .ok ++ [read], pieces, by simp, collects.gathers, fun reply => ?_,
        nofun, .fails collects.holds⟩
      rw [readBytes_append, readBytes_ok, collects.pending]
      exact unread collects.announced reply
  | @accepts bytes reply between parsed own =>
      cases collects.between between
      refine ⟨whole ++ [bytes], [], _, by simp, .response collects.gathers parsed,
        fun reply parsed => (by cases parsed), fun value same => ⟨rfl, ?_⟩,
        .succeeds collects.holds own⟩
      cases same
      rw [List.flatMap_append, collects.data]
      simp
  | @mismatches bytes reply between parsed foreign =>
      cases collects.between between
      exact ⟨whole ++ [bytes], [], _, by simp, .response collects.gathers parsed,
        fun reply parsed => (by cases parsed), nofun, .mismatches collects.holds foreign⟩

end Collects

end Loops

namespace ReceiveStream

/-- What the skip rule reads of a stream, and whether the stream is over. -/
def matching (self : ReceiveStream) : UInt32 × OperationCode × Nat × Bool × Bool :=
  (self.transactionId, self.operation, self.staleRepliesSkipped, self.sawDataContainer, self.done)

@[simp] theorem boundLargeObject_matching (self : ReceiveStream) :
    self.boundLargeObject.matching = self.matching := by
  unfold boundLargeObject
  split <;> rfl

@[simp] theorem yieldChunk_matching (self : ReceiveStream) :
    self.yieldChunk.2.matching = self.matching := by
  unfold yieldChunk
  dsimp only
  split <;> rfl

/-- A stream that goes on has counted what it skipped, and skips only while it
has taken no data. -/
def Counts (command : CommandContainer) (fed : List Read) (acc : List StreamEvent)
    (stream : ReceiveStream) : Prop :=
  none ∉ StreamEvent.items acc ∧
  ∃ pieces skipped saw, Accounts pieces fed acc stream ∧ Skipped command pieces skipped ∧
    stream.matching = (command.transactionId, command.code, skipped.length, saw, false) ∧
    (saw = false → pieces.flatMap Piece.payload = [] ∧ stream.inPayload = false)

/-- The verdict of a stream that is over is the last call's item: `None` is success. -/
def Concludes (command : CommandContainer) (pieces : List Piece) (items : List Item) : Prop :=
  (∃ earlier response, items = earlier ++ [none] ∧ none ∉ earlier ∧
    Matched command pieces (some (.ok response))) ∨
  (∃ earlier e, items = earlier ++ [some (.error e)] ∧ none ∉ earlier ∧
    Matched command pieces (some (.error e)))

/-- A stream that is over has concluded by the pieces of its reads. -/
def Judged (command : CommandContainer) (fed : List Read) (acc : List StreamEvent)
    (_ : ReceiveStream) : Prop :=
  ∃ pieces left, Covers pieces left fed acc ∧ Concludes command pieces (StreamEvent.items acc)

section

variable {command : CommandContainer} {fed : List Read} {acc : List StreamEvent}
  {stream : ReceiveStream}

theorem Counts.payload (counts : Counts command fed acc stream) {events : List WireEvent}
    {pass : Pass} (step : PayloadStep stream events pass) :
    Holds (Counts command) (Counts command) (Judged command) fed acc (events, pass) := by
  obtain ⟨unended, pieces, skipped, saw, accounts, holds, view, clean⟩ := counts
  have bound := accounts.bound
  have view' : stream.boundLargeObject.matching = _ := (boundLargeObject_matching stream).trans view
  cases step with
  | chunk streaming positive =>
      have seen : saw ≠ false := fun unseen => by
        rw [(clean unseen).2] at streaming
        cases streaming
      obtain ⟨earlier, front, payload, rfl, more⟩ :=
        bound.chunk ((boundLargeObject_inPayload stream).trans streaming)
      have last : stream.boundLargeObject.yieldChunk.2.matching = _ :=
        (yieldChunk_matching _).trans view'
      refine ⟨fun _ => ⟨by simpa using unended, _, skipped, saw, more, holds.lengthen _, last,
        fun unseen => absurd unseen seen⟩, fun atEnd => ?_⟩
      have going : stream.boundLargeObject.yieldChunk.2.done = false := by
        simp only [matching, Prod.mk.injEq] at last
        exact last.2.2.2.2
      rw [atEnd] at going
      cases going
  | ends streaming nothing =>
      exact ⟨by simpa using unended, pieces, skipped, saw,
        { toCovers := bound.quiet _ rfl, room := fun open_ => by cases open_ }, holds, view',
        fun unseen => ⟨(clean unseen).1, rfl⟩⟩
  | waits idle =>
      refine ⟨by simpa using unended, pieces, skipped, saw,
        { toCovers := bound.quiet _ rfl, room := bound.room }, holds, view',
        fun unseen => ⟨(clean unseen).1, ?_⟩⟩
      exact (boundLargeObject_inPayload stream).trans (clean unseen).2

/-- A header that is taken is a data header, or a late reply that may be skipped. -/
theorem Counts.header (counts : Counts command fed acc stream) {next : ReceiveStream}
    {events : List WireEvent} {found : Header}
    (between : stream.inPayload = false) (step : HeaderStep stream next events (.ok found))
    (undone : found ≠ .done) : Counts command fed (acc ++ events.map .wire) next := by
  obtain ⟨unended, pieces, skipped, saw, accounts, holds, view, clean⟩ := counts
  simp only [matching, Prod.mk.injEq] at view
  obtain ⟨txId, operation, count, sight, going⟩ := view
  cases step with
  | data type read least =>
      refine ⟨by simpa using unended, _, skipped, true, accounts.opens type read least,
        holds.data _ _, ?_, fun unseen => by cases unseen⟩
      simp only [matching, openContainer, txId, operation, count, going]
  | done parsed own ok => exact absurd rfl undone
  | @skipped reply bytes rest front fills unseen stale may =>
      have empty := (clean (by rw [← sight, unseen])).1
      rw [txId] at stale
      rw [operation, count] at may
      have covers := (accounts.toCovers.response front fills).quiet
        [.wire (.reply reply bytes)] rfl
      refine ⟨by simpa using unended, _, skipped ++ [reply], saw,
        { toCovers := covers, room := fun open_ => ?_ }, holds.skip empty stale may, ?_,
        fun _ => ⟨?_, between⟩⟩
      · have closed : stream.inPayload = true := open_
        rw [between] at closed
        cases closed
      · simp only [matching, txId, operation, count, sight, going, List.length_append,
          List.length_singleton]
      · rw [List.flatMap_append, empty]
        rfl

/-- The response at the front is the last piece. -/
theorem Counts.concludes (counts : Counts command fed acc stream) {reply : ResponseContainer}
    (parsed : ResponseContainer.fromBytes stream.buffer = .ok reply) {events : List WireEvent}
    (silent : yielded (StreamEvent.items (events.map .wire)) = []) (item : Item)
    (concludes : ∀ pieces skipped bytes, Skipped command pieces skipped →
      Concludes command (pieces ++ [.response reply bytes]) (StreamEvent.items acc ++ [item]))
    (final : ReceiveStream) (nothing : yielded [item] = []) :
    Judged command fed (acc ++ events.map .wire ++ [.returned item]) final := by
  obtain ⟨unended, pieces, skipped, saw, accounts, holds, view, clean⟩ := counts
  obtain ⟨bytes, rest, front, fills⟩ := ResponseContainer.exists_fills parsed
  refine ⟨_, rest, ((accounts.toCovers.response front fills).quiet _ silent).quiet _ nothing, ?_⟩
  have items : StreamEvent.items (acc ++ events.map .wire ++ [.returned item]) =
      StreamEvent.items acc ++ [item] := by simp
  rw [items]
  exact concludes pieces skipped bytes holds

theorem Counts.pass (counts : Counts command fed acc stream) :
    Holds (Counts command) (Counts command) (Judged command) fed acc stream.pass := by
  have step := pass_step stream
  rcases passed : stream.pass with ⟨events, pass⟩
  rw [passed] at step
  have sent := counts
  obtain ⟨unended, pieces, skipped, saw, accounts, holds, view, clean⟩ := counts
  simp only [matching, Prod.mk.injEq] at view
  cases step with
  | finished between long header =>
      refine ⟨fun going => (by cases going), fun _ => ?_⟩
      cases header with
      | done parsed own ok =>
          rw [view.1] at own
          exact sent.concludes parsed (by simp) none (fun pieces skipped bytes holds =>
            Or.inl ⟨_, _, rfl, unended, .succeeds holds own⟩) _ rfl
  | failed between long header =>
      refine ⟨fun going => (by cases going), fun _ => ?_⟩
      cases header with
      | refused parsed own bad =>
          rw [view.1] at own
          rw [view.2.1]
          exact sent.concludes parsed (by simp) _ (fun pieces skipped bytes holds =>
            Or.inr ⟨_, _, rfl, unended, .refuses holds own bad⟩) _ rfl
      | mismatch parsed foreign kept =>
          rw [view.1] at foreign ⊢
          exact sent.concludes parsed (by simp) _ (fun pieces skipped bytes holds =>
            Or.inr ⟨_, _, rfl, unended, .mismatches holds foreign⟩) _ rfl
      | malformed doubt =>
          exact ⟨pieces, _, (accounts.quiet ([].map .wire) rfl).quiet _ rfl,
            Or.inr ⟨StreamEvent.items acc, _, by simp; rfl, unended, .fails holds⟩⟩
      | short doubt long' =>
          exact ⟨pieces, _, (accounts.quiet [.wire (.header _)] rfl).quiet _ rfl,
            Or.inr ⟨StreamEvent.items acc, _, by simp; rfl, unended, .fails holds⟩⟩
  | header between long header undone payload =>
      exact Holds.after_wires ((sent.header between header undone).payload payload)
  | payload none payload => exact sent.payload payload

theorem Counts.received (counts : Counts command fed acc stream) (read : Read) :
    Holds (Counts command) (Counts command) (Judged command) (fed ++ [read]) acc
      ([], stream.received read) := by
  obtain ⟨unended, pieces, skipped, saw, accounts, holds, view, clean⟩ := counts
  have going : stream.done = false := by
    simp only [matching, Prod.mk.injEq] at view
    exact view.2.2.2.2
  have covers := accounts.toCovers.arrives read
  have step := received_step stream read
  generalize stream.received read = pass at step
  cases step with
  | arrives some =>
      refine ⟨by simpa using unended, pieces, skipped, saw, ⟨?_, accounts.room⟩, holds, view, clean⟩
      simpa using covers
  | phaseOver streaming large =>
      refine ⟨by simpa using unended, pieces, skipped, saw, ⟨?_, accounts.room⟩, holds, view, clean⟩
      simpa using covers
  | packet expected =>
      refine ⟨by simpa using unended, pieces, skipped, saw, ⟨?_, accounts.room⟩, holds, view, clean⟩
      simpa using covers
  | empty =>
      refine ⟨fun _ => ⟨by simpa using unended, pieces, skipped, saw, ⟨?_, accounts.room⟩, holds,
        view, clean⟩, fun atEnd => ?_⟩
      · simpa using covers.quiet [.returned (some (.error _))] rfl
      · rw [atEnd] at going
        cases going
  | broken =>
      refine ⟨fun going => (by cases going), fun _ => ⟨pieces, stream.buffer, ?_, Or.inr
        ⟨StreamEvent.items acc, _, by simp; rfl, unended, .fails holds⟩⟩⟩
      simpa using covers.quiet [.returned (some (.error _))] rfl

theorem matching_rule (command : CommandContainer) :
    Rule (Counts command) (Counts command) (Judged command) where
  pass := Counts.pass
  received := fun read counts => counts.received read

end

/-- The verdict of the calls of `next_chunk`: success is the `None` they end with. -/
def JudgedRun (command : CommandContainer) (reads : List Read)
    (progress : Feed.Progress ReceiveStream Read StreamEvent ReceiveStream) : Prop :=
  ∃ used pieces left, reads = used ++ progress.unread ∧
    Covers pieces left used progress.events ∧
    match progress.outcome with
    | .inl _ => none ∉ StreamEvent.items progress.events ∧ Matched command pieces none
    | .inr _ => Concludes command pieces (StreamEvent.items progress.events)

theorem stream_matched (command : CommandContainer) (recovery : RecoveryState)
    (expectedPayloadLen : Option Nat) (reads : List Read) :
    JudgedRun command reads
      ((start recovery command.transactionId command.code expectedPayloadLen).run reads) := by
  have begins : Accounts [] [] []
      (start recovery command.transactionId command.code expectedPayloadLen) :=
    ⟨⟨rfl, rfl, fun _ inside => absurd inside List.not_mem_nil,
      fun _ _ inside => absurd inside List.not_mem_nil⟩, fun open_ => by cases open_⟩
  have reached := (matching_rule command).run [] []
    (start recovery command.transactionId command.code expectedPayloadLen)
    ⟨List.not_mem_nil, [], [], false, begins, Skipped.nil command, rfl, fun _ => ⟨rfl, rfl⟩⟩ reads
  unfold JudgedRun
  rcases outcome : ((start recovery command.transactionId command.code
    expectedPayloadLen).run reads).outcome with last | final
  · obtain ⟨unended, pieces, skipped, saw, accounts, holds, _⟩ := reached.waiting outcome
    refine ⟨reads, pieces, _, ?_, accounts.toCovers, unended, .reads holds⟩
    rw [run, Feed.unread_of_waiting feed reads outcome, List.append_nil]
  · obtain ⟨used, split, pieces, left, covers, concludes⟩ := reached.atEnd outcome
    exact ⟨used, pieces, left, split, covers, concludes⟩

end ReceiveStream

end Ptp
