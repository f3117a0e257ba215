import MtpRs.Ptp.Session.Receive

set_option autoImplicit false

/- What one turn of the two buffered loops can do, said once. -/
namespace Ptp

open Feed (Turn)

@[simp] def readBytes : List Read → Bytes
  | [] => []
  | .ok bytes :: rest => bytes ++ readBytes rest
  | .error _ :: rest => readBytes rest

@[simp] theorem readBytes_append (front back : List Read) :
    readBytes (front ++ back) = readBytes front ++ readBytes back := by
  induction front with
  | nil => rfl
  | cons read rest ih =>
      cases read <;> simp only [List.cons_append, readBytes, ih, List.append_assoc]

@[simp] theorem readBytes_ok (reads : List Bytes) : readBytes (reads.map .ok) = reads.flatten := by
  induction reads with
  | nil => rfl
  | cons bytes rest ih => simp only [List.map_cons, readBytes, ih, List.flatten_cons]

theorem readBytes_singleton (bytes : Bytes) : readBytes [.ok bytes] = bytes :=
  List.append_nil bytes

/-- What one answer does to the loop of `receive_response`. -/
inductive ResponseStep (txId : UInt32) (operation : OperationCode) (skipped : Nat) : Read →
    Turn Nat WireEvent (Except PtpError ResponseContainer) → Prop where
  | fails {read : Read} {e : PtpError}
      (unread : ∀ reply, ResponseContainer.fromBytes (readBytes [read]) ≠ .ok reply) :
      ResponseStep txId operation skipped read (.done (.error e) [])
  | accepts {bytes : Bytes} {reply : ResponseContainer}
      (parsed : ResponseContainer.fromBytes bytes = .ok reply)
      (own : reply.transactionId = txId) :
      ResponseStep txId operation skipped (.ok bytes) (.done (.ok reply) [.reply reply bytes])
  | skips {bytes : Bytes} {reply : ResponseContainer}
      (parsed : ResponseContainer.fromBytes bytes = .ok reply)
      (stale : isStaleReply reply.transactionId txId = true)
      (may : maySkipStaleReply operation skipped = true) :
      ResponseStep txId operation skipped (.ok bytes) (.again (skipped + 1) [.reply reply bytes])
  | mismatches {bytes : Bytes} {reply : ResponseContainer}
      (parsed : ResponseContainer.fromBytes bytes = .ok reply)
      (foreign : reply.transactionId ≠ txId) :
      ResponseStep txId operation skipped (.ok bytes)
        (.done (.error (transactionMismatch txId reply.transactionId)) [.reply reply bytes])

theorem receiveResponse_step (txId : UInt32) (operation : OperationCode) (skipped : Nat)
    (read : Read) :
    ResponseStep txId operation skipped read (receiveResponse txId operation skipped read) := by
  unfold receiveResponse
  split
  · exact .fails fun reply parsed => by cases parsed
  · rename_i bytes
    split
    · rename_i failed
      refine .fails fun reply parsed => ?_
      rw [readBytes_singleton, failed] at parsed
      cases parsed
    · rename_i reply parsed
      split
      · rename_i own
        exact .accepts parsed own
      · rename_i foreign
        split
        · rename_i skippable
          simp only [Bool.and_eq_true] at skippable
          exact .skips parsed skippable.1 skippable.2
        · exact .mismatches parsed foreign

/-- A failure is the transport's, or the loop's own complaint. -/
theorem receiveResponse_error {txId : UInt32} {operation : OperationCode} {skipped : Nat}
    {read : Read} {e : PtpError} {events : List WireEvent}
    (ended : receiveResponse txId operation skipped read = .done (.error e) events) :
    read = .error e ∨ ∃ message, e = .invalidData message := by
  unfold receiveResponse at ended
  split at ended
  · cases ended
    exact Or.inl rfl
  · rename_i bytes
    cases parsed : ResponseContainer.fromBytes bytes with
    | error inner =>
        simp only [parsed] at ended
        cases ended
        exact Or.inr (ResponseContainer.fromBytes_failsInvalid bytes e parsed)
    | ok response =>
        simp only [parsed] at ended
        split at ended
        · cases ended
        · split at ended
          · cases ended
          · cases ended
            exact Or.inr ⟨_, rfl⟩

/-- The bytes of the container being completed. -/
def ReceiveLoop.pending (self : ReceiveLoop) : Bytes :=
  match self.incomplete with
  | some (bytes, _) => bytes
  | none => []

/-- The bytes start a data container of `total` bytes. -/
structure Announces (bytes : Bytes) (total : Nat) : Prop where
  type : containerType bytes = .ok .data
  length : ∃ length, unpackU32 (bytes.take 4) = .ok length ∧ length.toNat = total

/-- More bytes leave the header as it was. -/
theorem Announces.more {bytes : Bytes} {total : Nat} (announces : Announces bytes total)
    (more : Bytes) : Announces (bytes ++ more) total where
  type := by
    have long := length_of_containerType announces.type
    obtain ⟨header, read, type⟩ := header_of_containerType announces.type
    refine containerType_of_header (by rw [List.length_append]; omega) ?_
      (by rw [type]; exact ContainerType.ofCode_toCode .data)
    rw [unpackHeader_append long, read]
  length := by
    have long := length_of_containerType announces.type
    rw [List.take_append_of_le_length (Nat.le_trans (by decide) long)]
    exact announces.length

/-- The start of a data container is no response. -/
theorem Announces.no_reply {bytes : Bytes} {total : Nat} (announces : Announces bytes total)
    (reply : ResponseContainer) : ResponseContainer.fromBytes bytes ≠ .ok reply := by
  intro parsed
  have type := ResponseContainer.containerType_of_fromBytes parsed
  rw [announces.type] at type
  cases type

/-- A container that is waited for is announced by the bytes at hand. -/
def ReceiveLoop.Announced (self : ReceiveLoop) : Prop :=
  ∀ bytes total, self.incomplete = some (bytes, total) →
    Announces bytes total ∧ bytes.length < total

/-- What one answer does to the loop of `execute_with_receive`. -/
inductive ReceiveStep (txId : UInt32) (operation : OperationCode) (state : ReceiveLoop) : Read →
    Turn ReceiveLoop WireEvent (Except PtpError (ResponseContainer × Bytes)) → Prop where
  | fails {read : Read} {e : PtpError}
      (unread : state.Announced →
        ∀ reply, ResponseContainer.fromBytes (state.pending ++ readBytes [read]) ≠ .ok reply) :
      ReceiveStep txId operation state read (.done (.error e) [])
  | collects {more : Bytes} {totalLength : Nat}
      (short : (state.pending ++ more).length < totalLength)
      (announces : state.Announced → Announces (state.pending ++ more) totalLength) :
      ReceiveStep txId operation state (.ok more)
        (.again { state with incomplete := some (state.pending ++ more, totalLength) } [])
  | closes {more : Bytes} {container : DataContainer}
      (parsed : DataContainer.fromBytes (state.pending ++ more) = .ok container)
      (needed : state.Announced → state.pending.length < headerSize + container.payload.length) :
      ReceiveStep txId operation state (.ok more)
        (.again { state with data := state.data ++ container.payload, incomplete := none }
          [.header ((state.pending ++ more).take headerSize), .payload container.payload])
  | skips {bytes : Bytes} {reply : ResponseContainer} (between : state.incomplete = none)
      (parsed : ResponseContainer.fromBytes bytes = .ok reply) (empty : state.data = [])
      (stale : isStaleReply reply.transactionId txId = true)
      (may : maySkipStaleReply operation state.skipped = true) :
      ReceiveStep txId operation state (.ok bytes)
        (.again { state with skipped := state.skipped + 1 } [.reply reply bytes])
  | accepts {bytes : Bytes} {reply : ResponseContainer} (between : state.incomplete = none)
      (parsed : ResponseContainer.fromBytes bytes = .ok reply)
      (own : reply.transactionId = txId) :
      ReceiveStep txId operation state (.ok bytes)
        (.done (.ok (reply, state.data)) [.reply reply bytes])
  | mismatches {bytes : Bytes} {reply : ResponseContainer} (between : state.incomplete = none)
      (parsed : ResponseContainer.fromBytes bytes = .ok reply)
      (foreign : reply.transactionId ≠ txId) :
      ReceiveStep txId operation state (.ok bytes)
        (.done (.error (transactionMismatch txId reply.transactionId)) [.reply reply bytes])

section

variable (txId : UInt32) (operation : OperationCode) (state : ReceiveLoop)

theorem completeContainer_step (more : Bytes) (totalLength : Nat)
    (announces : state.Announced → Announces (state.pending ++ more) totalLength)
    (waiting : state.Announced → state.pending = [] ∨ state.pending.length < totalLength) :
    ReceiveStep txId operation state (.ok more)
      (completeContainer state (state.pending ++ more) totalLength) := by
  unfold completeContainer
  split
  · rename_i short
    exact .collects short announces
  · unfold closeContainer
    split
    · refine .fails fun announced => ?_
      rw [readBytes_singleton]
      exact (announces announced).no_reply
    · rename_i container parsed
      refine .closes parsed fun announced => ?_
      obtain ⟨header, view⟩ := DataContainer.parsed_of_fromBytes parsed
      obtain ⟨length, read, total⟩ := (announces announced).length
      have same : header.length = length :=
        Except.ok.inj ((unpackHeader_fields view.read).1.symm.trans read)
      have least := view.least
      have inside := view.inside
      have held : container.payload.length = header.length.toNat - headerSize := by
        rw [view.payload, List.length_drop, List.length_take, Nat.min_eq_left inside]
      rcases waiting announced with none_ | less
      · rw [none_, List.length_nil]
        unfold headerSize
        omega
      · rw [held, same]
        omega

/-- Nothing but what waits is left when no bytes come. -/
theorem no_reply_pending (announced : state.Announced) (reply : ResponseContainer) :
    ResponseContainer.fromBytes state.pending ≠ .ok reply := by
  unfold ReceiveLoop.pending
  split
  · rename_i bytes total waits
    exact (announced bytes total waits).1.no_reply reply
  · exact fun parsed => by cases parsed

theorem executeWithReceive_step (read : Read) :
    ReceiveStep txId operation state read (executeWithReceive txId operation state read) := by
  unfold executeWithReceive
  split
  · rename_i bytes totalLength pending
    have held : state.pending = bytes := by simp only [ReceiveLoop.pending, pending]
    split
    · exact .fails fun announced => by
        rw [readBytes, readBytes, List.append_nil]
        exact no_reply_pending state announced
    · rename_i more
      split
      · rename_i empty
        rw [List.isEmpty_iff.mp empty]
        exact .fails fun announced => by
          rw [readBytes_singleton, List.append_nil]
          exact no_reply_pending state announced
      · rw [← held]
        refine completeContainer_step txId operation state more totalLength
          (fun announced => ?_) fun announced => Or.inr ?_
        · rw [held]
          exact (announced bytes totalLength pending).1.more more
        · rw [held]
          exact (announced bytes totalLength pending).2
  · rename_i between
    have held : state.pending = [] := by simp only [ReceiveLoop.pending, between]
    split
    · exact .fails fun announced => by
        rw [readBytes, readBytes, List.append_nil]
        exact no_reply_pending state announced
    · rename_i bytes
      -- a read that is no container of type `Response` holds no response
      have other (unlike : ∀ reply, ResponseContainer.fromBytes bytes ≠ .ok reply) :
          state.Announced → ∀ reply,
            ResponseContainer.fromBytes (state.pending ++ readBytes [.ok bytes]) ≠ .ok reply := by
        intro _ reply
        rw [held, List.nil_append, readBytes_singleton]
        exact unlike reply
      have typed {found : Except PtpError ContainerType} (type : containerType bytes = found)
          (apart : found ≠ .ok .response) (reply : ResponseContainer) :
          ResponseContainer.fromBytes bytes ≠ .ok reply := fun parsed =>
        apart (type.symm.trans (ResponseContainer.containerType_of_fromBytes parsed))
      split
      · rename_i empty
        rw [List.isEmpty_iff.mp empty] at other ⊢
        exact .fails (other fun reply parsed => by cases parsed)
      · split
        · rename_i failed
          exact .fails (other (typed failed (by simp)))
        · rename_i type
          split
          · exact .fails (other (typed type (by simp)))
          · rename_i totalLength read
            have step := completeContainer_step txId operation state bytes totalLength.toNat
              (fun _ => by
                rw [held, List.nil_append]
                exact ⟨type, totalLength, read, rfl⟩) (fun _ => Or.inl held)
            simpa only [held, List.nil_append] using step
        · split
          · rename_i failed
            exact .fails (other fun reply parsed => by
              rw [failed] at parsed
              cases parsed)
          · rename_i reply parsed
            split
            · rename_i foreign
              split
              · rename_i skippable
                simp only [Bool.and_eq_true, List.isEmpty_iff] at skippable
                exact .skips between parsed skippable.1.1 skippable.1.2 skippable.2
              · exact .mismatches between parsed foreign
            · rename_i own
              exact .accepts between parsed (Decidable.not_not.mp own)
        · rename_i found unlike type
          exact .fails (other (typed type (by
            intro same
            exact absurd (Except.ok.inj same) (by assumption))))

end

theorem completeContainer_error {state : ReceiveLoop} {bytes : Bytes} {totalLength : Nat}
    {e : PtpError} {events : List WireEvent}
    (ended : completeContainer state bytes totalLength = .done (.error e) events) :
    ∃ message, e = .invalidData message := by
  unfold completeContainer at ended
  split at ended
  · cases ended
  · unfold closeContainer at ended
    cases parsed : DataContainer.fromBytes bytes with
    | error inner =>
        simp only [parsed] at ended
        cases ended
        exact DataContainer.fromBytes_failsInvalid bytes e parsed
    | ok container =>
        simp only [parsed] at ended
        cases ended

theorem executeWithReceive_error {txId : UInt32} {operation : OperationCode} {state : ReceiveLoop}
    {read : Read} {e : PtpError} {events : List WireEvent}
    (ended : executeWithReceive txId operation state read = .done (.error e) events) :
    read = .error e ∨ ∃ message, e = .invalidData message := by
  unfold executeWithReceive at ended
  split at ended
  · split at ended
    · cases ended
      exact Or.inl rfl
    · split at ended
      · cases ended
        exact Or.inr ⟨_, rfl⟩
      · exact Or.inr (completeContainer_error ended)
  · split at ended
    · cases ended
      exact Or.inl rfl
    · rename_i bytes
      refine Or.inr ?_
      split at ended
      · cases ended
        exact ⟨_, rfl⟩
      · split at ended
        · rename_i failed
          cases ended
          exact containerType_failsInvalid bytes _ failed
        · split at ended
          · rename_i failed
            cases ended
            exact unpackU32_failsInvalid _ _ failed
          · exact completeContainer_error ended
        · split at ended
          · rename_i failed
            cases ended
            exact ResponseContainer.fromBytes_failsInvalid bytes _ failed
          · split at ended
            · split at ended
              · cases ended
              · cases ended
                exact ⟨_, rfl⟩
            · cases ended
        · cases ended
          exact ⟨_, rfl⟩

end Ptp
