import MtpRs.Ptp.Session.Streaming

set_option autoImplicit false

/- What one trip through the loop of `next_chunk` can do, said once. -/
namespace Ptp

namespace ReceiveStream

/-- What `consume_container_header` can do with the front of the buffer. -/
inductive HeaderStep (self : ReceiveStream) :
    ReceiveStream → List WireEvent → Except PtpError Header → Prop where
  | data {length : UInt32} (type : containerType self.buffer = .ok .data)
      (read : unpackU32 (self.buffer.take 4) = .ok length)
      (least : length = largeObjectLengthSentinel ∨ headerSize ≤ length.toNat) :
      HeaderStep self (self.openContainer length) [.header (self.buffer.take headerSize)]
        (.ok .data)
  | done {response : ResponseContainer}
      (parsed : ResponseContainer.fromBytes self.buffer = .ok response)
      (own : response.transactionId = self.transactionId) (ok : response.code = .ok) :
      HeaderStep self self [.reply response []] (.ok .done)
  | skipped {response : ResponseContainer} {bytes rest : Bytes}
      (front : self.buffer = bytes ++ rest) (fills : response.Fills bytes)
      (unseen : self.sawDataContainer = false)
      (stale : isStaleReply response.transactionId self.transactionId = true)
      (may : maySkipStaleReply self.operation self.staleRepliesSkipped = true) :
      HeaderStep self
        { self with
          staleRepliesSkipped := self.staleRepliesSkipped + 1
          buffer := rest }
        [.reply response bytes] (.ok .skippedStaleReply)
  | refused {response : ResponseContainer}
      (parsed : ResponseContainer.fromBytes self.buffer = .ok response)
      (own : response.transactionId = self.transactionId) (bad : response.code ≠ .ok) :
      HeaderStep self self [.reply response []] (.error (.protocol response.code self.operation))
  | mismatch {response : ResponseContainer}
      (parsed : ResponseContainer.fromBytes self.buffer = .ok response)
      (foreign : response.transactionId ≠ self.transactionId)
      (kept : (!self.sawDataContainer &&
        isStaleReply response.transactionId self.transactionId &&
        maySkipStaleReply self.operation self.staleRepliesSkipped) = false) :
      HeaderStep self self [.reply response []]
        (.error (transactionMismatch self.transactionId response.transactionId))
  | malformed {e : PtpError} (doubt : pipeInDoubt e = true) : HeaderStep self self [] (.error e)
  | short {e : PtpError} (doubt : pipeInDoubt e = true)
      (long : headerSize ≤ self.buffer.length) :
      HeaderStep self
        { self with buffer := self.buffer.drop headerSize, largeObject := false }
        [.header (self.buffer.take headerSize)] (.error e)

end ReceiveStream

/-- Nothing a parser rejects is a protocol error, so the pipe stays in doubt. -/
theorem FailsInvalid.pipeInDoubt {α : Type} {result : Except PtpError α} {e : PtpError}
    (parser : FailsInvalid result) (failed : result = .error e) :
    ReceiveStream.pipeInDoubt e = true := by
  obtain ⟨message, same⟩ := parser e failed
  rw [same]
  rfl

namespace ReceiveStream

theorem consumeContainerHeader_step (self : ReceiveStream) :
    HeaderStep self self.consumeContainerHeader.1 self.consumeContainerHeader.2.1
      self.consumeContainerHeader.2.2 := by
  unfold consumeContainerHeader
  split
  · rename_i e failed
    exact .malformed ((containerType_failsInvalid _).pipeInDoubt failed)
  · rename_i type
    split
    · rename_i e failed
      exact .malformed ((unpackU32_failsInvalid _).pipeInDoubt failed)
    · rename_i length read
      dsimp only
      split
      · exact .short rfl (length_of_containerType type)
      · rename_i least
        refine .data type read ?_
        by_cases sentinel : length = largeObjectLengthSentinel
        · exact Or.inl sentinel
        · exact Or.inr (Nat.le_of_not_lt fun less => least ⟨sentinel, less⟩)
  · rename_i type
    have long := length_of_containerType type
    split
    · rename_i e failed
      exact .malformed ((ResponseContainer.fromBytes_failsInvalid _).pipeInDoubt failed)
    · rename_i response parsed
      split
      · rename_i foreign
        split
        · rename_i skippable
          simp only [Bool.and_eq_true, Bool.not_eq_true'] at skippable
          split
          · rename_i e failed
            exact .malformed ((unpackU32_failsInvalid _).pipeInDoubt failed)
          · rename_i length read
            obtain ⟨header, view⟩ := ResponseContainer.parsed_of_fromBytes parsed
            have announced : header.length = length :=
              Except.ok.inj ((unpackHeader_fields view.read).1.symm.trans read)
            have least := view.least
            have inside := view.inside
            have clamped : min (max length.toNat headerSize) self.buffer.length =
                header.length.toNat := by
              rw [← announced]
              omega
            rw [clamped]
            exact .skipped (List.take_append_drop _ _).symm (view.fills parsed) skippable.1.1
              skippable.1.2 skippable.2
        · rename_i kept
          exact .mismatch parsed foreign (Bool.eq_false_iff.mpr kept)
      · rename_i same
        have own := Decidable.not_not.mp same
        split
        · rename_i bad
          exact .refused parsed own bad
        · rename_i good
          exact .done parsed own (Decidable.not_not.mp good)
  · exact .malformed rfl

/-- What the loop body does once no header is waiting at the front. -/
inductive PayloadStep (self : ReceiveStream) : List WireEvent → Pass → Prop where
  | chunk (streaming : self.inPayload = true) (some : 0 < self.boundLargeObject.takeLength) :
      PayloadStep self [.payload self.boundLargeObject.yieldChunk.1]
        (.returns (.some (.ok self.boundLargeObject.yieldChunk.1))
          self.boundLargeObject.yieldChunk.2)
  | ends (streaming : self.inPayload = true)
      (nothing : self.boundLargeObject.payloadRemaining = .some 0) :
      PayloadStep self [] (.continues self.boundLargeObject.endContainer)
  | waits (idle : self.inPayload = true → self.boundLargeObject.takeLength = 0 ∧
        self.boundLargeObject.payloadRemaining ≠ .some 0) :
      PayloadStep self [] (.awaits { self.boundLargeObject with shortRead := false })

@[simp] theorem boundLargeObject_inPayload (self : ReceiveStream) :
    self.boundLargeObject.inPayload = self.inPayload := by
  unfold boundLargeObject
  split <;> rfl

@[simp] theorem boundLargeObject_buffer (self : ReceiveStream) :
    self.boundLargeObject.buffer = self.buffer := by
  unfold boundLargeObject
  split <;> rfl

theorem passPayload_step (self : ReceiveStream) :
    PayloadStep self self.passPayload.1 self.passPayload.2 := by
  unfold passPayload
  dsimp only
  split
  · rename_i taken
    exact .chunk (by simpa only [boundLargeObject_inPayload] using taken.1) taken.2
  · rename_i untaken
    split
    · rename_i atEnd
      exact .ends (by simpa only [boundLargeObject_inPayload] using atEnd.1) atEnd.2
    · rename_i more
      refine .waits fun streaming => ⟨?_, ?_⟩
      · apply Nat.eq_zero_of_not_pos
        intro some
        exact untaken ⟨by rw [boundLargeObject_inPayload, streaming], some⟩
      · intro zero
        exact more ⟨by rw [boundLargeObject_inPayload, streaming], zero⟩

/-- What one trip through the loop body does, up to its `receive_bulk`. -/
inductive PassStep (self : ReceiveStream) : List WireEvent → Pass → Prop where
  | finished {self' : ReceiveStream} {events : List WireEvent}
      (between : self.inPayload = false) (long : headerSize ≤ self.buffer.length)
      (header : HeaderStep self self' events (.ok .done)) :
      PassStep self events (.returns none (self'.finish false))
  | failed {self' : ReceiveStream} {events : List WireEvent} {e : PtpError}
      (between : self.inPayload = false) (long : headerSize ≤ self.buffer.length)
      (header : HeaderStep self self' events (.error e)) :
      PassStep self events (.returns (some (.error e)) (self'.finish (pipeInDoubt e)))
  | header {self' : ReceiveStream} {events more : List WireEvent} {found : Header} {pass : Pass}
      (between : self.inPayload = false) (long : headerSize ≤ self.buffer.length)
      (header : HeaderStep self self' events (.ok found)) (undone : found ≠ .done)
      (payload : PayloadStep self' more pass) : PassStep self (events ++ more) pass
  | payload {events : List WireEvent} {pass : Pass}
      (none : self.inPayload = true ∨ self.buffer.length < headerSize)
      (payload : PayloadStep self events pass) : PassStep self events pass

theorem pass_step (self : ReceiveStream) : PassStep self self.pass.1 self.pass.2 := by
  unfold pass
  split
  · rename_i front
    have header := consumeContainerHeader_step self
    rcases taken : self.consumeContainerHeader with ⟨self', events, found⟩
    rw [taken] at header
    rcases found with e | found
    · exact .failed front.1 front.2 header
    · cases found with
      | done => exact .finished front.1 front.2 header
      | data => exact .header front.1 front.2 header (by decide) (passPayload_step self')
      | skippedStaleReply =>
          exact .header front.1 front.2 header (by decide) (passPayload_step self')
  · rename_i front
    refine .payload ?_ (passPayload_step self)
    by_cases streaming : self.inPayload = true
    · exact Or.inl streaming
    · refine Or.inr (Nat.lt_of_not_le fun long => front ⟨?_, long⟩)
      simpa only [Bool.not_eq_true] using streaming

/-- What the answer to a `receive_bulk` does. -/
inductive ReceivedStep (self : ReceiveStream) : Read → Pass → Prop where
  | arrives {bytes : Bytes} (some : bytes ≠ []) :
      ReceivedStep self (.ok bytes) (.continues { self with
        expectZeroLengthPacket := false
        shortRead := decide (bytes.length < receiveChunk)
        buffer := self.buffer ++ bytes })
  | phaseOver (streaming : self.inPayload = true) (large : self.largeObject = true) :
      ReceivedStep self (.ok []) (.continues { self with shortRead := true })
  | packet (expected : self.expectZeroLengthPacket = true) :
      ReceivedStep self (.ok []) (.continues { self with expectZeroLengthPacket := false })
  | empty :
      ReceivedStep self (.ok [])
        (.returns (some (.error (.invalidData "Empty response from device"))) self)
  | broken {e : PtpError} :
      ReceivedStep self (.error e)
        (.returns (some (.error e)) (self.finish (e != .deviceReset)))

theorem received_step (self : ReceiveStream) (read : Read) :
    ReceivedStep self read (self.received read) := by
  unfold received
  split
  · rename_i bytes
    split
    · rename_i empty
      rw [List.isEmpty_iff.mp empty]
      split
      · rename_i large
        simp only [Bool.and_eq_true] at large
        exact .phaseOver large.1 large.2
      · split
        · rename_i expected
          exact .packet expected
        · exact .empty
    · rename_i some
      exact .arrives fun empty => some (List.isEmpty_iff.mpr empty)
  · exact .broken

end ReceiveStream

end Ptp
