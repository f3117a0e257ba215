import MtpRs.Ptp.Session.ReceiveStep
import MtpRs.Ptp.Session.System

set_option autoImplicit false

/- Opening a session over a transport whose calls are all awaited to their end. -/
namespace Ptp

/-- What a session uses of `Transport`. The idle and duration limits of the
drains are the transport's. -/
structure Transport (σ : Type) where
  sendBulk : Bytes → σ → Except PtpError Unit × σ
  receiveBulk : Nat → σ → Read × σ
  cancelTransfer : UInt32 → σ → Except PtpError Unit × σ
  drainBulkIn : σ → Except PtpError Nat × σ

def openSession (sessionId : UInt32) : CommandContainer :=
  ⟨.openSession, TransactionId.sessionLess, [sessionId]⟩

theorem receiveResponse_again {txId : UInt32} {operation : OperationCode} {skipped next : Nat}
    {read : Read} {wires : List WireEvent}
    (taken : receiveResponse txId operation skipped read = .again next wires) :
    next = skipped + 1 ∧ operation ≠ .closeSession ∧ skipped < maxStaleReplies := by
  have step := receiveResponse_step txId operation skipped read
  rw [taken] at step
  cases step with
  | skips parsed stale may => exact ⟨rfl, (maySkipStaleReply_iff operation skipped).mp may⟩

namespace Transport

variable {σ : Type} (transport : Transport σ)

def receiveResponse (txId : UInt32) (operation : OperationCode) (skipped : Nat) (state : σ) :
    Except PtpError ResponseContainer × σ :=
  let received := transport.receiveBulk 512 state
  match _taken : Ptp.receiveResponse txId operation skipped received.1 with
  | .done result _ => (result, received.2)
  | .again next _ => receiveResponse txId operation next received.2
termination_by maxStaleReplies - skipped
decreasing_by
  obtain ⟨rfl, _, few⟩ := receiveResponse_again _taken
  omega

def recoverIfNeeded (session : PtpSession) (state : σ) :
    Except PtpError Unit × PtpSession × σ :=
  let cleared := { session with recovery := session.recovery.take.2 }
  match session.recovery.take.1 with
  | none => (.ok (), cleared, state)
  | some txId =>
      match transport.cancelTransfer txId state with
      | (.ok (), state) => (.ok (), cleared, state)
      | (.error e, state) =>
          (.error e, { cleared with recovery := cleared.recovery.flag txId }, state)

def execute (session : PtpSession) (operation : OperationCode) (params : List UInt32)
    (state : σ) : Except PtpError ResponseContainer × PtpSession × σ :=
  match transport.recoverIfNeeded session state with
  | (.error e, session, state) => (.error e, session, state)
  | (.ok (), session, state) =>
      let scope := TransactionScope.arm session.transactionId
      let command : CommandContainer := ⟨operation, scope.txId, params⟩
      let session := { session with transactionId := TransactionId.next session.transactionId }
      match transport.sendBulk command.toBytes state with
      | (.error e, state) =>
          (.error e, { session with recovery := scope.drop session.recovery }, state)
      | (.ok (), state) =>
          match transport.receiveResponse scope.txId operation 0 state with
          | (.error e, state) =>
              (.error e, { session with recovery := scope.drop session.recovery }, state)
          | (.ok response, state) =>
              (.ok response, { session with recovery := scope.disarm.drop session.recovery },
                state)

def sendOpenSessionOnce (sessionId : UInt32) (state : σ) :
    Except PtpError ResponseContainer × σ :=
  match transport.sendBulk (openSession sessionId).toBytes state with
  | (.error e, state) => (.error e, state)
  | (.ok (), state) =>
      match transport.receiveBulk 512 state with
      | (.error e, state) => (.error e, state)
      | (.ok responseBytes, state) => (ResponseContainer.fromBytes responseBytes, state)

/-- A reply that is no response container is leftover data: drain, and ask once more. -/
def sendOpenSession (sessionId : UInt32) (state : σ) : Except PtpError ResponseContainer × σ :=
  match transport.sendOpenSessionOnce sessionId state with
  | (.error (.invalidData _), state) =>
      match transport.drainBulkIn state with
      | (.error e, state) => (.error e, state)
      | (.ok _, state) => transport.sendOpenSessionOnce sessionId state
  | other => other

def openWithReuse (sessionId : UInt32) (reuseExisting : Bool) (state : σ) :
    Except PtpError PtpSession × σ :=
  match transport.sendOpenSession sessionId state with
  | (.error e, state) => (.error e, state)
  | (.ok response, state) =>
      if response.code = .ok then (.ok .new, state)
      else if response.code = .sessionAlreadyOpen then
        if reuseExisting then (.ok .new, state)
        else
          -- `CloseSession` may fail: its result and its session are dropped
          let state := (transport.execute .new .closeSession [] state).2.2
          match transport.sendOpenSession sessionId state with
          | (.error e, state) => (.error e, state)
          | (.ok retry, state) =>
              if retry.code ≠ .ok then (.error (.protocol retry.code .openSession), state)
              else (.ok .new, state)
      else (.error (.protocol response.code .openSession), state)

/-- What a `CloseSession` command and one read leave. -/
def closed (state : σ) : σ :=
  match transport.sendBulk
      (⟨.closeSession, TransactionId.first, []⟩ : CommandContainer).toBytes state with
  | (.error _, state) => state
  | (.ok (), state) => (transport.receiveBulk 512 state).2

/-- `CloseSession` on a new session reads at most once, whatever it reads. -/
theorem execute_new_closeSession (state : σ) :
    (transport.execute .new .closeSession [] state).2.2 = transport.closed state := by
  have clean : transport.recoverIfNeeded .new state = (.ok (), .new, state) := rfl
  rw [execute, clean, closed]
  simp only [TransactionScope.arm, PtpSession.new]
  rcases transport.sendBulk
    (⟨.closeSession, TransactionId.first, []⟩ : CommandContainer).toBytes state with
    ⟨_ | _, state⟩
  · rfl
  · have once : (transport.receiveResponse TransactionId.first .closeSession 0 state).2 =
        (transport.receiveBulk 512 state).2 := by
      rw [receiveResponse]
      split
      · rfl
      · rename_i taken
        exact absurd rfl (receiveResponse_again taken).2.1
    dsimp only
    rw [← once]
    rcases transport.receiveResponse TransactionId.first .closeSession 0 state with
      ⟨_ | _, state⟩ <;> rfl

/-- What an `OpenSession` command and the read behind it give. -/
def ask (sessionId : UInt32) (state : σ) : Read × σ :=
  match transport.sendBulk (openSession sessionId).toBytes state with
  | (.error e, state) => (.error e, state)
  | (.ok (), state) => transport.receiveBulk 512 state

theorem sendOpenSessionOnce_eq (sessionId : UInt32) (state : σ) :
    transport.sendOpenSessionOnce sessionId state =
      ((transport.ask sessionId state).1 >>= ResponseContainer.fromBytes,
        (transport.ask sessionId state).2) := by
  unfold sendOpenSessionOnce ask
  rcases transport.sendBulk (openSession sessionId).toBytes state with ⟨_ | _, state⟩
  · rfl
  · dsimp only
    rcases transport.receiveBulk 512 state with ⟨_ | _, state⟩ <;> rfl

/-- The read behind an `OpenSession` command is a response. -/
def Answers (sessionId : UInt32) (state : σ) (response : ResponseContainer) (after : σ) : Prop :=
  ∃ bytes, transport.ask sessionId state = (.ok bytes, after) ∧
    ResponseContainer.fromBytes bytes = .ok response

/-- Where `send_open_session` asks: at once, and again behind a drain when what
it reads is no response. -/
inductive Asked (sessionId : UInt32) (state : σ) : σ → Prop where
  | first : Asked sessionId state state
  | again {message : String} {count : Nat} {left : σ}
      (malformed : (transport.ask sessionId state).1 >>= ResponseContainer.fromBytes =
        .error (.invalidData message))
      (drained : transport.drainBulkIn (transport.ask sessionId state).2 = (.ok count, left)) :
      Asked sessionId state left

section Asking

variable {transport} {sessionId : UInt32} {state after : σ} {response : ResponseContainer}

theorem sendOpenSessionOnce_ok :
    transport.sendOpenSessionOnce sessionId state = (.ok response, after) ↔
      transport.Answers sessionId state response after := by
  rw [sendOpenSessionOnce_eq, Answers]
  rcases transport.ask sessionId state with ⟨e | bytes, left⟩
  · constructor
    · intro same
      cases same
    · rintro ⟨bytes, same, _⟩
      cases same
  · constructor
    · intro same
      obtain ⟨parsed, rfl⟩ := Prod.mk.inj same
      exact ⟨bytes, rfl, parsed⟩
    · rintro ⟨_, same, parsed⟩
      cases same
      exact Prod.ext parsed rfl

theorem sendOpenSession_ok :
    transport.sendOpenSession sessionId state = (.ok response, after) ↔
      ∃ front, transport.Asked sessionId state front ∧
        transport.Answers sessionId front response after := by
  unfold sendOpenSession
  constructor
  · intro opened
    split at opened
    · rename_i message middle once
      rw [sendOpenSessionOnce_eq, Prod.mk.injEq] at once
      obtain ⟨malformed, rfl⟩ := once
      split at opened
      · cases opened
      · rename_i drained
        exact ⟨_, .again malformed drained, sendOpenSessionOnce_ok.mp opened⟩
    · exact ⟨state, .first, sendOpenSessionOnce_ok.mp opened⟩
  · rintro ⟨front, asked, answers⟩
    cases asked with
    | first => rw [sendOpenSessionOnce_ok.mpr answers]
    | again malformed drained =>
        rw [sendOpenSessionOnce_eq, malformed]
        dsimp only
        rw [drained]
        exact sendOpenSessionOnce_ok.mpr answers

end Asking

/-- The codes that a caller of `send_open_session` takes for an open session. -/
def Accepted (reuseExisting : Bool) (code : ResponseCode) : Prop :=
  code = .ok ∨ reuseExisting = true ∧ code = .sessionAlreadyOpen

/-- Where the `OpenSession` command is sent whose answer opens the session. -/
inductive LastAsk (sessionId : UInt32) (reuseExisting : Bool) (state : σ) : σ → Prop where
  | direct {front : σ} (asked : transport.Asked sessionId state front) :
      LastAsk sessionId reuseExisting state front
  | reopened {first middle front : σ} {response : ResponseContainer}
      (closes : reuseExisting = false) (before : transport.Asked sessionId state first)
      (answers : transport.Answers sessionId first response middle)
      (already : response.code = .sessionAlreadyOpen)
      (asked : transport.Asked sessionId (transport.closed middle) front) :
      LastAsk sessionId reuseExisting state front

/-- What an open that succeeds has asked and read last. -/
theorem openWithReuse_ok {transport : Transport σ} {sessionId : UInt32} {reuseExisting : Bool}
    {state after : σ} {session : PtpSession} :
    transport.openWithReuse sessionId reuseExisting state = (.ok session, after) ↔
      session = .new ∧ ∃ front response,
        transport.LastAsk sessionId reuseExisting state front ∧
        transport.Answers sessionId front response after ∧
        Accepted reuseExisting response.code := by
  unfold openWithReuse
  constructor
  · intro opened
    split at opened
    · cases opened
    · rename_i response middle sent
      obtain ⟨front, asked, answers⟩ := sendOpenSession_ok.mp sent
      split at opened
      · rename_i accepted
        cases opened
        exact ⟨rfl, front, response, .direct asked, answers, Or.inl accepted⟩
      · split at opened
        · rename_i already
          split at opened
          · rename_i reuses
            cases opened
            exact ⟨rfl, front, response, .direct asked, answers, Or.inr ⟨reuses, already⟩⟩
          · rename_i closes
            rw [execute_new_closeSession] at opened
            dsimp only at opened
            split at opened
            · cases opened
            · rename_i retry last again
              obtain ⟨front', asked', answers'⟩ := sendOpenSession_ok.mp again
              split at opened
              · cases opened
              · rename_i accepted
                cases opened
                exact ⟨rfl, front', retry,
                  .reopened (Bool.eq_false_iff.mpr closes) asked answers already asked',
                  answers', Or.inl (Decidable.not_not.mp accepted)⟩
        · cases opened
  · rintro ⟨rfl, front, response, last, answers, accepted⟩
    cases last with
    | direct asked =>
        rw [sendOpenSession_ok.mpr ⟨front, asked, answers⟩]
        dsimp only
        rcases accepted with accepted | ⟨reuses, already⟩
        · rw [if_pos accepted]
        · rw [already, reuses]
          rfl
    | reopened closes before answers' already asked =>
        rw [sendOpenSession_ok.mpr ⟨_, before, answers'⟩]
        dsimp only
        rw [already, closes, execute_new_closeSession,
          sendOpenSession_ok.mpr ⟨front, asked, answers⟩]
        have accepted' : response.code = .ok := by
          rcases accepted with accepted | ⟨reuses, _⟩
          · exact accepted
          · rw [closes] at reuses
            cases reuses
        simp only [accepted', ne_eq, not_true, ↓reduceIte, reduceCtorEq, Bool.false_eq_true]

end Transport

end Ptp
