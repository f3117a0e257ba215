import MtpRs.Ptp.Session.StreamLoop

set_option autoImplicit false

/- A session and the futures that run on it. A future is cut at its awaits; a
poll runs it from one await to the next, and it can be dropped at any of them. -/
namespace Ptp

inductive Operation where
  | execute
  | executeWithReceive
  | executeWithSend (data : Bytes)
  | executeWithSendStream
  | startReceiveStream (expectedPayloadLen : Option Nat)
deriving DecidableEq, Repr

structure Request where
  kind : Operation
  operation : OperationCode
  params : List UInt32
deriving DecidableEq, Repr

/-- Where a call waits. All but the first hold the operation lock, and all from
`command` on hold an armed scope. -/
inductive Await where
  | lock
  | recover (txId : UInt32)
  | command (scope : TransactionScope)
  | header (scope : TransactionScope)
  | payload (scope : TransactionScope)
  | source (scope : TransactionScope)
  | chunk (scope : TransactionScope)
  | combined (scope : TransactionScope)
  | response (scope : TransactionScope) (skipped : Nat)
  | receive (scope : TransactionScope) (state : ReceiveLoop)
deriving DecidableEq, Repr

/-- What a call that waits is answered. `done` ends a send or a cancel, `read` a
`receive_bulk`, `item` is the source's next chunk. -/
inductive Answer where
  | done
  | read (bytes : Bytes)
  | item (chunk : Option (Except (IoErrorKind × String) Bytes))
  | failed (e : PtpError)
deriving DecidableEq, Repr

/-- What a stream's owner does with it: it is left alone, or one of its two
async methods waits. -/
inductive Activity where
  | idle
  | nextChunk
  | cancel
deriving DecidableEq, Repr

inductive Task where
  | call (request : Request) (await : Await)
  | stream (stream : ReceiveStream) (activity : Activity)
deriving DecidableEq, Repr

/-- What happens on the bulk pipes, and what calls return. -/
inductive PipeEvent where
  | sent (command : CommandContainer)
  | reply (txId : UInt32)
  | drains (txId : UInt32)
  | drained (txId : UInt32)
  | reset (txId : UInt32)
  | returned (task : Nat) (failure : Option PtpError)
deriving DecidableEq, Repr

/-- The cells of `PtpSession`. The lock is held by a task. -/
structure PtpSession where
  transactionId : UInt32
  operationLock : Option Nat
  splitHeaderData : Bool
  recovery : RecoveryState
deriving DecidableEq, Repr

def PtpSession.new : PtpSession := ⟨TransactionId.first, none, false, .initial⟩

inductive Polled where
  | pending (await : Await)
  | returned (failure : Option PtpError)
  | opened (stream : ReceiveStream)
deriving DecidableEq, Repr

/-- What a poll leaves: the session's cells, the events, and the call. -/
structure After where
  session : PtpSession
  events : List PipeEvent
  polled : Polled
deriving DecidableEq, Repr

/-- `DeviceReset` tells that the session is gone. -/
def resetEvents (txId : UInt32) (e : PtpError) : List PipeEvent :=
  if e = .deviceReset then [.reset txId] else []

def replyEvents (wires : List WireEvent) : List PipeEvent :=
  (WireEvent.replies wires).map fun reply => .reply reply.transactionId

namespace PtpSession

/-- A call that holds `scope` returns: the scope is dropped, then the lock's guard. -/
def leave (self : PtpSession) (scope : TransactionScope) : PtpSession :=
  { self with recovery := scope.drop self.recovery, operationLock := none }

/-- `?` on a transport error. -/
def fail (self : PtpSession) (scope : TransactionScope) (e : PtpError) : After :=
  ⟨self.leave scope, resetEvents scope.txId e, .returned (some e)⟩

/-- The rest of a call once `recover_if_needed` is over, up to its `send_bulk`. -/
def sendCommand (self : PtpSession) (request : Request) : After :=
  ⟨{ self with transactionId := TransactionId.next self.transactionId },
    [.sent ⟨request.operation, self.transactionId, request.params⟩],
    .pending (.command (.arm self.transactionId))⟩

def recoverIfNeeded (self : PtpSession) (request : Request) : After :=
  let cleared := { self with recovery := self.recovery.take.2 }
  match self.recovery.take.1 with
  | none => cleared.sendCommand request
  | some txId => ⟨cleared, [.drains txId], .pending (.recover txId)⟩

/-- The await behind the command. `start_receive_stream` disarms and returns. -/
def commandSent (self : PtpSession) (request : Request) (scope : TransactionScope) : After :=
  match request.kind with
  | .execute => ⟨self, [], .pending (.response scope 0)⟩
  | .executeWithReceive => ⟨self, [], .pending (.receive scope .initial)⟩
  | .executeWithSend _ =>
      ⟨self, [], .pending (if self.splitHeaderData then .header scope else .payload scope)⟩
  | .executeWithSendStream =>
      ⟨self, [], .pending (if self.splitHeaderData then .header scope else .combined scope)⟩
  | .startReceiveStream expectedPayloadLen =>
      ⟨{ self with recovery := scope.disarm.drop self.recovery }, [],
        .opened (.start self.recovery scope.txId request.operation expectedPayloadLen)⟩

/-- The await behind a data header that was sent by itself. -/
def headerSent (self : PtpSession) (request : Request) (scope : TransactionScope) : After :=
  match request.kind with
  | .executeWithSend data =>
      ⟨self, [], .pending (if data.isEmpty then .response scope 0 else .payload scope)⟩
  | _ => ⟨self, [], .pending (.source scope)⟩

def nextItem (self : PtpSession) (scope : TransactionScope) :
    Option (Except (IoErrorKind × String) Bytes) → After
  | none => ⟨self, [], .pending (.response scope 0)⟩
  | some (.ok chunk) =>
      ⟨self, [], .pending (if chunk.isEmpty then .source scope else .chunk scope)⟩
  | some (.error (kind, text)) => self.fail scope (.io kind text)

/-- A call returns what its read loop ended with. Success disarms the scope. -/
def receiveOver {α : Type} (self : PtpSession) (scope : TransactionScope)
    (wires : List WireEvent) : Except PtpError α → After
  | .ok _ => ⟨self.leave scope.disarm, replyEvents wires, .returned none⟩
  | .error e => ⟨self.leave scope, replyEvents wires ++ resetEvents scope.txId e,
      .returned (some e)⟩

/-- The read loop of `receive_response` takes an answer. -/
def responseRead (self : PtpSession) (request : Request) (scope : TransactionScope)
    (skipped : Nat) (read : Read) : After :=
  match receiveResponse scope.txId request.operation skipped read with
  | .again skipped wires => ⟨self, replyEvents wires, .pending (.response scope skipped)⟩
  | .done result wires => self.receiveOver scope wires result

/-- The loop of `execute_with_receive` takes an answer. -/
def dataRead (self : PtpSession) (request : Request) (scope : TransactionScope)
    (state : ReceiveLoop) (read : Read) : After :=
  match executeWithReceive scope.txId request.operation state read with
  | .again state wires => ⟨self, replyEvents wires, .pending (.receive scope state)⟩
  | .done result wires => self.receiveOver scope wires result

/-- A poll of a call whose await is answered, `none` where the answer is of
another kind than the await. -/
def resume (self : PtpSession) (request : Request) : Await → Answer → Option After
  | .recover txId, .done =>
      let after := self.sendCommand request
      some { after with events := .drained txId :: after.events }
  | .recover txId, .failed e =>
      some ⟨{ self with recovery := self.recovery.flag txId, operationLock := none },
        resetEvents txId e, .returned (some e)⟩
  | .command scope, .done => some (self.commandSent request scope)
  | .header scope, .done => some (self.headerSent request scope)
  | .payload scope, .done => some ⟨self, [], .pending (.response scope 0)⟩
  | .source scope, .item chunk => some (self.nextItem scope chunk)
  | .chunk scope, .done => some ⟨self, [], .pending (.source scope)⟩
  | .combined scope, .done => some ⟨self, [], .pending (.response scope 0)⟩
  | .response scope skipped, .read bytes =>
      some (self.responseRead request scope skipped (.ok bytes))
  | .response scope skipped, .failed e =>
      some (self.responseRead request scope skipped (.error e))
  | .receive scope state, .read bytes => some (self.dataRead request scope state (.ok bytes))
  | .receive scope state, .failed e => some (self.dataRead request scope state (.error e))
  | .command scope, .failed e => some (self.fail scope e)
  | .header scope, .failed e => some (self.fail scope e)
  | .payload scope, .failed e => some (self.fail scope e)
  | .chunk scope, .failed e => some (self.fail scope e)
  | .combined scope, .failed e => some (self.fail scope e)
  | _, _ => none

/-- A call is dropped where it waits: what it holds is dropped, the lock's guard last. -/
def abandon (self : PtpSession) : Await → PtpSession
  | .lock => self
  | .recover _ => { self with operationLock := none }
  | .command scope | .header scope | .payload scope | .source scope | .chunk scope
  | .combined scope | .response scope _ | .receive scope _ => self.leave scope

/-- What a stream's method leaves of the session's cells. -/
def settle (self : PtpSession) (before after : ReceiveStream) : PtpSession :=
  { self with
    recovery := after.recovery
    operationLock := if before.guard && !after.guard then none else self.operationLock }

end PtpSession

/-- The failure a call of `next_chunk` reports. -/
def Item.failure : Item → Option PtpError
  | some (.error e) => some e
  | _ => none

namespace ReceiveStream

/-- `Drop for ReceiveStream`, and of the guard it may still hold. -/
def dropped (self : ReceiveStream) : ReceiveStream :=
  { self with
    recovery := if self.done then self.recovery else self.recovery.flag self.transactionId
    guard := false }

end ReceiveStream

/-- A session, the calls and streams that use it, and what they did on the pipes. -/
structure System where
  session : PtpSession
  tasks : Nat → Option Task
  history : List PipeEvent

/-- `drop` drops the future a task waits in, or the stream it left alone. -/
inductive Action where
  | setSplitHeaderData (split : Bool)
  | spawn (task : Nat) (request : Request)
  | acquire (task : Nat)
  | answer (task : Nat) (answer : Answer)
  | nextChunk (task : Nat)
  | cancel (task : Nat)
  | drop (task : Nat)
deriving DecidableEq, Repr

namespace System

/-- A session nobody uses yet. -/
def initial : System := ⟨.new, fun _ => none, []⟩

/-- A task's step, with the cells and events it leaves. -/
def put (self : System) (id : Nat) (task : Option Task) (session : PtpSession)
    (events : List PipeEvent) : System :=
  ⟨session, Function.update self.tasks id task, self.history ++ events⟩

section Put

variable (self : System) (id : Nat) (task : Option Task) (session : PtpSession)
  (events : List PipeEvent)

@[simp] theorem put_session : (self.put id task session events).session = session := rfl

@[simp] theorem put_history :
    (self.put id task session events).history = self.history ++ events := rfl

@[simp] theorem put_self : (self.put id task session events).tasks id = task := by
  simp only [put, Function.update_self]

theorem put_other {other : Nat} (different : other ≠ id) :
    (self.put id task session events).tasks other = self.tasks other := by
  simp only [put, Function.update_of_ne different]

end Put

def putCall (self : System) (id : Nat) (request : Request) (after : After) : System :=
  match after.polled with
  | .pending await => self.put id (some (.call request await)) after.session after.events
  | .returned failure =>
      self.put id none after.session (after.events ++ [.returned id failure])
  | .opened stream =>
      self.put id (some (.stream stream .idle)) after.session
        (after.events ++ [.returned id none])

/-- A call of `next_chunk` reaches its next await, or returns. -/
def putStream (self : System) (id : Nat) (before : ReceiveStream) (events : List PipeEvent)
    (polled : List WireEvent × Poll) : System :=
  match polled.2 with
  | .pending after =>
      self.put id (some (.stream after .nextChunk)) (self.session.settle before after)
        (events ++ replyEvents polled.1)
  | .ready item after =>
      self.put id (some (.stream after .idle)) (self.session.settle before after)
        (events ++ replyEvents polled.1 ++ [.returned id item.failure])

/-- The answer to a `next_chunk` that waits in `receive_bulk`. -/
def answerChunk (self : System) (id : Nat) (stream : ReceiveStream) (read : Read) : System :=
  let events := match read with
    | .ok _ => []
    | .error e => resetEvents stream.transactionId e
  self.putStream id stream events (stream.resume read)

def answerCancel (self : System) (id : Nat) (stream : ReceiveStream)
    (result : Except PtpError Unit) : System :=
  match result with
  | .ok () =>
      self.put id (some (.stream (stream.finish false) .idle))
        (self.session.settle stream (stream.finish false))
        [.drained stream.transactionId, .returned id none]
  | .error e =>
      self.put id (some (.stream (stream.finish (e != .deviceReset)) .idle))
        (self.session.settle stream (stream.finish (e != .deviceReset)))
        (resetEvents stream.transactionId e ++ [.returned id (some e)])

/-- An answered await of a stream's method. The stream reads the session's cell. -/
def answerStream (self : System) (id : Nat) (stream : ReceiveStream) :
    Activity → Answer → Option System
  | .nextChunk, .read bytes => some (self.answerChunk id stream (.ok bytes))
  | .nextChunk, .failed e => some (self.answerChunk id stream (.error e))
  | .cancel, .done => some (self.answerCancel id stream (.ok ()))
  | .cancel, .failed e => some (self.answerCancel id stream (.error e))
  | _, _ => none

def step (self : System) : Action → Option System
  | .setSplitHeaderData split =>
      some { self with session := { self.session with splitHeaderData := split } }
  | .spawn id request =>
      match self.tasks id with
      | none => some (self.put id (some (.call request .lock)) self.session [])
      | some _ => none
  | .acquire id =>
      match self.tasks id, self.session.operationLock with
      | some (.call request .lock), none => some (self.putCall id request
          ({ self.session with operationLock := some id }.recoverIfNeeded request))
      | _, _ => none
  | .answer id answer =>
      match self.tasks id with
      | some (.call request await) =>
          (self.session.resume request await answer).map (self.putCall id request)
      | some (.stream stream activity) =>
          self.answerStream id { stream with recovery := self.session.recovery } activity answer
      | none => none
  | .nextChunk id =>
      match self.tasks id with
      | some (.stream stream .idle) =>
          let stream := { stream with recovery := self.session.recovery }
          some (self.putStream id stream [] stream.nextChunk)
      | _ => none
  | .cancel id =>
      match self.tasks id with
      | some (.stream stream .idle) =>
          if stream.done then some (self.put id (some (.stream stream .idle)) self.session
            [.returned id none])
          else some (self.put id (some (.stream stream .cancel)) self.session
            [.drains stream.transactionId])
      | _ => none
  | .drop id =>
      match self.tasks id with
      | some (.call _ await) => some (self.put id none (self.session.abandon await) [])
      | some (.stream stream .idle) =>
          let stream := { stream with recovery := self.session.recovery }
          some (self.put id none (self.session.settle stream stream.dropped) [])
      | some (.stream stream _) =>
          some (self.put id (some (.stream stream .idle)) self.session [])
      | none => none

/-- The steps of a system. -/
def Steps (self : System) (action : Action) (next : System) : Prop :=
  self.step action = some next

end System

end Ptp
