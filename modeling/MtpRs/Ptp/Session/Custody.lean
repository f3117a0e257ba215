import MtpRs.Lib.Runs
import MtpRs.Ptp.Session.ReceiveStep
import MtpRs.Ptp.Session.StreamRule
import MtpRs.Ptp.Session.System

set_option autoImplicit false

/- Who has the operation lock, and what one step can do with the transaction of
the task that has it. -/
namespace Ptp

namespace PipeEvent

/-- The event is the end of a transaction. -/
def Settles (txId : UInt32) (event : PipeEvent) : Prop :=
  event = .reply txId ∨ event = .drained txId ∨ event = .reset txId

/-- The event starts nothing, and ends no transaction but `txId`. -/
def Passes (txId : UInt32) : PipeEvent → Prop
  | .reply _ | .returned _ _ => True
  | .drained other | .reset other => other = txId
  | .sent _ | .drains _ => False

/-- The event only tells that a call returned. -/
def Silent (event : PipeEvent) : Prop := ∃ task failure, event = .returned task failure

end PipeEvent

open PipeEvent (Settles Passes Silent)

section Events

variable {txId : UInt32}

theorem passes_replyEvents (wires : List WireEvent) : ∀ event ∈ replyEvents wires,
    event.Passes txId := by
  intro event inside
  obtain ⟨reply, _, same⟩ := List.mem_map.mp inside
  rw [← same]
  trivial

theorem passes_resetEvents (e : PtpError) : ∀ event ∈ resetEvents txId e, event.Passes txId := by
  intro event inside
  unfold resetEvents at inside
  split at inside
  · rw [List.mem_singleton.mp inside]
    exact rfl
  · cases inside

theorem reset_mem_resetEvents {other : UInt32} {e : PtpError}
    (inside : .reset other ∈ resetEvents txId e) : e = .deviceReset := by
  unfold resetEvents at inside
  split at inside
  · assumption
  · cases inside

theorem unreset_replyEvents (wires : List WireEvent) (other : UInt32) :
    .reset other ∉ replyEvents wires := by
  intro inside
  obtain ⟨reply, _, same⟩ := List.mem_map.mp inside
  cases same

theorem settles_replyEvents {wires : List WireEvent} {reply : ResponseContainer}
    (read : reply ∈ WireEvent.replies wires) (own : reply.transactionId = txId) :
    ∃ event ∈ replyEvents wires, Settles txId event :=
  ⟨.reply reply.transactionId, List.mem_map.mpr ⟨reply, read, rfl⟩, Or.inl (by rw [own])⟩

end Events

/-- The transaction a call that waits is in, unless it waits for the lock. -/
def Await.txId : Await → Option UInt32
  | .lock => none
  | .recover txId => some txId
  | .command scope | .header scope | .payload scope | .source scope | .chunk scope
  | .combined scope | .response scope _ | .receive scope _ => some scope.txId

def Await.Armed : Await → Prop
  | .lock | .recover _ => True
  | .command scope | .header scope | .payload scope | .source scope | .chunk scope
  | .combined scope | .response scope _ | .receive scope _ => scope.armed = true

def Task.txId : Task → Option UInt32
  | .call _ await => await.txId
  | .stream receiving _ => some receiving.transactionId

def Holding : Task → Prop
  | .call _ await => await.Armed ∧ await.txId ≠ none
  | .stream stream _ => stream.done = false ∧ stream.guard = true

def Bystander : Task → Prop
  | .call _ await => await = .lock
  | .stream stream activity => stream.done = true ∧ stream.guard = false ∧ activity = .idle

namespace System

def inFlight (self : System) : Option UInt32 :=
  match self.session.operationLock with
  | none => none
  | some id => (self.tasks id).bind Task.txId

/-- A call waits in the drain of `recover_if_needed`. -/
def draining : Option Task → Bool
  | some (.call _ (.recover _)) => true
  | _ => false

/-- The action drops a call that drains. -/
def AbandonsDrain (system : System) : Action → Prop
  | .drop id => draining (system.tasks id) = true
  | .setSplitHeaderData _ | .spawn _ _ | .acquire _ | .answer _ _ | .nextChunk _
  | .cancel _ => False

instance (system : System) : DecidablePred (AbandonsDrain system)
  | .drop id => inferInstanceAs (Decidable (draining (system.tasks id) = true))
  | .setSplitHeaderData _ | .spawn _ _ | .acquire _ | .answer _ _ | .nextChunk _
  | .cancel _ => isFalse id

def isCall : Option Task → Bool
  | some (.call _ _) => true
  | _ => false

/-- The action tells a call, not a stream, that the device was reset. -/
def ResetsCall (system : System) : Action → Prop
  | .answer id answer => answer = .failed .deviceReset ∧ isCall (system.tasks id) = true
  | .setSplitHeaderData _ | .spawn _ _ | .acquire _ | .nextChunk _ | .cancel _ | .drop _ => False

instance (system : System) : DecidablePred (ResetsCall system)
  | .answer id answer => inferInstanceAs
      (Decidable (answer = .failed .deviceReset ∧ isCall (system.tasks id) = true))
  | .setSplitHeaderData _ | .spawn _ _ | .acquire _ | .nextChunk _ | .cancel _
  | .drop _ => isFalse id

end System

/-- What a step does with the transaction in flight and the recovery cell, and
what it adds to the history. -/
inductive Move (system : System) (action : Action) :
    Option UInt32 → Option UInt32 → List PipeEvent → RecoveryState → Prop where
  | rests {txId : Option UInt32} {events : List PipeEvent}
      (silent : ∀ event ∈ events, event.Silent) :
      Move system action txId txId events system.session.recovery
  | sends {command : CommandContainer} (unflagged : system.session.recovery.needed = false) :
      Move system action none (some command.transactionId) [.sent command]
        system.session.recovery.take.2
  | drains (flagged : system.session.recovery.needed = true) :
      Move system action none (some system.session.recovery.poisonedTxId)
        [.drains system.session.recovery.poisonedTxId] system.session.recovery.take.2
  | drained {txId : UInt32} {command : CommandContainer} :
      Move system action (some txId) (some command.transactionId) [.drained txId, .sent command]
        system.session.recovery
  | cancels {txId : UInt32} :
      Move system action (some txId) (some txId) [.drains txId] system.session.recovery
  | reads {txId : UInt32} {events : List PipeEvent}
      (passes : ∀ event ∈ events, event.Passes txId)
      (unreset : ∀ other, .reset other ∉ events) :
      Move system action (some txId) (some txId) events system.session.recovery
  | settles {txId : UInt32} {events : List PipeEvent}
      (passes : ∀ event ∈ events, event.Passes txId)
      (settled : ∃ event ∈ events, Settles txId event) :
      Move system action (some txId) none events system.session.recovery
  | flags {txId : UInt32} {events : List PipeEvent}
      (passes : ∀ event ∈ events, event.Passes txId)
      (call : ∀ other, .reset other ∈ events → system.ResetsCall action) :
      Move system action (some txId) none events (system.session.recovery.flag txId)
  | undrained {txId : UInt32} (abandoned : system.AbandonsDrain action) :
      Move system action (some txId) none [] system.session.recovery

/-- Where a poll of task `id` leaves the lock. -/
def Leaves (id : Nat) (session : PtpSession) (task : Option Task) (txId : Option UInt32) : Prop :=
  (session.operationLock = some id ∧
    ∃ holder, task = some holder ∧ Holding holder ∧ holder.txId = txId) ∨
  (session.operationLock = none ∧ txId = none ∧ ∀ other, task = some other → Bystander other)

def After.task (request : Request) (after : After) : Option Task :=
  match after.polled with
  | .pending await => some (.call request await)
  | .returned _ => none
  | .opened stream => some (.stream stream .idle)

/-- The events of a poll, the call's return included. -/
def After.trail (id : Nat) (after : After) : List PipeEvent :=
  match after.polled with
  | .pending _ => after.events
  | .returned failure => after.events ++ [.returned id failure]
  | .opened _ => after.events ++ [.returned id none]

/-- A poll of a call is one of the moves. -/
def After.Moves (system : System) (action : Action) (id : Nat) (request : Request)
    (before : Option UInt32) (after : After) : Prop :=
  ∃ txId, Leaves id after.session (after.task request) txId ∧
    Move system action before txId (after.trail id) after.session.recovery

theorem System.putCall_eq (system : System) (id : Nat) (request : Request) (after : After) :
    system.putCall id request after =
      system.put id (after.task request) after.session (after.trail id) := by
  unfold System.putCall After.task After.trail
  cases after.polled <;> rfl

section Polls

variable {system : System} {action : Action} {id : Nat} {scope : TransactionScope}
  {request : Request}

theorem passes_append {txId : UInt32} {front back : List PipeEvent}
    (first : ∀ event ∈ front, event.Passes txId) (second : ∀ event ∈ back, event.Passes txId) :
    ∀ event ∈ front ++ back, event.Passes txId := fun event inside =>
  (List.mem_append.mp inside).elim (first event) (second event)

theorem passes_returned (txId : UInt32) (task : Nat) (failure : Option PtpError) :
    ∀ event ∈ [PipeEvent.returned task failure], event.Passes txId := by
  intro event inside
  rw [List.mem_singleton.mp inside]
  trivial

/-- A call goes on in the same transaction. -/
theorem pending_moves {await : Await} {txId : UInt32} {wires : List WireEvent}
    (locked : system.session.operationLock = some id) (armed : await.Armed)
    (same : await.txId = some txId) :
    (⟨system.session, replyEvents wires, .pending await⟩ : After).Moves system action id request
      (some txId) :=
  ⟨some txId, Or.inl ⟨locked, _, rfl, ⟨armed, by rw [same]; exact Option.some_ne_none txId⟩, same⟩,
    .reads (passes_replyEvents wires) (unreset_replyEvents wires)⟩

/-- A call that holds an armed scope fails. -/
theorem flags_moves (armed : scope.armed = true) {wires : List WireEvent} {e : PtpError}
    (call : e = .deviceReset → system.ResetsCall action) :
    (⟨system.session.leave scope, replyEvents wires ++ resetEvents scope.txId e,
      .returned (some e)⟩ : After).Moves system action id request (some scope.txId) := by
  refine ⟨none, Or.inr ⟨rfl, rfl, fun _ same => by cases same⟩, ?_⟩
  simp only [PtpSession.leave, TransactionScope.drop, armed, ↓reduceIte]
  refine .flags (passes_append (passes_append (passes_replyEvents wires)
    (passes_resetEvents e)) (passes_returned _ id _)) fun other inside => call ?_
  rcases List.mem_append.mp inside with early | back
  · rcases List.mem_append.mp early with front | middle
    · exact absurd front (unreset_replyEvents wires other)
    · exact reset_mem_resetEvents middle
  · cases List.mem_singleton.mp back

theorem fail_moves (armed : scope.armed = true) {e : PtpError}
    (call : e = .deviceReset → system.ResetsCall action) :
    (system.session.fail scope e).Moves system action id request (some scope.txId) :=
  @flags_moves _ _ _ _ _ armed [] _ call

theorem receiveOver_moves {α : Type} (armed : scope.armed = true) {wires : List WireEvent}
    {result : Except PtpError α}
    (own : ∀ value, result = .ok value →
      ∃ reply ∈ WireEvent.replies wires, reply.transactionId = scope.txId)
    (call : result = .error .deviceReset → system.ResetsCall action) :
    (system.session.receiveOver scope wires result).Moves system action id request
      (some scope.txId) := by
  cases result with
  | ok value =>
      obtain ⟨reply, read, same⟩ := own value rfl
      obtain ⟨event, inside, settles⟩ := settles_replyEvents read same
      refine ⟨none, Or.inr ⟨rfl, rfl, fun _ same => by cases same⟩, ?_⟩
      exact .settles (passes_append (passes_replyEvents wires) (passes_returned _ id _))
        ⟨event, List.mem_append_left _ inside, settles⟩
  | error e => exact flags_moves armed fun same => call (by rw [same])

theorem responseRead_moves (locked : system.session.operationLock = some id)
    (armed : scope.armed = true) (skipped : Nat) {read : Read}
    (call : read = .error .deviceReset → system.ResetsCall action) :
    (system.session.responseRead request scope skipped read).Moves system action id request
      (some scope.txId) := by
  have step := receiveResponse_step scope.txId request.operation skipped read
  unfold PtpSession.responseRead
  cases turn : receiveResponse scope.txId request.operation skipped read with
  | again next wires => exact pending_moves locked armed rfl
  | done result wires =>
      apply receiveOver_moves armed
      · intro value same
        rw [turn, same] at step
        cases step with
        | accepts parsed own => exact ⟨_, List.mem_singleton.mpr rfl, own⟩
      · intro failed
        rw [failed] at turn
        rcases receiveResponse_error turn with same | ⟨message, other⟩
        · exact call same
        · cases other

theorem dataRead_moves (locked : system.session.operationLock = some id)
    (armed : scope.armed = true) (state : ReceiveLoop) {read : Read}
    (call : read = .error .deviceReset → system.ResetsCall action) :
    (system.session.dataRead request scope state read).Moves system action id request
      (some scope.txId) := by
  have step := executeWithReceive_step scope.txId request.operation state read
  unfold PtpSession.dataRead
  cases turn : executeWithReceive scope.txId request.operation state read with
  | again next wires => exact pending_moves locked armed rfl
  | done result wires =>
      apply receiveOver_moves armed
      · intro value same
        rw [turn, same] at step
        cases step with
        | accepts between parsed own => exact ⟨_, List.mem_singleton.mpr rfl, own⟩
      · intro failed
        rw [failed] at turn
        rcases executeWithReceive_error turn with same | ⟨message, other⟩
        · exact call same
        · cases other

/-- A call goes on without having read anything. -/
theorem waits_moves {await : Await} {txId : UInt32}
    (locked : system.session.operationLock = some id) (armed : await.Armed)
    (same : await.txId = some txId) :
    (⟨system.session, [], .pending await⟩ : After).Moves system action id request (some txId) :=
  @pending_moves system action id request await txId [] locked armed same

theorem commandSent_moves (locked : system.session.operationLock = some id)
    (armed : scope.armed = true) :
    (system.session.commandSent request scope).Moves system action id request
      (some scope.txId) := by
  unfold PtpSession.commandSent
  split
  · exact waits_moves locked armed rfl
  · exact waits_moves locked armed rfl
  · split <;> exact waits_moves locked armed rfl
  · split <;> exact waits_moves locked armed rfl
  · exact ⟨_, Or.inl ⟨locked, _, rfl, ⟨rfl, rfl⟩, rfl⟩,
      .reads (passes_returned _ id none) fun other inside => by
        cases List.mem_singleton.mp inside⟩

theorem headerSent_moves (locked : system.session.operationLock = some id)
    (armed : scope.armed = true) :
    (system.session.headerSent request scope).Moves system action id request
      (some scope.txId) := by
  unfold PtpSession.headerSent
  split
  · split <;> exact waits_moves locked armed rfl
  · exact waits_moves locked armed rfl

theorem nextItem_moves (locked : system.session.operationLock = some id)
    (armed : scope.armed = true) (item : Option (Except (IoErrorKind × String) Bytes)) :
    (system.session.nextItem scope item).Moves system action id request (some scope.txId) := by
  rcases item with _ | ⟨kind, text⟩ | chunk
  · exact waits_moves locked armed rfl
  · exact fail_moves armed fun same => by cases same
  · simp only [PtpSession.nextItem]
    split <;> exact waits_moves locked armed rfl

/-- Whatever a call that has the lock is answered, it makes one of the moves. -/
theorem resume_moves {await : Await} {answer : Answer} {after : After} {txId : UInt32}
    (found : system.tasks id = some (.call request await))
    (locked : system.session.operationLock = some id) (armed : await.Armed)
    (same : await.txId = some txId)
    (resumed : system.session.resume request await answer = some after) :
    after.Moves system (.answer id answer) id request (some txId) := by
  have call : ∀ {e : PtpError}, answer = .failed e → e = .deviceReset →
      system.ResetsCall (.answer id answer) := by
    intro e failed reset
    rw [failed, reset]
    exact ⟨rfl, by rw [found]; rfl⟩
  have told : ∀ {read : Read}, (∀ e, read = .error e → answer = .failed e) →
      read = .error .deviceReset → system.ResetsCall (.answer id answer) :=
    fun given reset => call (given _ reset) rfl
  cases await with
  | lock => cases same
  | recover txId =>
      cases same
      cases answer with
      | done =>
          cases resumed
          exact ⟨_, Or.inl ⟨locked, _, rfl, ⟨rfl, Option.some_ne_none _⟩, rfl⟩,
            @Move.drained system _ txId
              ⟨request.operation, system.session.transactionId, request.params⟩⟩
      | failed e =>
          cases resumed
          refine ⟨none, Or.inr ⟨rfl, rfl, fun _ same => by cases same⟩, .flags
            (passes_append (passes_resetEvents e) (passes_returned _ id _)) fun other inside => ?_⟩
          rcases List.mem_append.mp inside with front | back
          · exact call rfl (reset_mem_resetEvents front)
          · cases List.mem_singleton.mp back
      | read bytes => cases resumed
      | item chunk => cases resumed
  | command scope =>
      cases same
      cases answer <;> cases resumed
      · exact commandSent_moves locked armed
      · exact fail_moves armed (call rfl)
  | header scope =>
      cases same
      cases answer <;> cases resumed
      · exact headerSent_moves locked armed
      · exact fail_moves armed (call rfl)
  | payload scope =>
      cases same
      cases answer <;> cases resumed
      · exact waits_moves locked armed rfl
      · exact fail_moves armed (call rfl)
  | source scope =>
      cases same
      cases answer <;> cases resumed
      exact nextItem_moves locked armed _
  | chunk scope =>
      cases same
      cases answer <;> cases resumed
      · exact waits_moves locked armed rfl
      · exact fail_moves armed (call rfl)
  | combined scope =>
      cases same
      cases answer <;> cases resumed
      · exact waits_moves locked armed rfl
      · exact fail_moves armed (call rfl)
  | response scope skipped =>
      cases same
      cases answer <;> cases resumed <;>
        exact responseRead_moves locked armed _ (told fun e failed => by cases failed <;> rfl)
  | receive scope state =>
      cases same
      cases answer <;> cases resumed <;>
        exact dataRead_moves locked armed _ (told fun e failed => by cases failed <;> rfl)

/-- Taking the lock, a call sends, or drains first. -/
theorem recoverIfNeeded_moves (system : System) (action : Action) (id : Nat) (request : Request) :
    ({ system.session with operationLock := some id }.recoverIfNeeded request).Moves system action
      id request none := by
  unfold PtpSession.recoverIfNeeded
  cases flag : system.session.recovery.needed with
  | false =>
      simp only [RecoveryState.take, flag, Bool.false_eq_true, ↓reduceIte]
      exact ⟨_, Or.inl ⟨rfl, _, rfl, ⟨rfl, Option.some_ne_none _⟩, rfl⟩,
        @Move.sends system action
          ⟨request.operation, system.session.transactionId, request.params⟩ flag⟩
  | true =>
      simp only [RecoveryState.take, flag, ↓reduceIte]
      exact ⟨_, Or.inl ⟨rfl, _, rfl, ⟨trivial, Option.some_ne_none _⟩, rfl⟩,
        @Move.drains system action flag⟩

end Polls

namespace ReceiveStream

def holding (self : ReceiveStream) : RecoveryState × Bool × UInt32 × Bool :=
  (self.recovery, self.guard, self.transactionId, self.done)

@[simp] theorem boundLargeObject_holding (self : ReceiveStream) :
    self.boundLargeObject.holding = self.holding := by
  unfold boundLargeObject
  split <;> rfl

@[simp] theorem yieldChunk_holding (self : ReceiveStream) :
    self.yieldChunk.2.holding = self.holding := by
  unfold yieldChunk
  dsimp only
  split <;> rfl

/-- A stream in transaction `txId` has the lock, has flagged nothing and was not
failed by the transport. -/
def Running (recovery : RecoveryState) (txId : UInt32) (fed : List Read) (_ : List StreamEvent)
    (stream : ReceiveStream) : Prop :=
  stream.holding = (recovery, true, txId, false) ∧ ∀ e, .error e ∉ fed

/-- A stream that is over was finished in doubt, or its response was read, or the
device was reset. -/
def Stopped (recovery : RecoveryState) (txId : UInt32) (fed : List Read) (acc : List StreamEvent)
    (stream : ReceiveStream) : Prop :=
  ∃ running doubt, stream = finish running doubt ∧
    running.holding = (recovery, true, txId, false) ∧
    if doubt then .error .deviceReset ∉ fed
    else (∃ reply ∈ WireEvent.replies (StreamEvent.wires acc), reply.transactionId = txId) ∨
      .error .deviceReset ∈ fed

section

variable {recovery : RecoveryState} {txId : UInt32} {fed : List Read} {acc : List StreamEvent}
  {stream : ReceiveStream}

theorem Running.going (running : Running recovery txId fed acc stream) : stream.done = false :=
  congrArg (fun holding => holding.2.2.2) running.1

theorem Running.transactionId (running : Running recovery txId fed acc stream) :
    stream.transactionId = txId :=
  congrArg (fun holding => holding.2.2.1) running.1

theorem Running.payload (running : Running recovery txId fed acc stream)
    {events : List WireEvent} {pass : Pass} (step : PayloadStep stream events pass) :
    Holds (Running recovery txId) (Running recovery txId) (Stopped recovery txId) fed acc
      (events, pass) := by
  have bound : stream.boundLargeObject.holding = (recovery, true, txId, false) :=
    (boundLargeObject_holding stream).trans running.1
  cases step with
  | chunk streaming positive =>
      have next : stream.boundLargeObject.yieldChunk.2.holding = (recovery, true, txId, false) :=
        (yieldChunk_holding _).trans bound
      refine ⟨fun _ => ⟨next, running.2⟩, fun atEnd => ?_⟩
      have going : stream.boundLargeObject.yieldChunk.2.done = false :=
        congrArg (fun holding => holding.2.2.2) next
      rw [going] at atEnd
      cases atEnd
  | ends streaming nothing => exact ⟨bound, running.2⟩
  | waits idle => exact ⟨bound, running.2⟩

theorem Running.header (running : Running recovery txId fed acc stream) {next : ReceiveStream}
    {events : List WireEvent} {found : Except PtpError Header}
    (step : HeaderStep stream next events found) :
    Running recovery txId fed (acc ++ events.map .wire) next := by
  cases step <;> exact running

/-- A stream that failed on its own is over, in doubt unless its response was read. -/
theorem Running.stops (running : Running recovery txId fed acc stream) (doubt : Bool)
    {acc' : List StreamEvent} (own : doubt = false →
      ∃ reply ∈ WireEvent.replies (StreamEvent.wires acc'), reply.transactionId = txId) :
    Stopped recovery txId fed acc' (finish stream doubt) := by
  refine ⟨stream, doubt, rfl, running.1, ?_⟩
  cases doubt with
  | false => exact Or.inl (own rfl)
  | true => exact running.2 .deviceReset

theorem Running.pass (running : Running recovery txId fed acc stream) :
    Holds (Running recovery txId) (Running recovery txId) (Stopped recovery txId) fed acc
      stream.pass := by
  have step := pass_step stream
  rcases passed : stream.pass with ⟨events, pass⟩
  rw [passed] at step
  have same := running.transactionId
  cases step with
  | finished between long header =>
      refine ⟨fun going => (by cases going), fun _ => (running.header header).stops false ?_⟩
      intro _
      cases header with
      | @done response parsed own ok => exact ⟨response, by simp, own.trans same⟩
  | failed between long header =>
      refine ⟨fun going => (by cases going), fun _ => (running.header header).stops _ ?_⟩
      intro sure
      cases header with
      | @refused response parsed own bad => exact ⟨response, by simp, own.trans same⟩
      | mismatch parsed foreign kept => cases sure
      | malformed doubt =>
          rw [doubt] at sure
          cases sure
      | short doubt long' =>
          rw [doubt] at sure
          cases sure
  | header between long header undone payload =>
      exact Holds.after_wires ((running.header header).payload payload)
  | payload none payload => exact running.payload payload

theorem Running.received (running : Running recovery txId fed acc stream) (read : Read) :
    Holds (Running recovery txId) (Running recovery txId) (Stopped recovery txId) (fed ++ [read])
      acc ([], stream.received read) := by
  have step := received_step stream read
  have unfailed : ∀ bytes e, .error e ∉ fed ++ [Except.ok bytes] := by
    intro bytes e inside
    rcases List.mem_append.mp inside with front | back
    · exact running.2 e front
    · cases List.mem_singleton.mp back
  generalize stream.received read = pass at step
  cases step with
  | arrives some => exact ⟨running.1, unfailed _⟩
  | phaseOver streaming large => exact ⟨running.1, unfailed _⟩
  | packet expected => exact ⟨running.1, unfailed _⟩
  | empty =>
      refine ⟨fun _ => ⟨running.1, unfailed _⟩, fun atEnd => ?_⟩
      rw [running.going] at atEnd
      cases atEnd
  | @broken e =>
      refine ⟨fun going => (by cases going), fun _ => ⟨stream, e != .deviceReset, rfl, running.1,
        ?_⟩⟩
      by_cases lost : e = .deviceReset
      · subst lost
        exact Or.inr (by simp)
      · rw [if_pos (bne_iff_ne.mpr lost)]
        intro inside
        rcases List.mem_append.mp inside with front | back
        · exact running.2 _ front
        · cases List.mem_singleton.mp back
          exact lost rfl

theorem running_rule (recovery : RecoveryState) (txId : UInt32) :
    Rule (Running recovery txId) (Running recovery txId) (Stopped recovery txId) where
  pass := Running.pass
  received := fun read running => running.received read

end

end ReceiveStream

section Streams

variable {system : System} {action : Action} {id : Nat}

/-- A stream that holds the lock is settled with the session, and keeps it. -/
theorem settle_running {stream next : ReceiveStream} {txId : UInt32}
    (running : next.holding = (system.session.recovery, true, txId, false)) :
    system.session.settle stream next = system.session := by
  simp only [ReceiveStream.holding, Prod.mk.injEq] at running
  simp only [PtpSession.settle, running, Bool.not_true, Bool.and_false, Bool.false_eq_true,
    ↓reduceIte]

/-- Finishing gives the lock back, with the pipe flagged if it is in doubt. -/
theorem settle_finish {stream running : ReceiveStream} (guarded : stream.guard = true)
    {txId : UInt32} (held : running.holding = (system.session.recovery, true, txId, false))
    (doubt : Bool) :
    system.session.settle stream (running.finish doubt) = { system.session with
      operationLock := none
      recovery := if doubt then system.session.recovery.flag txId else system.session.recovery
        } := by
  simp only [ReceiveStream.holding, Prod.mk.injEq] at held
  simp only [PtpSession.settle, ReceiveStream.finish, guarded, Bool.not_false, Bool.and_self,
    ↓reduceIte, held]

/-- A stream that ends makes a move, whether in doubt or not. -/
theorem finish_moves {txId : UInt32} {events : List PipeEvent} (doubt : Bool)
    (passes : ∀ event ∈ events, event.Passes txId)
    (unreset : doubt = true → ∀ other, .reset other ∉ events)
    (settled : doubt = false → ∃ event ∈ events, Settles txId event) :
    Move system action (some txId) none events
      (if doubt then system.session.recovery.flag txId else system.session.recovery) := by
  cases doubt with
  | false => exact .settles passes (settled rfl)
  | true => exact .flags passes fun other inside => absurd inside (unreset rfl other)

theorem polled_moves (action : Action) {before : ReceiveStream} {fed : List Read}
    {polled : List WireEvent × Poll}
    (locked : system.session.operationLock = some id)
    (running : before.holding = (system.session.recovery, true, before.transactionId, false))
    (after : ReceiveStream.Rule.After
      (ReceiveStream.Running system.session.recovery before.transactionId)
      (ReceiveStream.Running system.session.recovery before.transactionId)
      (ReceiveStream.Stopped system.session.recovery before.transactionId) fed [] polled)
    {events : List PipeEvent} (passes : ∀ event ∈ events, event.Passes before.transactionId)
    (reset : ∀ other, .reset other ∈ events → .error .deviceReset ∈ fed)
    (told : .error .deviceReset ∈ fed → .reset before.transactionId ∈ events) :
    match polled.2 with
    | .pending next =>
        ∃ txId, Leaves id (system.session.settle before next) (some (.stream next .nextChunk))
          txId ∧
          Move system action (some before.transactionId) txId (events ++ replyEvents polled.1)
            (system.session.settle before next).recovery
    | .ready item next =>
        ∃ txId, Leaves id (system.session.settle before next) (some (.stream next .idle)) txId ∧
          Move system action (some before.transactionId) txId
            (events ++ replyEvents polled.1 ++ [.returned id item.failure])
            (system.session.settle before next).recovery := by
  have guarded : before.guard = true := congrArg (fun holding => holding.2.1) running
  have passing := passes_append passes (passes_replyEvents polled.1)
  have calm : .error .deviceReset ∉ fed → ∀ other, .reset other ∉ events ++ replyEvents
    polled.1 := by
    intro calm other inside
    rcases List.mem_append.mp inside with front | back
    · exact calm (reset other front)
    · exact unreset_replyEvents _ other back
  rcases polled with ⟨wires, next | ⟨item, next⟩⟩
  · have goes_on := after.1
    simp only [settle_running goes_on]
    refine ⟨some before.transactionId, Or.inl ⟨locked, _, rfl, ⟨?_, ?_⟩, ?_⟩,
      .reads passing (calm (after.2 .deviceReset))⟩
    · exact congrArg (fun holding => holding.2.2.2) goes_on
    · exact congrArg (fun holding => holding.2.1) goes_on
    · exact congrArg some (congrArg (fun holding => holding.2.2.1) goes_on)
  · have returning := passes_append passing (passes_returned before.transactionId id item.failure)
    have calmly : .error .deviceReset ∉ fed →
        ∀ other, .reset other ∉ events ++ replyEvents wires ++ [.returned id item.failure] := by
      intro still other inside
      rcases List.mem_append.mp inside with front | back
      · exact calm still other front
      · cases List.mem_singleton.mp back
    cases done : next.done with
    | false =>
        obtain ⟨goes_on, unfailed⟩ := after.1 done
        simp only [settle_running goes_on]
        refine ⟨some before.transactionId, Or.inl ⟨locked, _, rfl, ⟨done, ?_⟩, ?_⟩,
          .reads returning (calmly (unfailed .deviceReset))⟩
        · exact congrArg (fun holding => holding.2.1) goes_on
        · exact congrArg some (congrArg (fun holding => holding.2.2.1) goes_on)
    | true =>
        obtain ⟨last, doubt, same, held, why⟩ := after.2 done
        subst same
        simp only [settle_finish guarded held]
        refine ⟨none, Or.inr ⟨rfl, rfl, fun _ same => by cases same; exact ⟨rfl, rfl, rfl⟩⟩,
          finish_moves doubt returning (fun sure => ?_) fun sure => ?_⟩
        · rw [if_pos sure] at why
          exact calmly why
        · rw [if_neg (by rw [sure]; exact Bool.false_ne_true)] at why
          rcases why with ⟨reply, read, own⟩ | lost
          · have among : reply ∈ WireEvent.replies wires := by simpa using read
            obtain ⟨event, inside, settles⟩ := settles_replyEvents among own
            exact ⟨event, by simp [inside], settles⟩
          · exact ⟨.reset before.transactionId, by simp [told lost], Or.inr (Or.inr rfl)⟩

end Streams

namespace System

/-- What holds in every reachable state: the task that has the lock uses it, and
no other task does. -/
structure Owned (system : System) : Prop where
  held : ∀ id, system.session.operationLock = some id →
    ∃ task, system.tasks id = some task ∧ Holding task
  others : ∀ id task, system.tasks id = some task → system.session.operationLock ≠ some id →
    Bystander task

/-- What a step is, seen from the session. -/
def Moves (system : System) (action : Action) (next : System) : Prop :=
  Owned next ∧ ∃ events, next.history = system.history ++ events ∧
    Move system action system.inFlight next.inFlight events next.session.recovery

theorem owned_initial : Owned initial where
  held := fun id locked => by cases locked
  others := fun id task known => by cases known

section Steps

variable {system : System} {id : Nat}

theorem inFlight_of_free (free : system.session.operationLock = none) :
    system.inFlight = none := by
  simp only [inFlight, free]

theorem inFlight_of_held {task : Task} (locked : system.session.operationLock = some id)
    (found : system.tasks id = some task) : system.inFlight = task.txId := by
  simp only [inFlight, locked, found, Option.bind_some]

/-- A step of the task that has the lock, or takes it. -/
theorem Owned.put_own (owned : Owned system) {task : Option Task} {session : PtpSession}
    (events : List PipeEvent) {txId : Option UInt32}
    (mine : system.session.operationLock = some id ∨ system.session.operationLock = none)
    (leaves : Leaves id session task txId) :
    Owned (system.put id task session events) ∧
      (system.put id task session events).inFlight = txId := by
  have others : ∀ other known, other ≠ id → system.tasks other = some known →
      Bystander known := by
    intro other known different found
    apply owned.others other known found
    intro locked
    rcases mine with own | free
    · rw [own] at locked
      exact different (Option.some.inj locked).symm
    · rw [free] at locked
      cases locked
  rcases leaves with ⟨locked, holder, same, holds, own⟩ | ⟨free, nothing, rest⟩
  · refine ⟨⟨?_, ?_⟩, ?_⟩
    · intro other has
      rw [put_session, locked] at has
      cases has
      exact ⟨holder, by rw [put_self, same], holds⟩
    · intro other known found not_held
      by_cases mine : other = id
      · subst mine
        exact absurd locked not_held
      · rw [put_other _ _ _ _ _ mine] at found
        exact others other known mine found
    · rw [inFlight_of_held locked (by rw [put_self, same]), own]
  · refine ⟨⟨?_, ?_⟩, ?_⟩
    · intro other has
      rw [put_session, free] at has
      cases has
    · intro other known found _
      by_cases mine : other = id
      · subst mine
        rw [put_self] at found
        exact rest known found
      · rw [put_other _ _ _ _ _ mine] at found
        exact others other known mine found
    · rw [inFlight_of_free free, nothing]

/-- A step of a task that does not have the lock and leaves the session alone. -/
theorem Owned.put_aside (owned : Owned system) {task : Option Task} (events : List PipeEvent)
    (aside : system.session.operationLock ≠ some id)
    (rest : ∀ other, task = some other → Bystander other) :
    Owned (system.put id task system.session events) ∧
      (system.put id task system.session events).inFlight = system.inFlight := by
  have elsewhere : ∀ other, system.session.operationLock = some other → other ≠ id := by
    intro other locked same
    rw [same] at locked
    exact aside locked
  refine ⟨⟨?_, ?_⟩, ?_⟩
  · intro other has
    obtain ⟨holder, found, holds⟩ := owned.held other has
    exact ⟨holder, by rw [put_other _ _ _ _ _ (elsewhere other has)]; exact found, holds⟩
  · intro other known found not_held
    by_cases own : other = id
    · subst own
      rw [put_self] at found
      exact rest known found
    · rw [put_other _ _ _ _ _ own] at found
      exact owned.others other known found not_held
  · unfold inFlight
    rw [put_session]
    split
    · rfl
    · rename_i other locked
      rw [put_other _ _ _ _ _ (elsewhere other locked)]

/-- A task that is not a bystander has the lock. -/
theorem Owned.holder (owned : Owned system) {task : Task} (found : system.tasks id = some task)
    (busy : ¬ Bystander task) :
    system.session.operationLock = some id ∧ Holding task := by
  have locked : system.session.operationLock = some id := by
    by_contra free
    exact busy (owned.others id task found free)
  obtain ⟨other, same, holds⟩ := owned.held id locked
  rw [found] at same
  cases same
  exact ⟨locked, holds⟩

/-- Whether a task has the lock is told by its state. -/
theorem Owned.aside_of (owned : Owned system) {task : Task}
    (found : system.tasks id = some task) (idle : ¬ Holding task) :
    system.session.operationLock ≠ some id := by
  intro locked
  obtain ⟨other, same, holds⟩ := owned.held id locked
  rw [found] at same
  cases same
  exact idle holds

theorem Owned.aside_of_none (owned : Owned system) (found : system.tasks id = none) :
    system.session.operationLock ≠ some id := by
  intro locked
  obtain ⟨other, same, _⟩ := owned.held id locked
  rw [found] at same
  cases same

/-- A stream that is not over has the lock and has flagged nothing. -/
theorem Owned.running (owned : Owned system) {stream : ReceiveStream} {activity : Activity}
    (found : system.tasks id = some (.stream stream activity))
    (going : stream.done = false ∨ activity ≠ .idle) :
    system.session.operationLock = some id ∧ system.inFlight = some stream.transactionId ∧
      ({ stream with recovery := system.session.recovery } : ReceiveStream).holding =
        (system.session.recovery, true, stream.transactionId, false) := by
  obtain ⟨locked, done, guard⟩ := owned.holder found fun idle => by
    rcases going with going | busy
    · rw [idle.1] at going
      cases going
    · exact busy idle.2.2
  exact ⟨locked, inFlight_of_held locked found, by
    simp only [ReceiveStream.holding, done, guard]⟩

/-- A stream that is over is a bystander. -/
theorem Owned.finished (owned : Owned system) {stream : ReceiveStream} {activity : Activity}
    (found : system.tasks id = some (.stream stream activity)) (done : stream.done = true) :
    system.session.operationLock ≠ some id ∧ stream.guard = false ∧ activity = .idle := by
  have aside := owned.aside_of found fun holds => by
    rw [holds.1] at done
    cases done
  have idle := owned.others id _ found aside
  exact ⟨aside, idle.2⟩

theorem Owned.moves_own (owned : Owned system) {action : Action} {task : Option Task}
    {session : PtpSession} {events : List PipeEvent} {before txId : Option UInt32}
    (mine : system.session.operationLock = some id ∨ system.session.operationLock = none)
    (inFlight : system.inFlight = before) (leaves : Leaves id session task txId)
    (move : Move system action before txId events session.recovery) :
    Moves system action (system.put id task session events) := by
  obtain ⟨next, after⟩ := owned.put_own events mine leaves
  refine ⟨next, events, rfl, ?_⟩
  rw [inFlight, after]
  exact move

theorem Owned.moves_aside (owned : Owned system) {action : Action} {task : Option Task}
    {events : List PipeEvent} (aside : system.session.operationLock ≠ some id)
    (rest : ∀ other, task = some other → Bystander other)
    (silent : ∀ event ∈ events, event.Silent) :
    Moves system action (system.put id task system.session events) := by
  obtain ⟨next, after⟩ := owned.put_aside events aside rest
  refine ⟨next, events, rfl, ?_⟩
  rw [after]
  exact .rests silent

/-- A call that is answered, or takes the lock. -/
theorem Owned.moves_call (owned : Owned system) {action : Action} {request : Request}
    {after : After} {before : Option UInt32}
    (mine : system.session.operationLock = some id ∨ system.session.operationLock = none)
    (inFlight : system.inFlight = before) (moves : after.Moves system action id request before) :
    Moves system action (system.putCall id request after) := by
  obtain ⟨txId, leaves, move⟩ := moves
  rw [putCall_eq]
  exact owned.moves_own mine inFlight leaves move

theorem Owned.moves_stream (owned : Owned system) {action : Action} {stream : ReceiveStream}
    (fed : List Read) {polled : List WireEvent × Poll} {events : List PipeEvent}
    (locked : system.session.operationLock = some id)
    (inFlight : system.inFlight = some stream.transactionId)
    (running : stream.holding = (system.session.recovery, true, stream.transactionId, false))
    (after : ReceiveStream.Rule.After
      (ReceiveStream.Running system.session.recovery stream.transactionId)
      (ReceiveStream.Running system.session.recovery stream.transactionId)
      (ReceiveStream.Stopped system.session.recovery stream.transactionId) fed [] polled)
    (passes : ∀ event ∈ events, event.Passes stream.transactionId)
    (reset : ∀ other, .reset other ∈ events → .error .deviceReset ∈ fed)
    (told : .error .deviceReset ∈ fed → .reset stream.transactionId ∈ events) :
    Moves system action (system.putStream id stream events polled) := by
  have moves := polled_moves action locked running after passes reset told
  unfold System.putStream
  rcases polled with ⟨wires, next | ⟨item, next⟩⟩ <;>
    exact owned.moves_own (Or.inl locked) inFlight moves.choose_spec.1 moves.choose_spec.2

theorem silent_returned (task : Nat) (failure : Option PtpError) :
    ∀ event ∈ [PipeEvent.returned task failure], event.Silent := by
  intro event inside
  exact ⟨task, failure, List.mem_singleton.mp inside⟩

theorem Owned.answer (owned : Owned system) {answer : Answer} {next : System}
    (taken : system.step (.answer id answer) = some next) :
    Moves system (.answer id answer) next := by
  simp only [step] at taken
  split at taken
  · rename_i request await found
    obtain ⟨after, resumed, same⟩ := Option.map_eq_some_iff.mp taken
    subst same
    have busy : ¬ Bystander (.call request await) := by
      intro idle
      have waits : await = .lock := idle
      subst waits
      cases answer <;> cases resumed
    obtain ⟨locked, armed, some⟩ := owned.holder found busy
    obtain ⟨txId, same⟩ := Option.ne_none_iff_exists'.mp some
    exact owned.moves_call (Or.inl locked) ((inFlight_of_held locked found).trans same)
      (resume_moves found locked armed same resumed)
  · rename_i stream activity found
    cases activity with
    | idle => cases answer <;> cases taken
    | nextChunk =>
        obtain ⟨locked, inFlight, running⟩ := owned.running found (Or.inr (by decide))
        have rule := ReceiveStream.running_rule system.session.recovery stream.transactionId
        have after : ∀ read, ReceiveStream.Rule.After _ _ _ _ [] _ := fun read =>
          rule.resume [] [] read ⟨running, fun e => List.not_mem_nil⟩
        cases answer with
        | read bytes =>
            cases taken
            exact owned.moves_stream _ locked inFlight running (after (.ok bytes))
              (fun _ inside => by cases inside) (fun _ inside => by cases inside)
              fun inside => by simp at inside
        | failed e =>
            cases taken
            unfold System.answerChunk
            dsimp only
            refine owned.moves_stream _ locked inFlight running (after (.error e))
              (passes_resetEvents e) ?_ ?_
            · intro other inside
              simp [reset_mem_resetEvents inside]
            · intro inside
              rw [List.nil_append, List.mem_singleton] at inside
              cases inside
              exact List.mem_singleton.mpr rfl
        | done => cases taken
        | item chunk => cases taken
    | cancel =>
        obtain ⟨locked, inFlight, running⟩ := owned.running found (Or.inr (by decide))
        have guarded : ({ stream with recovery := system.session.recovery } :
            ReceiveStream).guard = true := congrArg (fun holding => holding.2.1) running
        have ends : ∀ (doubt : Bool) {events : List PipeEvent},
            (∀ event ∈ events, event.Passes stream.transactionId) →
            (doubt = true → ∀ other, .reset other ∉ events) →
            (doubt = false → ∃ event ∈ events, Settles stream.transactionId event) →
            Moves system (.answer id answer) (system.put id
              (some (.stream (({ stream with recovery := system.session.recovery } :
                ReceiveStream).finish doubt) .idle))
              (system.session.settle { stream with recovery := system.session.recovery }
                (({ stream with recovery := system.session.recovery } :
                  ReceiveStream).finish doubt)) events) := by
          intro doubt events passes unreset settled
          rw [settle_finish guarded running doubt]
          exact owned.moves_own (Or.inl locked) inFlight
            (Or.inr ⟨rfl, rfl, fun _ same => by cases same; exact ⟨rfl, rfl, rfl⟩⟩)
            (finish_moves doubt passes unreset settled)
        cases answer with
        | done =>
            cases taken
            apply ends false
            · exact List.forall_mem_cons.mpr ⟨rfl, passes_returned _ id none⟩
            · intro sure
              cases sure
            · exact fun _ => ⟨_, List.mem_cons_self, Or.inr (Or.inl rfl)⟩
        | failed e =>
            cases taken
            apply ends
            · exact passes_append (passes_resetEvents e) (passes_returned _ id _)
            · intro sure other inside
              rcases List.mem_append.mp inside with front | back
              · exact bne_iff_ne.mp sure (reset_mem_resetEvents front)
              · cases List.mem_singleton.mp back
            · intro sure
              have lost : e = .deviceReset := by simpa using sure
              exact ⟨.reset stream.transactionId, by simp [resetEvents, lost], Or.inr (Or.inr rfl)⟩
        | read bytes => cases taken
        | item chunk => cases taken
  · cases taken

/-- A call of `next_chunk` on a stream that is over changes nothing. -/
theorem Owned.nextChunk_done (owned : Owned system) {stream : ReceiveStream}
    (found : system.tasks id = some (.stream stream .idle)) (done : stream.done = true) :
    system.step (.nextChunk id) = some (system.put id
      (some (.stream { stream with recovery := system.session.recovery } .idle)) system.session
      [.returned id none]) := by
  have unmoved : system.session.settle { stream with recovery := system.session.recovery }
      { stream with recovery := system.session.recovery } = system.session := by
    simp only [PtpSession.settle, (owned.finished found done).2.1, Bool.false_and,
      Bool.false_eq_true, ↓reduceIte]
  have atEnd : ({ stream with recovery := system.session.recovery } : ReceiveStream).nextChunk =
      ([], .ready none { stream with recovery := system.session.recovery }) := by
    simp only [ReceiveStream.nextChunk, done, ↓reduceIte]
  simp only [step, found, atEnd, System.putStream]
  rw [unmoved]
  rfl

theorem Owned.nextChunk (owned : Owned system) {next : System}
    (taken : system.step (.nextChunk id) = some next) : Moves system (.nextChunk id) next := by
  have stepped := taken
  simp only [step] at taken
  split at taken
  · rename_i stream found
    rcases Bool.eq_false_or_eq_true stream.done with done | going
    · obtain ⟨aside, guard, _⟩ := owned.finished found done
      rw [owned.nextChunk_done found done] at stepped
      cases stepped
      exact owned.moves_aside aside (fun other same => by cases same; exact ⟨done, guard, rfl⟩)
        (silent_returned id none)
    · cases taken
      obtain ⟨locked, inFlight, running⟩ := owned.running found (Or.inl going)
      have rule := ReceiveStream.running_rule system.session.recovery stream.transactionId
      refine owned.moves_stream [] locked inFlight running ?_
        (fun _ inside => by cases inside) (fun _ inside => by cases inside)
        (fun inside => by cases inside)
      unfold ReceiveStream.nextChunk
      rw [if_neg (by rw [going]; decide)]
      exact rule.loop [] _ [] ⟨running, fun e => List.not_mem_nil⟩
  · cases taken

theorem Owned.cancel (owned : Owned system) {next : System}
    (taken : system.step (.cancel id) = some next) : Moves system (.cancel id) next := by
  simp only [step] at taken
  split at taken
  · rename_i stream found
    split at taken
    · rename_i done
      cases taken
      obtain ⟨aside, guard, _⟩ := owned.finished found done
      exact owned.moves_aside aside (fun other same => by cases same; exact ⟨done, guard, rfl⟩)
        (silent_returned id none)
    · rename_i going
      cases taken
      obtain ⟨locked, holds⟩ := owned.holder found fun idle => going idle.1
      exact owned.moves_own (Or.inl locked) (inFlight_of_held locked found)
        (Or.inl ⟨locked, _, rfl, holds, rfl⟩) .cancels
  · cases taken

theorem Owned.drop (owned : Owned system) {next : System}
    (taken : system.step (.drop id) = some next) : Moves system (.drop id) next := by
  simp only [step] at taken
  split at taken
  · rename_i request await found
    cases taken
    by_cases waits : await = .lock
    · subst waits
      have aside := owned.aside_of found fun holds => holds.2 rfl
      exact owned.moves_aside aside (fun other same => by cases same)
        (fun event inside => by cases inside)
    · obtain ⟨locked, armed, some⟩ := owned.holder found waits
      have inFlight := inFlight_of_held locked found
      have free : Leaves id (system.session.abandon await) none none := by
        refine Or.inr ⟨?_, rfl, fun other same => by cases same⟩
        cases await <;> first | exact absurd rfl waits | rfl
      cases await with
      | lock => exact absurd rfl waits
      | recover txId =>
          exact owned.moves_own (Or.inl locked) inFlight free
            (.undrained (by simp only [AbandonsDrain, found, draining]))
      | command scope | header scope | payload scope | source scope | chunk scope
      | combined scope | response scope _ | receive scope _ =>
          refine owned.moves_own (Or.inl locked) inFlight free ?_
          have armed : scope.armed = true := armed
          simp only [PtpSession.abandon, PtpSession.leave, TransactionScope.drop, armed, ↓reduceIte]
          exact .flags (fun _ inside => by cases inside) (fun _ inside => by cases inside)
  · rename_i stream found
    cases taken
    rcases Bool.eq_false_or_eq_true stream.done with done | going
    · obtain ⟨aside, guard, _⟩ := owned.finished found done
      have unmoved : system.session.settle { stream with recovery := system.session.recovery }
          ({ stream with recovery := system.session.recovery } : ReceiveStream).dropped =
            system.session := by
        simp only [PtpSession.settle, ReceiveStream.dropped, guard, done, Bool.false_and,
          Bool.false_eq_true, ↓reduceIte]
      rw [unmoved]
      exact owned.moves_aside aside (fun other same => by cases same)
        (fun event inside => by cases inside)
    · obtain ⟨locked, inFlight, running⟩ := owned.running found (Or.inl going)
      have guarded : stream.guard = true := congrArg (fun holding => holding.2.1) running
      have free : Leaves id
        (system.session.settle { stream with recovery := system.session.recovery }
          ({ stream with recovery := system.session.recovery } : ReceiveStream).dropped) none
            none := by
        refine Or.inr ⟨?_, rfl, fun other same => by cases same⟩
        simp only [PtpSession.settle, guarded, ReceiveStream.dropped, Bool.not_false,
          Bool.and_self, ↓reduceIte]
      refine owned.moves_own (Or.inl locked) inFlight free ?_
      · simp only [PtpSession.settle, ReceiveStream.dropped, going, Bool.false_eq_true, ↓reduceIte]
        exact .flags (fun _ inside => by cases inside) (fun _ inside => by cases inside)
  · rename_i stream activity busy found
    cases taken
    obtain ⟨locked, holds⟩ := owned.holder found fun idle => busy idle.2.2
    exact owned.moves_own (Or.inl locked) (inFlight_of_held locked found)
      (Or.inl ⟨locked, _, rfl, holds, rfl⟩) (.rests fun _ inside => by cases inside)
  · cases taken

/-- What a step can do. -/
theorem Owned.step (owned : Owned system) {action : Action} {next : System}
    (taken : Steps system action next) : Moves system action next := by
  cases action with
  | setSplitHeaderData split =>
      cases taken
      refine ⟨⟨owned.held, owned.others⟩, [], (List.append_nil _).symm, ?_⟩
      exact .rests fun _ inside => by cases inside
  | spawn id request =>
      simp only [Steps, System.step] at taken
      split at taken
      · rename_i free
        cases taken
        exact owned.moves_aside (owned.aside_of_none free)
          (fun other same => by cases same; rfl) (fun event inside => by cases inside)
      · cases taken
  | acquire id =>
      simp only [Steps, System.step] at taken
      split at taken
      · rename_i free
        cases taken
        exact owned.moves_call (Or.inr free) (inFlight_of_free free)
          (recoverIfNeeded_moves system _ id _)
      · cases taken
  | answer id answer => exact owned.answer taken
  | nextChunk id => exact owned.nextChunk taken
  | cancel id => exact owned.cancel taken
  | drop id => exact owned.drop taken

/-- So in every reachable state. -/
theorem owned_of_run {actions : List Action}
    (run : Runs.Run Steps initial actions system) : Owned system :=
  run.invariant Owned (fun _ _ _ owned taken => (owned.step taken).1) owned_initial

end Steps

end System

end Ptp
