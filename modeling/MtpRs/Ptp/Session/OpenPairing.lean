import MtpRs.Ptp.Session.Open

set_option autoImplicit false

/- Opening over a pipe that a dead process has left something in, and a device
that answers behind it. -/
namespace Ptp

/-- Who put a read into the bulk IN pipe: a dead process, or the device in reply
to a command of this one. -/
inductive Source where
  | leftover
  | reply (command : Nat)
deriving DecidableEq, Repr

/-- A response that carries the transaction ID of its command. -/
structure Reply (command : Bytes) where
  bytes : Bytes
  response : ResponseContainer
  parsed : ResponseContainer.fromBytes bytes = .ok response
  own : ∀ header, unpackHeader command = .ok header →
    response.transactionId = header.transactionId

/-- The device's side of a session, behind a reply to a command. -/
def sessionAfter (command : Bytes) (code : ResponseCode) (isOpen : Bool) : Bool :=
  match unpackHeader command with
  | .error _ => isOpen
  | .ok header =>
      if header.code = OperationCode.openSession.toCode then
        isOpen || code = .ok || code = .sessionAlreadyOpen
      else if header.code = OperationCode.closeSession.toCode then isOpen && code ≠ .ok
      else isOpen

/-- The reads the pipe holds, the commands the device got, who put what the last
`receive_bulk` took, the device's side of the session, and the calls so far. -/
structure Pipe where
  queue : List (Source × Bytes)
  commands : List Bytes
  handed : Option Source
  isOpen : Bool
  calls : Nat

/-- A device, in its choices at each call: how it replies, which sends fail and
whether it got the command nonetheless, which reads stall, how many reads a drain
takes before the pipe is quiet or its time is over. -/
structure Device where
  answer : Nat → (command : Bytes) → Reply command
  failure : Nat → Option PtpError
  delivered : Nat → Bool
  stall : Nat → Option PtpError
  drained : Nat → Except PtpError Nat

namespace Pipe

/-- A pipe nobody of this process has used. -/
def initial (leftovers : List Bytes) (isOpen : Bool) : Pipe :=
  ⟨leftovers.map fun bytes => (.leftover, bytes), [], none, isOpen, 0⟩

/-- A command reaches the device, which replies at the back of the pipe. -/
def reply (self : Pipe) (command : Bytes) (reply : Reply command) : Pipe where
  queue := self.queue ++ [(.reply self.commands.length, reply.bytes)]
  commands := self.commands ++ [command]
  handed := self.handed
  isOpen := sessionAfter command reply.response.code self.isOpen
  calls := self.calls + 1

def tick (self : Pipe) : Pipe := { self with calls := self.calls + 1 }

/-- The pipe holds replies to commands that were sent, and nothing newer. -/
def Numbered (self : Pipe) : Prop :=
  ∀ command bytes, (.reply command, bytes) ∈ self.queue → command < self.commands.length

end Pipe

namespace Device

variable (self : Device)

def sendBulk (command : Bytes) (pipe : Pipe) : Except PtpError Unit × Pipe :=
  match self.failure pipe.calls with
  | none => (.ok (), pipe.reply command (self.answer pipe.calls command))
  | some e =>
      (.error e, if self.delivered pipe.calls then
        pipe.reply command (self.answer pipe.calls command) else pipe.tick)

def receiveBulk (pipe : Pipe) : Read × Pipe :=
  match self.stall pipe.calls, pipe.queue with
  | some e, _ => (.error e, pipe.tick)
  | none, [] => (.error .timeout, pipe.tick)
  | none, (source, bytes) :: rest =>
      (.ok bytes, { pipe.tick with queue := rest, handed := some source })

def drainBulkIn (pipe : Pipe) : Except PtpError Nat × Pipe :=
  match self.drained pipe.calls with
  | .error e => (.error e, pipe.tick)
  | .ok count =>
      (.ok ((pipe.queue.take count).map fun read => read.2.length).sum,
        { pipe.tick with queue := pipe.queue.drop count })

/-- `cancel_transfer` drains as well; a new session never calls it. -/
def cancelTransfer (pipe : Pipe) : Except PtpError Unit × Pipe :=
  ((self.drainBulkIn pipe).1.map fun _ => (), (self.drainBulkIn pipe).2)

def transport : Transport Pipe where
  sendBulk := self.sendBulk
  receiveBulk := fun _ => self.receiveBulk
  cancelTransfer := fun _ => self.cancelTransfer
  drainBulkIn := self.drainBulkIn

/-- The next send and the read behind it are not failed by the device. -/
def Delivers (pipe : Pipe) : Prop :=
  self.failure pipe.calls = none ∧ self.stall (pipe.calls + 1) = none

end Device

/-- What an open session stands for: the response acted on is the device's reply
to the last `OpenSession` sent, the device's session is open, and no reply is left
unread behind an unflagged session. -/
structure Paired (sessionId : UInt32) (session : PtpSession) (pipe : Pipe) : Prop where
  acted : ∃ earlier, pipe.commands = earlier ++ [(openSession sessionId).toBytes] ∧
    pipe.handed = some (.reply earlier.length)
  isOpen : pipe.isOpen = true
  unread : ∀ command bytes, (.reply command, bytes) ∈ pipe.queue →
    session.recovery.needed = true

/-- An `OpenSession` goes out behind a read left in the pipe that is itself an
accepting response. -/
def Misled (device : Device) (sessionId : UInt32) (reuseExisting : Bool) (pipe : Pipe) : Prop :=
  ∃ front source bytes rest response,
    device.transport.LastAsk sessionId reuseExisting pipe front ∧
    front.queue = (source, bytes) :: rest ∧ device.Delivers front ∧
    ResponseContainer.fromBytes bytes = .ok response ∧ Transport.Accepted reuseExisting
      response.code

section Numbering

variable {device : Device} {sessionId : UInt32} {pipe front : Pipe}

theorem Pipe.numbered_initial (leftovers : List Bytes) (isOpen : Bool) :
    (Pipe.initial leftovers isOpen).Numbered := by
  intro command bytes inside
  obtain ⟨_, _, other⟩ := List.mem_map.mp inside
  cases other

theorem Pipe.Numbered.reply (numbered : pipe.Numbered) (command : Bytes)
    (reply : Reply command) : (pipe.reply command reply).Numbered := by
  intro number bytes inside
  simp only [Pipe.reply, List.length_append, List.length_singleton]
  rcases List.mem_append.mp inside with before | last
  · have := numbered number bytes before
    omega
  · cases List.mem_singleton.mp last
    omega

theorem Pipe.Numbered.sendBulk (numbered : pipe.Numbered) (command : Bytes) :
    (device.sendBulk command pipe).2.Numbered := by
  unfold Device.sendBulk
  split
  · exact numbered.reply command _
  · dsimp only
    split
    · exact numbered.reply command _
    · exact numbered

theorem Pipe.Numbered.receiveBulk (numbered : pipe.Numbered) :
    (device.receiveBulk pipe).2.Numbered := by
  unfold Device.receiveBulk
  split
  · exact numbered
  · exact numbered
  · rename_i source bytes rest none_stalls queue
    intro number held inside
    exact numbered number held (by rw [queue]; exact List.mem_cons_of_mem _ inside)

theorem Pipe.Numbered.drainBulkIn (numbered : pipe.Numbered) :
    (device.drainBulkIn pipe).2.Numbered := by
  unfold Device.drainBulkIn
  split
  · exact numbered
  · exact fun number held inside => numbered number held (List.mem_of_mem_drop inside)

theorem Pipe.Numbered.ask (numbered : pipe.Numbered) :
    (device.transport.ask sessionId pipe).2.Numbered := by
  have sent : (device.transport.sendBulk (openSession sessionId).toBytes pipe).2.Numbered :=
    numbered.sendBulk _
  unfold Transport.ask
  split <;> rename_i result <;> rw [result] at sent
  · exact sent
  · exact Pipe.Numbered.receiveBulk sent

theorem Pipe.Numbered.closed (numbered : pipe.Numbered) :
    (device.transport.closed pipe).Numbered := by
  have sent : (device.transport.sendBulk (⟨.closeSession, TransactionId.first, []⟩ :
      CommandContainer).toBytes pipe).2.Numbered := numbered.sendBulk _
  unfold Transport.closed
  split <;> rename_i result <;> rw [result] at sent
  · exact sent
  · exact Pipe.Numbered.receiveBulk sent

theorem Pipe.Numbered.asked (numbered : pipe.Numbered)
    (asked : device.transport.Asked sessionId pipe front) : front.Numbered := by
  cases asked with
  | first => exact numbered
  | again malformed drained =>
      have left : (device.transport.drainBulkIn
        (device.transport.ask sessionId pipe).2).2.Numbered :=
        numbered.ask.drainBulkIn
      rw [drained] at left
      exact left

theorem Pipe.Numbered.lastAsk {reuseExisting : Bool} (numbered : pipe.Numbered)
    (last : device.transport.LastAsk sessionId reuseExisting pipe front) : front.Numbered := by
  cases last with
  | direct asked => exact numbered.asked asked
  | @reopened first middle _ _ closes before answers already asked =>
      obtain ⟨bytes, asks, _⟩ := answers
      have left : (device.transport.ask sessionId first).2.Numbered := (numbered.asked before).ask
      rw [asks] at left
      exact left.closed.asked asked

end Numbering

section Asking

variable {device : Device} {sessionId : UInt32} {pipe : Pipe}

/-- The pipe once an `OpenSession` is in the device's hands. -/
def Device.asked (device : Device) (sessionId : UInt32) (pipe : Pipe) : Pipe :=
  pipe.reply (openSession sessionId).toBytes
    (device.answer pipe.calls (openSession sessionId).toBytes)

/-- An `OpenSession` reads the head of the pipe, with the reply at its back. -/
theorem ask_ok {bytes : Bytes} {after : Pipe} :
    device.transport.ask sessionId pipe = (.ok bytes, after) ↔
      device.Delivers pipe ∧ ∃ source rest,
        (device.asked sessionId pipe).queue = (source, bytes) :: rest ∧
        after = { (device.asked sessionId pipe).tick with
          queue := rest, handed := some source } := by
  cases fails : device.failure pipe.calls with
  | some e =>
      have sent : (device.transport.sendBulk (openSession sessionId).toBytes pipe).1 =
          .error e := by
        change (device.sendBulk _ pipe).1 = _
        simp only [Device.sendBulk, fails]
      constructor
      · intro asks
        unfold Transport.ask at asks
        split at asks <;> rename_i result
        · cases asks
        · rw [result] at sent
          cases sent
      · rintro ⟨⟨succeeds, _⟩, _⟩
        rw [fails] at succeeds
        cases succeeds
  | none =>
      have sent : device.transport.sendBulk (openSession sessionId).toBytes pipe =
          (.ok (), device.asked sessionId pipe) := by
        change device.sendBulk _ pipe = _
        simp only [Device.sendBulk, fails, Device.asked]
      have asks : device.transport.ask sessionId pipe =
          device.receiveBulk (device.asked sessionId pipe) := by
        simp only [Transport.ask, sent]
        rfl
      have later : (device.asked sessionId pipe).calls = pipe.calls + 1 := rfl
      rw [asks, Device.receiveBulk, later, Device.Delivers, fails]
      constructor
      · intro read
        split at read
        · cases read
        · cases read
        · rename_i source bytes rest no_stall queue
          cases read
          exact ⟨⟨rfl, no_stall⟩, source, rest, queue, rfl⟩
      · rintro ⟨⟨_, no_stall⟩, source, rest, queue, rfl⟩
        rw [no_stall, queue]

/-- An accepting reply to `OpenSession` tells that the device's session is open. -/
theorem sessionAfter_openSession {reuseExisting : Bool} {code : ResponseCode}
    (accepted : Transport.Accepted reuseExisting code) (isOpen : Bool) :
    sessionAfter (openSession sessionId).toBytes code isOpen = true := by
  have header : unpackHeader (openSession sessionId).toBytes = .ok
      ⟨UInt32.ofNat (headerSize + 1 * 4), ContainerType.command.toCode,
        OperationCode.openSession.toCode, TransactionId.sessionLess⟩ :=
    unpackHeader_packHeader _ _
  rw [sessionAfter, header]
  simp only [↓reduceIte, Bool.or_eq_true, decide_eq_true_eq]
  rcases accepted with accepted | ⟨_, accepted⟩
  · exact Or.inl (Or.inr accepted)
  · exact Or.inr accepted

/-- A session that opened on an accepting answer is paired with the device
exactly when nothing was left in the pipe in front of it. -/
theorem paired_iff {front after : Pipe} {reuseExisting : Bool} {response : ResponseContainer}
    (numbered : front.Numbered) (answers : device.transport.Answers sessionId front response after)
    (accepted : Transport.Accepted reuseExisting response.code) :
    Paired sessionId .new after ↔ front.queue = [] := by
  obtain ⟨bytes, asks, parsed⟩ := answers
  obtain ⟨delivers, source, rest, queue, rfl⟩ := ask_ok.mp asks
  constructor
  · intro paired
    obtain ⟨earlier, commands, handed⟩ := paired.acted
    have same : front.commands = earlier := (List.append_inj' commands rfl).1
    cases left : front.queue with
    | nil => rfl
    | cons entry more =>
        simp only [Device.asked, Pipe.reply, left, List.cons_append, List.cons.injEq] at queue
        obtain ⟨rfl, _⟩ := queue
        cases handed
        have older := numbered _ _ (by rw [left]; exact List.mem_cons_self)
        rw [same] at older
        exact absurd older (Nat.lt_irrefl _)
  · intro empty
    simp only [Device.asked, Pipe.reply, empty, List.nil_append, List.cons.injEq, Prod.mk.injEq]
      at queue
    obtain ⟨⟨rfl, rfl⟩, rfl⟩ := queue
    have own := (device.answer front.calls (openSession sessionId).toBytes).parsed
    rw [own] at parsed
    cases parsed
    exact {
      acted := ⟨front.commands, rfl, rfl⟩
      isOpen := sessionAfter_openSession accepted front.isOpen
      unread := fun command bytes inside => absurd inside List.not_mem_nil }

end Asking

/-- An open that succeeds is paired with the device exactly when no `OpenSession`
went out behind a read that is itself an accepting response. -/
theorem open_paired_iff (device : Device) (sessionId : UInt32) (reuseExisting : Bool)
    (leftovers : List Bytes) (isOpen : Bool) :
    (∀ session after, device.transport.openWithReuse sessionId reuseExisting
        (.initial leftovers isOpen) = (.ok session, after) → Paired sessionId session after) ↔
      ¬ Misled device sessionId reuseExisting (.initial leftovers isOpen) := by
  have numbered := Pipe.numbered_initial leftovers isOpen
  constructor
  · rintro paired ⟨front, source, bytes, rest, response, last, left, delivers, parsed, accepted⟩
    obtain ⟨behind, queue⟩ : ∃ behind,
        (device.asked sessionId front).queue = (source, bytes) :: behind := by
      simp only [Device.asked, Pipe.reply, left, List.cons_append]
      exact ⟨_, rfl⟩
    have answers : device.transport.Answers sessionId front response _ :=
      ⟨bytes, ask_ok.mpr ⟨delivers, source, behind, queue, rfl⟩, parsed⟩
    have opened := paired _ _
      (Transport.openWithReuse_ok.mpr ⟨rfl, front, response, last, answers, accepted⟩)
    have empty := (paired_iff (numbered.lastAsk last) answers accepted).mp opened
    rw [left] at empty
    cases empty
  · intro clear session after opened
    obtain ⟨rfl, front, response, last, answers, accepted⟩ := Transport.openWithReuse_ok.mp opened
    refine (paired_iff (numbered.lastAsk last) answers accepted).mpr ?_
    obtain ⟨bytes, asks, parsed⟩ := answers
    obtain ⟨delivers, source, rest, queue, rfl⟩ := ask_ok.mp asks
    cases left : front.queue with
    | nil => rfl
    | cons entry more =>
        simp only [Device.asked, Pipe.reply, left, List.cons_append, List.cons.injEq] at queue
        obtain ⟨rfl, _⟩ := queue
        exact absurd ⟨front, source, bytes, more, response, last, left, delivers, parsed, accepted⟩
          clear

def commandTransactionId (command : Bytes) : UInt32 :=
  match unpackHeader command with
  | .ok header => header.transactionId
  | .error _ => 0

theorem fromBytes_plain (code : UInt16) (txId : UInt32) :
    ResponseContainer.fromBytes (packHeader ⟨12, ContainerType.response.toCode, code, txId⟩) =
      .ok ⟨ResponseCode.ofCode code, txId, []⟩ := by
  have read := unpackHeader_packHeader ⟨12, ContainerType.response.toCode, code, txId⟩ []
  rw [List.append_nil] at read
  have length := packHeader_length ⟨12, ContainerType.response.toCode, code, txId⟩
  unfold ResponseContainer.fromBytes
  rw [length, if_neg (Nat.lt_irrefl _), read]
  have exactly : (12 : UInt32).toNat - headerSize = 0 := rfl
  have enough : ¬ (12 : UInt32).toNat < headerSize := Nat.lt_irrefl _
  have fits : ¬ headerSize < (12 : UInt32).toNat := Nat.lt_irrefl _
  simp only [bind, Except.bind, exactly, enough, fits, ne_eq, not_true, ↓reduceIte, Nat.zero_mod,
    Nat.zero_div, List.range_zero, List.mapM_nil]
  rfl

/-- The response without parameters that refuses a command. -/
def Reply.refusal (command : Bytes) : Reply command where
  bytes := packHeader ⟨12, ContainerType.response.toCode, ResponseCode.generalError.toCode,
    commandTransactionId command⟩
  response := ⟨.generalError, commandTransactionId command, []⟩
  parsed := fromBytes_plain _ _
  own := fun header read => by rw [commandTransactionId, read]

def Device.refusing : Device where
  answer := fun _ command => .refusal command
  failure := fun _ => none
  delivered := fun _ => true
  stall := fun _ => none
  drained := fun _ => .ok 0

/-- An `Ok` that a dead process left unread opens a session on a device that
refuses one. -/
theorem open_misled : ¬ ∀ (device : Device) (sessionId : UInt32) (reuseExisting : Bool)
    (leftovers : List Bytes) (isOpen : Bool) (session : PtpSession) (after : Pipe),
    device.transport.openWithReuse sessionId reuseExisting (.initial leftovers isOpen) =
      (.ok session, after) → Paired sessionId session after := by
  intro paired
  have opened := paired .refusing 1 false [[12, 0, 0, 0, 3, 0, 1, 32, 77, 0, 0, 0]] false
    .new _ rfl
  obtain ⟨earlier, _, handed⟩ := opened.acted
  cases handed

end Ptp
