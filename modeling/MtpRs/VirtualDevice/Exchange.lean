import MtpRs.Ptp.Session.Receive
import MtpRs.Ptp.Session.SendData
import MtpRs.VirtualDevice.Containers
import MtpRs.VirtualDevice.Numbered
import MtpRs.VirtualDevice.Outcomes
import MtpRs.VirtualDevice.Responsive

set_option autoImplicit false

/- A session over the device: each request gets its own reply, and nothing is left of it. -/
namespace VirtualDevice

open Feed (Turn)
open Files (Disk Path)
open Ptp (Bytes CommandContainer ContainerType DataContainer OperationCode PtpError Read ReceiveLoop
  ResponseCode ResponseContainer containerType executeWithReceive headerSize packHeader
  receiveResponse streamHeader unpackHeader)
open Runs (Restricted Run)

namespace VirtualDeviceState

/-- Sends containers in turn, and goes on when all are taken. -/
def sendThen {α : Type} (host : Host)
    (next : VirtualDeviceState → Option (Except PtpError α × VirtualDeviceState)) :
    List Bytes → VirtualDeviceState → Option (Except PtpError α × VirtualDeviceState)
  | [], self => next self
  | container :: rest, self =>
      match self.sendBulk host container with
      | none => none
      | some (.error e, after) => some (.error e, after)
      | some (.ok _, after) => sendThen host next rest after

/-- Reads until a loop of the session is over. -/
def receiveUntil {σ ε α : Type} (turn : σ → Read → Turn σ ε α) :
    Nat → σ → VirtualDeviceState → Option (α × VirtualDeviceState)
  | 0, _, _ => none
  | fuel + 1, loop, self =>
      let (read, after) := self.receiveBulk
      match turn loop read with
      | .done result _ => some (result, after)
      | .again next _ => receiveUntil turn fuel next after

def readResponse (txId : UInt32) (operation : OperationCode) (self : VirtualDeviceState) :
    Option (Except PtpError (ResponseContainer × Bytes) × VirtualDeviceState) :=
  (receiveUntil (receiveResponse txId operation) (self.responseQueue.length + 1) 0 self).map
    fun (result, after) => (result.map fun response => (response, []), after)

/-- The data and the reply as `execute_with_receive` reads them. -/
def readData (txId : UInt32) (operation : OperationCode) (self : VirtualDeviceState) :
    Option (Except PtpError (ResponseContainer × Bytes) × VirtualDeviceState) :=
  receiveUntil (executeWithReceive txId operation) (self.responseQueue.length + 1)
    ReceiveLoop.initial self

end VirtualDeviceState

/-- One of the session's operations. A stream is one that does not fail. -/
inductive Request where
  | execute (operation : OperationCode) (params : List UInt32)
  | executeWithReceive (operation : OperationCode) (params : List UInt32)
  | executeWithSend (operation : OperationCode) (params : List UInt32) (data : Bytes)
  | executeWithSendStream (operation : OperationCode) (params : List UInt32) (totalSize : UInt64)
      (chunks : List Bytes)

namespace Request

def operation : Request → OperationCode
  | execute operation _ => operation
  | executeWithReceive operation _ => operation
  | executeWithSend operation _ _ => operation
  | executeWithSendStream operation _ _ _ => operation

def params : Request → List UInt32
  | execute _ params => params
  | executeWithReceive _ params => params
  | executeWithSend _ params _ => params
  | executeWithSendStream _ params _ _ => params

def data : Request → Option Bytes
  | executeWithSend _ _ data => some data
  | executeWithSendStream _ _ _ chunks => some chunks.flatten
  | _ => none

/-- A request with the data phase that its operation has. -/
def matched : Request → Bool
  | execute operation _ =>
      !takesData operation.toCode && !bringsData (.ofCode operation.toCode)
  | executeWithReceive operation _ => !takesData operation.toCode
  | executeWithSend operation _ _ => takesData operation.toCode
  | executeWithSendStream operation _ _ _ => takesData operation.toCode

/-- The exchange: the command, the data that goes with it, and reads until the reply. -/
def exchange (host : Host) (txId : UInt32) (self : VirtualDeviceState) :
    Request → Option (Except PtpError (ResponseContainer × Bytes) × VirtualDeviceState)
  | execute operation params =>
      self.sendThen host (VirtualDeviceState.readResponse txId operation)
        [CommandContainer.toBytes ⟨operation, txId, params⟩]
  | executeWithReceive operation params =>
      self.sendThen host (VirtualDeviceState.readData txId operation)
        [CommandContainer.toBytes ⟨operation, txId, params⟩]
  | executeWithSend operation params data =>
      self.sendThen host (VirtualDeviceState.readResponse txId operation)
        [CommandContainer.toBytes ⟨operation, txId, params⟩,
          DataContainer.toBytes ⟨operation, txId, data⟩]
  | executeWithSendStream operation params totalSize chunks =>
      -- The device takes a stream in one transfer.
      self.sendThen host (VirtualDeviceState.readResponse txId operation)
        [CommandContainer.toBytes ⟨operation, txId, params⟩,
          (streamHeader operation txId totalSize :: chunks).flatten]

def dispatch (host : Host) (txId : UInt32) (self : VirtualDeviceState) (request : Request) :
    Option VirtualDeviceState :=
  self.dispatch host request.operation.toCode txId request.params request.data

end Request

/-- The reply of an operation, as the host has it: the data of a successful one that brings some. -/
inductive Answered (opCode : UInt16) (txId : UInt32) :
    List Bytes → ResponseContainer → Bytes → Prop where
  | response (code : UInt16) (params : List UInt32) (few : params.length ≤ 3) :
      Answered opCode txId [buildResponse code txId params] ⟨.ofCode code, txId, params⟩ []
  | data (payload : Bytes) (brings : bringsData (.ofCode opCode) = true) :
      Answered opCode txId [buildDataContainer opCode txId payload, buildResponse Code.ok txId []]
        ⟨.ofCode Code.ok, txId, []⟩ payload

/-- A device that owes the host nothing. -/
structure Idle (state : VirtualDeviceState) : Prop where
  replied : state.responseQueue = []
  waiting : state.pendingCommand = none
  sound : state.pendingOperationWedge = false

namespace VirtualDeviceState

section

variable {host : Host} {state after : VirtualDeviceState} {opCode : UInt16} {txId : UInt32}
  {operation : OperationCode} {params : List UInt32} {dataPayload : Option Bytes}

theorem read_response (code : UInt16) (few : params.length ≤ 3) :
    ResponseContainer.fromBytes (buildResponse code txId params) =
      .ok ⟨.ofCode code, txId, params⟩ :=
  read_buildResponse code txId params (by unfold headerSize; omega)

theorem readResponse_response (code : UInt16) (few : params.length ≤ 3)
    (queued : state.responseQueue = [buildResponse code txId params]) :
    state.readResponse txId operation =
      some (.ok (⟨.ofCode code, txId, params⟩, []), { state with responseQueue := [] }) := by
  have turn : receiveResponse txId operation 0 (.ok (buildResponse code txId params)) =
      .done (.ok ⟨.ofCode code, txId, params⟩)
        [.reply ⟨.ofCode code, txId, params⟩ (buildResponse code txId params)] := by
    rw [receiveResponse, read_response code few]
    exact if_pos rfl
  rw [readResponse, queued, List.length_singleton, receiveUntil, receiveBulk, queued]
  dsimp only
  rw [turn]
  rfl

/-- The last turn of the loop that takes data. -/
theorem turn_response (code : UInt16) (few : params.length ≤ 3) (data : Bytes) :
    executeWithReceive txId operation ⟨data, 0, none⟩ (.ok (buildResponse code txId params)) =
      .done (.ok (⟨.ofCode code, txId, params⟩, data))
        [.reply ⟨.ofCode code, txId, params⟩ (buildResponse code txId params)] := by
  have read : ResponseContainer.fromBytes (buildResponse code txId params) = _ :=
    read_response code few
  have type := ResponseContainer.containerType_of_fromBytes read
  have some : (buildResponse code txId params).isEmpty = false := rfl
  rw [executeWithReceive]
  dsimp only
  rw [some, type]
  dsimp only
  rw [read]
  exact if_neg (not_not_intro rfl)

theorem readData_response (code : UInt16) (few : params.length ≤ 3)
    (queued : state.responseQueue = [buildResponse code txId params]) :
    state.readData txId operation =
      some (.ok (⟨.ofCode code, txId, params⟩, []), { state with responseQueue := [] }) := by
  rw [readData, queued, List.length_singleton, receiveUntil, receiveBulk, queued]
  dsimp only
  rw [ReceiveLoop.initial, turn_response code few]

theorem buildDataContainer_eq (payload : Bytes) :
    buildDataContainer opCode txId payload =
      DataContainer.toBytes ⟨.ofCode opCode, txId, payload⟩ := by
  rw [DataContainer.toBytes, DataContainer.header, OperationCode.toCode_ofCode]
  rfl

/-- A turn that takes a whole container of data. -/
theorem turn_data (payload : Bytes) (fits : headerSize + payload.length < 2 ^ 32) :
    executeWithReceive txId operation ReceiveLoop.initial
        (.ok (buildDataContainer opCode txId payload)) =
      .again ⟨payload, 0, none⟩
        [.header ((buildDataContainer opCode txId payload).take headerSize), .payload payload] := by
  have read := read_buildDataContainer opCode txId payload fits
  have type : containerType (buildDataContainer opCode txId payload) = .ok .data := by
    have front := DataContainer.containerType_toBytes ⟨.ofCode opCode, txId, payload⟩ []
    rwa [List.append_nil, ← buildDataContainer_eq] at front
  have size : (buildDataContainer opCode txId payload).length = headerSize + payload.length := by
    rw [buildDataContainer_eq, DataContainer.toBytes_length]
  have length : Ptp.unpackU32 ((buildDataContainer opCode txId payload).take 4) =
      .ok (DataContainer.header ⟨.ofCode opCode, txId, payload⟩).length := by
    have front : buildDataContainer opCode txId payload ++ [] =
        DataContainer.toBytes ⟨.ofCode opCode, txId, payload⟩ ++ [] := by
      rw [buildDataContainer_eq]
    apply DataContainer.length_of_front _ front
    rw [size]
    exact Nat.le_add_right ..
  have total := DataContainer.header_length ⟨.ofCode opCode, txId, payload⟩ fits
  have some : (buildDataContainer opCode txId payload).isEmpty = false := rfl
  rw [executeWithReceive]
  dsimp only [ReceiveLoop.initial]
  rw [some, type]
  dsimp only
  rw [length]
  dsimp only
  rw [Ptp.completeContainer, total, size, if_neg (Nat.lt_irrefl _), Ptp.closeContainer, read]
  rfl

theorem readData_data (payload : Bytes) (fits : headerSize + payload.length < 2 ^ 32)
    (queued : state.responseQueue =
      [buildDataContainer opCode txId payload, buildResponse Code.ok txId []]) :
    state.readData txId operation =
      some (.ok (⟨.ofCode Code.ok, txId, []⟩, payload), { state with responseQueue := [] }) := by
  rw [readData, queued, List.length_cons, receiveUntil, receiveBulk, queued]
  dsimp only
  rw [turn_data payload fits]
  dsimp only
  rw [List.length_singleton, receiveUntil, receiveBulk]
  dsimp only
  rw [turn_response Code.ok (by decide)]

theorem readData_answered {response : ResponseContainer} {data : Bytes}
    (answered : Answered opCode txId state.responseQueue response data)
    (fits : ∀ reply ∈ state.responseQueue, reply.length < 2 ^ 32) :
    state.readData txId operation =
      some (.ok (response, data), { state with responseQueue := [] }) := by
  generalize queued : state.responseQueue = queue at answered fits
  cases answered with
  | response code params few => exact readData_response code few queued
  | data _ brings =>
      refine readData_data data ?_ queued
      have fit := fits _ (List.mem_cons_self ..)
      rwa [buildDataContainer_eq, DataContainer.toBytes_length] at fit

theorem readResponse_answered {response : ResponseContainer} {data : Bytes}
    (answered : Answered opCode txId state.responseQueue response data)
    (brings : bringsData (.ofCode opCode) = false) :
    state.readResponse txId operation =
      some (.ok (response, data), { state with responseQueue := [] }) := by
  generalize queued : state.responseQueue = queue at answered
  cases answered with
  | response code params few => exact readResponse_response code few queued
  | data payload some =>
      rw [brings] at some
      cases some

/-- A command with a data phase of its own, or none, is carried out when it comes in. -/
theorem sendBulk_command_dispatch (idle : Idle state) (takes : takesData operation.toCode = false) :
    state.sendBulk host (CommandContainer.toBytes ⟨operation, txId, params⟩) =
      (state.dispatch host operation.toCode txId params none).map fun after => (.ok (), after) := by
  rw [sendBulk_command, takeCommand, if_neg (by rw [idle.sound]; decide)]
  exact if_neg (by rw [takes]; decide)

/-- One whose data comes from the host waits for it. -/
theorem sendBulk_command_waits (idle : Idle state) (takes : takesData operation.toCode = true) :
    state.sendBulk host (CommandContainer.toBytes ⟨operation, txId, params⟩) =
      some (.ok (), { state with pendingCommand := some ⟨operation.toCode, txId, params⟩ }) := by
  rw [sendBulk_command, takeCommand, if_neg (by rw [idle.sound]; decide)]
  exact if_pos takes

/-- The data it waits for, in one transfer behind whatever length a header gives. -/
theorem sendBulk_data {pending : PendingCommand} {header : Ptp.ContainerHeader}
    (waits : state.pendingCommand = some pending)
    (typed : header.typeCode = ContainerType.data.toCode) (data : Bytes) :
    state.sendBulk host (packHeader header ++ data) =
      ({ state with pendingCommand := none }.dispatch host pending.code pending.txId pending.params
        (some data)).map fun after => (.ok (), after) := by
  have long : ¬ (packHeader header ++ data).length < headerSize := by
    rw [List.length_append, Ptp.packHeader_length]
    omega
  rw [sendBulk, if_neg long, Ptp.unpackHeader_packHeader]
  dsimp only
  rw [typed, if_neg (by decide), if_pos (by decide), waits]
  dsimp only
  rw [List.drop_left' (Ptp.packHeader_length header)]

end

end VirtualDeviceState

/-- The data phase has one direction. -/
theorem brings_of_takes {opCode : UInt16} (takes : takesData opCode = true) :
    bringsData (.ofCode opCode) = false := by
  unfold takesData at takes
  split at takes
  · next code => rw [code]; rfl
  · next code => rw [code]; rfl
  · next code => rw [code]; rfl
  · cases takes

section

variable {host : Host} {state after : VirtualDeviceState} {txId : UInt32} {request : Request}

/-- What a device that owes nothing has queued after an operation is a reply. -/
theorem exists_answered (idle : Idle state)
    (dispatched : request.dispatch host txId state = some after) :
    ∃ response data, Answered request.operation.toCode txId after.responseQueue response data := by
  have replies := VirtualDeviceState.dispatch_replies dispatched
  rw [VirtualDeviceState.Replies, idle.replied] at replies
  generalize after.responseQueue = queue at replies
  cases replies with
  | response code params few => exact ⟨_, _, .response code params few⟩
  | data payload brings => exact ⟨_, _, .data payload brings⟩

theorem VirtualDeviceState.sendThen_answered {operation : OperationCode} {params : List UInt32}
    {header : Ptp.ContainerHeader} {response : ResponseContainer} {data sent : Bytes}
    (idle : Idle state) (takes : takesData operation.toCode = true)
    (typed : header.typeCode = ContainerType.data.toCode)
    (dispatched : state.dispatch host operation.toCode txId params (some sent) = some after)
    (answered : Answered operation.toCode txId after.responseQueue response data) :
    state.sendThen host (readResponse txId operation)
        [CommandContainer.toBytes ⟨operation, txId, params⟩, packHeader header ++ sent] =
      some (.ok (response, data), { after with responseQueue := [] }) := by
  have same : { state with pendingCommand := none } = state := by rw [← idle.waiting]
  rw [sendThen, sendBulk_command_waits idle takes]
  dsimp only
  rw [sendThen, sendBulk_data rfl typed]
  dsimp only
  rw [same, dispatched]
  exact readResponse_answered answered (brings_of_takes takes)

/-- What the device does for a request is what the host reads of it. -/
theorem Request.exchange_answered {response : ResponseContainer} {data : Bytes} (idle : Idle state)
    (matched : request.matched = true) (dispatched : request.dispatch host txId state = some after)
    (answered : Answered request.operation.toCode txId after.responseQueue response data)
    (fits : ∀ reply ∈ after.responseQueue, reply.length < 2 ^ 32) :
    request.exchange host txId state =
      some (.ok (response, data), { after with responseQueue := [] }) := by
  cases request with
  | execute operation params =>
      rw [Request.matched, Bool.and_eq_true, Bool.not_eq_true', Bool.not_eq_true'] at matched
      rw [Request.exchange, VirtualDeviceState.sendThen,
        VirtualDeviceState.sendBulk_command_dispatch idle matched.1]
      rw [Request.dispatch] at dispatched
      dsimp only [Request.operation, Request.params, Request.data] at dispatched
      rw [dispatched]
      exact VirtualDeviceState.readResponse_answered answered matched.2
  | executeWithReceive operation params =>
      rw [Request.matched, Bool.not_eq_true'] at matched
      rw [Request.exchange, VirtualDeviceState.sendThen,
        VirtualDeviceState.sendBulk_command_dispatch idle matched]
      rw [Request.dispatch] at dispatched
      dsimp only [Request.operation, Request.params, Request.data] at dispatched
      rw [dispatched]
      exact VirtualDeviceState.readData_answered answered fits
  | executeWithSend operation params sent =>
      rw [Request.exchange, DataContainer.toBytes]
      exact VirtualDeviceState.sendThen_answered idle matched rfl dispatched answered
  | executeWithSendStream operation params totalSize chunks =>
      rw [Request.exchange, List.flatten_cons]
      exact VirtualDeviceState.sendThen_answered idle matched rfl dispatched answered

end

end VirtualDevice
