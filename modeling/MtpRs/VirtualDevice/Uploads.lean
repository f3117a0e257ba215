import MtpRs.Mtp.PartialReads
import MtpRs.VirtualDevice.Aims
import MtpRs.VirtualDevice.Conversation
import MtpRs.VirtualDevice.StoredTimes

set_option autoImplicit false

/- What is uploaded is what is read, in whatever conversation goes on in between. -/
namespace VirtualDevice

open Files (Disk Path)
open Mtp (UsbBackend)
open Ptp (Bytes DataContainer OperationCode PtpError ResponseCode checkResponse)
open Runs (Restricted Run)

namespace Happening

def occurrence : Happening → Occurrence
  | requested txId request =>
      .operation request.operation.toCode txId request.params request.data
  | occurred occurrence => occurrence

def reaches (state : VirtualDeviceState) (path : Path) (happening : Happening) : Bool :=
  happening.occurrence.reaches state path

end Happening

/-- Whether one read from an offset on gives that many bytes, when no fewer are asked for. -/
def Host.Fetches (host : Host) (disk : Disk) (path : Path) (offset count : Nat) : Prop :=
  (0 < offset → host.seeks disk path offset = true) ∧
    ∀ maxBytes, count ≤ maxBytes → ∃ n, host.brings disk path offset maxBytes = some n ∧ count ≤ n

theorem Host.usual_fetches {disk : Disk} {path : Path} {offset count : Nat}
    (near : offset < 2 ^ 63) (few : count ≤ 0x7ffff000) :
    Host.usual.Fetches disk path offset count := by
  refine ⟨fun _ => decide_eq_true near, fun maxBytes asked => ⟨_, rfl, ?_⟩⟩
  exact Nat.le_min.mpr ⟨asked, few⟩

/-- The bytes that a read of a range stands for. -/
def partOf (data : Bytes) (offset : Nat) : Option UInt32 → Bytes
  | none => if offset = 0 then data else (data.drop offset).take Mtp.u32Max
  | some len => (data.drop offset).take len.toNat

namespace VirtualDeviceState

/-- `read_range` over USB, from the device. -/
def readRange (host : Host) (usb : UsbBackend) (txId handle : UInt32) (offset : Nat)
    (len : Option UInt32) (self : VirtualDeviceState) :
    Option (Except Mtp.Error Bytes × VirtualDeviceState) :=
  match usb.readRange handle offset len with
  | .error e => some (.error e, self)
  | .ok command =>
      ((Request.executeWithReceive command.operation command.params).exchange host txId self).map
        fun (result, after) =>
          ((do
            let (response, data) ← result
            checkResponse response command.operation
            .ok data : Except PtpError Bytes).mapError .ofPtp, after)

/-- A device in a session that lets files be read, by the operations the backend counts on. -/
structure Serves (host : Host) (usb : UsbBackend) (state : VirtualDeviceState) : Prop where
  opened : state.sessionOpen = true
  uncapped : state.forcedPartialReadCaps = []
  wide : usb.hasPartialObject64 = true → state.config.supportsPartialObject64 = true
  narrow : usb.hasPartialObject = true → state.config.supportsPartialObject = true
  readable : ∀ location, host.files.refuses state.disk (.read location) = none

section

variable {host : Host} {state after : VirtualDeviceState} {usb : UsbBackend}
  {handle txId : UInt32} {offset : Nat} {len : Option UInt32} {path : Path} {data : Bytes}
  {params : List UInt32} {dataPayload : Option Bytes}

theorem dispatch_getObject :
    state.dispatch host OperationCode.getObject.toCode txId params dataPayload =
      if state.sessionOpen = false then some (state.respond Code.sessionNotOpen txId [])
      else some (state.handleGetObject host OperationCode.getObject.toCode txId params) := rfl

theorem dispatch_getPartialObject :
    state.dispatch host OperationCode.getPartialObject.toCode txId params dataPayload =
      if state.sessionOpen = false then some (state.respond Code.sessionNotOpen txId [])
      else if state.config.supportsPartialObject then
        some (state.handleGetPartialObject host OperationCode.getPartialObject.toCode txId params)
      else some (state.respond Code.operationNotSupported txId []) := rfl

theorem dispatch_getPartialObject64 :
    state.dispatch host OperationCode.getPartialObject64.toCode txId params dataPayload =
      if state.sessionOpen = false then some (state.respond Code.sessionNotOpen txId [])
      else if state.config.supportsPartialObject64 then
        some (state.handleGetPartialObject64 host OperationCode.getPartialObject64.toCode txId
          params)
      else some (state.respond Code.operationNotSupported txId []) := rfl

theorem readPartial_data {opCode : UInt16} {maxBytes : Nat}
    (uncapped : state.forcedPartialReadCaps = []) (denotes : state.resolvePath handle = some path)
    (holds : host.files.read state.disk path = some data)
    (fetches : host.Fetches state.disk path offset ((data.drop offset).take maxBytes).length) :
    state.readPartial host opCode txId handle offset maxBytes =
      state.respondData opCode txId ((data.drop offset).take maxBytes) := by
  obtain ⟨seeks, brings⟩ := fetches
  obtain ⟨n, brought, all⟩ := brings maxBytes (List.length_take_le _ _)
  have sought : ¬ (0 < offset ∧ host.seeks state.disk path offset = false) :=
    fun ⟨later, fails⟩ => by simp [seeks later] at fails
  unfold readPartial
  rw [uncapped]
  dsimp only
  rw [denotes]
  dsimp only
  rw [holds]
  dsimp only
  rw [if_neg sought, brought]
  dsimp only
  rw [List.take_of_length_le all]

theorem getObject_data {opCode : UInt16} (denotes : state.resolvePath handle = some path)
    (holds : host.files.read state.disk path = some data) :
    state.handleGetObject host opCode txId [handle] = state.respondData opCode txId data := by
  have first : param [handle] 0 = handle := rfl
  unfold handleGetObject
  rw [first, denotes]
  dsimp only
  rw [holds]

variable (data) in
/-- What `read_range` asks for: the whole object, or a part by one of two operations. -/
theorem readRange_cases {command : Mtp.ReadCommand}
    (sent : usb.readRange handle offset len = .ok command) :
    partOf data offset len = data ∧ command = Mtp.getObject handle ∨
      ¬ (len = none ∧ offset = 0) ∧ ∃ maxBytes : UInt32,
        partOf data offset len = (data.drop offset).take maxBytes.toNat ∧
        (usb.hasPartialObject64 = true ∧
            command = Mtp.getPartialObject64 handle offset maxBytes ∨
          (usb.hasPartialObject = true ∧ offset ≤ Mtp.u32Max) ∧
            command = Mtp.getPartialObject handle offset maxBytes) := by
  unfold UsbBackend.readRange at sent
  by_cases whole : len = none ∧ offset = 0
  · obtain ⟨rfl, rfl⟩ := whole
    cases sent
    exact Or.inl ⟨rfl, rfl⟩
  · obtain ⟨maxBytes, part, asked⟩ : ∃ maxBytes : UInt32,
        partOf data offset len = (data.drop offset).take maxBytes.toNat ∧
          (usb.partialRead offset = .ok .wide →
            command = Mtp.getPartialObject64 handle offset maxBytes) ∧
          (usb.partialRead offset = .ok .narrow →
            command = Mtp.getPartialObject handle offset maxBytes) ∧
          ∀ e, usb.partialRead offset ≠ .error e := by
      cases len with
      | some len =>
          refine ⟨len, rfl, fun planned => ?_, fun planned => ?_, fun e planned => ?_⟩
          all_goals
            dsimp only at sent
            rw [planned] at sent
            cases sent
          all_goals rfl
      | none =>
          have later : offset ≠ 0 := fun start => whole ⟨rfl, start⟩
          refine ⟨UInt32.ofNat Mtp.u32Max, if_neg later, fun planned => ?_, fun planned => ?_,
            fun e planned => ?_⟩
          all_goals
            dsimp only at sent
            rw [if_neg later, planned] at sent
            cases sent
          all_goals rfl
    refine Or.inr ⟨whole, maxBytes, part, ?_⟩
    rcases Mtp.partialRead_cases usb offset with
      ⟨planned, has⟩ | ⟨planned, has, small⟩ | ⟨⟨e, planned⟩, -, -⟩
    · exact Or.inl ⟨has, asked.1 planned⟩
    · exact Or.inr ⟨⟨has, small⟩, asked.2.1 planned⟩
    · exact absurd planned (asked.2.2 e)

/-- A read of a range is answered with the range. -/
theorem Serves.dispatch_read (serves : state.Serves host usb) {command : Mtp.ReadCommand}
    (denotes : state.resolvePath handle = some path)
    (holds : host.files.read state.disk path = some data) (near : offset ≤ Mtp.u64Max)
    (fetches : len = none ∧ offset = 0 ∨
      host.Fetches state.disk path offset (partOf data offset len).length)
    (sent : usb.readRange handle offset len = .ok command) :
    (Request.executeWithReceive command.operation command.params).dispatch host txId state =
        some (state.respondData command.operation.toCode txId (partOf data offset len)) ∧
      takesData command.operation.toCode = false ∧
      bringsData (.ofCode command.operation.toCode) = true := by
  have session : ¬ state.sessionOpen = false := by simp [serves.opened]
  rcases readRange_cases data sent with
    ⟨part, rfl⟩ | ⟨partly, maxBytes, part, ⟨has, rfl⟩ | ⟨⟨has, small⟩, rfl⟩⟩
  · refine ⟨?_, rfl, rfl⟩
    refine dispatch_getObject.trans ?_
    rw [if_neg session, part]
    exact congrArg some (getObject_data denotes holds)
  · refine ⟨?_, rfl, rfl⟩
    have fetched := fetches.resolve_left partly
    rw [part] at fetched
    have whole : (UInt32.ofNat (offset / 2 ^ 32)).toNat * 2 ^ 32 +
        (UInt32.ofNat offset).toNat = offset := by
      rw [Nat.mul_comm, Nat.add_comm]
      exact Mtp.offset_words near
    refine dispatch_getPartialObject64.trans ?_
    rw [if_neg session, if_pos (serves.wide has), part]
    refine congrArg some (Eq.trans ?_ (readPartial_data serves.uncapped denotes holds fetched))
    unfold handleGetPartialObject64
    exact congrArg (state.readPartial host _ txId handle · maxBytes.toNat) whole
  · refine ⟨?_, rfl, rfl⟩
    have fetched := fetches.resolve_left partly
    rw [part] at fetched
    refine dispatch_getPartialObject.trans ?_
    rw [if_neg session, if_pos (serves.narrow has), part]
    refine congrArg some (Eq.trans ?_ (readPartial_data serves.uncapped denotes holds fetched))
    unfold handleGetPartialObject
    exact congrArg (state.readPartial host _ txId handle · maxBytes.toNat) (Mtp.offset_word small)

theorem buildDataContainer_length (opCode : UInt16) (payload : Bytes) :
    (buildDataContainer opCode txId payload).length = 12 + payload.length := by
  rw [buildDataContainer_eq, DataContainer.toBytes_length]
  rfl

theorem emptied (idle : Idle state) : { state with responseQueue := [] } = state := by
  rw [← idle.replied]

/-- Data that goes out with a successful response is what the session returns. -/
theorem exchange_respondData {request : Request} (idle : Idle state)
    (matched : request.matched = true)
    (dispatched : request.dispatch host txId state =
      some (state.respondData request.operation.toCode txId data))
    (brings : bringsData (.ofCode request.operation.toCode) = true)
    (short : 12 + data.length < 2 ^ 32) :
    request.exchange host txId state =
      some (.ok (⟨.ofCode Code.ok, txId, []⟩, data), state) := by
  have queue : (state.respondData request.operation.toCode txId data).responseQueue =
      [buildDataContainer request.operation.toCode txId data, buildResponse Code.ok txId []] := by
    rw [respondData, respond, idle.replied]
    rfl
  have answered : Answered request.operation.toCode txId
      (state.respondData request.operation.toCode txId data).responseQueue
      ⟨.ofCode Code.ok, txId, []⟩ data := by
    rw [queue]
    exact .data data brings
  have fits : ∀ reply ∈ (state.respondData request.operation.toCode txId data).responseQueue,
      reply.length < 2 ^ 32 := by
    rw [queue]
    intro reply mem
    rcases List.mem_cons.mp mem with rfl | last
    · rwa [buildDataContainer_length]
    · have size : (buildResponse Code.ok txId []).length = 12 := rfl
      rw [List.mem_singleton.mp last, size]
      decide
  rw [Request.exchange_answered idle matched dispatched answered fits]
  exact congrArg (fun after => some (Except.ok (_, data), after)) (emptied idle)

/-- A read that some command carries is sent. -/
theorem exists_readRange (near : offset ≤ Mtp.u64Max)
    (carried : len = none ∧ offset = 0 ∨ usb.Carries offset) :
    ∃ command, usb.readRange handle offset len = .ok command := by
  unfold UsbBackend.readRange
  rcases carried with ⟨rfl, rfl⟩ | carries
  · exact ⟨_, if_pos rfl⟩
  · cases planned : usb.partialRead offset with
    | error e => exact absurd carries ((Mtp.partialRead_error_iff usb near).mp ⟨e, planned⟩)
    | ok op =>
        cases len with
        | none =>
            by_cases start : offset = 0
            · exact ⟨_, if_pos start⟩
            · dsimp only
              rw [if_neg start]
              cases op <;> exact ⟨_, rfl⟩
        | some len => cases op <;> exact ⟨_, rfl⟩

/-- It comes back to the host as it is. -/
theorem Serves.readRange (serves : state.Serves host usb) (idle : Idle state)
    (denotes : state.resolvePath handle = some path)
    (holds : host.files.read state.disk path = some data) (near : offset ≤ Mtp.u64Max)
    (carried : len = none ∧ offset = 0 ∨ usb.Carries offset ∧
      host.Fetches state.disk path offset (partOf data offset len).length)
    (short : 12 + (partOf data offset len).length < 2 ^ 32) :
    state.readRange host usb txId handle offset len =
      some (.ok (partOf data offset len), state) := by
  obtain ⟨command, sent⟩ : ∃ command, usb.readRange handle offset len = .ok command :=
    exists_readRange near (carried.imp_right And.left)
  obtain ⟨dispatched, takes, brings⟩ :=
    serves.dispatch_read denotes holds near (carried.imp_right And.right) sent
  have matched : (Request.executeWithReceive command.operation command.params).matched = true := by
    rw [Request.matched, takes]
    rfl
  have exchanged := exchange_respondData idle matched dispatched brings short
  have accepted : checkResponse ⟨.ofCode Code.ok, txId, []⟩ command.operation = .ok () := rfl
  rw [VirtualDeviceState.readRange, sent]
  dsimp only
  rw [exchanged, Option.map_some]
  simp only [bind, Except.bind, accepted]
  rfl

theorem writeInDir_contents {disk after : Disk}
    (wrote : writeInDir host disk path data = (true, after)) :
    after.contents path = some (.file data) := by
  unfold writeInDir at wrote
  split at wrote
  · exact Files.Host.write_contents wrote
  · split at wrote
    · cases wrote
    · exact Files.Host.write_contents wrote

theorem stamp_contents {disk : Disk} (there : disk.contents path = some (.file data))
    (modified : Option Int) : (stamp host disk path modified).contents path =
      some (.file data) := by
  unfold stamp
  split
  · exact there
  · next time =>
      cases stamped : host.files.setModified disk path time with
      | none => exact there
      | some after => exact Files.Host.setModified_contents there stamped

variable (host txId dataPayload) in
/-- The answer to the data of an upload says no more than its code, and no upload is left. -/
theorem handleSendObject_answer {upload : PendingSendInfo}
    (waiting : state.pendingSend = some upload) :
    (∃ code, (state.handleSendObject host txId dataPayload).responseQueue =
        state.responseQueue ++ [buildResponse code txId []]) ∧
      (state.handleSendObject host txId dataPayload).pendingSend = none ∧
      (state.handleSendObject host txId dataPayload).nextHandle = state.nextHandle := by
  unfold handleSendObject
  rw [waiting]
  dsimp only
  repeat' split
  all_goals exact ⟨⟨_, rfl⟩, rfl, rfl⟩

end

end VirtualDeviceState

/-- An upload that is on the disk, under a handle that stands for it. -/
structure Uploaded (handle : UInt32) (obj : VirtualObject) (storage : VirtualStorageState)
    (data : Bytes) (state : VirtualDeviceState) : Prop where
  ready : Ready state
  owner : state.findStorage obj.storageId = some storage
  contents : state.disk.contents (storage.config.backingDir.join obj.relPath) = some (.file data)
  stands : state.nextHandle ≤ 2 ^ 32 → state.Stands handle (obj.storageId, obj.relPath)

section

variable {host : Host} {state after next : VirtualDeviceState} {happening : Happening}
  {txId handle : UInt32} {request : Request} {upload : PendingSendInfo} {data : Bytes}
  {obj : VirtualObject} {storage : VirtualStorageState}

/-- What a conversation does to a device is what happens to it. -/
theorem Ready.happens (ready : Ready state) (converses : Converses host state happening next) :
    ∃ after, Happens host state happening.occurrence after ∧
      next = { after with responseQueue := next.responseQueue } := by
  obtain ⟨⟨lasts, meets⟩, taken⟩ := converses
  cases happening with
  | requested txId request =>
      obtain ⟨after, response, data, dispatched, -, exchanged, -⟩ := ready.exchange lasts meets
      rw [Happening.take, exchanged] at taken
      cases taken
      exact ⟨after, dispatched, rfl⟩
  | occurred occurrence =>
      rw [Happening.take] at taken
      split at taken
      · cases taken
      · exact ⟨next, taken, rfl⟩

theorem code_ok {code : UInt16} (accepted : ResponseCode.ofCode code = .ok) : code = Code.ok := by
  rw [← ResponseCode.toCode_ofCode code, accepted]
  rfl

/-- A success is the handler's, and says nothing else. -/
theorem answered_sendObject {response : Ptp.ResponseContainer} {nothing : Bytes} {opCode : UInt16}
    {params : List UInt32} {dataPayload : Option Bytes} (idle : Idle state)
    (waiting : state.pendingSend = some upload)
    (dispatched : state.dispatch host OperationCode.sendObject.toCode txId params dataPayload =
      some after)
    (answered : Answered opCode txId after.responseQueue response nothing)
    (accepted : response.code = .ok) :
    after = state.handleSendObject host txId dataPayload ∧
      after.responseQueue = state.responseQueue ++ [buildResponse Code.ok txId []] := by
  have succeeds : ∀ {code}, after.responseQueue = [buildResponse code txId []] →
      code = Code.ok := by
    intro code queue
    rw [queue] at answered
    generalize same : [buildResponse code txId []] = replies at answered
    cases answered with
    | response sent params few =>
        rw [(buildResponse_inj (List.singleton_inj.mp same)).1]
        exact code_ok accepted
    | data payload brings => cases congrArg List.length same
  rw [VirtualDeviceState.dispatch_sendObject] at dispatched
  split at dispatched
  · cases dispatched
    have refused : Code.sessionNotOpen = Code.ok := by
      refine succeeds ?_
      rw [VirtualDeviceState.respond, idle.replied]
      rfl
    exact absurd refused (by decide)
  · cases dispatched
    obtain ⟨⟨code, queue⟩, -⟩ :=
      VirtualDeviceState.handleSendObject_answer host txId dataPayload waiting
    rw [idle.replied] at queue
    cases succeeds queue
    exact ⟨rfl, by rw [queue, idle.replied]⟩

/-- An upload that the device takes is on its disk. -/
theorem uploaded_of_accepted {response : Ptp.ResponseContainer} {nothing : Bytes}
    (ready : Ready state) (waiting : state.pendingSend = some upload)
    (file : upload.isFolder = false) (sends : request.operation = .sendObject)
    (body : request.data = some data) (lasts : state.HandlesLast)
    (meets : (Happening.requested txId request).meets host state = true)
    (sent : request.exchange host txId state = some (.ok (response, nothing), next))
    (accepted : response.code = .ok) :
    ∃ obj storage, next.objects.lookup upload.assignedHandle = some obj ∧
      Uploaded upload.assignedHandle obj storage data next := by
  obtain ⟨after, other, received, dispatched, answered, exchanged, readyAfter⟩ :=
    ready.exchange lasts meets
  rw [exchanged] at sent
  cases sent
  rw [Request.dispatch, sends, body] at dispatched
  obtain ⟨rfl, finished⟩ := answered_sendObject ready.idle waiting dispatched answered accepted
  obtain ⟨storage, relPath, disk, owner, wrote, onDisk, tracked, -, storages, -⟩ :=
    VirtualDeviceState.handleSendObject_ok waiting file finished
  obtain ⟨-, cleared, same⟩ :=
    VirtualDeviceState.handleSendObject_answer host txId (some data) waiting
  refine ⟨_, storage, tracked, readyAfter, ?_, ?_, fun bound => ⟨?_, fun _ waits => ?_, ?_⟩⟩
  · exact (VirtualDeviceState.findStorage_congr storages _).trans owner
  · dsimp only
    rw [onDisk]
    exact VirtualDeviceState.stamp_contents (VirtualDeviceState.writeInDir_contents wrote) _
  · have given := (ready.numbered lasts.bound).waiting upload waiting
    dsimp only
    rw [same]
    exact given.2
  · dsimp only at waits
    rw [cleared] at waits
    cases waits
  · intro obj found
    dsimp only at found
    rw [tracked] at found
    cases found
    rfl

/-- It stays there while nothing that happens is aimed at it. -/
theorem Uploaded.kept (uploaded : Uploaded handle obj storage data state)
    (converses : Converses host state happening next)
    (spared : happening.reaches state (storage.config.backingDir.join obj.relPath) = false) :
    Uploaded handle obj storage data next := by
  obtain ⟨after, happens, same⟩ := uploaded.ready.happens converses
  have ready := uploaded.ready.converses converses
  rw [same] at ready ⊢
  refine ⟨ready, ?_, ?_, fun bound => ?_⟩
  · exact (VirtualDeviceState.findStorage_congr happens.storages _).trans uploaded.owner
  · exact (happens.contents spared).trans uploaded.contents
  · have bound : after.nextHandle ≤ 2 ^ 32 := bound
    have stands := happens.stands (uploaded.stands (happens.nextHandle_le.trans bound))
      uploaded.owner spared bound
    exact stands.kept (Nat.le_refl _) stands.finished fun obj found => ⟨obj, found, rfl⟩

end

/-- After an upload that the device took, in every conversation in which nothing is aimed at the
file or at a folder it lies in, its handle stands for the file or for nothing, and every read under
a handle of the file returns the bytes that were sent and leaves the device as it is. -/
theorem upload_readable (host : Host) (config : VirtualDeviceConfig) (disk : Disk)
    (happenings : List Happening) (state : VirtualDeviceState)
    (run : Run (Converses host) (.new config disk) happenings state) (upload : PendingSendInfo)
    (waiting : state.pendingSend = some upload) (file : upload.isFolder = false) (txId : UInt32)
    (request : Request) (data : Bytes) (sends : request.operation = .sendObject)
    (body : request.data = some data) (lasts : state.HandlesLast)
    (meets : (Happening.requested txId request).meets host state = true)
    (response : Ptp.ResponseContainer) (nothing : Bytes) (next : VirtualDeviceState)
    (sent : request.exchange host txId state = some (.ok (response, nothing), next))
    (accepted : response.code = .ok) :
    ∃ path, next.resolvePath upload.assignedHandle = some path ∧
      ∀ more later, Run (Restricted (fun state happening =>
          Happening.reaches state path happening = false) (Converses host)) next more later →
        (later.nextHandle ≤ 2 ^ 32 → later.resolvePath upload.assignedHandle = none ∨
          later.resolvePath upload.assignedHandle = some path) ∧
        ∀ usb handle offset len txId, later.Serves host usb → later.resolvePath handle = some path →
          offset ≤ Mtp.u64Max → (len = none ∧ offset = 0 ∨ usb.Carries offset ∧
              host.Fetches later.disk path offset (partOf data offset len).length) →
            12 + (partOf data offset len).length < 2 ^ 32 →
              later.readRange host usb txId handle offset len =
                some (.ok (partOf data offset len), later) := by
  obtain ⟨obj, storage, tracked, uploaded⟩ := uploaded_of_accepted (ready_of_run run) waiting file
    sends body lasts meets sent accepted
  have resolves : ∀ {later : VirtualDeviceState}, Uploaded upload.assignedHandle obj storage data
      later → ∀ found, later.objects.lookup upload.assignedHandle = some found →
        (found.storageId, found.relPath) = (obj.storageId, obj.relPath) →
          later.resolvePath upload.assignedHandle =
            some (storage.config.backingDir.join obj.relPath) := by
    intro later uploaded found there same
    obtain ⟨sameStorage, samePath⟩ := Prod.mk.inj same
    rw [VirtualDeviceState.resolvePath, there]
    dsimp only
    rw [sameStorage, samePath, uploaded.owner]
    rfl
  refine ⟨_, resolves uploaded obj tracked rfl, fun more later run => ?_⟩
  have kept := run.invariant (Uploaded upload.assignedHandle obj storage data)
    (fun _ _ _ uploaded taken => uploaded.kept taken.2 taken.1) uploaded
  refine ⟨fun bound => ?_, fun usb handle offset len txId serves denotes near carried short => ?_⟩
  · cases found : later.objects.lookup upload.assignedHandle with
    | none =>
        left
        rw [VirtualDeviceState.resolvePath, found]
    | some other =>
        exact Or.inr (resolves kept other found ((kept.stands bound).denotes other found))
  · have holds := Files.Host.read_of_contents kept.contents serves.readable
    exact serves.readRange kept.ready.idle denotes holds near carried short

/-- A file `b` that is uploaded beside `a`, renamed to `c` and deleted, and a rescan. -/
def besideUpload : List Happening :=
  [.requested 4 (.executeWithSend .sendObjectInfo [0x00010001, 0xFFFFFFFF] (announced 98)),
    .requested 5 (.executeWithSend .sendObject [] [9]),
    .requested 6 (.executeWithSend .setObjectPropValue [2, 0xDC07] [2, 99, 0, 0, 0]),
    .occurred .rescan, .requested 7 (.execute .deleteObject [2, 0])]

def besideReadOnlyPartially : VirtualDeviceConfig :=
  { besideReadOnly with supportsPartialObject64 := true }

theorem upload_readable_beside : ∃ state next later,
    Run (Converses Host.usual) (.new besideReadOnlyPartially twoBackings) announcedThenRescanned
      state ∧
    (Request.executeWithSend .sendObject [] [1, 2, 3]).exchange Host.usual 3 state =
      some (.ok (⟨.ok, 3, []⟩, []), next) ∧
    Run (Converses Host.usual) next besideUpload later ∧ later.objects.keys = [1] ∧
    later.readRange Host.usual ⟨true, false⟩ 8 1 1 (some 5) = some (.ok [2, 3], later) := by
  have runs : ((converse announcedThenRescanned
      (.new besideReadOnlyPartially twoBackings)).bind fun state =>
    state.pendingSend.bind fun upload =>
      ((Request.executeWithSend .sendObject [] [1, 2, 3]).exchange Host.usual 3 state).bind
        fun sent => match sent with
        | (.error _, _) => none
        | (.ok answer, next) => (next.resolvePath 1).bind fun path =>
            (besideUpload.foldlM (fun (state : VirtualDeviceState) (happening : Happening) =>
              if happening.reaches state path = false then
                if state.HandlesLast ∧ happening.meets Host.usual state = true then
                  happening.take Host.usual state
                else none
              else none) next).map fun later => decide (
                answer = (⟨.ok, 3, []⟩, []) ∧ upload.isFolder = false ∧
                  upload.assignedHandle = 1 ∧ state.HandlesLast ∧
                    (Happening.requested 3 (.executeWithSend .sendObject [] [1, 2, 3])).meets
                      Host.usual state = true ∧
                    later.resolvePath 1 = some path ∧ later.objects.keys = [1] ∧
                      later.sessionOpen = true ∧ later.forcedPartialReadCaps = [] ∧
                        later.config.supportsPartialObject64 = true)) = some true := by
    decide +kernel
  obtain ⟨state, ran, rest⟩ := Option.bind_eq_some_iff.mp runs
  obtain ⟨upload, waiting, rest⟩ := Option.bind_eq_some_iff.mp rest
  obtain ⟨⟨result, next⟩, exchanged, rest⟩ := Option.bind_eq_some_iff.mp rest
  cases result with
  | error e => cases rest
  | ok answer =>
      obtain ⟨path, resolved, rest⟩ := Option.bind_eq_some_iff.mp rest
      obtain ⟨later, goesOn, facts⟩ := Option.map_eq_some_iff.mp rest
      obtain ⟨rfl, file, first, lasts, meets, denotes, keys, opened, uncapped, wide⟩ :=
        of_decide_eq_true facts
      have run := run_of_converse ran
      have more : Run (Restricted (fun state happening =>
          Happening.reaches state path happening = false) (Converses Host.usual)) next
            besideUpload later := by
        refine (Run.restricted_of_foldlM _ _ goesOn).relax fun state happening after taken => ?_
        obtain ⟨spared, taken⟩ := taken
        split at taken
        · next allowed => exact ⟨spared, allowed, taken⟩
        · cases taken
      obtain ⟨other, same, kept⟩ := upload_readable Host.usual besideReadOnlyPartially twoBackings
        _ state run upload waiting file 3 (.executeWithSend .sendObject [] [1, 2, 3]) [1, 2, 3] rfl
        rfl lasts meets ⟨.ok, 3, []⟩ [] next exchanged rfl
      rw [first, resolved] at same
      cases same
      have serves : later.Serves Host.usual ⟨true, false⟩ :=
        ⟨opened, uncapped, fun _ => wide, (fun narrow => by cases narrow), fun _ => rfl⟩
      have answered := (kept _ later more).2 ⟨true, false⟩ 1 1 (some 5) 8 serves denotes
        (by decide) (Or.inr ⟨(UsbBackend.carries_iff _ (by decide)).mpr (Or.inl rfl),
          Host.usual_fetches (by decide) (by decide)⟩) (by decide)
      exact ⟨state, next, later, run, exchanged, more.relax fun _ _ _ taken => taken.2, keys,
        answered⟩

end VirtualDevice
