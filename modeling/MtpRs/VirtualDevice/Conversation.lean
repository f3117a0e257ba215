import MtpRs.Mtp.Upload
import MtpRs.Ptp.ArrayBytes
import MtpRs.VirtualDevice.Exchange

set_option autoImplicit false

/- Whole conversations with a device, whatever else happens to it between one request and the
next. -/
namespace VirtualDevice

open Files (Disk Location Path)
open Ptp (Bytes ObjectFormatCode OperationCode DataContainer PtpError ResponseCode ResponseContainer
  checkResponse flatMap_packU32_length packU32Array unpackU32Array writes_u32Array)
open Runs (Restricted Run)

def Occurrence.isOperation : Occurrence → Bool
  | operation .. => true
  | _ => false

/-- A request, under its transaction ID, or what else happens to a device. -/
inductive Happening where
  | requested (txId : UInt32) (request : Request)
  | occurred (occurrence : Occurrence)

namespace Happening

def take (host : Host) (state : VirtualDeviceState) : Happening → Option VirtualDeviceState
  | requested txId request => (request.exchange host txId state).map Prod.snd
  | occurred occurrence => if occurrence.isOperation then none else occurrence.take host state

def overlong (host : Host) (state : VirtualDeviceState) (txId : UInt32) (request : Request) :
    Bool :=
  match request.dispatch host txId state with
  | none => false
  | some after => after.responseQueue.any fun reply => decide (2 ^ 32 ≤ reply.length)

/-- A request with the data phase of its operation whose answer has a length, and otherwise what
does not have the device reach beyond its backing directories. -/
def meets (host : Host) (state : VirtualDeviceState) : Happening → Bool
  | requested txId request =>
      request.matched && !overlong host state txId request &&
        !(Occurrence.operation request.operation.toCode txId request.params
          request.data).escapes state
  | occurred occurrence => !occurrence.escapes state

end Happening

/-- One thing after the other, while handles last. -/
def Converses (host : Host) : VirtualDeviceState → Happening → VirtualDeviceState → Prop :=
  Restricted (fun state happening => state.HandlesLast ∧ happening.meets host state = true)
    fun state happening next => happening.take host state = some next

namespace VirtualDeviceState

section

variable {host : Host} {state after : VirtualDeviceState} {path : Path}
  {storages : List (Path × UInt32)} {kind : EventKind}

theorem Handled.standing {params : List UInt32} {dataPayload : Option Bytes} {op : OperationCode}
    (handled : Handled host state params dataPayload after op) :
    after.standing = state.standing := by
  cases handled <;> (rename_i leaves; exact leaves.standing)

theorem dispatch_standing {opCode : UInt16} {txId : UInt32} {params : List UInt32}
    {dataPayload : Option Bytes}
    (dispatched : state.dispatch host opCode txId params dataPayload = some after) :
    after.standing = state.standing := by
  rcases dispatch_handled dispatched with ⟨_, -, leaves⟩ | closed | ⟨-, handled⟩
  · exact leaves.standing
  · exact closed.standing
  · exact handled.standing

theorem Discovers.standing (found : Discovers state after) : after.standing = state.standing := by
  rw [found.same]
  rfl

theorem Discovers.responseQueue (found : Discovers state after) :
    after.responseQueue = state.responseQueue := by
  rw [found.same]

theorem notifyPath_responseQueue :
    (state.notifyPath host storages kind path).responseQueue = state.responseQueue := by
  unfold notifyPath notifyCreated notifyRemoved
  dsimp only
  repeat' split
  all_goals rfl

theorem handleNotifyEvent_responseQueue (paths : List Path) :
    (state.handleNotifyEvent host storages kind paths).responseQueue = state.responseQueue := by
  unfold handleNotifyEvent
  split
  · rfl
  · exact List.foldlRecOn (motive := fun reached : VirtualDeviceState =>
      reached.responseQueue = state.responseQueue)
      paths _ rfl fun reached kept _ _ => notifyPath_responseQueue.trans kept

theorem Noticed.standing (noticed : Noticed host storages state path after) :
    after.standing = state.standing := by
  cases noticed <;> (rename_i leaves; exact leaves.standing)

end

end VirtualDeviceState

section

variable {host : Host} {state after next : VirtualDeviceState} {occurrence : Occurrence}
  {happening : Happening} {txId : UInt32} {request : Request}

/-- What happens to a device by itself does not speak to the host. -/
theorem Happens.quiet (happens : Happens host state occurrence next)
    (quiet : occurrence.isOperation = false) :
    next.responseQueue = state.responseQueue ∧ next.standing = state.standing := by
  cases occurrence with
  | operation opCode txId params dataPayload => cases quiet
  | scanDir storageId parent =>
      cases happens
      have found : state.Discovers (state.scanDir host storageId parent).2 :=
        VirtualDeviceState.scanDir_discovers rfl
      exact ⟨found.responseQueue, found.standing⟩
  | scanAll storageId =>
      obtain ⟨⟨result, reached⟩, listed, same⟩ := Option.map_eq_some_iff.mp happens
      cases same
      have found := VirtualDeviceState.Scanned.discovers
        (VirtualDeviceState.scanAll_scanned listed)
      exact ⟨found.responseQueue, found.standing⟩
  | rescan =>
      cases happens
      have found := VirtualDeviceState.rescanBackingDirs_discovers host state
      refine ⟨found.responseQueue.trans ?_, found.standing.trans ?_⟩
      · rw [VirtualDeviceState.dropped, VirtualDeviceState.dropStale_same]
      · rw [VirtualDeviceState.dropped, VirtualDeviceState.dropStale_same]
        rfl
  | notified storages kind paths =>
      cases happens
      refine ⟨VirtualDeviceState.handleNotifyEvent_responseQueue paths, ?_⟩
      exact VirtualDeviceState.handleNotifyEvent_closed
        (fun _ _ {reached _} _ _ (kept : reached.standing = state.standing) noticed =>
          (VirtualDeviceState.Noticed.standing noticed).trans kept) rfl
  | rekeyed relPath =>
      cases happens
      unfold VirtualDeviceState.rekeyObject
      split <;> exact ⟨rfl, rfl⟩
  | paused count =>
      cases happens
      exact ⟨rfl, rfl⟩
  | changed disk =>
      cases happens
      exact ⟨rfl, rfl⟩

theorem Idle.of_standing (idle : Idle state) (replied : next.responseQueue = [])
    (standing : next.standing = state.standing) : Idle next := by
  obtain ⟨-, under⟩ := Prod.mk.inj standing
  obtain ⟨waiting, sound⟩ := Prod.mk.inj under
  exact ⟨replied, waiting.trans idle.waiting, sound.trans idle.sound⟩

/-- What holds of a device between two requests. -/
structure Ready (state : VirtualDeviceState) : Prop where
  idle : Idle state
  lodges : state.Lodges
  numbered : state.nextHandle ≤ 2 ^ 32 → state.Numbered

theorem VirtualDeviceState.HandlesLast.bound (lasts : state.HandlesLast) :
    state.nextHandle ≤ 2 ^ 32 :=
  (Nat.le_add_right ..).trans lasts

theorem fits_of_meets (meets : (Happening.requested txId request).meets host state = true)
    (dispatched : request.dispatch host txId state = some after) :
    ∀ reply ∈ after.responseQueue, reply.length < 2 ^ 32 := by
  intro reply mem
  rw [Happening.meets, Bool.and_eq_true, Bool.and_eq_true] at meets
  obtain ⟨⟨-, short⟩, -⟩ := meets
  rw [Happening.overlong, dispatched] at short
  simpa using List.any_eq_false.mp (Bool.not_eq_true' _ |>.mp short) reply mem

theorem Answered.transactionId {opCode : UInt16} {queue : List Bytes} {response : ResponseContainer}
    {data : Bytes} (answered : Answered opCode txId queue response data) :
    response.transactionId = txId := by
  cases answered <;> rfl

/-- Data comes with success, of an operation that brings some. -/
theorem Answered.successful {opCode : UInt16} {queue : List Bytes} {response : ResponseContainer}
    {data : Bytes} (answered : Answered opCode txId queue response data) (some : data ≠ []) :
    response.code = .ok ∧ bringsData (.ofCode opCode) = true := by
  cases answered with
  | response code params few => exact absurd rfl some
  | data payload brings => exact ⟨rfl, brings⟩

/-- A request is carried out, and its reply is read whole. -/
theorem Ready.exchange (ready : Ready state) (lasts : state.HandlesLast)
    (meets : (Happening.requested txId request).meets host state = true) :
    ∃ after response data, request.dispatch host txId state = some after ∧
      Answered request.operation.toCode txId after.responseQueue response data ∧
      request.exchange host txId state =
        some (.ok (response, data), { after with responseQueue := [] }) ∧
      Ready { after with responseQueue := [] } := by
  have done := VirtualDeviceState.dispatch_isSome host request.operation.toCode txId request.params
    request.data lasts (ready.numbered lasts.bound).toCounted ready.lodges
  obtain ⟨after, dispatched⟩ := Option.isSome_iff_exists.mp done
  have fits := fits_of_meets meets dispatched
  rw [Happening.meets, Bool.and_eq_true, Bool.and_eq_true] at meets
  obtain ⟨⟨matched, -⟩, stays⟩ := meets
  obtain ⟨response, data, answered⟩ := exists_answered ready.idle dispatched
  have exchanged := Request.exchange_answered ready.idle matched dispatched answered fits
  have happens : Happens host state (.operation request.operation.toCode txId request.params
    request.data) after := dispatched
  refine ⟨after, response, data, dispatched, answered, exchanged, ?_, ?_, fun bound => ?_⟩
  · have standing := VirtualDeviceState.dispatch_standing dispatched
    exact ready.idle.of_standing rfl standing
  · exact happens.lodges ready.lodges (by simpa using stays)
  · have numbered := happens.numbered (ready.numbered lasts.bound) bound
    exact numbered.fewer rfl (fun _ _ => id) rfl

theorem Ready.converses (ready : Ready state) (converses : Converses host state happening next) :
    Ready next := by
  obtain ⟨⟨lasts, meets⟩, taken⟩ := converses
  cases happening with
  | requested txId request =>
      obtain ⟨after, response, data, -, -, exchanged, readyAfter⟩ := ready.exchange lasts meets
      rw [Happening.take, exchanged] at taken
      cases taken
      exact readyAfter
  | occurred occurrence =>
      rw [Happening.take] at taken
      split at taken
      · cases taken
      · next quiet =>
          have happens : Happens host state occurrence next := taken
          obtain ⟨queue, standing⟩ := happens.quiet (by simpa using quiet)
          refine ⟨ready.idle.of_standing (queue.trans ready.idle.replied) standing, ?_, ?_⟩
          · exact happens.lodges ready.lodges (by simpa [Happening.meets] using meets)
          · exact happens.numbered (ready.numbered lasts.bound)

theorem ready_new (config : VirtualDeviceConfig) (disk : Disk) : Ready (.new config disk) where
  idle := ⟨rfl, rfl, rfl⟩
  lodges _ _ found := by cases found
  numbered _ := numbered_new config disk

theorem ready_of_run {config : VirtualDeviceConfig} {disk : Disk} {happenings : List Happening}
    (run : Run (Converses host) (.new config disk) happenings state) : Ready state :=
  run.invariant Ready (fun _ _ _ ready => ready.converses) (ready_new config disk)

end

/-- After every conversation, each request is carried out and the host reads its own reply: the
transaction ID is its own, data comes only with a successful response of an operation that brings
some, and nothing is left to be read. -/
theorem own_reply (host : Host) (config : VirtualDeviceConfig) (disk : Disk)
    (happenings : List Happening) (state : VirtualDeviceState)
    (run : Run (Converses host) (.new config disk) happenings state) (txId : UInt32)
    (request : Request) (lasts : state.HandlesLast)
    (meets : (Happening.requested txId request).meets host state = true) :
    ∃ response data next, request.exchange host txId state = some (.ok (response, data), next) ∧
      response.transactionId = txId ∧
      (data ≠ [] → response.code = .ok ∧ bringsData (.ofCode request.operation.toCode) = true) ∧
      Idle next := by
  obtain ⟨after, response, data, -, answered, exchanged, ready⟩ :=
    (ready_of_run run).exchange lasts meets
  exact ⟨response, data, _, exchanged, answered.transactionId, answered.successful, ready.idle⟩

/-- A conversation with a device whose host refuses nothing, as far as it goes. -/
def converse (happenings : List Happening) : VirtualDeviceState → Option VirtualDeviceState :=
  happenings.foldlM fun state happening =>
    if state.HandlesLast ∧ happening.meets Host.usual state = true then
      happening.take Host.usual state
    else none

theorem run_of_converse {happenings : List Happening} {first last : VirtualDeviceState}
    (ran : converse happenings first = some last) :
    Run (Converses Host.usual) first happenings last :=
  Run.restricted_of_foldlM _ _ ran

/-- A session opened, a file `a` announced and the backing directories gone through. -/
def announcedThenRescanned : List Happening :=
  [.requested 1 (.execute .openSession [1]),
    .requested 2 (.executeWithSend .sendObjectInfo [0x00010001, 0xFFFFFFFF] (announced 97)),
    .occurred .rescan]

theorem own_reply_handles : ∃ state,
    Run (Converses Host.usual) (.new besideReadOnly twoBackings) announcedThenRescanned state ∧
    state.objects.keys = [1] ∧
    ∃ response data next, (Request.executeWithReceive .getObjectHandles
        [0x00010001, 0, 0xFFFFFFFF]).exchange Host.usual 3 state =
          some (.ok (response, data), next) ∧
      response.transactionId = 3 ∧
      (data ≠ [] → response.code = .ok ∧ bringsData (.ofCode 0x1007) = true) ∧ Idle next := by
  have runs : ((converse announcedThenRescanned (.new besideReadOnly twoBackings)).map fun state =>
      decide (state.objects.keys = [1] ∧ state.HandlesLast ∧ (Happening.requested 3
        (.executeWithReceive .getObjectHandles [0x00010001, 0, 0xFFFFFFFF])).meets Host.usual
          state = true)) = some true := by
    decide +kernel
  obtain ⟨state, ran, facts⟩ := Option.map_eq_some_iff.mp runs
  obtain ⟨keys, lasts, meets⟩ := of_decide_eq_true facts
  have run := run_of_converse ran
  exact ⟨state, run, keys,
    own_reply Host.usual besideReadOnly twoBackings _ state run 3 _ lasts meets⟩

namespace VirtualDeviceState

def getObjectHandles (host : Host) (txId storageId : UInt32) (format : Option ObjectFormatCode)
    (parent : Option UInt32) (self : VirtualDeviceState) :
    Option (Except PtpError (List UInt32) × VirtualDeviceState) :=
  let formatCode := (format.map fun format => format.toCode.toUInt32).getD 0
  ((Request.executeWithReceive .getObjectHandles [storageId, formatCode, parent.getD 0]).exchange
    host txId self).map fun (result, after) =>
      (do
        let (response, data) ← result
        checkResponse response .getObjectHandles
        let (handles, _) ← unpackU32Array data
        .ok handles, after)

end VirtualDeviceState

section

variable {host : Host} {state after : VirtualDeviceState} {storage : VirtualStorageState}
  {handles : List UInt32} {txId : UInt32}

/-- The answer to a request for every object of a storage. -/
theorem dispatch_everything (opened : state.sessionOpen = true)
    (owner : state.findStorage storage.storageId = some storage)
    (listed : state.scanAll host storage.storageId = some (some handles, after)) :
    (Request.executeWithReceive .getObjectHandles [storage.storageId, 0, handleAll]).dispatch host
        txId state =
      some (after.respondData OperationCode.getObjectHandles.toCode txId
        (packU32Array handles)) := by
  have unfolded : (Request.executeWithReceive .getObjectHandles
      [storage.storageId, 0, handleAll]).dispatch host txId state =
        if state.sessionOpen = false then some (state.respond Code.sessionNotOpen txId [])
        else state.handleGetObjectHandles host OperationCode.getObjectHandles.toCode txId
          [storage.storageId, 0, handleAll] := rfl
  have first : param [storage.storageId, 0, handleAll] 0 = storage.storageId := rfl
  have third : param [storage.storageId, 0, handleAll] 2 = handleAll := rfl
  rw [unfolded, if_neg (by rw [opened]; decide), VirtualDeviceState.handleGetObjectHandles]
  dsimp only
  rw [first, third, owner, if_neg (by simp), if_neg (fun apart => apart.1 rfl), if_pos rfl, listed]
  rfl

/-- An array that went out with a successful response is what the session returns. -/
theorem getObjectHandles_answered (idle : Idle state) (opened : state.sessionOpen = true)
    (owner : state.findStorage storage.storageId = some storage)
    (listed : state.scanAll host storage.storageId = some (some handles, after))
    (queue : after.responseQueue = [])
    (short : Happening.overlong host state txId
      (.executeWithReceive .getObjectHandles [storage.storageId, 0, handleAll]) = false) :
    ∃ next, state.getObjectHandles host txId storage.storageId none (some handleAll) =
      some (.ok handles, next) ∧ next.objects = after.objects := by
  have dispatched : Request.dispatch host txId state _ = some _ :=
    dispatch_everything opened owner listed
  rw [Happening.overlong, dispatched] at short
  have fits := List.any_eq_false.mp short
  have answered : Answered OperationCode.getObjectHandles.toCode txId
      (after.respondData OperationCode.getObjectHandles.toCode txId
        (packU32Array handles)).responseQueue ⟨.ofCode Code.ok, txId, []⟩
        (packU32Array handles) := by
    rw [VirtualDeviceState.respondData, VirtualDeviceState.respond, queue]
    exact .data _ rfl
  have short : ∀ reply ∈ (after.respondData OperationCode.getObjectHandles.toCode txId
      (packU32Array handles)).responseQueue, reply.length < 2 ^ 32 :=
    fun reply mem => by simpa using fits reply mem
  have few : handles.length < 2 ^ 32 := by
    have size := short (buildDataContainer OperationCode.getObjectHandles.toCode txId
      (packU32Array handles)) (by
        rw [VirtualDeviceState.respondData, VirtualDeviceState.respond, queue]
        exact List.mem_cons_self ..)
    rw [VirtualDeviceState.buildDataContainer_eq, DataContainer.toBytes_length, packU32Array,
      List.length_append, flatMap_packU32_length] at size
    omega
  refine ⟨{ after with eventQueue := after.eventQueue, responseQueue := [] }, ?_, rfl⟩
  rw [VirtualDeviceState.getObjectHandles]
  dsimp only [Option.map_none, Option.getD_none, Option.getD_some]
  rw [Request.exchange_answered idle rfl dispatched answered short, Option.map_some]
  have accepted : checkResponse ⟨.ofCode Code.ok, txId, []⟩ .getObjectHandles = .ok () := rfl
  simp only [bind, Except.bind, accepted, (writes_u32Array few).result]
  rfl

end

/-- After every conversation, a listing of everything that is asked for names every file and folder
of the storage once, a folder before what lies in it, where the host lets the directories be
read. -/
theorem whole_listing (host : Host) (config : VirtualDeviceConfig) (disk : Disk)
    (happenings : List Happening) (state : VirtualDeviceState)
    (run : Run (Converses host) (.new config disk) happenings state) (txId : UInt32)
    (storage : VirtualStorageState) (root : Location) (opened : state.sessionOpen = true)
    (located : state.Located storage root) (lasts : state.HandlesLast)
    (readable : VirtualDeviceState.readableBelow host state.disk root)
    (short : Happening.overlong host state txId
      (.executeWithReceive .getObjectHandles [storage.storageId, 0, handleAll]) = false) :
    ∃ handles next nodes,
      state.getObjectHandles host txId storage.storageId none (some handleAll) =
        some (.ok handles, next) ∧
      VirtualDeviceState.Whole state.disk next storage.storageId root handles nodes := by
  have ready := ready_of_run run
  have counted := (ready.numbered lasts.bound).toCounted
  have few := Disk.forest_length_le state.disk root
  have room : state.nextHandle + (state.disk.forest root).nodes.length ≤ 2 ^ 32 := by
    unfold VirtualDeviceState.HandlesLast at lasts
    rw [Nat.succ_mul] at lasts
    omega
  obtain ⟨result, after, listed, less, read, lists⟩ :=
    VirtualDeviceState.scanAll_whole host located counted room
  obtain ⟨handles, rfl⟩ := Option.ne_none_iff_exists'.mp (read readable)
  obtain ⟨nodes, whole⟩ := lists handles rfl
  have quiet : after.responseQueue = [] :=
    (VirtualDeviceState.scanAll_scanned listed).responseQueue.trans ready.idle.replied
  obtain ⟨next, answered, objects⟩ :=
    getObjectHandles_answered ready.idle opened located.owner listed quiet short
  refine ⟨handles, next, nodes, answered, whole.distinct, ?_, whole.nodup, whole.mem, whole.ordered⟩
  refine whole.denote.imp fun handle names denotes => ?_
  rwa [VirtualDeviceState.Denotes, objects]

theorem whole_listing_one_file : ∃ state storage,
    Run (Converses Host.usual) (.new besideReadOnly twoBackings) announcedThenRescanned state ∧
    state.Located storage [⟨"sd", rfl⟩, ⟨"r", rfl⟩] ∧
    ∃ handles next nodes,
      state.getObjectHandles Host.usual 3 storage.storageId none (some handleAll) =
        some (.ok handles, next) ∧
      VirtualDeviceState.Whole state.disk next storage.storageId [⟨"sd", rfl⟩, ⟨"r", rfl⟩] handles
        nodes := by
  have runs : ((converse announcedThenRescanned (.new besideReadOnly twoBackings)).bind fun state =>
      (state.findStorage 0x00010001).map fun storage =>
        decide (storage.storageId = 0x00010001 ∧ state.sessionOpen = true ∧
          state.disk.locate storage.config.backingDir = some [⟨"sd", rfl⟩, ⟨"r", rfl⟩] ∧
            state.HandlesLast ∧ Happening.overlong Host.usual state 3 (.executeWithReceive
              .getObjectHandles [storage.storageId, 0, handleAll]) = false)) = some true := by
    decide +kernel
  obtain ⟨state, ran, rest⟩ := Option.bind_eq_some_iff.mp runs
  obtain ⟨storage, found, facts⟩ := Option.map_eq_some_iff.mp rest
  obtain ⟨same, opened, place, lasts, short⟩ := of_decide_eq_true facts
  have run := run_of_converse ran
  have located : state.Located storage [⟨"sd", rfl⟩, ⟨"r", rfl⟩] := ⟨by rw [same, found], place⟩
  exact ⟨state, storage, run, located, whole_listing Host.usual besideReadOnly twoBackings _ state
    run 3 storage _ opened located lasts (fun _ _ => rfl) short⟩

end VirtualDevice
