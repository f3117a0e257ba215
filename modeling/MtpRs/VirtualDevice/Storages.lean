import MtpRs.Lib.DiskSpace
import MtpRs.VirtualDevice.SelfDescription
import MtpRs.VirtualDevice.RescanOutcome
import MtpRs.VirtualDevice.Tree

set_option autoImplicit false

/- The storages of a device and the space they have, as a host gets to know them. -/
namespace VirtualDevice

open Files (Disk Location Name Path)
open Mtp (Error StorageInfo ofPtp)
open Ptp (Bytes OperationCode PtpError checkResponse packU32Array receivedText unpackU32Array
  writes_u16 writes_u32 writes_u32Array writes_u64)
open Readers (Writes)
open Runs (Run)

section

variable {host : Host} {disk : Disk} {path : Path} {root : Location}

theorem foldl_add {α : Type} (count : α → Nat) (items : List α) (start : Nat) :
    items.foldl (fun total item => total + UInt64.ofNat (count item)) (UInt64.ofNat start) =
      UInt64.ofNat (start + (items.map count).sum) := by
  induction items generalizing start with
  | nil => rfl
  | cons item rest ih =>
      rw [List.foldl_cons, ← UInt64.ofNat_add, ih, List.map_cons, List.sum_cons, Nat.add_assoc]

/-- The loop over a directory counts the bytes below it, where directories can be read. -/
theorem dirSize_eq (readable : VirtualDeviceState.readableBelow host disk root)
    (located : disk.locate path = some root) (fuel : Nat) (enough : disk.below root < fuel) :
    dirSize host disk fuel path = UInt64.ofNat (disk.bytesBelow root) := by
  induction fuel generalizing path root with
  | zero => exact absurd enough (Nat.not_lt_zero _)
  | succ fuel ih =>
      rw [dirSize]
      unfold Files.Host.readDir Files.Host.readDirAt
      rw [located, Option.bind_some]
      cases kind : disk.directoryAt root with
      | false =>
          rw [Disk.bytesBelow_of_file kind]
          rfl
      | true =>
          rw [if_pos rfl, readable root (List.prefix_refl root)]
          dsimp only
          have order := host.files.entryOrder.perm (disk.names root)
          have listed : ∀ name, name ∈ host.files.entryOrder.arrange (disk.names root) ↔
              (disk.node (root ++ [name])).isSome = true := by
            intro name
            rw [order.mem_iff, Disk.mem_names]
          have distinct : (host.files.entryOrder.arrange (disk.names root)).Nodup :=
            order.nodup_iff.mpr (List.nodup_dedup _)
          rw [Disk.bytesBelow_eq distinct listed]
          generalize host.files.entryOrder.arrange (disk.names root) = entries at listed distinct
          refine (List.foldl_ext _ (fun total entry => total + UInt64.ofNat
            (disk.bytesAt (root ++ [entry]) + disk.bytesBelow (root ++ [entry]))) 0 ?_).trans
              ((foldl_add _ entries 0).trans (congrArg UInt64.ofNat (Nat.zero_add _)))
          intro total entry mem
          have child := Disk.locate_child located kind entry
          have there := (listed entry).mp mem
          have same : disk.metadata (path.child entry) = disk.node (root ++ [entry]) := by
            rw [Disk.metadata, child, Option.bind_some]
          rw [same]
          unfold Disk.bytesAt
          cases node : disk.node (root ++ [entry]) with
          | none =>
              rw [node] at there
              cases there
          | some found =>
              obtain ⟨content, created, modified⟩ := found
              cases content with
              | file bytes =>
                  rw [Disk.bytesBelow_of_file (Disk.directoryAt_of_file node)]
                  rfl
              | directory =>
                  have less := Disk.below_lt there
                  rw [ih (fun _ inside => readable _ ((List.prefix_append ..).trans inside)) child
                    (by omega)]
                  exact congrArg (fun bytes => total + UInt64.ofNat bytes) (Nat.zero_add _).symm

def usedBytes (disk : Disk) (path : Path) : Nat := (disk.locate path).elim 0 disk.bytesBelow

theorem computeFreeSpace_eq {config : VirtualStorageConfig}
    (readable : ∀ root, disk.locate config.backingDir = some root →
      VirtualDeviceState.readableBelow host disk root)
    (countable : usedBytes disk config.backingDir < 2 ^ 64) :
    computeFreeSpace host disk config =
      UInt64.ofNat (config.capacity.toNat - usedBytes disk config.backingDir) := by
  unfold computeFreeSpace
  unfold usedBytes at *
  cases located : disk.locate config.backingDir with
  | none =>
      have unread : host.files.readDir disk config.backingDir = none := by
        rw [Files.Host.readDir, located]
        rfl
      rw [dirSize, unread]
      rfl
  | some root =>
      rw [located] at countable
      rw [dirSize_eq (readable root located) located _ (Nat.lt_succ_of_le (disk.below_le root))]
      dsimp only [Option.elim_some] at countable ⊢
      rw [UInt64.toNat_ofNat_of_lt' countable]

end

namespace VirtualDeviceState

def storageInfo (self : VirtualDeviceState) (storage : VirtualStorageState) : StorageInfo where
  id := ofPtp storage.storageId
  description := receivedText (fittingPart storage.config.description)
  volumeIdentifier := ""
  totalCapacity := storage.config.capacity
  freeSpace := UInt64.ofNat
    (storage.config.capacity.toNat - usedBytes self.disk storage.config.backingDir)
  isWritable := !storage.config.readOnly
  storageType := .fixedRam
  filesystemType := .hierarchical

/-- The dataset of a storage, as it comes over the wire. -/
def ptpStorageInfo (host : Host) (self : VirtualDeviceState) (storage : VirtualStorageState) :
    Ptp.StorageInfo where
  storageType := .fixedRam
  filesystemType := .genericHierarchical
  accessCapability := .ofCode (if storage.config.readOnly then 1 else 0)
  maxCapacity := storage.config.capacity
  freeSpaceBytes := computeFreeSpace host self.disk storage.config
  freeSpaceObjects := 0xFFFFFFFF
  description := receivedText (fittingPart storage.config.description)
  volumeIdentifier := ""

/-- `get_storage_ids`, from the device. -/
def getStorageIds (host : Host) (txId : UInt32) (self : VirtualDeviceState) :
    Option (Except PtpError (List UInt32) × VirtualDeviceState) :=
  ((Request.executeWithReceive .getStorageIds []).exchange host txId self).map
    fun (result, after) =>
      (do
        let (response, data) ← result
        checkResponse response .getStorageIds
        let (ids, _) ← unpackU32Array data
        .ok ids, after)

/-- `get_storage_info`, from the device. -/
def getStorageInfo (host : Host) (txId storageId : UInt32) (self : VirtualDeviceState) :
    Option (Except PtpError Ptp.StorageInfo × VirtualDeviceState) :=
  ((Request.executeWithReceive .getStorageInfo [storageId]).exchange host txId self).map
    fun (result, after) =>
      (do
        let (response, data) ← result
        checkResponse response .getStorageInfo
        Ptp.StorageInfo.fromBytes data, after)

/-- The loop of `storages`, each request under the next of its transaction IDs. -/
def storagesFrom (host : Host) (txId : Nat → UInt32) : Nat → List UInt32 → VirtualDeviceState →
    Option (Except Error (List StorageInfo) × VirtualDeviceState)
  | _, [], self => some (.ok [], self)
  | turn, id :: rest, self =>
      match self.getStorageInfo host (txId turn) id with
      | none => none
      | some (.error e, after) => some (.error (.ofPtp e), after)
      | some (.ok info, after) =>
          (storagesFrom host txId (turn + 1) rest after).map fun (others, last) =>
            (others.map fun infos => StorageInfo.fromPtp (ofPtp id) info :: infos, last)

/-- `storages` over USB, from the device. -/
def listStorageInfos (host : Host) (txId : Nat → UInt32) (self : VirtualDeviceState) :
    Option (Except Error (List StorageInfo) × VirtualDeviceState) :=
  match self.getStorageIds host (txId 0) with
  | none => none
  | some (.error e, after) => some (.error (.ofPtp e), after)
  | some (.ok ids, after) => after.storagesFrom host txId 1 ids

section

variable {host : Host} {state : VirtualDeviceState} {storage : VirtualStorageState}
  {txId : UInt32} {params : List UInt32} {dataPayload : Option Bytes}

theorem dispatch_getStorageIds :
    state.dispatch host OperationCode.getStorageIds.toCode txId params dataPayload =
      if state.sessionOpen = false then some (state.respond Code.sessionNotOpen txId [])
      else some (state.handleGetStorageIds OperationCode.getStorageIds.toCode txId) := rfl

theorem dispatch_getStorageInfo :
    state.dispatch host OperationCode.getStorageInfo.toCode txId params dataPayload =
      if state.sessionOpen = false then some (state.respond Code.sessionNotOpen txId [])
      else some (state.handleGetStorageInfo host OperationCode.getStorageInfo.toCode txId params) :=
  rfl

theorem getStorageIds_answered (idle : Idle state) (opened : state.sessionOpen = true)
    (few : 16 + 4 * state.storages.length < 2 ^ 32) : state.getStorageIds host txId =
      some (.ok (state.storages.map VirtualStorageState.storageId), state) := by
  have session : ¬ state.sessionOpen = false := by simp [opened]
  generalize same : state.storages.map VirtualStorageState.storageId = ids
  have length : ids.length = state.storages.length := by rw [← same, List.length_map]
  have dispatched : (Request.executeWithReceive .getStorageIds []).dispatch host txId state =
      some (state.respondData OperationCode.getStorageIds.toCode txId (packU32Array ids)) := by
    refine dispatch_getStorageIds.trans ?_
    rw [if_neg session, handleGetStorageIds, same]
  have short : 12 + (packU32Array ids).length < 2 ^ 32 := by
    rw [packU32Array, List.length_append, Ptp.packU32_length, Ptp.flatMap_packU32_length]
    omega
  have exchanged := exchange_respondData idle rfl dispatched rfl short
  have accepted : checkResponse ⟨.ofCode Code.ok, txId, []⟩ .getStorageIds = .ok () := rfl
  have read := (writes_u32Array (show ids.length < 2 ^ 32 by omega)).result
  rw [getStorageIds, exchanged, Option.map_some]
  simp only [bind, Except.bind, accepted, read]

theorem buildStorageInfo_some (owner : state.findStorage storage.storageId = some storage) :
    state.buildStorageInfo host storage.storageId = some
      [Ptp.packU16 3, Ptp.packU16 2, Ptp.packU16 (if storage.config.readOnly then 1 else 0),
        Ptp.packU64 storage.config.capacity,
        Ptp.packU64 (computeFreeSpace host state.disk storage.config), Ptp.packU32 0xFFFFFFFF,
        packDeviceString storage.config.description, packDeviceString ""].flatten := by
  rw [buildStorageInfo, owner]

/-- A host reads the dataset that was meant. -/
theorem read_buildStorageInfo (owner : state.findStorage storage.storageId = some storage) :
    ∃ payload, state.buildStorageInfo host storage.storageId = some payload ∧
      12 + payload.length < 2 ^ 32 ∧
      Ptp.StorageInfo.fromBytes payload = .ok (state.ptpStorageInfo host storage) := by
  have nothing := writes_packDeviceString ""
  rw [receivedText_fittingPart (by decide) (by decide)] at nothing
  have reads : Writes Ptp.StorageInfo.read _ (state.ptpStorageInfo host storage) :=
    (writes_u16 3).bind ((writes_u16 2).bind
      ((writes_u16 (if storage.config.readOnly then 1 else 0)).bind
        ((writes_u64 storage.config.capacity).bind
          ((writes_u64 (computeFreeSpace host state.disk storage.config)).bind
            ((writes_u32 0xFFFFFFFF).bind
              ((writes_packDeviceString storage.config.description).bind nothing.return))))))
  have result := reads.result
  refine ⟨_, buildStorageInfo_some owner, ?_, ?_⟩
  · have description := packDeviceString_length storage.config.description
    have volume := packDeviceString_length ""
    simp only [List.flatten_cons, List.flatten_nil, List.length_append, Ptp.packU16_length,
      Ptp.packU32_length, Ptp.packU64_length, List.length_nil]
    omega
  · rw [Ptp.StorageInfo.fromBytes]
    simp only [List.flatten_cons, List.flatten_nil, List.append_nil]
    rw [result]
    rfl

theorem fromPtp_ptpStorageInfo (readable : ∀ root,
      state.disk.locate storage.config.backingDir = some root →
        readableBelow host state.disk root)
    (countable : usedBytes state.disk storage.config.backingDir < 2 ^ 64) :
    StorageInfo.fromPtp (ofPtp storage.storageId) (state.ptpStorageInfo host storage) =
      state.storageInfo storage := by
  rw [StorageInfo.fromPtp, storageInfo, ptpStorageInfo, computeFreeSpace_eq readable countable]
  cases storage.config.readOnly <;> rfl

theorem getStorageInfo_answered (idle : Idle state) (opened : state.sessionOpen = true)
    (owner : state.findStorage storage.storageId = some storage) :
    state.getStorageInfo host txId storage.storageId =
      some (.ok (state.ptpStorageInfo host storage), state) := by
  obtain ⟨payload, built, short, read⟩ : ∃ payload,
      state.buildStorageInfo host storage.storageId = some payload ∧ 12 + payload.length < 2 ^ 32 ∧
        Ptp.StorageInfo.fromBytes payload = .ok (state.ptpStorageInfo host storage) :=
    read_buildStorageInfo owner
  have session : ¬ state.sessionOpen = false := by simp [opened]
  have dispatched : (Request.executeWithReceive .getStorageInfo [storage.storageId]).dispatch host
      txId state = some (state.respondData OperationCode.getStorageInfo.toCode txId payload) := by
    refine dispatch_getStorageInfo.trans ?_
    rw [if_neg session, handleGetStorageInfo]
    dsimp only [Request.params, param, List.getElem?_cons_zero, Option.getD_some]
    rw [built]
  have exchanged := exchange_respondData idle rfl dispatched rfl short
  have accepted : checkResponse ⟨.ofCode Code.ok, txId, []⟩ .getStorageInfo = .ok () := rfl
  rw [getStorageInfo, exchanged, Option.map_some]
  simp only [bind, Except.bind, accepted, read]

/-- The loop gets to know each storage, and the device stays as it is. -/
theorem storagesFrom_answered (idle : Idle state) (opened : state.sessionOpen = true)
    {storages : List VirtualStorageState}
    (owners : ∀ storage ∈ storages, state.findStorage storage.storageId = some storage)
    (readable : ∀ storage ∈ storages, ∀ root,
      state.disk.locate storage.config.backingDir = some root →
        readableBelow host state.disk root)
    (countable : ∀ storage ∈ storages,
      usedBytes state.disk storage.config.backingDir < 2 ^ 64)
    (txId : Nat → UInt32) (turn : Nat) :
    state.storagesFrom host txId turn (storages.map VirtualStorageState.storageId) =
      some (.ok (storages.map state.storageInfo), state) := by
  induction storages generalizing turn with
  | nil => rfl
  | cons storage rest ih =>
      have here : state.getStorageInfo host (txId turn) storage.storageId =
          some (.ok (state.ptpStorageInfo host storage), state) :=
        getStorageInfo_answered idle opened (owners storage (List.mem_cons_self ..))
      have later := ih (fun storage mem => owners storage (List.mem_cons_of_mem _ mem))
        (fun storage mem => readable storage (List.mem_cons_of_mem _ mem))
        (fun storage mem => countable storage (List.mem_cons_of_mem _ mem)) (turn + 1)
      rw [List.map_cons, storagesFrom, here]
      dsimp only
      rw [later, fromPtp_ptpStorageInfo (readable storage (List.mem_cons_self ..))
        (countable storage (List.mem_cons_self ..))]
      rfl

end

end VirtualDeviceState

section

variable {host : Host} {state : VirtualDeviceState} {config : VirtualDeviceConfig} {disk : Disk}
  {happenings : List Happening}

/-- The storages of a device are those it was set up with. -/
theorem storages_of_run (run : Run (Converses host) (.new config disk) happenings state) :
    state.storages = (VirtualDeviceState.new config disk).storages := by
  have kept := run.invariant (fun state => Ready state ∧
    state.storages = (VirtualDeviceState.new config disk).storages)
    (fun state happening next held converses => by
      obtain ⟨after, happens, same⟩ := held.1.happens converses
      refine ⟨held.1.converses converses, ?_⟩
      rw [same]
      exact happens.storages.trans held.2) ⟨ready_new config disk, rfl⟩
  exact kept.2

end

/-- After every conversation a host that asks for the storages is told of each that was set up, in
this order, with what it was set up as and the capacity less the bytes of all files that are below
its backing directory then, if a `u64` counts them; and nothing changes by it. -/
theorem storages_described (host : Host) (config : VirtualDeviceConfig) (disk : Disk)
    (few : 16 + 4 * config.storages.length < 2 ^ 32) (happenings : List Happening)
    (state : VirtualDeviceState)
    (run : Run (Converses host) (.new config disk) happenings state)
    (opened : state.sessionOpen = true) (readable : state.Readable host)
    (countable : ∀ storage ∈ state.storages,
      usedBytes state.disk storage.config.backingDir < 2 ^ 64)
    (txId : Nat → UInt32) :
    state.listStorageInfos host txId =
      some (.ok ((VirtualDeviceState.new config disk).storages.map state.storageInfo), state) := by
  have idle := (ready_of_run run).idle
  have same := storages_of_run run
  have distinct : state.Distinct := by
    rw [VirtualDeviceState.Distinct, same]
    exact distinct_new config disk (by omega)
  have count : 16 + 4 * state.storages.length < 2 ^ 32 := by
    rw [same, VirtualDeviceState.new, List.length_mapIdx]
    exact few
  have owners : ∀ storage ∈ state.storages,
      state.findStorage storage.storageId = some storage := by
    intro storage mem
    cases found : state.findStorage storage.storageId with
    | none => exact absurd (List.find?_eq_none.mp found storage mem) (by simp)
    | some other => rw [distinct.findStorage mem found]
  rw [VirtualDeviceState.listStorageInfos,
    VirtualDeviceState.getStorageIds_answered idle opened count]
  dsimp only
  rw [VirtualDeviceState.storagesFrom_answered idle opened owners readable countable, same]

/-- A card of ten bytes beside a read-only storage. -/
def cardBeside : VirtualDeviceConfig :=
  { besideReadOnly with
    storages := [⟨"Card", 10, .ofString "/sd/r", false⟩, ⟨"", 0, .ofString "/sd/sd/r", true⟩] }

/-- Three bytes put on the card. -/
theorem storages_described_card : ∃ state,
    Run (Converses Host.usual) (.new cardBeside twoBackings)
      (announcedThenRescanned ++ [.requested 3 (.executeWithSend .sendObject [] [1, 2, 3])])
      state ∧
    state.listStorageInfos Host.usual (fun turn => UInt32.ofNat (4 + turn)) =
      some (.ok [⟨0x00010001, "Card", "", 10, 7, true, .fixedRam, .hierarchical⟩,
        ⟨0x00010002, "", "", 0, 0, false, .fixedRam, .hierarchical⟩], state) := by
  have runs : ((converse (announcedThenRescanned ++
      [.requested 3 (.executeWithSend .sendObject [] [1, 2, 3])])
        (.new cardBeside twoBackings)).map fun state =>
          decide (state.sessionOpen = true ∧
            (∀ storage ∈ state.storages,
              usedBytes state.disk storage.config.backingDir < 2 ^ 64) ∧
            (VirtualDeviceState.new cardBeside twoBackings).storages.map state.storageInfo =
              [⟨0x00010001, "Card", "", 10, 7, true, .fixedRam, .hierarchical⟩,
                ⟨0x00010002, "", "", 0, 0, false, .fixedRam, .hierarchical⟩])) = some true := by
    decide +kernel
  obtain ⟨state, ran, facts⟩ := Option.map_eq_some_iff.mp runs
  obtain ⟨opened, countable, told⟩ := of_decide_eq_true facts
  have run := run_of_converse ran
  have described := storages_described Host.usual cardBeside twoBackings (by decide) _ state run
    opened (fun _ _ _ _ _ _ => rfl) countable fun turn => UInt32.ofNat (4 + turn)
  rw [told] at described
  exact ⟨state, run, described⟩

end VirtualDevice
