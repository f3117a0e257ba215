import MtpRs.VirtualDevice.SelfDescription
import MtpRs.VirtualDevice.Transfers

set_option autoImplicit false

/- What a host is told of an object is what the disk holds at its path. -/
namespace VirtualDevice

open Files (Disk Node)
open Ptp (Bytes ObjectDataset ObjectFormatCode ObjectPropertyCode OperationCode PtpError
  checkResponse packU64 receivedText)
open Runs (Run)
open VirtualDeviceState (fileNameText)

theorem fromExtension_file (ext : String) :
    ObjectFormatCode.ofCode (ObjectFormatCode.fromExtension ext).toCode ≠ .association := by
  unfold ObjectFormatCode.fromExtension
  split <;> decide

/-- The bytes at a place, of which a directory has none of its own. -/
def ownBytes (node : Node) : Nat :=
  match node.content with
  | .directory => 0
  | .file bytes => bytes.length

namespace VirtualDeviceState

/-- `get_object_info`, from the device. -/
def getObjectInfo (host : Host) (txId handle : UInt32) (self : VirtualDeviceState) :
    Option (Except PtpError ObjectDataset × VirtualDeviceState) :=
  ((Request.executeWithReceive .getObjectInfo [handle]).exchange host txId self).map
    fun (result, after) =>
      (do
        let (response, data) ← result
        checkResponse response .getObjectInfo
        ObjectDataset.fromBytes data, after)

/-- `get_object_prop_value`, from the device. -/
def getObjectPropValue (host : Host) (txId handle : UInt32) (property : ObjectPropertyCode)
    (self : VirtualDeviceState) : Option (Except PtpError Bytes × VirtualDeviceState) :=
  ((Request.executeWithReceive .getObjectPropValue [handle, property.toCode.toUInt32]).exchange
    host txId self).map fun (result, after) =>
      (do
        let (response, data) ← result
        checkResponse response .getObjectPropValue
        return data, after)

/-- `get_object_info_full`, from the device. The size is asked for again where it is saturated. -/
def getObjectInfoFull (host : Host) (txId sizeTxId handle : UInt32) (self : VirtualDeviceState) :
    Option (Except PtpError ObjectDataset × VirtualDeviceState) :=
  match self.getObjectInfo host txId handle with
  | none => none
  | some (.error e, after) => some (.error e, after)
  | some (.ok info, after) =>
      if info.size = 2 ^ 32 - 1 then
        (after.getObjectPropValue host sizeTxId handle .objectSize).map fun (size, last) =>
          (Ptp.getObjectDatasetFull (.ok info) size, last)
      else some (.ok info, after)

section

variable {host : Host} {state : VirtualDeviceState} {txId handle : UInt32}
  {params : List UInt32} {dataPayload : Option Bytes} {facts : ObjectFacts}

theorem packFileTime_length (state : VirtualDeviceState) (time : Option Int) :
    (state.packFileTime time).length ≤ 511 := by
  rw [packFileTime_eq]
  exact packDeviceString_length _

theorem buildObjectInfo_short {report : Bytes}
    (built : state.buildObjectInfo handle = some report) : 12 + report.length < 2 ^ 32 := by
  rw [buildObjectInfo] at built
  obtain ⟨facts, -, same⟩ := Option.bind_eq_some_iff.mp built
  cases same
  have name := packDeviceString_length facts.filename
  have created := packFileTime_length state facts.created
  have modified := packFileTime_length state facts.modified
  simp only [List.flatten_cons, List.flatten_nil, List.length_append, Ptp.packU16_length,
    Ptp.packU32_length, List.length_cons, List.length_nil]
  omega

theorem objectFacts_eq {obj : VirtualObject} {storage : VirtualStorageState} {node : Node}
    (tracked : state.objects.lookup handle = some obj)
    (owner : state.findStorage obj.storageId = some storage)
    (there : state.disk.metadata (storage.config.backingDir.join obj.relPath) = some node) :
    ∃ format, state.objectFacts handle = some
      ⟨obj.storageId, obj.parent, fileNameText obj.relPath, node.isDirectory,
        UInt64.ofNat (ownBytes node), ObjectFormatCode.toCode format, node.created,
        node.modified⟩ ∧
      (ObjectFormatCode.ofCode format.toCode == .association) = node.isDirectory := by
  unfold objectFacts
  simp only [Option.bind_eq_bind, tracked, Option.bind_some, owner, there]
  refine ⟨_, congrArg some (ObjectFacts.mk.injEq .. |>.mpr
    ⟨rfl, rfl, rfl, rfl, ?_, rfl, rfl, rfl⟩), ?_⟩
  · unfold ownBytes
    cases node.content <;> rfl
  · cases kind : node.isDirectory with
    | true => rfl
    | false => exact beq_false_of_ne (fromExtension_file _)

theorem getObjectInfo_answered (idle : Idle state) (opened : state.sessionOpen = true)
    (described : state.descriptionRefusal handle = none)
    (known : state.objectFacts handle = some facts) :
    state.getObjectInfo host txId handle =
      some (.ok (state.describe facts).received.toObjectDataset, state) := by
  obtain ⟨report, built, read⟩ := read_buildObjectInfo known
  have session : ¬ state.sessionOpen = false := by simp [opened]
  have dispatched : (Request.executeWithReceive .getObjectInfo [handle]).dispatch host txId state =
      some (state.respondData OperationCode.getObjectInfo.toCode txId report) := by
    refine dispatch_getObjectInfo.trans ?_
    rw [if_neg session, handleGetObjectInfo]
    dsimp only [Request.params, param, List.getElem?_cons_zero, Option.getD_some]
    rw [described, built]
  have exchanged := exchange_respondData idle rfl dispatched rfl (buildObjectInfo_short built)
  have accepted : checkResponse ⟨.ofCode Code.ok, txId, []⟩ .getObjectInfo = .ok () := rfl
  rw [getObjectInfo, exchanged, Option.map_some]
  simp only [bind, Except.bind, accepted, read]

theorem getObjectInfo_untracked (idle : Idle state) (opened : state.sessionOpen = true)
    (described : state.descriptionRefusal handle = none)
    (untracked : state.objectFacts handle = none) :
    state.getObjectInfo host txId handle =
      some (.error (.protocol (.ofCode Code.invalidObjectHandle) .getObjectInfo), state) := by
  have session : ¬ state.sessionOpen = false := by simp [opened]
  have built : state.buildObjectInfo handle = none := by
    rw [buildObjectInfo, untracked]
    rfl
  have dispatched : (Request.executeWithReceive .getObjectInfo [handle]).dispatch host txId state =
      some (state.respond Code.invalidObjectHandle txId []) := by
    refine dispatch_getObjectInfo.trans ?_
    rw [if_neg session, handleGetObjectInfo]
    dsimp only [Request.params, param, List.getElem?_cons_zero, Option.getD_some]
    rw [described, built]
  rw [getObjectInfo, exchange_respond idle rfl dispatched, Option.map_some]
  rfl

theorem dispatch_getObjectPropValue :
    state.dispatch host OperationCode.getObjectPropValue.toCode txId params dataPayload =
      if state.sessionOpen = false then some (state.respond Code.sessionNotOpen txId [])
      else
        state.handleGetObjectPropValue host OperationCode.getObjectPropValue.toCode txId params :=
  rfl

theorem objectSize_answered {obj : VirtualObject} {storage : VirtualStorageState} {node : Node}
    (idle : Idle state) (opened : state.sessionOpen = true)
    (tracked : state.objects.lookup handle = some obj)
    (owner : state.findStorage obj.storageId = some storage)
    (there : state.disk.metadata (storage.config.backingDir.join obj.relPath) = some node)
    (file : node.isDirectory = false) :
    state.getObjectPropValue host txId handle .objectSize =
      some (.ok (packU64 (UInt64.ofNat (ownBytes node))), state) := by
  have session : ¬ state.sessionOpen = false := by simp [opened]
  have length : host.files.length state.disk (storage.config.backingDir.join obj.relPath) =
      some (ownBytes node) := by
    obtain ⟨location, located, found⟩ := Option.bind_eq_some_iff.mp there
    rw [Files.Host.length, located]
    dsimp only
    rw [found, Option.map_some, ownBytes]
    obtain ⟨content, created, modified⟩ := node
    cases content with
    | directory => cases file
    | file bytes => rfl
  have resolved : state.resolvePath handle = some (storage.config.backingDir.join obj.relPath) := by
    rw [resolvePath, tracked]
    dsimp only
    rw [owner]
    rfl
  have dispatched : (Request.executeWithReceive .getObjectPropValue
      [handle, ObjectPropertyCode.objectSize.toCode.toUInt32]).dispatch host txId state =
        some (state.respondData OperationCode.getObjectPropValue.toCode txId
          (packU64 (UInt64.ofNat (ownBytes node)))) := by
    refine dispatch_getObjectPropValue.trans ?_
    have property : ObjectPropertyCode.ofCode
        ObjectPropertyCode.objectSize.toCode.toUInt32.toUInt16 = .objectSize := by decide
    rw [if_neg session, handleGetObjectPropValue]
    dsimp only [Request.params, param, List.getElem?_cons_zero, List.getElem?_cons_succ,
      Option.getD_some]
    rw [tracked, property]
    dsimp only
    rw [resolved, Option.map_some, length]
    rfl
  have exchanged := exchange_respondData idle rfl dispatched rfl
    (by rw [Ptp.packU64_length]; decide)
  have accepted : checkResponse ⟨.ofCode Code.ok, txId, []⟩ .getObjectPropValue = .ok () := rfl
  rw [getObjectPropValue, exchanged, Option.map_some]
  simp only [bind, Except.bind, accepted]
  rfl

theorem objectFacts_none (gone : ∀ path, state.resolvePath handle = some path →
    state.disk.present path = false) : state.objectFacts handle = none := by
  unfold objectFacts
  simp only [Option.bind_eq_bind]
  cases tracked : state.objects.lookup handle with
  | none => rfl
  | some obj =>
      rw [Option.bind_some]
      cases owner : state.findStorage obj.storageId with
      | none => rfl
      | some storage =>
          have absent := gone (storage.config.backingDir.join obj.relPath) (by
            rw [resolvePath, tracked]
            dsimp only
            rw [owner]
            rfl)
          rw [Disk.present, Option.isSome_eq_false_iff, Option.isNone_iff_eq_none] at absent
          rw [Option.bind_some, absent]
          rfl

theorem getObjectInfoFull_untracked {sizeTxId : UInt32} (idle : Idle state)
    (opened : state.sessionOpen = true) (described : state.descriptionRefusal handle = none)
    (gone : ∀ path, state.resolvePath handle = some path → state.disk.present path = false) :
    state.getObjectInfoFull host txId sizeTxId handle =
      some (.error (.protocol .invalidObjectHandle .getObjectInfo), state) := by
  have answered : state.getObjectInfo host txId handle = some (.error _, state) :=
    getObjectInfo_untracked idle opened described (objectFacts_none gone)
  rw [getObjectInfoFull, answered]
  rfl

/-- The description of a tracked object, whose size is the whole one. -/
theorem getObjectInfoFull_answered {sizeTxId : UInt32} {obj : VirtualObject}
    {storage : VirtualStorageState} {node : Node} (idle : Idle state)
    (opened : state.sessionOpen = true) (described : state.descriptionRefusal handle = none)
    (tracked : state.objects.lookup handle = some obj)
    (owner : state.findStorage obj.storageId = some storage)
    (there : state.disk.metadata (storage.config.backingDir.join obj.relPath) = some node)
    (fits : ownBytes node < 2 ^ 64) :
    ∃ info, state.getObjectInfoFull host txId sizeTxId handle = some (.ok info, state) ∧
      (info.storageId = obj.storageId ∧ info.parent = obj.parent ∧
        info.filename = receivedText (fittingPart (fileNameText obj.relPath))) ∧
      info.isFolder = node.isDirectory ∧ info.size = ownBytes node ∧
      info.created = state.fileDate node.created ∧
      info.modified = state.fileDate node.modified := by
  obtain ⟨format, known, kind⟩ := objectFacts_eq tracked owner there
  have answered : state.getObjectInfo host txId handle = some (.ok _, state) :=
    getObjectInfo_answered idle opened described known
  have whole : (UInt64.ofNat (ownBytes node)).toNat = ownBytes node := by
    rw [UInt64.toNat_ofNat', Nat.mod_eq_of_lt fits]
  generalize same : (state.describe ⟨obj.storageId, obj.parent, fileNameText obj.relPath,
    node.isDirectory, UInt64.ofNat (ownBytes node), ObjectFormatCode.toCode format, node.created,
      node.modified⟩).received.toObjectDataset = info at answered
  have size : info.size = min (ownBytes node) (2 ^ 32 - 1) := by
    rw [← same]
    exact congrArg (min · (2 ^ 32 - 1)) whole
  have folder : info.isFolder = node.isDirectory := by
    have sameFormat : info.format = .ofCode format.toCode := by
      rw [← same]
      exact congrArg ObjectFormatCode.ofCode (ObjectFormatCode.toCode_ofCode _)
    have association : info.associationType =
        if node.isDirectory then .genericFolder else .regular := by
      rw [← same]
      unfold describe Ptp.WholeObjectInfo.received
      cases node.isDirectory <;> rfl
    rw [ObjectDataset.isFolder, sameFormat, kind, association]
    cases node.isDirectory <;> rfl
  have fields : info.storageId = obj.storageId ∧ info.parent = obj.parent ∧
      info.filename = receivedText (fittingPart (fileNameText obj.relPath)) := by
    rw [← same]
    exact ⟨rfl, rfl, rfl⟩
  have dates : info.created = state.fileDate node.created ∧
      info.modified = state.fileDate node.modified := by
    rw [← same]
    exact ⟨rfl, rfl⟩
  rw [getObjectInfoFull, answered]
  dsimp only
  by_cases saturated : info.size = 2 ^ 32 - 1
  · have file : node.isDirectory = false := by
      cases directory : node.isDirectory with
      | false => rfl
      | true =>
          rw [saturated, ownBytes, beq_iff_eq.mp directory] at size
          cases size
    have asked : state.getObjectPropValue host sizeTxId handle .objectSize = some (.ok _, state) :=
      objectSize_answered idle opened tracked owner there file
    rw [if_pos saturated, asked, Option.map_some, Ptp.getObjectDatasetFull]
    simp only [bind, Except.bind, Ptp.getObjectInfoFull_resolved saturated]
    exact ⟨_, rfl, fields, folder, whole, dates⟩
  · rw [if_neg saturated]
    exact ⟨info, rfl, fields, folder, by omega, dates⟩

end

end VirtualDeviceState

/-- After every conversation a host that asks for an object, where the device is not made to refuse,
is told where it is tracked, its name, whether it is a folder, its dates and the number of its
bytes, as the disk has them then; of what is not on the disk it is told that there is no such
object. -/
theorem objects_described (host : Host) (config : VirtualDeviceConfig) (disk : Disk)
    (happenings : List Happening) (state : VirtualDeviceState)
    (run : Run (Converses host) (.new config disk) happenings state)
    (opened : state.sessionOpen = true) (txId sizeTxId handle : UInt32)
    (described : state.descriptionRefusal handle = none) :
    (∀ obj path node, state.objects.lookup handle = some obj →
      state.resolvePath handle = some path → state.disk.metadata path = some node →
        ownBytes node < 2 ^ 64 →
          ∃ info, state.getObjectInfoFull host txId sizeTxId handle = some (.ok info, state) ∧
            (info.storageId = obj.storageId ∧ info.parent = obj.parent ∧
              info.filename = receivedText (fittingPart (fileNameText obj.relPath))) ∧
            info.isFolder = node.isDirectory ∧ info.size = ownBytes node ∧
            info.created = state.fileDate node.created ∧
            info.modified = state.fileDate node.modified) ∧
    ((∀ path, state.resolvePath handle = some path → state.disk.present path = false) →
      state.getObjectInfoFull host txId sizeTxId handle =
        some (.error (.protocol .invalidObjectHandle .getObjectInfo), state)) := by
  have idle := (ready_of_run run).idle
  refine ⟨fun obj path node tracked resolved there fits => ?_, fun gone => ?_⟩
  · obtain ⟨storage, owner, rfl⟩ := VirtualDeviceState.resolvePath_some tracked resolved
    exact VirtualDeviceState.getObjectInfoFull_answered idle opened described tracked owner there
      fits
  · exact VirtualDeviceState.getObjectInfoFull_untracked idle opened described gone

theorem objects_described_file : ∃ state info,
    Run (Converses Host.usual) (.new besideReadOnlyPartially twoBackings) folderFilled state ∧
    state.getObjectInfoFull Host.usual 5 6 2 = some (.ok info, state) ∧ info.parent = 1 ∧
    info.filename = "a" ∧ info.isFolder = false ∧ info.size = 3 := by
  have runs : ((converse folderFilled (.new besideReadOnlyPartially twoBackings)).bind fun state =>
    (state.objects.lookup 2).bind fun obj => (state.resolvePath 2).bind fun path =>
      (state.disk.metadata path).map fun node => decide (state.sessionOpen = true ∧
        state.descriptionRefusal 2 = none ∧ obj.parent = 1 ∧ fileNameText obj.relPath = "a" ∧
          node.isDirectory = false ∧ ownBytes node = 3)) = some true := by
    decide +kernel
  obtain ⟨state, ran, rest⟩ := Option.bind_eq_some_iff.mp runs
  obtain ⟨obj, tracked, rest⟩ := Option.bind_eq_some_iff.mp rest
  obtain ⟨path, resolved, rest⟩ := Option.bind_eq_some_iff.mp rest
  obtain ⟨node, there, facts⟩ := Option.map_eq_some_iff.mp rest
  obtain ⟨opened, described, inside, name, file, three⟩ := of_decide_eq_true facts
  have run := run_of_converse ran
  obtain ⟨info, told, ⟨-, parent, filename⟩, folder, size, -⟩ :=
    (objects_described Host.usual besideReadOnlyPartially twoBackings _ state run opened 5 6 2
      described).1 obj path node tracked resolved there (by rw [three]; decide)
  rw [name, receivedText_fittingPart (by decide) (by decide)] at filename
  exact ⟨state, info, run, told, parent.trans inside, filename, folder.trans file,
    size.trans three⟩

end VirtualDevice
