import MtpRs.VirtualDevice.Handlers
import MtpRs.VirtualDevice.Scans
import MtpRs.VirtualDevice.Watcher

set_option autoImplicit false

/- What each operation, and each event of the watcher, leaves behind of the objects, the count of
handles, the announced upload and the disk, and what an operation queues: one response, and before
it the data of an operation that brings some and succeeds. -/
namespace VirtualDevice

open Files (Disk Path)
open Ptp (Bytes OperationCode)

/-- The operations whose data phase comes from the device. -/
def bringsData : OperationCode → Bool
  | .getDeviceInfo => true
  | .getStorageIds => true
  | .getStorageInfo => true
  | .getObjectHandles => true
  | .getObjectInfo => true
  | .getObject => true
  | .getPartialObject => true
  | .getPartialObject64 => true
  | .getObjectPropList => true
  | .getObjectPropValue => true
  | _ => false

/-- The reply to an operation behind what was queued before. -/
inductive Replied (opCode : UInt16) (txId : UInt32) (before : List Bytes) : List Bytes → Prop where
  | response (code : UInt16) (params : List UInt32) (few : params.length ≤ 3) :
      Replied opCode txId before (before ++ [buildResponse code txId params])
  | data (payload : Bytes) (brings : bringsData (OperationCode.ofCode opCode) = true) :
      Replied opCode txId before (before ++ [buildDataContainer opCode txId payload] ++
        [buildResponse Code.ok txId []])

namespace VirtualDeviceState

/-- What no operation changes: the configuration, the command that waits for its data, and whether
the next one is to go wrong. -/
def standing (self : VirtualDeviceState) : VirtualDeviceConfig × Option PendingCommand × Bool :=
  (self.config, self.pendingCommand, self.pendingOperationWedge)

/-- A state after another, apart from its answers and events. -/
structure Leaves (before after : VirtualDeviceState) (count : Nat) (tracked : Objects)
    (upload : Option PendingSendInfo) (written : Disk) : Prop where
  storages : after.storages = before.storages
  nextHandle : after.nextHandle = count
  objects : after.objects = tracked
  pendingSend : after.pendingSend = upload
  disk : after.disk = written
  standing : after.standing = before.standing

/-- Nothing changes but the answers. -/
abbrev Answers (before after : VirtualDeviceState) : Prop :=
  Leaves before after before.nextHandle before.objects before.pendingSend before.disk

/-- A state with the reply to an operation queued. -/
abbrev Replies (opCode : UInt16) (txId : UInt32) (state after : VirtualDeviceState) : Prop :=
  Replied opCode txId state.responseQueue after.responseQueue

/-- Nothing changes but the answers and what listings come to track. -/
def Looks (host : Host) (before after : VirtualDeviceState) : Prop :=
  ∃ reached, Scanned host before reached ∧
    Leaves before after reached.nextHandle reached.objects before.pendingSend before.disk

/-- The outcomes of the operations that work on objects, in an open session. -/
inductive Handled (host : Host) (state : VirtualDeviceState) (params : List UInt32)
    (dataPayload : Option Bytes) (after : VirtualDeviceState) : OperationCode → Prop where
  | uploadUnmade {target : SendTarget}
      (checked : state.checkSendObjectInfo params dataPayload = .ok target)
      (invalid : (validatePathWithin state.disk target.storage.config.backingDir
        target.fullPath).isNone = true)
      (leaves : state.Leaves after (state.nextHandle + 1) state.objects none state.disk) :
      Handled host state params dataPayload after .sendObjectInfo
  | uploadFailed {target : SendTarget} {disk : Disk}
      (checked : state.checkSendObjectInfo params dataPayload = .ok target)
      (valid : ¬ (validatePathWithin state.disk target.storage.config.backingDir
        target.fullPath).isNone = true)
      (failed : target.create host state.disk = (false, disk))
      (leaves : state.Leaves after (state.nextHandle + 1) state.objects none disk) :
      Handled host state params dataPayload after .sendObjectInfo
  | uploadMade {target : SendTarget} {disk : Disk}
      (checked : state.checkSendObjectInfo params dataPayload = .ok target)
      (valid : ¬ (validatePathWithin state.disk target.storage.config.backingDir
        target.fullPath).isNone = true)
      (made : target.create host state.disk = (true, disk))
      (leaves : state.Leaves after (state.nextHandle + 1)
        (state.objects.insert (UInt32.ofNat state.nextHandle)
          ⟨target.relPath, target.storage.storageId, target.parent⟩)
        (if (target.pending state.config (UInt32.ofNat state.nextHandle)).isFolder then none
          else some (target.pending state.config (UInt32.ofNat state.nextHandle))) disk) :
      Handled host state params dataPayload after .sendObjectInfo
  | dataDropped (leaves : state.Leaves after state.nextHandle state.objects none state.disk) :
      Handled host state params dataPayload after .sendObject
  | dataFailed {upload : PendingSendInfo} {storage : VirtualStorageState} {relPath : Path}
      {disk : Disk} (waiting : state.pendingSend = some upload)
      (checked : state.checkSendObject upload = .ok (storage, relPath))
      (failed : writeInDir host state.disk (storage.config.backingDir.join relPath)
        (dataPayload.getD []) = (false, disk))
      (leaves : state.Leaves after state.nextHandle state.objects none disk) :
      Handled host state params dataPayload after .sendObject
  | dataWritten {upload : PendingSendInfo} {storage : VirtualStorageState} {relPath : Path}
      {disk : Disk} (waiting : state.pendingSend = some upload)
      (checked : state.checkSendObject upload = .ok (storage, relPath))
      (wrote : writeInDir host state.disk (storage.config.backingDir.join relPath)
        (dataPayload.getD []) = (true, disk))
      (leaves : state.Leaves after state.nextHandle
        (state.objects.insert upload.assignedHandle ⟨relPath, upload.storageId, upload.parent⟩)
        none (stamp host disk (storage.config.backingDir.join relPath) upload.modified)) :
      Handled host state params dataPayload after .sendObject
  | deleteFailed {obj : VirtualObject} {path : Path} {disk : Disk}
      (checked : state.checkDeleteObject (param params 0) = .ok (obj, path))
      (failed : removePath host state.disk path = (false, disk))
      (leaves : state.Leaves after state.nextHandle state.objects state.pendingSend disk) :
      Handled host state params dataPayload after .deleteObject
  | deleted {obj : VirtualObject} {path : Path} {disk : Disk}
      (checked : state.checkDeleteObject (param params 0) = .ok (obj, path))
      (removed : removePath host state.disk path = (true, disk))
      (leaves : state.Leaves after state.nextHandle
        (state.objects.keep fun _ other =>
          !(other.storageId == obj.storageId && other.relPath.startsWith obj.relPath))
        state.pendingSend disk) :
      Handled host state params dataPayload after .deleteObject
  | moveFailed {transfer : Transfer} {disk : Disk}
      (checked : state.checkTransfer true params = .ok transfer)
      (failed : movePath host state.disk transfer.srcPath transfer.destPath = (false, disk))
      (leaves : state.Leaves after state.nextHandle state.objects state.pendingSend disk) :
      Handled host state params dataPayload after .moveObject
  | moved {transfer : Transfer} {disk : Disk}
      (checked : state.checkTransfer true params = .ok transfer)
      (made : movePath host state.disk transfer.srcPath transfer.destPath = (true, disk))
      (leaves : state.Leaves after state.nextHandle
        (state.objects.modify (param params 0) fun _ =>
          ⟨transfer.newRel, transfer.destStorage.storageId, transfer.destParent⟩)
        state.pendingSend disk) :
      Handled host state params dataPayload after .moveObject
  | copyUntracked {transfer : Transfer} {copied : Bool} {disk : Disk}
      (checked : state.checkTransfer false params = .ok transfer)
      (made : copyPath host state.disk transfer.srcPath transfer.destPath = (copied, disk))
      (leaves : state.Leaves after state.nextHandle state.objects state.pendingSend disk) :
      Handled host state params dataPayload after .copyObject
  | copied {transfer : Transfer} {disk : Disk}
      (checked : state.checkTransfer false params = .ok transfer)
      (apart : ¬ state.clashes transfer = true)
      (made : copyPath host state.disk transfer.srcPath transfer.destPath = (true, disk))
      (leaves : state.Leaves after (state.nextHandle + 1)
        (state.objects.insert (UInt32.ofNat state.nextHandle)
          ⟨transfer.newRel, transfer.destStorage.storageId, transfer.destParent⟩)
        state.pendingSend disk) :
      Handled host state params dataPayload after .copyObject
  | renamed {obj : VirtualObject} {oldPath directory : Path} {newName : String}
      {storage : VirtualStorageState} {disk : Disk}
      (checked : state.checkRename params dataPayload = .ok (obj, oldPath, newName))
      (above : oldPath.parent = some directory)
      (owner : state.findStorage obj.storageId = some storage)
      (valid : ¬ (validatePathWithin state.disk storage.config.backingDir
        (directory.join (.ofString newName))).isNone = true)
      (made : host.files.rename state.disk oldPath (directory.join (.ofString newName)) =
        some disk)
      (leaves : state.Leaves after state.nextHandle
        (state.objects.modify (param params 0) fun renamed =>
          { renamed with relPath := renamedPath renamed.relPath newName })
        state.pendingSend disk) :
      Handled host state params dataPayload after .setObjectPropValue

/-- What a path of an event comes to, its storage and the path in it where it has one. -/
inductive Noticed (host : Host) (storages : List (Path × UInt32)) (state : VirtualDeviceState)
    (path : Path) (after : VirtualDeviceState) : Prop where
  | ignored (leaves : state.Answers after) : Noticed host storages state path after
  | created {id : UInt32} {relPath : Path}
      (found : findStorageForPath ((state.disk.canonicalize path).getD path) storages =
        some (id, relPath))
      (below : relPath ≠ .empty) (unknown : state.handleAt host id relPath = none)
      (leaves : state.Leaves after (state.nextHandle + 1)
        (state.objects.insert (UInt32.ofNat state.nextHandle)
          ⟨relPath, id, state.parentOf host id relPath⟩) state.pendingSend state.disk) :
      Noticed host storages state path after
  | removed {id handle : UInt32} {relPath : Path}
      (found : findStorageForPath ((state.disk.canonicalize path).getD path) storages =
        some (id, relPath))
      (below : relPath ≠ .empty) (known : state.handleAt host id relPath = some handle)
      (leaves : state.Leaves after state.nextHandle (state.objects.erase handle)
        state.pendingSend state.disk) :
      Noticed host storages state path after

section

variable {host : Host} {state after : VirtualDeviceState} {opCode : UInt16} {txId : UInt32}
  {params : List UInt32} {dataPayload : Option Bytes}

variable (host state) in
theorem notifyPath_noticed (storages : List (Path × UInt32)) (kind : EventKind) (path : Path) :
    Noticed host storages state path (state.notifyPath host storages kind path) := by
  unfold notifyPath
  dsimp only
  split
  · exact .ignored ⟨rfl, rfl, rfl, rfl, rfl, rfl⟩
  · next id relPath found =>
      split
      · exact .ignored ⟨rfl, rfl, rfl, rfl, rfl, rfl⟩
      · next below =>
          split
          · exact .ignored ⟨rfl, rfl, rfl, rfl, rfl, rfl⟩
          · refine iteInduction (motive := Noticed host storages state path) (fun _ => ?_)
              fun _ => ?_
            · unfold notifyCreated
              split
              · exact .ignored ⟨rfl, rfl, rfl, rfl, rfl, rfl⟩
              · next unknown => exact .created found below unknown ⟨rfl, rfl, rfl, rfl, rfl, rfl⟩
            · unfold notifyRemoved
              split
              · exact .ignored ⟨rfl, rfl, rfl, rfl, rfl, rfl⟩
              · next known => exact .removed found below known ⟨rfl, rfl, rfl, rfl, rfl, rfl⟩

/-- What holds however one path is noticed holds after the whole event. -/
theorem handleNotifyEvent_closed {holds : VirtualDeviceState → Prop}
    {storages : List (Path × UInt32)} {kind : EventKind} {paths : List Path}
    (each : ∀ path ∈ paths, ∀ {reached last : VirtualDeviceState}, reached.disk = state.disk →
      reached.storages = state.storages → holds reached →
        Noticed host storages reached path last → holds last)
    (initially : holds state) : holds (state.handleNotifyEvent host storages kind paths) := by
  unfold handleNotifyEvent
  split
  · exact initially
  · refine (List.foldlRecOn (motive := fun reached => (reached.disk = state.disk ∧
      reached.storages = state.storages) ∧ holds reached) paths _ ⟨⟨rfl, rfl⟩, initially⟩
        fun reached kept path mem => ?_).2
    obtain ⟨⟨disk, owners⟩, held⟩ := kept
    have noticed := notifyPath_noticed host reached storages kind path
    refine ⟨?_, each path mem disk owners held noticed⟩
    cases noticed with
    | ignored leaves => exact ⟨leaves.disk.trans disk, leaves.storages.trans owners⟩
    | created _ _ _ leaves => exact ⟨leaves.disk.trans disk, leaves.storages.trans owners⟩
    | removed _ _ _ leaves => exact ⟨leaves.disk.trans disk, leaves.storages.trans owners⟩

theorem respond_answers (state : VirtualDeviceState) (code : UInt16) (txId : UInt32)
    (params : List UInt32) : state.Answers (state.respond code txId params) :=
  ⟨rfl, rfl, rfl, rfl, rfl, rfl⟩

theorem respondData_answers (state : VirtualDeviceState) (opCode : UInt16) (txId : UInt32)
    (payload : Bytes) : state.Answers (state.respondData opCode txId payload) :=
  ⟨rfl, rfl, rfl, rfl, rfl, rfl⟩

theorem Leaves.looks (answers : state.Answers after) : Looks host state after :=
  ⟨state, .refl, answers⟩

theorem Scanned.looks {reached : VirtualDeviceState} (scanned : Scanned host state reached)
    (answers : reached.Answers after) : Looks host state after := by
  have same := (Scanned.grows scanned).same
  refine ⟨reached, scanned, answers.storages.trans ?_, answers.nextHandle, answers.objects,
    answers.pendingSend.trans ?_, answers.disk.trans ?_, answers.standing.trans ?_⟩
  · rw [same]
  · rw [same]
  · rw [same]
  · rw [same]
    rfl

theorem Scanned.responseQueue (scanned : Scanned host state after) :
    after.responseQueue = state.responseQueue := by
  rw [(Scanned.grows scanned).same]

/-- What is done for an operation, with the reply to it. -/
structure Outcome (opCode : UInt16) (txId : UInt32) (state after : VirtualDeviceState)
    (effect : Prop) : Prop where
  effect : effect
  replies : Replies opCode txId state after

theorem Outcome.imp {effect weaker : Prop} (outcome : Outcome opCode txId state after effect)
    (weakens : effect → weaker) : Outcome opCode txId state after weaker :=
  ⟨weakens outcome.effect, outcome.replies⟩

/-- A refusal, or any other response that needs no data. -/
theorem respond_outcome (state : VirtualDeviceState) (code : UInt16) {params : List UInt32}
    (few : params.length ≤ 3) :
    Outcome opCode txId state (state.respond code txId params)
      (state.Answers (state.respond code txId params)) :=
  ⟨respond_answers .., .response code params few⟩

theorem respondData_outcome (state : VirtualDeviceState)
    (brings : bringsData (OperationCode.ofCode opCode) = true) (payload : Bytes) :
    Outcome opCode txId state (state.respondData opCode txId payload)
      (state.Answers (state.respondData opCode txId payload)) :=
  ⟨respondData_answers .., .data payload brings⟩

theorem sendObjectInfo_outcome :
    Outcome opCode txId state (state.handleSendObjectInfo host txId params dataPayload)
      (state.Answers (state.handleSendObjectInfo host txId params dataPayload) ∨
        Handled host state params dataPayload
          (state.handleSendObjectInfo host txId params dataPayload) .sendObjectInfo) := by
  unfold handleSendObjectInfo
  split
  · exact (respond_outcome state _ (by decide)).imp Or.inl
  · next target checked =>
      dsimp only
      split
      · next invalid =>
          exact ⟨Or.inr (.uploadUnmade checked invalid ⟨rfl, rfl, rfl, rfl, rfl, rfl⟩),
            .response _ [] (by decide)⟩
      · next valid =>
          split
          · next disk failed =>
              exact ⟨Or.inr (.uploadFailed checked valid failed ⟨rfl, rfl, rfl, rfl, rfl, rfl⟩),
                .response _ [] (by decide)⟩
          · next disk made =>
              exact ⟨Or.inr (.uploadMade checked valid made ⟨rfl, rfl, rfl, rfl, rfl, rfl⟩),
                .response _ [_, _, _] (Nat.le_refl 3)⟩

theorem sendObject_outcome :
    Outcome opCode txId state (state.handleSendObject host txId dataPayload)
      (state.Answers (state.handleSendObject host txId dataPayload) ∨
        Handled host state params dataPayload (state.handleSendObject host txId dataPayload)
          .sendObject) := by
  unfold handleSendObject
  split
  · exact (respond_outcome state _ (by decide)).imp Or.inl
  · next upload waiting =>
      dsimp only
      split
      · exact ⟨Or.inr (.dataDropped ⟨rfl, rfl, rfl, rfl, rfl, rfl⟩), .response _ [] (by decide)⟩
      · split
        · exact ⟨Or.inr (.dataDropped ⟨rfl, rfl, rfl, rfl, rfl, rfl⟩), .response _ [] (by decide)⟩
        · next storage relPath checked =>
            split
            · next disk failed =>
                exact ⟨Or.inr (.dataFailed waiting checked failed ⟨rfl, rfl, rfl, rfl, rfl, rfl⟩),
                  .response _ [] (by decide)⟩
            · next disk wrote =>
                exact ⟨Or.inr (.dataWritten waiting checked wrote ⟨rfl, rfl, rfl, rfl, rfl, rfl⟩),
                  .response _ [] (by decide)⟩

theorem deleteObject_outcome :
    Outcome opCode txId state (state.handleDeleteObject host txId params)
      (state.Answers (state.handleDeleteObject host txId params) ∨
        Handled host state params dataPayload (state.handleDeleteObject host txId params)
          .deleteObject) := by
  unfold handleDeleteObject
  dsimp only
  split
  · exact (respond_outcome state _ (by decide)).imp Or.inl
  · next obj path checked =>
      split
      · next disk failed =>
          exact ⟨Or.inr (.deleteFailed checked failed ⟨rfl, rfl, rfl, rfl, rfl, rfl⟩),
            .response _ [] (by decide)⟩
      · next disk removed =>
          exact ⟨Or.inr (.deleted checked removed ⟨rfl, rfl, rfl, rfl, rfl, rfl⟩),
            .response _ [] (by decide)⟩

theorem moveObject_outcome :
    Outcome opCode txId state (state.handleMoveObject host txId params)
      (state.Answers (state.handleMoveObject host txId params) ∨
        Handled host state params dataPayload (state.handleMoveObject host txId params)
          .moveObject) := by
  unfold handleMoveObject
  dsimp only
  split
  · exact (respond_outcome state _ (by decide)).imp Or.inl
  · next transfer checked =>
      split
      · next disk failed =>
          exact ⟨Or.inr (.moveFailed checked failed ⟨rfl, rfl, rfl, rfl, rfl, rfl⟩),
            .response _ [] (by decide)⟩
      · next disk made =>
          split
          all_goals
            exact ⟨Or.inr (.moved checked made ⟨rfl, rfl, rfl, rfl, rfl, rfl⟩),
              .response _ [] (by decide)⟩

theorem copyObject_outcome :
    Outcome opCode txId state (state.handleCopyObject host txId params)
      (state.Answers (state.handleCopyObject host txId params) ∨
        Handled host state params dataPayload (state.handleCopyObject host txId params)
          .copyObject) := by
  unfold handleCopyObject
  split
  · exact (respond_outcome state _ (by decide)).imp Or.inl
  · next transfer checked =>
      cases made : copyPath host state.disk transfer.srcPath transfer.destPath with
      | mk copied disk =>
          dsimp only
          split
          · exact ⟨Or.inr (.copyUntracked checked made ⟨rfl, rfl, rfl, rfl, rfl, rfl⟩),
              .response _ [_] (by simp)⟩
          · next apart =>
              split
              · next done =>
                  rw [done] at made
                  exact ⟨Or.inr (.copied checked apart made ⟨rfl, rfl, rfl, rfl, rfl, rfl⟩),
                    .response _ [_] (by simp)⟩
              · exact ⟨Or.inr (.copyUntracked checked made ⟨rfl, rfl, rfl, rfl, rfl, rfl⟩),
                  .response _ [] (by decide)⟩

theorem setObjectPropValue_outcome
    (handled : state.handleSetObjectPropValue host txId params dataPayload = some after) :
    Outcome opCode txId state after
      (state.Answers after ∨
        Handled host state params dataPayload after .setObjectPropValue) := by
  unfold handleSetObjectPropValue at handled
  split at handled
  · cases handled
    exact (respond_outcome state _ (by decide)).imp Or.inl
  · next obj oldPath newName checked =>
      obtain ⟨directory, above, same⟩ := Option.map_eq_some_iff.mp handled
      subst same
      dsimp only
      split
      · exact (respond_outcome state _ (by decide)).imp Or.inl
      · next storage owner =>
          split
          · exact (respond_outcome state _ (by decide)).imp Or.inl
          · next valid =>
              split
              · exact (respond_outcome state _ (by decide)).imp Or.inl
              · next disk made =>
                  exact ⟨Or.inr
                    (.renamed checked above owner valid made ⟨rfl, rfl, rfl, rfl, rfl, rfl⟩),
                    .response _ [] (by decide)⟩

/-- What a listing reaches is answered from there. -/
theorem Scanned.outcome {reached : VirtualDeviceState} (scanned : Scanned host state reached)
    (outcome : Outcome opCode txId reached after (reached.Answers after)) :
    Outcome opCode txId state after (Looks host state after) := by
  refine ⟨Scanned.looks scanned outcome.effect, ?_⟩
  rw [Replies, ← scanned.responseQueue]
  exact outcome.replies

theorem getObjectHandles_outcome (brings : bringsData (OperationCode.ofCode opCode) = true)
    (handled : state.handleGetObjectHandles host opCode txId params = some after) :
    Outcome opCode txId state after (Looks host state after) := by
  unfold handleGetObjectHandles at handled
  dsimp only at handled
  split at handled
  · cases handled
    exact (respond_outcome state _ (by decide)).imp Leaves.looks
  · split at handled
    · cases handled
      exact (respond_outcome state _ (by decide)).imp Leaves.looks
    · obtain ⟨⟨listing, reached⟩, listed, same⟩ := Option.map_eq_some_iff.mp handled
      have scanned : Scanned host state reached := by
        split at listed
        · exact scanAll_scanned listed
        · exact scanDir_scanned (Option.some.inj listed)
      cases listing with
      | none =>
          cases same
          exact Scanned.outcome scanned (respond_outcome reached _ (by decide))
      | some handles =>
          cases same
          exact Scanned.outcome scanned (respondData_outcome reached brings _)

theorem getObjectPropList_outcome (brings : bringsData (OperationCode.ofCode opCode) = true)
    (handled : state.handleGetObjectPropList host opCode txId params = some after) :
    Outcome opCode txId state after (Looks host state after) := by
  obtain ⟨⟨answer, reached⟩, answered, same⟩ := Option.map_eq_some_iff.mp handled
  have scanned := answer_scanned answered
  cases answer with
  | error code =>
      cases same
      exact Scanned.outcome scanned (respond_outcome reached _ (by decide))
  | ok payload =>
      cases same
      exact Scanned.outcome scanned (respondData_outcome reached brings _)

theorem getObjectPropValue_outcome (brings : bringsData (OperationCode.ofCode opCode) = true)
    (handled : state.handleGetObjectPropValue host opCode txId params = some after) :
    Outcome opCode txId state after (state.Answers after) := by
  unfold handleGetObjectPropValue at handled
  dsimp only at handled
  split at handled
  · cases handled
    exact respond_outcome state _ (by decide)
  · split at handled
    case h_4 =>
      obtain ⟨path, -, same⟩ := Option.map_eq_some_iff.mp handled
      cases same
      exact respondData_outcome state brings _
    case h_5 =>
      cases handled
      exact respond_outcome state _ (by decide)
    all_goals
      cases handled
      exact respondData_outcome state brings _

theorem readPartial_outcome (brings : bringsData (OperationCode.ofCode opCode) = true)
    (handle : UInt32) (offset maxBytes : Nat) :
    Outcome opCode txId state (state.readPartial host opCode txId handle offset maxBytes)
      (state.Answers (state.readPartial host opCode txId handle offset maxBytes)) := by
  unfold readPartial
  cases state.forcedPartialReadCaps with
  | nil | cons cap caps =>
      dsimp only
      split
      · exact ⟨⟨rfl, rfl, rfl, rfl, rfl, rfl⟩, .response _ [] (by decide)⟩
      · split
        · exact ⟨⟨rfl, rfl, rfl, rfl, rfl, rfl⟩, .response _ [] (by decide)⟩
        · split
          · exact ⟨⟨rfl, rfl, rfl, rfl, rfl, rfl⟩, .response _ [] (by decide)⟩
          · split
            · exact ⟨⟨rfl, rfl, rfl, rfl, rfl, rfl⟩, .response _ [] (by decide)⟩
            · exact ⟨⟨rfl, rfl, rfl, rfl, rfl, rfl⟩, .data _ brings⟩

theorem openSession_outcome : Outcome opCode txId state (state.handleOpenSession txId)
    (state.Answers (state.handleOpenSession txId)) := by
  unfold handleOpenSession
  split <;> exact ⟨⟨rfl, rfl, rfl, rfl, rfl, rfl⟩, .response _ [] (by decide)⟩

theorem getStorageInfo_outcome (brings : bringsData (OperationCode.ofCode opCode) = true) :
    Outcome opCode txId state (state.handleGetStorageInfo host opCode txId params)
      (state.Answers (state.handleGetStorageInfo host opCode txId params)) := by
  unfold handleGetStorageInfo
  split
  · exact respondData_outcome state brings _
  · exact respond_outcome state _ (by decide)

theorem getObjectInfo_outcome (brings : bringsData (OperationCode.ofCode opCode) = true) :
    Outcome opCode txId state (state.handleGetObjectInfo opCode txId params)
      (state.Answers (state.handleGetObjectInfo opCode txId params)) := by
  unfold handleGetObjectInfo
  split
  · exact respond_outcome state _ (by decide)
  · split
    · exact respondData_outcome state brings _
    · exact respond_outcome state _ (by decide)

theorem getObject_outcome (brings : bringsData (OperationCode.ofCode opCode) = true) :
    Outcome opCode txId state (state.handleGetObject host opCode txId params)
      (state.Answers (state.handleGetObject host opCode txId params)) := by
  unfold handleGetObject
  split
  · exact respond_outcome state _ (by decide)
  · split
    · exact respondData_outcome state brings _
    · exact respond_outcome state _ (by decide)

theorem getThumb_outcome : Outcome opCode txId state (state.handleGetThumb txId params)
    (state.Answers (state.handleGetThumb txId params)) := by
  unfold handleGetThumb
  split <;> exact respond_outcome state _ (by decide)

/-- Every operation looks, or closes the session, or works on an object; and it is replied to
once. -/
theorem dispatch_outcome
    (handled : state.dispatch host opCode txId params dataPayload = some after) :
    Outcome opCode txId state after (Looks host state after ∨
      state.Leaves after state.nextHandle ∅ none state.disk ∨
        state.sessionOpen = true ∧
          Handled host state params dataPayload after (OperationCode.ofCode opCode)) := by
  have looks : ∀ {last}, Outcome opCode txId state last (state.Answers last) →
      Outcome opCode txId state last (Looks host state last ∨
        state.Leaves last state.nextHandle ∅ none state.disk ∨
          state.sessionOpen = true ∧
            Handled host state params dataPayload last (OperationCode.ofCode opCode)) :=
    fun outcome => outcome.imp fun answers => Or.inl answers.looks
  unfold VirtualDeviceState.dispatch at handled
  dsimp only at handled
  split at handled
  · next code =>
      cases handled
      exact looks (respondData_outcome state (by rw [code]; rfl) _)
  · cases handled
    exact looks openSession_outcome
  · cases handled
    exact ⟨Or.inr (Or.inl ⟨rfl, rfl, rfl, rfl, rfl, rfl⟩), .response _ [] (by decide)⟩
  · split at handled
    · cases handled
      exact looks (respond_outcome state _ (by decide))
    · next closed =>
        have opened : state.sessionOpen = true := by simpa using closed
        have works : ∀ {last op}, Outcome opCode txId state last
              (state.Answers last ∨ Handled host state params dataPayload last op) →
            Outcome opCode txId state last (Looks host state last ∨
              state.Leaves last state.nextHandle ∅ none state.disk ∨
                state.sessionOpen = true ∧ Handled host state params dataPayload last op) :=
          fun outcome => outcome.imp fun effect => effect.elim
            (fun answers => Or.inl answers.looks) fun works => Or.inr (Or.inr ⟨opened, works⟩)
        split at handled
        · next code =>
            cases handled
            exact looks (respondData_outcome state (by rw [code]; rfl) _)
        · next code =>
            cases handled
            exact looks (getStorageInfo_outcome (by rw [code]; rfl))
        · next code =>
            exact (getObjectHandles_outcome (by rw [code]; rfl) handled).imp Or.inl
        · next code =>
            cases handled
            exact looks (getObjectInfo_outcome (by rw [code]; rfl))
        · next code =>
            cases handled
            exact looks (getObject_outcome (by rw [code]; rfl))
        · next code =>
            split at handled
            · cases handled
              exact looks (readPartial_outcome (by rw [code]; rfl) ..)
            · cases handled
              exact looks (respond_outcome state _ (by decide))
        · next code =>
            split at handled
            · cases handled
              exact looks (readPartial_outcome (by rw [code]; rfl) ..)
            · cases handled
              exact looks (respond_outcome state _ (by decide))
        · next code =>
            split at handled
            · exact (getObjectPropList_outcome (by rw [code]; rfl) handled).imp Or.inl
            · cases handled
              exact looks (respond_outcome state _ (by decide))
        · cases handled
          exact looks getThumb_outcome
        · next code =>
            cases handled
            rw [code]
            exact works sendObjectInfo_outcome
        · next code =>
            cases handled
            rw [code]
            exact works sendObject_outcome
        · next code =>
            cases handled
            rw [code]
            exact works deleteObject_outcome
        · next code =>
            cases handled
            rw [code]
            exact works moveObject_outcome
        · next code =>
            cases handled
            rw [code]
            exact works copyObject_outcome
        · next code => exact looks (getObjectPropValue_outcome (by rw [code]; rfl) handled)
        · next code =>
            rw [code]
            exact works (setObjectPropValue_outcome handled)
        · cases handled
          exact looks (respond_outcome state _ (by decide))

theorem dispatch_handled
    (handled : state.dispatch host opCode txId params dataPayload = some after) :
    Looks host state after ∨
      state.Leaves after state.nextHandle ∅ none state.disk ∨
        state.sessionOpen = true ∧
          Handled host state params dataPayload after (OperationCode.ofCode opCode) :=
  (dispatch_outcome handled).effect

theorem dispatch_replies
    (handled : state.dispatch host opCode txId params dataPayload = some after) :
    Replies opCode txId state after :=
  (dispatch_outcome handled).replies

end

end VirtualDeviceState

end VirtualDevice
