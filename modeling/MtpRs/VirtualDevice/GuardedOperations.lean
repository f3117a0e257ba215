import MtpRs.VirtualDevice.Guarded
import MtpRs.VirtualDevice.Outcomes
import MtpRs.VirtualDevice.Writes

set_option autoImplicit false

/- Each operation leaves the read-only storages of a device alone, unless it is a rename that leads
an object out of its storage. -/
namespace VirtualDevice

open Files (Away Builds Component Disk Location Path Spares)
open Ptp (Bytes OperationCode)

namespace VirtualDeviceState

/-- A rename of an object tracked at the backing directory itself: its new name is checked from the
directory above, and leads out of the storage from the backing directory. -/
def renameLeadsOut (self : VirtualDeviceState) (params : List UInt32)
    (dataPayload : Option Bytes) : Bool :=
  match self.checkRename params dataPayload with
  | .error _ => false
  | .ok (obj, oldPath, newName) =>
      match self.findStorage obj.storageId, oldPath.parent with
      | some storage, some directory =>
          (obj.relPath == .empty || obj.relPath == ⟨[.curDir]⟩) &&
            (validatePathWithin self.disk storage.config.backingDir
              (directory.join (.ofString newName))).isSome &&
            !(self.home storage).isPrefixOf ((Path.ofString newName).follow (self.home storage))
      | _, _ => false

section

variable {host : Host} {start state after : VirtualDeviceState} {obj : VirtualObject}
  {storage : VirtualStorageState} {id txId : UInt32} {opCode : UInt16} {params : List UInt32}
  {dataPayload : Option Bytes} {relPath : Path}

/-- What an operation leaves behind, if it writes nothing that is read-only, tracks nothing outside
its storage and announces nothing to a storage that is read-only. -/
theorem Guards.leaves (guards : Guards start state) {count : Nat} {tracked : Objects}
    {upload : Option PendingSendInfo} {written : Disk}
    (leaves : state.Leaves after count tracked upload written)
    (spares : Spares start.sealed state.disk written)
    (objects : ∀ handle obj, tracked.lookup handle = some obj →
      state.objects.lookup handle = some obj ∨ start.Inside obj)
    (pending : ∀ sent, upload = some sent →
      state.pendingSend = some sent ∨ start.isReadOnly sent.storageId = false) :
    Guards start after where
  storages := leaves.storages.trans guards.storages
  spares := by
    rw [leaves.disk]
    exact guards.spares.trans spares
  objects handle obj found := by
    rw [leaves.objects] at found
    exact (objects handle obj found).elim (guards.objects handle obj) id
  pending sent waiting := by
    rw [leaves.pendingSend] at waiting
    exact (pending sent waiting).elim (guards.pending sent) id

/-- Listings track what lies below what is tracked. -/
theorem Guards.looks (guards : Guards start state) (looks : Looks host state after) :
    Guards start after := by
  obtain ⟨reached, scanned, leaves⟩ := looks
  have kept := guards.grows (Scanned.grows scanned)
  exact guards.leaves leaves (.refl _)
    (fun handle obj found => Or.inr (kept.objects handle obj found))
    fun _ => Or.inl

/-- All in a storage that can be written is away from what must be left alone. -/
theorem away_of_inside (apart : Apart start.storageConfigs start.disk.workingDirectory)
    (found : start.findStorage id = some storage) (writable : start.isReadOnly id = false)
    {location : Location} (inside : start.home storage <+: location) :
    Away start.sealed location := by
  apply apart.away (List.mem_map_of_mem (findStorage_mem found).1) _ inside
  rw [VirtualDeviceState.isReadOnly, found] at writable
  exact writable

theorem Guards.away (guards : Guards start state)
    (apart : Apart start.storageConfigs start.disk.workingDirectory)
    (found : start.findStorage id = some storage) (writable : start.isReadOnly id = false)
    (inside : start.home storage <+: relPath.follow (start.home storage)) :
    Away start.sealed
      ((storage.config.backingDir.join relPath).follow state.disk.workingDirectory) := by
  rw [guards.follow]
  exact away_of_inside apart found writable inside

/-- What passes the check leads into the storage. -/
theorem Guards.inside_of_valid (guards : Guards start state)
    (valid : ¬ (validatePathWithin state.disk storage.config.backingDir
      (storage.config.backingDir.join relPath)).isNone = true) :
    start.home storage <+: relPath.follow (start.home storage) ∧
      state.disk.attached (storage.config.backingDir.join relPath) := by
  obtain ⟨inside, leads⟩ := VirtualDevice.inside_of_valid valid
  rw [guards.follow, guards.spares.workingDirectory] at inside
  exact ⟨inside, leads⟩

theorem inside_of_follow (found : start.findStorage obj.storageId = some storage)
    (inside : start.home storage <+: obj.relPath.follow (start.home storage)) :
    start.Inside obj := by
  intro other owner
  rw [found] at owner
  cases owner
  exact inside

theorem resolvePath_some {handle : UInt32} {path : Path}
    (found : state.objects.lookup handle = some obj)
    (resolved : state.resolvePath handle = some path) :
    ∃ storage, state.findStorage obj.storageId = some storage ∧
      path = storage.config.backingDir.join obj.relPath := by
  rw [resolvePath, found] at resolved
  obtain ⟨storage, owner, same⟩ := Option.map_eq_some_iff.mp resolved
  exact ⟨storage, owner, same.symm⟩

theorem checkSendObjectInfo_ok {target : SendTarget}
    (checked : state.checkSendObjectInfo params dataPayload = .ok target) :
    state.findStorage target.storage.storageId = some target.storage ∧
      state.isReadOnly target.storage.storageId = false := by
  unfold checkSendObjectInfo at checked
  dsimp only at checked
  split at checked
  · cases checked
  · next storage found =>
      have id := (findStorage_mem found).2
      split at checked
      · cases checked
      · next writable =>
          rw [← id] at found writable
          have same : target.storage = storage := by
            simp only [bind, Except.bind] at checked
            repeat' split at checked
            all_goals cases checked
            all_goals rfl
          rw [same]
          exact ⟨found, Bool.eq_false_iff.mpr writable⟩

theorem checkDeleteObject_ok {handle : UInt32} {path : Path}
    (checked : state.checkDeleteObject handle = .ok (obj, path)) :
    state.objects.lookup handle = some obj ∧ state.isReadOnly obj.storageId = false ∧
      state.resolvePath handle = some path := by
  unfold checkDeleteObject at checked
  split at checked
  · cases checked
  · next found =>
      split at checked
      · cases checked
      · next writable =>
          split at checked
          · cases checked
          · next resolved =>
              cases checked
              exact ⟨found, Bool.eq_false_iff.mpr writable, resolved⟩

/-- What a move or a copy has been checked for. -/
structure Checked (state : VirtualDeviceState) (moves : Bool) (params : List UInt32)
    (transfer : Transfer) : Prop where
  tracked : state.objects.lookup (param params 0) = some transfer.obj
  resolved : state.resolvePath (param params 0) = some transfer.srcPath
  found : state.findStorage transfer.destStorage.storageId = some transfer.destStorage
  leaves : moves = true → state.isReadOnly transfer.obj.storageId = false
  writable : state.isReadOnly transfer.destStorage.storageId = false
  valid : ¬ (validatePathWithin state.disk transfer.destStorage.config.backingDir
    transfer.destPath).isNone = true

theorem checkTransfer_ok {moves : Bool} {transfer : Transfer}
    (checked : state.checkTransfer moves params = .ok transfer) :
    state.Checked moves params transfer := by
  unfold checkTransfer at checked
  dsimp only at checked
  split at checked
  · cases checked
  · next obj tracked =>
      split at checked
      · cases checked
      · next allowed =>
          rw [Bool.not_eq_true, Bool.or_eq_false_iff] at allowed
          split at checked
          · cases checked
          · next srcPath resolved =>
              split at checked
              · cases checked
              · next destStorage found =>
                  have id := (findStorage_mem found).2
                  have leaves : moves = true → state.isReadOnly obj.storageId = false := by
                    rintro rfl
                    exact allowed.1
                  have writable := allowed.2
                  rw [← id] at found writable
                  simp only [bind, Except.bind] at checked
                  repeat' split at checked
                  all_goals cases checked
                  all_goals exact ⟨tracked, resolved, found, leaves, writable, by assumption⟩

theorem SendTarget_create_spares {target : SendTarget} {disk : Disk} {region : Location → Prop}
    (leads : disk.attached target.fullPath)
    (away : Away region (target.fullPath.follow disk.workingDirectory)) :
    Spares region disk (target.create host disk).2 := by
  unfold SendTarget.create
  split
  · exact (Files.Host.createDirAll_builds leads away).toSpares
  · exact (writeInDir_builds [] leads away).toSpares

variable (apart : Apart start.storageConfigs start.disk.workingDirectory)

include apart

/-- What is announced is put in a storage that can be written. -/
theorem Guards.created (guards : Guards start state) (host : Host) {target : SendTarget}
    (checked : state.checkSendObjectInfo params dataPayload = .ok target)
    (valid : ¬ (validatePathWithin state.disk target.storage.config.backingDir
      target.fullPath).isNone = true) :
    Spares start.sealed state.disk (target.create host state.disk).2 ∧
      start.Inside ⟨target.relPath, target.storage.storageId, target.parent⟩ ∧
        start.isReadOnly target.storage.storageId = false := by
  obtain ⟨found, writable⟩ := checkSendObjectInfo_ok checked
  rw [guards.findStorage] at found
  rw [guards.isReadOnly] at writable
  obtain ⟨inside, leads⟩ := guards.inside_of_valid valid
  exact ⟨SendTarget_create_spares leads (guards.away apart found writable inside),
    inside_of_follow found inside, writable⟩

omit apart in
theorem checkSendObject_ok {pending : PendingSendInfo}
    (checked : state.checkSendObject pending = .ok (storage, relPath)) :
    state.findStorage pending.storageId = some storage ∧
      ¬ (validatePathWithin state.disk storage.config.backingDir
        (storage.config.backingDir.join relPath)).isNone = true := by
  unfold checkSendObject at checked
  split at checked
  · cases checked
  · next storage' found =>
      simp only [bind, Except.bind] at checked
      repeat' split at checked
      all_goals cases checked
      all_goals exact ⟨found, by assumption⟩

theorem Guards.sent (guards : Guards start state) (host : Host) {upload : PendingSendInfo}
    (waiting : state.pendingSend = some upload)
    (checked : state.checkSendObject upload = .ok (storage, relPath)) :
    (∀ bytes, Builds start.sealed state.disk
        (writeInDir host state.disk (storage.config.backingDir.join relPath) bytes).2) ∧
      Away start.sealed
        ((storage.config.backingDir.join relPath).follow state.disk.workingDirectory) ∧
        start.Inside ⟨relPath, upload.storageId, upload.parent⟩ := by
  obtain ⟨found, valid⟩ := checkSendObject_ok checked
  rw [guards.findStorage] at found
  obtain ⟨inside, leads⟩ := guards.inside_of_valid valid
  have away := guards.away apart found (guards.pending upload waiting) inside
  exact ⟨fun bytes => writeInDir_builds bytes leads away, away, inside_of_follow found inside⟩

theorem Guards.removed (guards : Guards start state) (host : Host) {path : Path} {handle : UInt32}
    (checked : state.checkDeleteObject handle = .ok (obj, path)) :
    Spares start.sealed state.disk (removePath host state.disk path).2 := by
  obtain ⟨tracked, writable, resolved⟩ := checkDeleteObject_ok checked
  obtain ⟨storage, found, same⟩ := resolvePath_some tracked resolved
  rw [guards.findStorage] at found
  rw [guards.isReadOnly] at writable
  have away := guards.away apart found writable (guards.objects _ obj tracked storage found)
  rw [← same] at away
  exact removePath_spares away

/-- A move or a copy goes into a storage that can be written, and a move comes from one. -/
theorem Guards.transferred (guards : Guards start state) (host : Host) {moves : Bool}
    {transfer : Transfer} (checked : state.checkTransfer moves params = .ok transfer) :
    Spares start.sealed state.disk
        (copyPath host state.disk transfer.srcPath transfer.destPath).2 ∧
      (moves = true → Spares start.sealed state.disk
        (movePath host state.disk transfer.srcPath transfer.destPath).2) ∧
        start.Inside ⟨transfer.newRel, transfer.destStorage.storageId, transfer.destParent⟩ := by
  have kinds := checkTransfer_ok checked
  obtain ⟨storage, found, same⟩ := resolvePath_some kinds.tracked kinds.resolved
  have target := kinds.found
  have writable := kinds.writable
  rw [guards.findStorage] at found target
  rw [guards.isReadOnly] at writable
  obtain ⟨inside, leads⟩ := guards.inside_of_valid kinds.valid
  have away := guards.away apart target writable inside
  refine ⟨(copyPath_builds leads away).toSpares, fun moving => ?_, inside_of_follow target inside⟩
  have leaves := kinds.leaves moving
  rw [guards.isReadOnly] at leaves
  have srcAway := guards.away apart found leaves
    (guards.objects _ transfer.obj kinds.tracked storage found)
  rw [← same] at srcAway
  exact movePath_spares leads srcAway away

omit apart in
theorem checkRename_ok {oldPath : Path} {newName : String}
    (checked : state.checkRename params dataPayload = .ok (obj, oldPath, newName)) :
    state.objects.lookup (param params 0) = some obj ∧
      state.isReadOnly obj.storageId = false ∧
      state.resolvePath (param params 0) = some oldPath := by
  unfold checkRename at checked
  repeat' split at checked
  all_goals cases checked
  all_goals exact ⟨by assumption, Bool.eq_false_iff.mpr (by assumption), by assumption⟩

omit apart in
/-- A rename changes the path in the storage as it changes the path on the disk, unless the object
is tracked at the backing directory. -/
theorem follow_renamedPath {parent : Path} (above : relPath.parent = some parent) (newName : String)
    (here : Location) :
    (renamedPath relPath newName).follow here = (Path.ofString newName).follow
      (parent.follow here) := by
  rw [renamedPath, above]
  dsimp only
  split
  · next root => rw [root, Path.follow_empty]
  · exact Path.follow_join ..

omit apart in
/-- Where a renamed object is tracked, if its new place is inside its storage. -/
theorem Guards.renamed_inside (guards : Guards start state) {oldPath directory : Path}
    {newName : String} (path : oldPath = storage.config.backingDir.join relPath)
    (above : oldPath.parent = some directory)
    (there : start.home storage <+:
      (directory.join (.ofString newName)).follow state.disk.workingDirectory)
    (stays : relPath = .empty ∨ relPath = ⟨[.curDir]⟩ →
      start.home storage <+: (Path.ofString newName).follow (start.home storage)) :
    start.home storage <+: (renamedPath relPath newName).follow (start.home storage) := by
  subst path
  by_cases root : relPath = .empty ∨ relPath = ⟨[.curDir]⟩
  · have name : renamedPath relPath newName = .ofString newName := by
      rcases root with rfl | rfl <;> rfl
    rw [name]
    exact stays root
  · rw [not_or] at root
    cases inner : relPath.parent with
    | none =>
        rw [Path.parent_join_none inner root.1] at above
        cases above
    | some parent =>
        rw [Path.parent_join inner root.2, Option.some.injEq] at above
        rw [follow_renamedPath inner]
        rw [← above, Path.follow_join, guards.follow] at there
        exact there

/-- A rename that does not lead out of its storage moves within it. -/
theorem Guards.renamed (guards : Guards start state) {oldPath directory : Path} {newName : String}
    {disk : Disk} (checked : state.checkRename params dataPayload = .ok (obj, oldPath, newName))
    (above : oldPath.parent = some directory)
    (owner : state.findStorage obj.storageId = some storage)
    (valid : ¬ (validatePathWithin state.disk storage.config.backingDir
      (directory.join (.ofString newName))).isNone = true)
    (made : host.files.rename state.disk oldPath (directory.join (.ofString newName)) = some disk)
    (stays : state.renameLeadsOut params dataPayload = false) :
    Spares start.sealed state.disk disk ∧
      start.Inside { obj with relPath := renamedPath obj.relPath newName } := by
  obtain ⟨tracked, writable, resolved⟩ := checkRename_ok checked
  obtain ⟨other, found, path⟩ := resolvePath_some tracked resolved
  rw [owner] at found
  cases found
  unfold renameLeadsOut at stays
  rw [checked] at stays
  simp only [owner, above] at stays
  rw [guards.findStorage] at owner
  rw [guards.isReadOnly] at writable
  have srcAway := guards.away apart owner writable (guards.objects _ obj tracked storage owner)
  rw [← path] at srcAway
  obtain ⟨inside, -⟩ := VirtualDevice.inside_of_valid valid
  have there : start.home storage <+:
      (directory.join (.ofString newName)).follow state.disk.workingDirectory := by
    rw [guards.spares.workingDirectory] at inside ⊢
    exact inside
  refine ⟨Files.Host.rename_spares made srcAway (away_of_inside apart owner writable there),
    inside_of_follow owner (guards.renamed_inside path above there fun root => ?_)⟩
  have base : (obj.relPath == .empty || obj.relPath == ⟨[.curDir]⟩) = true := by
    simpa using root
  have passes : (validatePathWithin state.disk storage.config.backingDir
      (directory.join (.ofString newName))).isSome = true := by
    rw [Option.isSome_iff_ne_none]
    simpa using valid
  rw [base, passes, Bool.true_and, Bool.true_and, Bool.not_eq_false',
    List.isPrefixOf_iff_prefix, guards.home] at stays
  exact stays

/-- An operation on an object leaves what is read-only alone, unless it renames an object out of its
storage. -/
theorem Handled.guards {op : OperationCode} (guards : Guards start state)
    (handled : Handled host state params dataPayload after op)
    (stays : op = .setObjectPropValue → state.renameLeadsOut params dataPayload = false) :
    Guards start after := by
  cases handled with
  | uploadUnmade _ _ leaves =>
      exact guards.leaves leaves (.refl _) (fun _ _ => Or.inl) fun _ none => by cases none
  | uploadFailed checked valid failed leaves =>
      obtain ⟨created, -, -⟩ := guards.created apart host checked valid
      rw [failed] at created
      exact guards.leaves leaves created (fun _ _ => Or.inl) fun _ none => by cases none
  | uploadMade checked valid made leaves =>
      obtain ⟨created, placed, writable⟩ := guards.created apart host checked valid
      rw [made] at created
      refine guards.leaves leaves created (fun handle obj found => ?_) fun sent pending => ?_
      · rcases AList.lookup_insert_eq_some.mp found with ⟨-, rfl⟩ | ⟨-, there⟩
        · exact Or.inr placed
        · exact Or.inl there
      · split at pending
        · cases pending
        · cases pending
          exact Or.inr writable
  | dataDropped leaves =>
      exact guards.leaves leaves (.refl _) (fun _ _ => Or.inl) fun _ none => by cases none
  | dataFailed waiting checked failed leaves =>
      obtain ⟨written, -, -⟩ := guards.sent apart host waiting checked
      have spares := (written (dataPayload.getD [])).toSpares
      rw [failed] at spares
      exact guards.leaves leaves spares (fun _ _ => Or.inl) fun _ none => by cases none
  | dataWritten waiting checked wrote leaves =>
      obtain ⟨written, away, placed⟩ := guards.sent apart host waiting checked
      have spares := written (dataPayload.getD [])
      rw [wrote] at spares
      rw [← spares.workingDirectory] at away
      refine guards.leaves leaves (spares.toSpares.trans (stamp_builds _ away).toSpares)
        (fun handle obj found => ?_) fun _ none => by cases none
      rcases AList.lookup_insert_eq_some.mp found with ⟨-, rfl⟩ | ⟨-, there⟩
      · exact Or.inr placed
      · exact Or.inl there
  | deleteFailed checked failed leaves =>
      have removed := guards.removed apart host checked
      rw [failed] at removed
      exact guards.leaves leaves removed (fun _ _ => Or.inl) fun _ => Or.inl
  | deleted checked gone leaves =>
      have removed := guards.removed apart host checked
      rw [gone] at removed
      exact guards.leaves leaves removed
        (fun handle obj found => Or.inl (AList.lookup_keep_eq_some.mp found).1) fun _ => Or.inl
  | moveFailed checked failed leaves =>
      obtain ⟨-, moved, -⟩ := guards.transferred apart host checked
      have spares := moved rfl
      rw [failed] at spares
      exact guards.leaves leaves spares (fun _ _ => Or.inl) fun _ => Or.inl
  | moved checked made leaves =>
      obtain ⟨-, moved, placed⟩ := guards.transferred apart host checked
      have spares := moved rfl
      rw [made] at spares
      refine guards.leaves leaves spares (fun handle obj found => ?_) fun _ => Or.inl
      rcases AList.lookup_modify_eq_some.mp found with ⟨_, -, -, rfl⟩ | ⟨-, there⟩
      · exact Or.inr placed
      · exact Or.inl there
  | copyUntracked checked made leaves =>
      obtain ⟨copied, -, -⟩ := guards.transferred apart host checked
      rw [made] at copied
      exact guards.leaves leaves copied (fun _ _ => Or.inl) fun _ => Or.inl
  | copied checked _ made leaves =>
      obtain ⟨copied, -, placed⟩ := guards.transferred apart host checked
      rw [made] at copied
      refine guards.leaves leaves copied (fun handle obj found => ?_) fun _ => Or.inl
      rcases AList.lookup_insert_eq_some.mp found with ⟨-, rfl⟩ | ⟨-, there⟩
      · exact Or.inr placed
      · exact Or.inl there
  | renamed checked above owner valid made leaves =>
      obtain ⟨spares, placed⟩ := guards.renamed apart checked above owner valid made (stays rfl)
      have tracked := (checkRename_ok checked).1
      refine guards.leaves leaves spares (fun handle obj found => ?_) fun _ => Or.inl
      rcases AList.lookup_modify_eq_some.mp found with ⟨before, there, -, rfl⟩ | ⟨-, there⟩
      · rw [tracked] at there
        cases there
        exact Or.inr placed
      · exact Or.inl there

/-- No operation changes a read-only storage or tracks anything outside its storage, unless it
renames an object so. -/
theorem Guards.dispatch (guards : Guards start state)
    (stays : OperationCode.ofCode opCode = .setObjectPropValue →
      state.renameLeadsOut params dataPayload = false)
    (dispatched : state.dispatch host opCode txId params dataPayload = some after) :
    Guards start after := by
  rcases dispatch_handled dispatched with looks | closed | ⟨-, handled⟩
  · exact guards.looks looks
  · exact guards.leaves closed (.refl _) (fun _ _ found => by cases found) fun _ none => by
      cases none
  · exact handled.guards apart guards stays

end

end VirtualDeviceState

end VirtualDevice
