import MtpRs.VirtualDevice.Blocking
import MtpRs.VirtualDevice.Handles

set_option autoImplicit false

/- Confinement: what a device tracks lies below the backing directory of its storage, and what an
operation changes below those of the storages it works on. -/
namespace VirtualDevice

open Files (Away Builds Component Disk Location Name Path Spares)
open Ptp (Bytes EventCode ObjectFormatCode OperationCode)
open Runs (Restricted Run)
open VirtualDeviceState (copyPath movePath)

/-- A place below another one. -/
def Beneath (home location : Location) : Prop := home <+: location ∧ location ≠ home

section

variable {home location : Location}

theorem Beneath.below (beneath : Beneath home location) {other : Location}
    (below : location <+: other) : Beneath home other := by
  refine ⟨beneath.1.trans below, ?_⟩
  rintro rfl
  exact beneath.2 (List.IsPrefix.eq_of_length_le below beneath.1.length_le)

theorem beneath_append {names : List Name} (some : names ≠ []) : Beneath home (home ++ names) :=
  ⟨List.prefix_append .., by simpa using some⟩

end

def isPlainPath (path : Path) : Bool :=
  path.components.all fun
    | .normal _ => true
    | _ => false

/-- Nothing takes the place of a directory it lies in. -/
theorem rename_outward {host : Host} {disk after : Disk} {src dst : Path}
    (renamed : host.files.rename disk src dst = some after)
    (above : dst.follow disk.workingDirectory <+: src.follow disk.workingDirectory) :
    src.follow disk.workingDirectory = dst.follow disk.workingDirectory := by
  unfold Files.Host.rename at renamed
  split at renamed
  · next source target located found =>
      rw [← Disk.locate_follow located, ← Disk.locate_follow found] at above ⊢
      obtain ⟨names, rfl⟩ := above
      unfold Files.Host.renameAt at renamed
      split at renamed
      · cases renamed
      · next present =>
          have there : (disk.node (target ++ names)).isSome = true := by
            rwa [Option.isSome_iff_ne_none, ne_eq, ← Option.isNone_iff_eq_none]
          split at renamed
          · next same => exact same
          · next different =>
              have some : names ≠ [] := by
                rintro rfl
                exact different (List.append_nil _)
              have directory := Disk.directoryAt_of_below some there
              split at renamed
              · next ready =>
                  obtain ⟨-, directories, files, -⟩ := ready
                  cases kind : disk.directoryAt (target ++ names) with
                  | true =>
                      have empty := (directories kind (Disk.present_of_directoryAt directory)).2
                      cases names with
                      | nil => exact absurd rfl some
                      | cons first rest =>
                          have listed : (disk.node (target ++ [first])).isSome = true := by
                            rw [show target ++ first :: rest = (target ++ [first]) ++ rest by simp]
                              at there
                            by_cases last : rest = []
                            · rwa [last, List.append_nil] at there
                            · exact Disk.present_of_directoryAt
                                (Disk.directoryAt_of_below last there)
                          rw [← Disk.mem_names, empty] at listed
                          cases listed
                  | false =>
                      rw [files kind] at directory
                      cases directory
              · cases renamed
  · cases renamed

namespace VirtualDeviceState

/-- An object of one of the device's storages, its path leading below the backing directory. -/
def Lodged (self : VirtualDeviceState) (obj : VirtualObject) : Prop :=
  ∃ storage, self.findStorage obj.storageId = some storage ∧
    Beneath (self.home storage) (obj.relPath.follow (self.home storage))

/-- All that is tracked is. -/
def Lodges (self : VirtualDeviceState) : Prop :=
  ∀ handle obj, self.objects.lookup handle = some obj → self.Lodged obj

/-- All but the places below the backing directories of some storages. -/
def outside (self : VirtualDeviceState) (ids : List UInt32) (location : Location) : Prop :=
  ∀ id ∈ ids, ∀ storage, self.findStorage id = some storage →
    ¬ Beneath (self.home storage) location

/-- A path that leads to the backing directory itself. -/
def leadsHome (self : VirtualDeviceState) (storage : VirtualStorageState) (relPath : Path) : Bool :=
  relPath.follow (self.home storage) == self.home storage

/-- An operation whose target is the backing directory itself, and what it would put there is of the
kind of what is there. -/
def replacesHome (self : VirtualDeviceState) (op : OperationCode) (params : List UInt32)
    (dataPayload : Option Bytes) : Bool :=
  let ofKind (storage : VirtualStorageState) (directory : Bool) :=
    self.disk.isDirectory storage.config.backingDir == directory
  match op with
  | .sendObjectInfo =>
      match self.checkSendObjectInfo params dataPayload with
      | .error _ => false
      | .ok target =>
          self.leadsHome target.storage target.relPath &&
            ofKind target.storage (target.info.format == .association) &&
            (validatePathWithin self.disk target.storage.config.backingDir target.fullPath).isSome
  | .sendObject =>
      match self.pendingSend with
      | none => false
      | some upload =>
          match self.checkSendObject upload with
          | .error _ => false
          | .ok (storage, relPath) => self.leadsHome storage relPath && ofKind storage false
  | .moveObject =>
      match self.checkTransfer true params with
      | .error _ => false
      | .ok transfer =>
          self.leadsHome transfer.destStorage transfer.newRel &&
            sameKind self.disk transfer.srcPath transfer.destPath
  | .copyObject =>
      match self.checkTransfer false params with
      | .error _ => false
      | .ok transfer =>
          self.leadsHome transfer.destStorage transfer.newRel &&
            sameKind self.disk transfer.srcPath transfer.destPath
  | _ => false

def worksOn (self : VirtualDeviceState) (op : OperationCode) (params : List UInt32) : List UInt32 :=
  let ownerOf (handle : UInt32) := (self.objects.lookup handle).toList.map VirtualObject.storageId
  match op with
  | .sendObjectInfo => [param params 0]
  | .sendObject => self.pendingSend.toList.map PendingSendInfo.storageId
  | .deleteObject => ownerOf (param params 0)
  | .moveObject => ownerOf (param params 0) ++ [param params 1]
  | .copyObject => [param params 1]
  | .setObjectPropValue => ownerOf (param params 0)
  | _ => []

/-- A path that leads into a storage by more than names, or into one the device does not have. -/
def strays (self : VirtualDeviceState) (storages : List (Path × UInt32)) (path : Path) : Bool :=
  match findStorageForPath ((self.disk.canonicalize path).getD path) storages with
  | none => false
  | some (storageId, relPath) =>
      !isPlainPath relPath || (self.findStorage storageId).isNone

section

variable {host : Host} {state after : VirtualDeviceState} {obj : VirtualObject}
  {storage : VirtualStorageState} {id : UInt32} {ids : List UInt32} {relPath : Path}
  {location : Location}

theorem away_of_beneath (mem : id ∈ ids) (found : state.findStorage id = some storage)
    (beneath : Beneath (state.home storage) location) : Away (state.outside ids) location :=
  fun _ below apart => apart id mem storage found (beneath.below below)

/-- Where the path of a file in a storage leads. -/
theorem follow_home (state : VirtualDeviceState) (storage : VirtualStorageState) (relPath : Path) :
    (storage.config.backingDir.join relPath).follow state.disk.workingDirectory =
      relPath.follow (state.home storage) :=
  Path.follow_join ..

/-- What passes the check leads below the backing directory or to it. -/
theorem beneath_or_home (valid : ¬ (validatePathWithin state.disk storage.config.backingDir
      (storage.config.backingDir.join relPath)).isNone = true) :
    Beneath (state.home storage) (relPath.follow (state.home storage)) ∨
      relPath.follow (state.home storage) = state.home storage := by
  obtain ⟨inside, -⟩ := inside_of_valid valid
  rw [follow_home] at inside
  by_cases same : relPath.follow (state.home storage) = state.home storage
  · exact Or.inr same
  · exact Or.inl ⟨inside, same⟩

/-- At the backing directory there is what there is. -/
theorem kind_of_home (valid : ¬ (validatePathWithin state.disk storage.config.backingDir
      (storage.config.backingDir.join relPath)).isNone = true)
    (same : relPath.follow (state.home storage) = state.home storage) :
    state.disk.present (storage.config.backingDir.join relPath) = true ∧
      state.disk.isDirectory (storage.config.backingDir.join relPath) =
        state.disk.isDirectory storage.config.backingDir := by
  apply present_of_valid valid
  rw [follow_home, same]
  rfl

theorem Lodged.congr (lodged : state.Lodged obj) (storages : after.storages = state.storages)
    (directory : after.disk.workingDirectory = state.disk.workingDirectory) :
    after.Lodged obj := by
  obtain ⟨storage, found, beneath⟩ := lodged
  refine ⟨storage, (findStorage_congr storages _).trans found, ?_⟩
  rwa [VirtualDeviceState.home, directory]

theorem Lodged.beneath (lodged : state.Lodged obj)
    (owner : state.findStorage obj.storageId = some storage) :
    Beneath (state.home storage) (obj.relPath.follow (state.home storage)) := by
  obtain ⟨other, found, beneath⟩ := lodged
  rw [owner] at found
  cases found
  exact beneath

theorem Lodges.congr (lodges : state.Lodges) (storages : after.storages = state.storages)
    (directory : after.disk.workingDirectory = state.disk.workingDirectory)
    (kept : ∀ handle obj, after.objects.lookup handle = some obj →
      (∃ other before, state.objects.lookup other = some before ∧ pairOf before = pairOf obj) ∨
        state.Lodged obj) : after.Lodges := by
  intro handle obj found
  rcases kept handle obj found with ⟨other, before, there, same⟩ | lodged
  · obtain ⟨sameStorage, samePath⟩ := Prod.mk.inj same
    have lodged := lodges other before there
    rw [Lodged, sameStorage, samePath] at lodged
    exact Lodged.congr lodged storages directory
  · exact lodged.congr storages directory

theorem lodged_of_names {names : List Name} (some : names ≠ [])
    (owned : state.Owns obj.storageId) (path : obj.relPath = relativePath names) :
    state.Lodged obj := by
  obtain ⟨storage, found⟩ := owned
  refine ⟨storage, found, ?_⟩
  have same : obj.relPath = Path.empty.descend names := path
  rw [same, Path.follow_descend]
  exact beneath_append some

theorem EntryOf.lodged (entry : state.EntryOf obj) (owned : state.Owns obj.storageId)
    (lodges : state.Lodges) : state.Lodged obj := by
  rcases entry with ⟨-, name, path⟩ | ⟨-, folder, name, found, same, path⟩
  · exact lodged_of_names (List.cons_ne_nil name []) owned path
  · obtain ⟨storage, owner⟩ := owned
    refine ⟨storage, owner, ?_⟩
    rw [path, Path.follow_child]
    exact ((lodges _ folder found).beneath (same ▸ owner)).below (List.prefix_append ..)

theorem Discovers.lodges (found : Discovers state after) (lodges : state.Lodges) :
    after.Lodges := by
  induction found with
  | refl => exact lodges
  | queued _ _ _ ih => exact ih
  | @entry reached obj before owned _ named _ ih =>
      refine ih.congr rfl rfl fun handle other tracked => ?_
      rcases AList.lookup_insert_eq_some.mp tracked with ⟨-, rfl⟩ | ⟨-, there⟩
      · right
        have owned := owned.congr before.storages_eq.symm
        rcases named with entry | ⟨names, some, path⟩
        · exact entry.lodged owned ih
        · exact lodged_of_names some owned path
      · exact Or.inl ⟨handle, other, there, rfl⟩

/-- What a call for a path does, and where the path leads where it succeeds. -/
structure Confined (state : VirtualDeviceState) (ids : List UInt32) (storage : VirtualStorageState)
    (relPath : Path) (result : Bool × Disk) : Prop where
  spares : Spares (state.outside ids) state.disk result.2
  beneath : result.1 = true → Beneath (state.home storage) (relPath.follow (state.home storage))

/-- A call that is for a path alone, and does nothing to the backing directory. -/
theorem confined_of_valid {result : Bool × Disk} (mem : id ∈ ids)
    (found : state.findStorage id = some storage)
    (valid : ¬ (validatePathWithin state.disk storage.config.backingDir
      (storage.config.backingDir.join relPath)).isNone = true)
    (spares : Away (state.outside ids)
        ((storage.config.backingDir.join relPath).follow state.disk.workingDirectory) →
      Spares (state.outside ids) state.disk result.2)
    (blocked : relPath.follow (state.home storage) = state.home storage →
      state.disk.present (storage.config.backingDir.join relPath) = true →
        state.disk.isDirectory (storage.config.backingDir.join relPath) =
          state.disk.isDirectory storage.config.backingDir → result = (false, state.disk)) :
    Confined state ids storage relPath result := by
  rcases beneath_or_home valid with beneath | same
  · refine ⟨spares ?_, fun _ => beneath⟩
    rw [follow_home]
    exact away_of_beneath mem found beneath
  · obtain ⟨there, kind⟩ := kind_of_home valid same
    rw [blocked same there kind]
    exact ⟨.refl _, fun done => by cases done⟩

section

variable {params : List UInt32} {dataPayload : Option Bytes} {op : OperationCode}

theorem sendObjectInfo_storage {target : SendTarget}
    (checked : state.checkSendObjectInfo params dataPayload = .ok target) :
    state.findStorage (param params 0) = some target.storage := by
  unfold checkSendObjectInfo at checked
  dsimp only at checked
  split at checked
  · cases checked
  · next storage found =>
      rw [found]
      simp only [bind, Except.bind] at checked
      repeat' split at checked
      all_goals cases checked
      all_goals rfl

theorem transfer_storage {moves : Bool} {transfer : Transfer}
    (checked : state.checkTransfer moves params = .ok transfer) :
    state.findStorage (param params 1) = some transfer.destStorage := by
  unfold checkTransfer at checked
  simp only [bind, Except.bind] at checked
  repeat' split at checked
  all_goals cases checked
  all_goals assumption

variable (host) in
theorem create_confined {target : SendTarget}
    (checked : state.checkSendObjectInfo params dataPayload = .ok target)
    (valid : ¬ (validatePathWithin state.disk target.storage.config.backingDir
      target.fullPath).isNone = true)
    (stays : state.replacesHome .sendObjectInfo params dataPayload = false) :
    Confined state (state.worksOn .sendObjectInfo params) target.storage target.relPath
      (target.create host state.disk) := by
  obtain ⟨-, leads⟩ := inside_of_valid valid
  refine confined_of_valid (List.mem_singleton_self _) (sendObjectInfo_storage checked) valid
    (SendTarget_create_spares leads) fun same there kind => ?_
  have passes : (validatePathWithin state.disk target.storage.config.backingDir
      target.fullPath).isSome = true := by
    rwa [Bool.not_eq_true, Option.isNone_eq_false_iff] at valid
  rw [replacesHome] at stays
  dsimp only at stays
  rw [checked] at stays
  dsimp only at stays
  rw [leadsHome, same, beq_self_eq_true, Bool.true_and, passes, Bool.and_true] at stays
  unfold SendTarget.create
  split
  · next association =>
      rw [association] at stays
      refine createDirAll_blocked there ?_
      exact kind.trans (by simpa using stays)
  · next file =>
      rw [beq_eq_false_iff_ne.mpr file] at stays
      refine writeInDir_blocked ?_ []
      exact kind.trans (by simpa using stays)

variable (host) in
theorem send_confined {upload : PendingSendInfo} (waiting : state.pendingSend = some upload)
    (checked : state.checkSendObject upload = .ok (storage, relPath))
    (stays : state.replacesHome .sendObject params dataPayload = false) :
    Confined state (state.worksOn .sendObject params) storage relPath
      (writeInDir host state.disk (storage.config.backingDir.join relPath)
        (dataPayload.getD [])) := by
  obtain ⟨found, valid⟩ := checkSendObject_ok checked
  obtain ⟨-, leads⟩ := inside_of_valid valid
  have mem : upload.storageId ∈ state.worksOn .sendObject params := by
    rw [worksOn, waiting]
    exact List.mem_singleton_self _
  refine confined_of_valid mem found valid
    (fun away => (writeInDir_builds _ leads away).toSpares) fun same there kind => ?_
  rw [replacesHome, waiting] at stays
  dsimp only at stays
  rw [checked] at stays
  dsimp only at stays
  rw [leadsHome, same, beq_self_eq_true, Bool.true_and, beq_eq_false_iff_ne, ne_eq,
    Bool.not_eq_false] at stays
  exact writeInDir_blocked (kind.trans stays) _

/-- The object a transfer or a rename is of lies below the backing directory of its storage. -/
theorem away_source {handle : UInt32} {path : Path} (lodges : state.Lodges)
    (tracked : state.objects.lookup handle = some obj)
    (resolved : state.resolvePath handle = some path) (mem : obj.storageId ∈ ids) :
    Away (state.outside ids) (path.follow state.disk.workingDirectory) := by
  obtain ⟨storage, owner, rfl⟩ := resolvePath_some tracked resolved
  rw [follow_home]
  exact away_of_beneath mem owner ((lodges handle obj tracked).beneath owner)

theorem mem_ownerOf {handle : UInt32} (tracked : state.objects.lookup handle = some obj) :
    obj.storageId ∈
      (state.objects.lookup handle).toList.map VirtualObject.storageId := by
  rw [tracked]
  exact List.mem_singleton_self _

variable (host) in
theorem copy_confined {transfer : Transfer}
    (checked : state.checkTransfer false params = .ok transfer)
    (stays : state.replacesHome .copyObject params dataPayload = false) :
    Confined state (state.worksOn .copyObject params) transfer.destStorage transfer.newRel
      (copyPath host state.disk transfer.srcPath transfer.destPath) := by
  have valid := (checkTransfer_ok checked).valid
  obtain ⟨-, leads⟩ := inside_of_valid valid
  refine confined_of_valid (List.mem_singleton_self _) (transfer_storage checked) valid
    (fun away => (copyPath_builds leads away).toSpares) fun same there kind => ?_
  rw [replacesHome, checked] at stays
  dsimp only at stays
  rw [leadsHome, same, beq_self_eq_true, Bool.true_and] at stays
  exact copyPath_blocked there stays

variable (host) in
theorem move_confined {transfer : Transfer} (lodges : state.Lodges)
    (checked : state.checkTransfer true params = .ok transfer)
    (stays : state.replacesHome .moveObject params dataPayload = false) :
    Confined state (state.worksOn .moveObject params) transfer.destStorage transfer.newRel
      (movePath host state.disk transfer.srcPath transfer.destPath) := by
  have kinds := checkTransfer_ok checked
  obtain ⟨-, leads⟩ := inside_of_valid kinds.valid
  have mem : transfer.obj.storageId ∈ state.worksOn .moveObject params :=
    List.mem_append_left _ (mem_ownerOf kinds.tracked)
  have source := away_source lodges kinds.tracked kinds.resolved mem
  refine confined_of_valid (List.mem_append_right _ (List.mem_singleton_self _))
    (transfer_storage checked) kinds.valid (movePath_spares leads source) fun same there kind => ?_
  rw [replacesHome, checked] at stays
  dsimp only at stays
  rw [leadsHome, same, beq_self_eq_true, Bool.true_and] at stays
  exact movePath_blocked there stays

/-- Where a renamed object is tracked is where its new path leads. -/
theorem follow_renamed {oldPath directory : Path} (newName : String) (lodged : state.Lodged obj)
    (owner : state.findStorage obj.storageId = some storage)
    (path : oldPath = storage.config.backingDir.join obj.relPath)
    (above : oldPath.parent = some directory) :
    (renamedPath obj.relPath newName).follow (state.home storage) =
      (directory.join (.ofString newName)).follow state.disk.workingDirectory := by
  have away := (lodged.beneath owner).2
  have named : obj.relPath ≠ .empty ∧ obj.relPath ≠ ⟨[.curDir]⟩ := by
    constructor
    · intro root
      rw [root] at away
      exact away rfl
    · intro root
      rw [root] at away
      exact away rfl
  subst path
  cases inner : obj.relPath.parent with
  | none =>
      rw [Path.parent_join_none inner named.1] at above
      cases above
  | some parent =>
      rw [Path.parent_join inner named.2, Option.some.injEq] at above
      rw [follow_renamedPath inner, ← above, Path.follow_join, follow_home]

theorem rename_confined {oldPath directory : Path} {newName : String} {disk : Disk}
    (lodges : state.Lodges)
    (checked : state.checkRename params dataPayload = .ok (obj, oldPath, newName))
    (above : oldPath.parent = some directory)
    (owner : state.findStorage obj.storageId = some storage)
    (valid : ¬ (validatePathWithin state.disk storage.config.backingDir
      (directory.join (.ofString newName))).isNone = true)
    (made : host.files.rename state.disk oldPath (directory.join (.ofString newName)) =
      some disk) :
    Confined state (state.worksOn .setObjectPropValue params) storage
      (renamedPath obj.relPath newName) (true, disk) := by
  obtain ⟨tracked, -, resolved⟩ := checkRename_ok checked
  obtain ⟨other, owner', path⟩ := resolvePath_some tracked resolved
  rw [owner] at owner'
  cases owner'
  have lodged := lodges _ obj tracked
  have place := follow_renamed newName lodged owner path above
  have beneath : Beneath (state.home storage)
      ((renamedPath obj.relPath newName).follow (state.home storage)) := by
    rw [place]
    refine ⟨(inside_of_valid valid).1, fun same => ?_⟩
    -- What lies in the backing directory cannot take its place.
    have source := lodged.beneath owner
    rw [← follow_home, ← path] at source
    exact source.2 (rename_outward made (by rw [same]; exact source.1) |>.trans same)
  have mem : obj.storageId ∈ state.worksOn .setObjectPropValue params := mem_ownerOf tracked
  refine ⟨?_, fun _ => beneath⟩
  apply Files.Host.rename_spares made (away_source lodges tracked resolved mem)
  rw [← place]
  exact away_of_beneath mem owner beneath

variable (host) in
theorem removePath_confined {path : Path} (lodges : state.Lodges)
    (checked : state.checkDeleteObject (param params 0) = .ok (obj, path)) :
    Spares (state.outside (state.worksOn .deleteObject params)) state.disk
      (removePath host state.disk path).2 := by
  obtain ⟨tracked, -, resolved⟩ := checkDeleteObject_ok checked
  exact removePath_spares (away_source lodges tracked resolved (mem_ownerOf tracked))

theorem Lodges.looks (lodges : state.Lodges) (looks : Looks host state after) : after.Lodges := by
  obtain ⟨reached, scanned, leaves⟩ := looks
  have found := Scanned.discovers scanned
  refine (found.lodges lodges).congr (leaves.storages.trans found.storages_eq.symm) ?_ ?_
  · rw [leaves.disk, found.disk_eq]
  · intro handle obj tracked
    rw [leaves.objects] at tracked
    exact Or.inl ⟨handle, obj, tracked, rfl⟩

variable (ids) in
theorem Lodges.leaves {count : Nat} {tracked : Objects} {upload : Option PendingSendInfo}
    {written : Disk} (lodges : state.Lodges)
    (leaves : state.Leaves after count tracked upload written)
    (spares : Spares (state.outside ids) state.disk written)
    (kept : ∀ handle obj, tracked.lookup handle = some obj →
      state.objects.lookup handle = some obj ∨ state.Lodged obj) :
    after.Lodges ∧ Spares (state.outside ids) state.disk after.disk := by
  constructor
  · refine lodges.congr leaves.storages ?_ fun handle obj found => ?_
    · rw [leaves.disk, spares.workingDirectory]
    · rw [leaves.objects] at found
      exact (kept handle obj found).imp_left fun there => ⟨handle, obj, there, rfl⟩
  · rw [leaves.disk]
    exact spares

theorem Confined.lodged {result : Bool × Disk} {parent : UInt32}
    (confined : Confined state ids storage relPath result) (done : result.1 = true)
    (found : state.findStorage id = some storage) : state.Lodged ⟨relPath, id, parent⟩ :=
  ⟨storage, found, confined.beneath done⟩

/-- An operation that does not replace a backing directory. -/
theorem Handled.confined (lodges : state.Lodges)
    (handled : Handled host state params dataPayload after op)
    (stays : state.replacesHome op params dataPayload = false) :
    after.Lodges ∧ Spares (state.outside (state.worksOn op params)) state.disk after.disk := by
  cases handled with
  | uploadUnmade _ _ leaves => exact lodges.leaves _ leaves (.refl _) fun _ _ => Or.inl
  | uploadFailed checked valid failed leaves =>
      have confined := create_confined host checked valid stays
      rw [failed] at confined
      exact lodges.leaves _ leaves confined.spares fun _ _ => Or.inl
  | uploadMade checked valid made leaves =>
      have confined := create_confined host checked valid stays
      rw [made] at confined
      refine lodges.leaves _ leaves confined.spares fun handle obj found => ?_
      rcases AList.lookup_insert_eq_some.mp found with ⟨-, rfl⟩ | ⟨-, there⟩
      · exact Or.inr (confined.lodged rfl (checkSendObjectInfo_ok checked).1)
      · exact Or.inl there
  | dataDropped leaves => exact lodges.leaves _ leaves (.refl _) fun _ _ => Or.inl
  | dataFailed waiting checked failed leaves =>
      have confined := send_confined host waiting checked stays
      rw [failed] at confined
      exact lodges.leaves _ leaves confined.spares fun _ _ => Or.inl
  | @dataWritten upload storage relPath disk waiting checked wrote leaves =>
      have confined := send_confined host waiting checked stays
      rw [wrote] at confined
      have found := (checkSendObject_ok checked).1
      have stamped : Spares (state.outside (state.worksOn .sendObject params)) state.disk
          (stamp host disk (storage.config.backingDir.join relPath) upload.modified) := by
        apply confined.spares.trans
        apply (stamp_builds _ _).toSpares
        rw [confined.spares.workingDirectory, follow_home]
        refine away_of_beneath ?_ found (confined.beneath rfl)
        rw [worksOn, waiting]
        exact List.mem_singleton_self _
      refine lodges.leaves _ leaves stamped fun handle obj tracked => ?_
      rcases AList.lookup_insert_eq_some.mp tracked with ⟨-, rfl⟩ | ⟨-, there⟩
      · exact Or.inr (confined.lodged rfl found)
      · exact Or.inl there
  | deleteFailed checked failed leaves =>
      have removed := removePath_confined host lodges checked
      rw [failed] at removed
      exact lodges.leaves _ leaves removed fun _ _ => Or.inl
  | deleted checked gone leaves =>
      have removed := removePath_confined host lodges checked
      rw [gone] at removed
      exact lodges.leaves _ leaves removed fun handle obj found =>
        Or.inl (AList.lookup_keep_eq_some.mp found).1
  | moveFailed checked failed leaves =>
      have confined := move_confined host lodges checked stays
      rw [failed] at confined
      exact lodges.leaves _ leaves confined.spares fun _ _ => Or.inl
  | moved checked made leaves =>
      have confined := move_confined host lodges checked stays
      rw [made] at confined
      refine lodges.leaves _ leaves confined.spares fun handle obj found => ?_
      rcases AList.lookup_modify_eq_some.mp found with ⟨_, -, -, rfl⟩ | ⟨-, there⟩
      · exact Or.inr (confined.lodged rfl (checkTransfer_ok checked).found)
      · exact Or.inl there
  | copyUntracked checked made leaves =>
      have confined := copy_confined host checked stays
      rw [made] at confined
      exact lodges.leaves _ leaves confined.spares fun _ _ => Or.inl
  | copied checked _ made leaves =>
      have confined := copy_confined host checked stays
      rw [made] at confined
      refine lodges.leaves _ leaves confined.spares fun handle obj found => ?_
      rcases AList.lookup_insert_eq_some.mp found with ⟨-, rfl⟩ | ⟨-, there⟩
      · exact Or.inr (confined.lodged rfl (checkTransfer_ok checked).found)
      · exact Or.inl there
  | renamed checked above owner valid made leaves =>
      have confined := rename_confined lodges checked above owner valid made
      have tracked := (checkRename_ok checked).1
      refine lodges.leaves _ leaves confined.spares fun handle obj found => ?_
      rcases AList.lookup_modify_eq_some.mp found with ⟨before, there, -, rfl⟩ | ⟨-, there⟩
      · rw [tracked] at there
        cases there
        exact Or.inr (confined.lodged rfl owner)
      · exact Or.inl there

theorem dispatch_confined {opCode : UInt16} {txId : UInt32} (lodges : state.Lodges)
    (stays : state.replacesHome (.ofCode opCode) params dataPayload = false)
    (dispatched : state.dispatch host opCode txId params dataPayload = some after) :
    after.Lodges ∧
      Spares (state.outside (state.worksOn (.ofCode opCode) params)) state.disk after.disk := by
  rcases dispatch_handled dispatched with looks | closed | ⟨-, handled⟩
  · refine ⟨lodges.looks looks, ?_⟩
    obtain ⟨reached, -, leaves⟩ := looks
    rw [leaves.disk]
    exact .refl _
  · refine lodges.leaves _ closed (.refl _) fun handle obj found => ?_
    cases found
  · exact handled.confined lodges stays

end

theorem Lodges.dropped (lodges : state.Lodges) : (state.dropped host).Lodges := by
  obtain ⟨lookup, -, -, disk, storages⟩ := dropStale_spec (state.staleHandles host) state
  refine lodges.congr storages ?_ fun handle obj found => ?_
  · rw [VirtualDeviceState.dropped, disk]
  · exact Or.inl ⟨handle, obj, ((lookup handle obj).mp found).1, rfl⟩

/-- One more object is tracked. -/
theorem Lodges.insert {handle : UInt32} (lodges : state.Lodges) (lodged : state.Lodged obj)
    (storages : after.storages = state.storages) (disk : after.disk = state.disk)
    (objects : after.objects = state.objects.insert handle obj) : after.Lodges := by
  refine lodges.congr storages (by rw [disk]) fun other found tracked => ?_
  rw [objects] at tracked
  rcases AList.lookup_insert_eq_some.mp tracked with ⟨-, rfl⟩ | ⟨-, there⟩
  · exact Or.inr lodged
  · exact Or.inl ⟨other, found, there, rfl⟩

theorem relativePath_of_plain {path : Path} (plain : isPlainPath path = true) :
    ∃ names, path = relativePath names := by
  obtain ⟨components⟩ := path
  induction components with
  | nil => exact ⟨[], rfl⟩
  | cons first rest ih =>
      rw [isPlainPath, List.all_cons, Bool.and_eq_true] at plain
      obtain ⟨isName, others⟩ := plain
      cases first with
      | normal name =>
          obtain ⟨names, same⟩ := ih others
          refine ⟨name :: names, ?_⟩
          rw [Files.Path.mk.injEq] at same
          rw [same]
          rfl
      | rootDir | curDir | parentDir => cases isName

theorem Lodges.noticed {storages : List (Path × UInt32)} {path : Path} (lodges : state.Lodges)
    (plain : state.strays storages path = false)
    (noticed : Noticed host storages state path after) : after.Lodges := by
  cases noticed with
  | ignored leaves =>
      exact (lodges.leaves [] leaves (.refl _) fun _ _ => Or.inl).1
  | created found below _ leaves =>
      rw [strays, found] at plain
      obtain ⟨isPlain, owned⟩ := Bool.or_eq_false_iff.mp plain
      obtain ⟨names, rfl⟩ := relativePath_of_plain (Bool.not_eq_eq_eq_not.mp isPlain)
      have some : names ≠ [] := by
        rintro rfl
        exact below rfl
      have owned := Option.isSome_iff_exists.mp (Option.isNone_eq_false_iff.mp owned)
      refine lodges.insert ?_ leaves.storages leaves.disk leaves.objects
      exact lodged_of_names some owned rfl
  | removed _ _ _ leaves =>
      exact (lodges.leaves [] leaves (.refl _) fun _ _ found =>
        Or.inl (AList.lookup_erase_eq_some.mp found).2).1

theorem Lodges.handleNotifyEvent {storages : List (Path × UInt32)} {kind : EventKind}
    {paths : List Path} (lodges : state.Lodges)
    (plain : paths.any (state.strays storages) = false) :
    (state.handleNotifyEvent host storages kind paths).Lodges := by
  refine handleNotifyEvent_closed (fun path mem reached last disk owners lodges noticed => ?_)
    lodges
  refine lodges.noticed ?_ noticed
  rw [List.any_eq_false] at plain
  have same : reached.strays storages path = state.strays storages path := by
    simp only [strays, disk, findStorage_congr owners]
  rw [same]
  exact Bool.not_eq_true _ ▸ plain path mem

theorem Lodges.rekeyObject (lodges : state.Lodges) (relPath : Path) :
    (state.rekeyObject host relPath).2.Lodges := by
  unfold VirtualDeviceState.rekeyObject
  split
  · exact lodges
  · next oldKey obj search =>
      have known : state.objects.lookup oldKey = some obj :=
        AList.mem_lookup_iff.mpr (Arrangement.find?_eq_some search).1
      refine lodges.congr rfl rfl fun handle child found => Or.inl ?_
      rw [AList.lookup_mapValues] at found
      obtain ⟨before, there, same⟩ := Option.map_eq_some_iff.mp found
      have pair : pairOf before = pairOf child := by
        rw [← same]
        split <;> rfl
      rcases AList.lookup_insert_eq_some.mp there with ⟨-, rfl⟩ | ⟨-, there⟩
      · exact ⟨oldKey, obj, known, pair⟩
      · exact ⟨handle, before, (AList.lookup_erase_eq_some.mp there).2, pair⟩

end

end VirtualDeviceState

/-- Something that would have a device reach beyond what lies in its backing directories. -/
def Occurrence.escapes (state : VirtualDeviceState) : Occurrence → Bool
  | operation opCode _ params dataPayload =>
      state.replacesHome (OperationCode.ofCode opCode) params dataPayload
  | notified storages _ paths => paths.any (state.strays storages)
  | changed disk => disk.workingDirectory != state.disk.workingDirectory
  | _ => false

section

variable {host : Host} {state next : VirtualDeviceState} {occurrence : Occurrence}

theorem Happens.lodges (happens : Happens host state occurrence next) (lodges : state.Lodges)
    (stays : occurrence.escapes state = false) : next.Lodges := by
  cases occurrence with
  | operation opCode txId params dataPayload =>
      exact (VirtualDeviceState.dispatch_confined lodges stays happens).1
  | scanDir storageId parent =>
      cases happens
      exact (VirtualDeviceState.scanDir_discovers rfl).lodges lodges
  | scanAll storageId =>
      obtain ⟨⟨result, reached⟩, listed, same⟩ := Option.map_eq_some_iff.mp happens
      cases same
      exact (VirtualDeviceState.Scanned.discovers
        (VirtualDeviceState.scanAll_scanned listed)).lodges lodges
  | rescan =>
      cases happens
      exact (VirtualDeviceState.rescanBackingDirs_discovers host state).lodges lodges.dropped
  | notified storages kind paths =>
      cases happens
      exact lodges.handleNotifyEvent stays
  | rekeyed relPath =>
      cases happens
      exact lodges.rekeyObject relPath
  | paused count =>
      cases happens
      exact lodges
  | changed disk =>
      cases happens
      exact lodges.congr rfl (bne_eq_false_iff_eq.mp stays) fun handle obj found =>
        Or.inl ⟨handle, obj, found, rfl⟩

/-- Where backing directories lie apart none of them lies below another. -/
theorem home_spared {ids : List UInt32} {after : Disk}
    (spares : Spares (state.outside ids) state.disk after)
    (apart : Apart state.storageConfigs state.disk.workingDirectory)
    {storage : VirtualStorageState} (mem : storage ∈ state.storages) :
    after.node (state.home storage) = state.disk.node (state.home storage) := by
  apply spares.node
  intro id _ other found beneath
  have different : other.config ≠ storage.config := by
    intro same
    apply beneath.2
    rw [VirtualDeviceState.home, VirtualDeviceState.home, same]
  exact (List.Pairwise.forall apart
    (List.mem_map_of_mem (VirtualDeviceState.findStorage_mem found).1)
    (List.mem_map_of_mem mem) different).1 beneath.1

end

/-- In every run on a disk without links in which nothing takes the place of a backing directory,
all that is tracked lies below the backing directory of its storage, and an operation changes
nothing but what lies below those of the storages it works on: none of the backing directories,
where they lie apart. -/
theorem below_backing_dirs (host : Host) (config : VirtualDeviceConfig) (disk : Disk)
    (occurrences : List Occurrence) (state : VirtualDeviceState)
    (run : Run (Restricted (fun state occurrence => occurrence.escapes state = false)
      (Happens host)) (.new config disk) occurrences state) :
    state.Lodges ∧ ∀ opCode txId params dataPayload next,
      state.replacesHome (OperationCode.ofCode opCode) params dataPayload = false →
        state.dispatch host opCode txId params dataPayload = some next →
          Spares (state.outside (state.worksOn (OperationCode.ofCode opCode) params)) state.disk
              next.disk ∧
            (Apart state.storageConfigs state.disk.workingDirectory →
              ∀ storage ∈ state.storages,
                next.disk.node (state.home storage) = state.disk.node (state.home storage)) := by
  have lodges : state.Lodges := run.invariant _
    (fun _ _ _ lodges taken => Happens.lodges taken.2 lodges taken.1)
    fun _ _ found => by cases found
  refine ⟨lodges, fun _ _ _ _ _ stays dispatched => ?_⟩
  have spares := (VirtualDeviceState.dispatch_confined lodges stays dispatched).2
  exact ⟨spares, fun apart _ mem => home_spared spares apart mem⟩

/-- A file `a` announced, its data sent and its name changed, and then its deletion. -/
theorem below_backing_dirs_deletion : ∃ occurrences state next,
    Run (Restricted (fun state occurrence => occurrence.escapes state = false)
      (Happens Host.usual)) (.new besideReadOnly twoBackings) occurrences state ∧
    state.objects.keys = [1] ∧ state.dispatch Host.usual 0x100B 5 [1] none = some next ∧
    next.objects.keys = [] ∧ state.Lodges ∧
    Spares (state.outside [0x00010001]) state.disk next.disk := by
  let sent : List Occurrence := [.operation 0x1002 1 [1] none,
    .operation 0x100C 2 [0x00010001, 0xFFFFFFFF] (some (announced 97)),
    .operation 0x100D 3 [] (some [1, 2, 3]),
    .operation 0x9804 4 [1, 0xDC07] (some [2, 98, 0, 0, 0])]
  have runs : ((sent.foldlM (fun state (occurrence : Occurrence) =>
      if occurrence.escapes state = false then occurrence.take Host.usual state else none)
      (.new besideReadOnly twoBackings)).bind fun state =>
        (state.dispatch Host.usual 0x100B 5 [1] none).map fun next =>
          decide (state.objects.keys = [1] ∧ next.objects.keys = [] ∧
            state.replacesHome (OperationCode.ofCode 0x100B) [1] none = false ∧
              state.worksOn (OperationCode.ofCode 0x100B) [1] = [0x00010001])) = some true := by
    decide +kernel
  obtain ⟨state, ran, rest⟩ := Option.bind_eq_some_iff.mp runs
  obtain ⟨next, dispatched, facts⟩ := Option.map_eq_some_iff.mp rest
  obtain ⟨one, gone, stays, works⟩ := of_decide_eq_true facts
  have run := Run.restricted_of_foldlM _ _ ran
  have below := below_backing_dirs Host.usual besideReadOnly twoBackings _ state run
  have spares := (below.2 _ _ _ _ next stays dispatched).1
  rw [works] at spares
  exact ⟨sent, state, next, run, one, dispatched, gone, below.1, spares⟩

end VirtualDevice
