import MtpRs.Lib.Contents
import MtpRs.VirtualDevice.Tree

set_option autoImplicit false

/- What an operation is aimed at, and the files it leaves as they are. -/
namespace VirtualDevice

open Files (Away Builds Content Disk Location Path Spares)
open Ptp (Bytes OperationCode)
open VirtualDeviceState (copyPath movePath)

namespace VirtualDeviceState

def aims (self : VirtualDeviceState) (op : OperationCode) (params : List UInt32)
    (dataPayload : Option Bytes) : List Path :=
  match op with
  | .sendObjectInfo =>
      match self.checkSendObjectInfo params dataPayload with
      | .error _ => []
      | .ok target => [target.fullPath]
  | .sendObject =>
      match self.pendingSend with
      | none => []
      | some upload =>
          match self.checkSendObject upload with
          | .error _ => []
          | .ok (storage, relPath) => [storage.config.backingDir.join relPath]
  | .deleteObject =>
      match self.checkDeleteObject (param params 0) with
      | .error _ => []
      | .ok (_, path) => [path]
  | .moveObject =>
      match self.checkTransfer true params with
      | .error _ => []
      | .ok transfer => [transfer.srcPath, transfer.destPath]
  | .copyObject =>
      match self.checkTransfer false params with
      | .error _ => []
      | .ok transfer => [transfer.destPath]
  | .setObjectPropValue =>
      match self.checkRename params dataPayload with
      | .error _ => []
      | .ok (_, oldPath, newName) =>
          match oldPath.parent with
          | none => [oldPath]
          | some directory => [oldPath, directory.join (.ofString newName)]
  | _ => []

/-- Whether a path leads to a place that another one goes through, or to what it lies in. -/
def crosses (self : VirtualDeviceState) (aim path : Path) : Bool :=
  (path.places self.disk.workingDirectory).any
    (aim.follow self.disk.workingDirectory).isPrefixOf

section

variable {host : Host} {state after : VirtualDeviceState} {params : List UInt32}
  {dataPayload : Option Bytes} {op : OperationCode} {path aim : Path}
  {region : Location → Prop}

theorem crosses_eq_false : state.crosses aim path = false ↔
    Away (· ∈ path.places state.disk.workingDirectory)
      (aim.follow state.disk.workingDirectory) := by
  rw [crosses, List.any_eq_false]
  constructor
  · intro none other below mem
    exact none other mem (List.isPrefixOf_iff_prefix.mpr below)
  · intro away place mem below
    exact away place (List.isPrefixOf_iff_prefix.mp below) mem

theorem crosses_self (path : Path) : state.crosses path path = true := by
  rw [crosses, List.any_eq_true]
  exact ⟨_, Files.follow_mem_places path _, List.isPrefixOf_iff_prefix.mpr (List.prefix_refl _)⟩

theorem sent_away {upload : PendingSendInfo} {storage : VirtualStorageState} {relPath : Path}
    (waiting : state.pendingSend = some upload)
    (checked : state.checkSendObject upload = .ok (storage, relPath))
    (away : ∀ aim ∈ state.aims .sendObject params dataPayload,
      Away region (aim.follow state.disk.workingDirectory)) :
    Away region
      ((storage.config.backingDir.join relPath).follow state.disk.workingDirectory) := by
  rw [aims, waiting] at away
  dsimp only at away
  rw [checked] at away
  exact away _ (List.mem_singleton_self _)

variable (host) in
theorem sent_builds {upload : PendingSendInfo} {storage : VirtualStorageState} {relPath : Path}
    (waiting : state.pendingSend = some upload)
    (checked : state.checkSendObject upload = .ok (storage, relPath))
    (away : ∀ aim ∈ state.aims .sendObject params dataPayload,
      Away region (aim.follow state.disk.workingDirectory)) :
    Builds region state.disk (writeInDir host state.disk
      (storage.config.backingDir.join relPath) (dataPayload.getD [])).2 :=
  writeInDir_builds _ (inside_of_valid (checkSendObject_ok checked).2).2
    (sent_away waiting checked away)

/-- Nothing changes on the disk but what an operation is aimed at, and what lies in that. -/
theorem Handled.spares (handled : Handled host state params dataPayload after op)
    (away : ∀ aim ∈ state.aims op params dataPayload,
      Away region (aim.follow state.disk.workingDirectory)) :
    Spares region state.disk after.disk := by
  cases handled with
  | uploadUnmade _ _ leaves | dataDropped leaves =>
      rw [leaves.disk]
      exact .refl _
  | @uploadFailed target _ checked valid result leaves
  | @uploadMade target _ checked valid result leaves =>
      rw [leaves.disk]
      rw [aims, checked] at away
      have made : Spares region state.disk (target.create host state.disk).2 :=
        SendTarget_create_spares (inside_of_valid valid).2 (away _ (List.mem_singleton_self _))
      rwa [result] at made
  | dataFailed waiting checked failed leaves =>
      have wrote := sent_builds host waiting checked away
      rw [failed] at wrote
      rw [leaves.disk]
      exact wrote.toSpares
  | @dataWritten upload storage relPath _ waiting checked made leaves =>
      have wrote := sent_builds host waiting checked away
      rw [made] at wrote
      rw [leaves.disk]
      refine (wrote.trans (stamp_builds _ ?_)).toSpares
      rw [wrote.workingDirectory]
      exact sent_away waiting checked away
  | @deleteFailed _ path _ checked result leaves | @deleted _ path _ checked result leaves =>
      rw [leaves.disk]
      rw [aims, checked] at away
      have removed : Spares region state.disk (removePath host state.disk path).2 :=
        removePath_spares (away _ (List.mem_singleton_self _))
      rwa [result] at removed
  | @moveFailed transfer _ checked result leaves | @moved transfer _ checked result leaves =>
      rw [leaves.disk]
      rw [aims, checked] at away
      have moved : Spares region state.disk
          (movePath host state.disk transfer.srcPath transfer.destPath).2 :=
        movePath_spares (inside_of_valid (checkTransfer_ok checked).valid).2
          (away _ (List.mem_cons_self ..))
          (away _ (List.mem_cons_of_mem _ (List.mem_singleton_self _)))
      rwa [result] at moved
  | @copyUntracked transfer _ _ checked result leaves
  | @copied transfer _ checked _ result leaves =>
      rw [leaves.disk]
      rw [aims, checked] at away
      have copied : Builds region state.disk
          (copyPath host state.disk transfer.srcPath transfer.destPath).2 :=
        copyPath_builds (inside_of_valid (checkTransfer_ok checked).valid).2
          (away _ (List.mem_singleton_self _))
      rw [result] at copied
      exact copied.toSpares
  | renamed checked above _ _ made leaves =>
      rw [leaves.disk]
      rw [aims, checked] at away
      dsimp only at away
      rw [above] at away
      exact Files.Host.rename_spares made (away _ (List.mem_cons_self ..))
        (away _ (List.mem_cons_of_mem _ (List.mem_singleton_self _)))

theorem dispatch_spares {opCode : UInt16} {txId : UInt32}
    (dispatched : state.dispatch host opCode txId params dataPayload = some after)
    (away : ∀ aim ∈ state.aims (.ofCode opCode) params dataPayload,
      Away region (aim.follow state.disk.workingDirectory)) :
    Spares region state.disk after.disk := by
  rcases dispatch_handled dispatched with ⟨_, -, leaves⟩ | closed | ⟨-, handled⟩
  · rw [leaves.disk]
    exact .refl _
  · rw [closed.disk]
    exact .refl _
  · exact handled.spares away

theorem Discovers.disk (found : Discovers state after) : after.disk = state.disk := by
  rw [found.same]

theorem Noticed.disk {storages : List (Path × UInt32)} {told : Path}
    (noticed : Noticed host storages state told after) : after.disk = state.disk := by
  cases noticed <;> (rename_i leaves; exact leaves.disk)

/-- A handle that is not to be given again, and denotes a path or nothing. -/
structure Stands (state : VirtualDeviceState) (handle : UInt32) (pair : UInt32 × Path) : Prop where
  given : handle.toNat < state.nextHandle
  finished : ∀ upload, state.pendingSend = some upload → upload.assignedHandle ≠ handle
  denotes : ∀ obj, state.objects.lookup handle = some obj → pairOf obj = pair

/-- A handle that is not to be given again and denotes nothing. -/
structure Spent (state : VirtualDeviceState) (handle : UInt32) : Prop where
  given : handle.toNat < state.nextHandle
  finished : ∀ upload, state.pendingSend = some upload → upload.assignedHandle ≠ handle
  nothing : state.objects.lookup handle = none

section

variable {handle : UInt32} {pair : UInt32 × Path} {obj : VirtualObject}

/-- A handle that has been given is not the next one. -/
theorem ne_next (given : handle.toNat < state.nextHandle)
    (bound : state.nextHandle + 1 ≤ 2 ^ 32) : handle ≠ UInt32.ofNat state.nextHandle := by
  rintro rfl
  rw [toNat_handle (by omega)] at given
  exact absurd given (Nat.lt_irrefl _)

/-- It stands for whatever one likes. -/
theorem Spent.stands (spent : state.Spent handle) (pair : UInt32 × Path) :
    state.Stands handle pair where
  given := spent.given
  finished := spent.finished
  denotes obj found := by
    rw [spent.nothing] at found
    cases found

theorem spent_of_stands (stands : ∀ pair, state.Stands handle pair) : state.Spent handle where
  given := (stands (0, .empty)).given
  finished := (stands (0, .empty)).finished
  nothing := by
    rw [Option.eq_none_iff_forall_ne_some]
    intro obj found
    have same := ((stands (0, .empty)).denotes obj found).symm.trans
      ((stands (1, .empty)).denotes obj found)
    exact absurd (Prod.mk.inj same).1 (by decide)

/-- It denotes what it did where objects keep their handles. -/
theorem Stands.kept (stands : state.Stands handle pair)
    (later : state.nextHandle ≤ after.nextHandle)
    (finished : ∀ upload, after.pendingSend = some upload → upload.assignedHandle ≠ handle)
    (kept : ∀ obj, after.objects.lookup handle = some obj →
      ∃ before, state.objects.lookup handle = some before ∧ pairOf before = pairOf obj) :
    after.Stands handle pair where
  given := Nat.lt_of_lt_of_le stands.given later
  finished := finished
  denotes obj found := by
    obtain ⟨before, there, same⟩ := kept obj found
    rw [← same]
    exact stands.denotes before there

/-- Another object gets the next handle. -/
theorem Stands.gives (stands : state.Stands handle pair)
    (next : after.nextHandle = state.nextHandle + 1) (bound : after.nextHandle ≤ 2 ^ 32)
    (finished : ∀ upload, after.pendingSend = some upload → upload.assignedHandle ≠ handle)
    (objects : after.objects = state.objects.insert (UInt32.ofNat state.nextHandle) obj) :
    after.Stands handle pair := by
  refine stands.kept (by omega) finished fun found tracked => ?_
  rw [objects, AList.lookup_insert_ne (ne_next stands.given (by omega))] at tracked
  exact ⟨found, tracked, rfl⟩

theorem Stands.of_discovers (stands : state.Stands handle pair) (found : Discovers state after)
    (bound : after.nextHandle ≤ 2 ^ 32) : after.Stands handle pair := by
  induction found with
  | refl => exact stands
  | queued _ _ _ ih => exact (ih bound).kept (Nat.le_refl _) (ih bound).finished fun obj found =>
      ⟨obj, found, rfl⟩
  | @entry reached obj before owned fresh named known ih =>
      have held := ih (Nat.le_of_succ_le bound)
      exact held.gives rfl bound held.finished rfl

theorem Stands.rekeyObject (stands : state.Stands handle pair) (relPath : Path)
    (bound : (state.rekeyObject host relPath).2.nextHandle ≤ 2 ^ 32) :
    (state.rekeyObject host relPath).2.Stands handle pair := by
  unfold VirtualDeviceState.rekeyObject at bound ⊢
  split at bound
  · exact stands
  · next oldKey obj search =>
      refine stands.kept (Nat.le_succ _) stands.finished fun found tracked => ?_
      rw [AList.lookup_mapValues] at tracked
      obtain ⟨before, there, same⟩ := Option.map_eq_some_iff.mp tracked
      have bound : state.nextHandle + 1 ≤ 2 ^ 32 := bound
      rw [allocHandle, AList.lookup_insert_ne (ne_next stands.given bound)] at there
      refine ⟨before, (AList.lookup_erase_eq_some.mp there).2, ?_⟩
      rw [← same]
      split <;> rfl

theorem Stands.noticed {storages : List (Path × UInt32)} {told : Path}
    (stands : state.Stands handle pair) (noticed : Noticed host storages state told after)
    (bound : after.nextHandle ≤ 2 ^ 32) : after.Stands handle pair := by
  cases noticed with
  | ignored leaves =>
      refine stands.kept (Nat.le_of_eq leaves.nextHandle.symm) ?_ fun obj found => ?_
      · rw [leaves.pendingSend]
        exact stands.finished
      · rw [leaves.objects] at found
        exact ⟨obj, found, rfl⟩
  | created _ _ _ leaves =>
      refine stands.gives leaves.nextHandle bound ?_ leaves.objects
      rw [leaves.pendingSend]
      exact stands.finished
  | removed _ _ _ leaves =>
      refine stands.kept (Nat.le_of_eq leaves.nextHandle.symm) ?_ fun obj found => ?_
      · rw [leaves.pendingSend]
        exact stands.finished
      · rw [leaves.objects] at found
        exact ⟨obj, (AList.lookup_erase_eq_some.mp found).2, rfl⟩

/-- An operation for another object. -/
theorem Handled.stands_of (handled : Handled host state params dataPayload after op)
    (stands : state.Stands handle pair)
    (apart : ∀ {obj path}, state.objects.lookup (param params 0) = some obj →
      state.resolvePath (param params 0) = some path →
        path ∈ state.aims op params dataPayload → handle ≠ param params 0)
    (bound : after.nextHandle ≤ 2 ^ 32) : after.Stands handle pair := by
  have same : ∀ {upload disk count}, (upload = none ∨ upload = state.pendingSend) →
      state.nextHandle ≤ count → state.Leaves after count state.objects upload disk →
        after.Stands handle pair := by
    intro upload disk count pending later leaves
    refine stands.kept (leaves.nextHandle ▸ later) (fun waits waiting => ?_) fun obj found => ?_
    · rw [leaves.pendingSend] at waiting
      rcases pending with rfl | rfl
      · cases waiting
      · exact stands.finished waits waiting
    · rw [leaves.objects] at found
      exact ⟨obj, found, rfl⟩
  have modified : ∀ {obj path change upload disk},
      state.objects.lookup (param params 0) = some obj →
        state.resolvePath (param params 0) = some path →
          path ∈ state.aims op params dataPayload → upload = state.pendingSend →
            state.Leaves after state.nextHandle
              (state.objects.modify (param params 0) change) upload disk →
                after.Stands handle pair := by
    rintro obj path change upload disk tracked resolved mem rfl leaves
    refine stands.kept (Nat.le_of_eq leaves.nextHandle.symm) ?_ fun found there => ?_
    · rw [leaves.pendingSend]
      exact stands.finished
    · rw [leaves.objects, AList.lookup_modify_ne (apart tracked resolved mem)] at there
      exact ⟨found, there, rfl⟩
  cases handled with
  | uploadUnmade _ _ leaves => exact same (Or.inl rfl) (Nat.le_succ _) leaves
  | uploadFailed _ _ _ leaves => exact same (Or.inl rfl) (Nat.le_succ _) leaves
  | uploadMade checked valid made leaves =>
      refine stands.gives leaves.nextHandle bound (fun upload waiting => ?_) leaves.objects
      rw [leaves.pendingSend] at waiting
      rw [leaves.nextHandle] at bound
      split at waiting
      · cases waiting
      · cases waiting
        exact (ne_next stands.given bound).symm
  | dataDropped leaves => exact same (Or.inl rfl) (Nat.le_refl _) leaves
  | dataFailed _ _ _ leaves => exact same (Or.inl rfl) (Nat.le_refl _) leaves
  | dataWritten waiting _ _ leaves =>
      refine stands.kept (Nat.le_of_eq leaves.nextHandle.symm) (fun upload waits => ?_)
        fun obj found => ?_
      · rw [leaves.pendingSend] at waits
        cases waits
      · rw [leaves.objects, AList.lookup_insert_ne (stands.finished _ waiting).symm] at found
        exact ⟨obj, found, rfl⟩
  | deleteFailed _ _ leaves => exact same (Or.inr rfl) (Nat.le_refl _) leaves
  | deleted _ _ leaves =>
      refine stands.kept (Nat.le_of_eq leaves.nextHandle.symm) ?_ fun obj found => ?_
      · rw [leaves.pendingSend]
        exact stands.finished
      · rw [leaves.objects] at found
        exact ⟨obj, (AList.lookup_keep_eq_some.mp found).1, rfl⟩
  | moveFailed _ _ leaves => exact same (Or.inr rfl) (Nat.le_refl _) leaves
  | moved checked _ leaves =>
      have kinds := checkTransfer_ok checked
      refine modified kinds.tracked kinds.resolved ?_ rfl leaves
      rw [aims, checked]
      exact List.mem_cons_self ..
  | copyUntracked _ _ leaves => exact same (Or.inr rfl) (Nat.le_refl _) leaves
  | copied _ _ _ leaves =>
      refine stands.gives leaves.nextHandle bound ?_ leaves.objects
      rw [leaves.pendingSend]
      exact stands.finished
  | renamed checked above _ _ _ leaves =>
      obtain ⟨tracked, -, resolved⟩ := checkRename_ok checked
      refine modified tracked resolved ?_ rfl leaves
      rw [aims, checked]
      dsimp only
      rw [above]
      exact List.mem_cons_self ..

/-- An operation aimed elsewhere is not for an object: the object's path crosses itself. -/
theorem Stands.apart {storage : VirtualStorageState} {storageId : UInt32} {relPath path : Path}
    (stands : state.Stands handle (storageId, relPath))
    (owner : state.findStorage storageId = some storage)
    (spared : (state.aims op params dataPayload).any
      (state.crosses · (storage.config.backingDir.join relPath)) = false)
    (tracked : state.objects.lookup (param params 0) = some obj)
    (resolved : state.resolvePath (param params 0) = some path)
    (mem : path ∈ state.aims op params dataPayload) : handle ≠ param params 0 := by
  rintro rfl
  obtain ⟨sameStorage, samePath⟩ := Prod.mk.inj (stands.denotes obj tracked)
  obtain ⟨other, found, rfl⟩ := resolvePath_some tracked resolved
  rw [sameStorage, owner, Option.some.injEq] at found
  have crossed := List.any_eq_false.mp spared _ mem
  rw [← found, samePath] at crossed
  exact crossed (crosses_self _)

end

end

end VirtualDeviceState

/-- An occurrence aimed at a file or at what it lies in, or a change of the file from outside. -/
def Occurrence.reaches (state : VirtualDeviceState) (path : Path) : Occurrence → Bool
  | operation opCode _ params dataPayload =>
      (state.aims (OperationCode.ofCode opCode) params dataPayload).any (state.crosses · path)
  | changed disk => disk.contents path != state.disk.contents path
  | _ => false

section

variable {host : Host} {state next : VirtualDeviceState} {occurrence : Occurrence} {path : Path}

/-- A file is what it was after what is not aimed at it. -/
theorem Happens.contents (happens : Happens host state occurrence next)
    (spared : occurrence.reaches state path = false) :
    next.disk.contents path = state.disk.contents path := by
  cases occurrence with
  | operation opCode txId params dataPayload =>
      have spares := VirtualDeviceState.dispatch_spares happens fun aim mem =>
        VirtualDeviceState.crosses_eq_false.mp
          (Bool.not_eq_true _ ▸ List.any_eq_false.mp spared aim mem)
      rw [Disk.contents, spares.metadata, Disk.contents]
  | scanDir storageId parent =>
      cases happens
      have found : state.Discovers (state.scanDir host storageId parent).2 :=
        VirtualDeviceState.scanDir_discovers rfl
      rw [found.disk]
  | scanAll storageId =>
      obtain ⟨⟨result, reached⟩, listed, same⟩ := Option.map_eq_some_iff.mp happens
      cases same
      have found := VirtualDeviceState.Scanned.discovers
        (VirtualDeviceState.scanAll_scanned listed)
      rw [found.disk]
  | rescan =>
      cases happens
      rw [(VirtualDeviceState.rescanBackingDirs_discovers host state).disk,
        VirtualDeviceState.dropped, VirtualDeviceState.dropStale_same]
  | notified storages kind paths =>
      cases happens
      have same : (state.handleNotifyEvent host storages kind paths).disk = state.disk :=
        VirtualDeviceState.handleNotifyEvent_closed
          (fun _ _ {reached _} _ _ (kept : reached.disk = state.disk) noticed =>
            noticed.disk.trans kept) rfl
      rw [same]
  | rekeyed relPath =>
      cases happens
      unfold VirtualDeviceState.rekeyObject
      split <;> rfl
  | paused count =>
      cases happens
      rfl
  | changed disk =>
      cases happens
      exact bne_eq_false_iff_eq.mp spared

/-- A handle stands for what it stood for after what is not for its object. -/
theorem Happens.stands_of {handle : UInt32} {pair : UInt32 × Path}
    (happens : Happens host state occurrence next) (stands : state.Stands handle pair)
    (apart : ∀ {opCode txId params dataPayload obj path},
      occurrence = .operation opCode txId params dataPayload →
        state.objects.lookup (param params 0) = some obj →
          state.resolvePath (param params 0) = some path →
            path ∈ state.aims (.ofCode opCode) params dataPayload → handle ≠ param params 0)
    (bound : next.nextHandle ≤ 2 ^ 32) : next.Stands handle pair := by
  cases occurrence with
  | operation opCode txId params dataPayload =>
      rcases VirtualDeviceState.dispatch_handled happens with looks | closed | ⟨-, handled⟩
      · obtain ⟨reached, scanned, leaves⟩ := looks
        have found := VirtualDeviceState.Scanned.discovers scanned
        have held := stands.of_discovers found (leaves.nextHandle ▸ bound)
        refine held.kept (Nat.le_of_eq leaves.nextHandle.symm) ?_ fun obj found => ?_
        · rw [leaves.pendingSend]
          exact stands.finished
        · rw [leaves.objects] at found
          exact ⟨obj, found, rfl⟩
      · refine stands.kept (Nat.le_of_eq closed.nextHandle.symm) (fun upload waits => ?_)
          fun obj found => ?_
        · rw [closed.pendingSend] at waits
          cases waits
        · rw [closed.objects] at found
          cases found
      · exact handled.stands_of stands (apart rfl) bound
  | scanDir storageId parent =>
      cases happens
      exact stands.of_discovers (VirtualDeviceState.scanDir_discovers rfl) bound
  | scanAll storageId =>
      obtain ⟨⟨result, reached⟩, listed, same⟩ := Option.map_eq_some_iff.mp happens
      cases same
      exact stands.of_discovers (VirtualDeviceState.Scanned.discovers
        (VirtualDeviceState.scanAll_scanned listed)) bound
  | rescan =>
      cases happens
      refine VirtualDeviceState.Stands.of_discovers ?_
        (VirtualDeviceState.rescanBackingDirs_discovers host state) bound
      obtain ⟨lookup, -, later, -⟩ :=
        VirtualDeviceState.dropStale_spec (state.staleHandles host) state
      refine stands.kept (Nat.le_of_eq later.symm) ?_ fun obj found =>
        ⟨obj, ((lookup _ obj).mp found).1, rfl⟩
      rw [VirtualDeviceState.dropped, VirtualDeviceState.dropStale_same]
      exact stands.finished
  | notified storages kind paths =>
      cases happens
      exact VirtualDeviceState.handleNotifyEvent_closed
        (fun _ _ {reached _} _ _
            (held : reached.nextHandle ≤ 2 ^ 32 → reached.Stands handle pair)
            noticed last => (held (noticed.nextHandle_le.trans last)).noticed noticed last)
        (fun _ => stands) bound
  | rekeyed relPath =>
      cases happens
      exact stands.rekeyObject relPath bound
  | paused count =>
      cases happens
      exact stands.kept (Nat.le_refl _) stands.finished fun obj found => ⟨obj, found, rfl⟩
  | changed disk =>
      cases happens
      exact stands.kept (Nat.le_refl _) stands.finished fun obj found => ⟨obj, found, rfl⟩

/-- A handle stands for the file it stood for after what is not aimed at the file. -/
theorem Happens.stands {handle storageId : UInt32} {relPath : Path} {storage : VirtualStorageState}
    (happens : Happens host state occurrence next)
    (stands : state.Stands handle (storageId, relPath))
    (owner : state.findStorage storageId = some storage)
    (spared : occurrence.reaches state (storage.config.backingDir.join relPath) = false)
    (bound : next.nextHandle ≤ 2 ^ 32) : next.Stands handle (storageId, relPath) := by
  refine happens.stands_of stands (fun {_ _ _ _ obj path} same tracked resolved mem => ?_) bound
  subst same
  exact stands.apart owner spared tracked resolved mem

/-- One that denotes nothing does so after whatever happens. -/
theorem Happens.spent {handle : UInt32} (happens : Happens host state occurrence next)
    (spent : state.Spent handle) (bound : next.nextHandle ≤ 2 ^ 32) : next.Spent handle := by
  refine VirtualDeviceState.spent_of_stands fun pair =>
    happens.stands_of (spent.stands pair) (fun {_ _ params _ obj _} _ tracked _ _ => ?_) bound
  rintro rfl
  rw [spent.nothing] at tracked
  cases tracked

end

end VirtualDevice
