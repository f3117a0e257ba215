import MtpRs.VirtualDevice.ReadOnly
import MtpRs.VirtualDevice.StoredTimes

set_option autoImplicit false

/- Folders moved or copied into themselves. -/
namespace VirtualDevice

open Files (Builds Component Disk Location Name Path)
open Ptp (Bytes OperationCode)
open Runs (Run)
open VirtualDeviceState (Transfer checkTransfer clashes copyPath movePath resolvePath)

/-- Whether a directory can be made at a path: nothing is there, its name is not too long, and the
host lets it. -/
def canMake (host : Host) (disk : Disk) (path : Path) : Bool :=
  decide (0 < host.files.nesting) && (disk.locate path).any fun location =>
    (disk.node location).isNone && (host.files.refuses disk (.mkdir location)).isNone

section

variable {host : Host} {disk : Disk} {src dst parent : Path} {source location : Location}
  {name : Name}

theorem directoryAt_of_none (empty : (disk.node location).isNone = true) :
    disk.directoryAt location = false := by
  rw [Option.isNone_iff_eq_none] at empty
  rw [Disk.directoryAt, Files.directoryIn, empty]
  rfl

/-- A directory that cannot be made stops a copy before it starts. -/
theorem copyDirAll_stopped (located : disk.locate parent = some location)
    (directory : disk.directoryAt location = true)
    (other : disk.isDirectory (parent.child name) = false)
    (stopped : canMake host disk (parent.child name) = false) :
    copyDirAll host disk src (parent.child name) = (false, disk) := by
  have isDirectory := Disk.isDirectory_iff.mpr ⟨location, located, directory⟩
  unfold copyDirAll
  cases depth : host.files.nesting with
  | zero => rfl
  | succ fuel =>
      have made : (disk.locate (parent.child name)).bind (host.files.mkdirAt disk) = none := by
        rw [Disk.locate_child located directory, Option.bind_some, Files.Host.mkdirAt, dif_neg]
        intro ready
        rw [canMake, depth, Disk.locate_child located directory] at stopped
        simp [ready.2.2.1, ready.2.2.2] at stopped
      rw [copyDirAllWithin, Files.Host.createDirAll_child isDirectory, other, made]
      rfl

/-- One that can be is there after it. -/
theorem copyDirAll_leaves (located : disk.locate parent = some location)
    (directory : disk.directoryAt location = true)
    (other : disk.isDirectory (parent.child name) = false)
    (makes : canMake host disk (parent.child name) = true) :
    (disk.node (location ++ [name])).isNone = true ∧
      ((copyDirAll host disk src (parent.child name)).2.node (location ++ [name])).isSome =
        true := by
  have isDirectory := Disk.isDirectory_iff.mpr ⟨location, located, directory⟩
  have place := Disk.locate_child located directory name
  have nonempty : location ++ [name] ≠ [] := List.concat_ne_nil name location
  unfold canMake at makes
  rw [place, Option.any_some, Bool.and_eq_true, Bool.and_eq_true, decide_eq_true_eq] at makes
  obtain ⟨deep, empty, allowed⟩ := makes
  obtain ⟨fuel, depth⟩ := Nat.exists_eq_succ_of_ne_zero (Nat.ne_of_gt deep)
  have room : disk.hasRoom (location ++ [name]) = true := by
    rw [Disk.hasRoom, List.dropLast_concat, directory, Bool.and_true]
    exact bne_iff_ne.mpr nonempty
  obtain ⟨made, making⟩ : ∃ made, host.files.mkdirAt disk (location ++ [name]) = some made := by
    unfold Files.Host.mkdirAt
    rw [dif_pos ⟨room, directoryAt_of_none empty, empty, Option.isNone_iff_eq_none.mp allowed⟩]
    exact ⟨_, rfl⟩
  have grown : Builds (fun _ => False) disk made := Files.Host.mkdirAt_builds making fun _ _ => id
  have there := (Files.Host.mkdirAt_some making).2
  have again : made.isDirectory (parent.child name) = true :=
    Disk.isDirectory_iff.mpr ⟨_, grown.locate place, there⟩
  -- With the directory there from the start the copy goes on in the same way.
  have same : copyDirAllWithin host (fuel + 1) disk src (parent.child name) =
      copyDirAllWithin host (fuel + 1) made src (parent.child name) := by
    rw [copyDirAllWithin, copyDirAllWithin, Files.Host.createDirAll_child isDirectory, other, place,
      Option.bind_some, making,
      Files.Host.createDirAll_child (grown.isDirectory isDirectory), again]
    rfl
  have copied : Builds (fun _ => False) made
      (copyDirAllWithin host (fuel + 1) made src (parent.child name)).2 :=
    copyDirAllWithin_builds _ (Or.inl (Disk.present_of_isDirectory again)) fun _ _ => id
  refine ⟨empty, ?_⟩
  rw [copyDirAll, depth, same]
  exact copied.present _ (Disk.present_of_directoryAt there)

/-- No directory is renamed into itself. -/
theorem rename_inside {target : Location} (from_src : disk.locate src = some source)
    (directory : disk.directoryAt source = true) (to_dst : disk.locate dst = some target)
    (inside : source <+: target) (apart : source ≠ target) :
    host.files.rename disk src dst = none := by
  have there : (disk.node source).isNone = false := by
    rw [Option.isNone_eq_false_iff]
    exact Disk.present_of_directoryAt directory
  rw [Files.Host.rename, from_src, to_dst]
  dsimp only
  rw [Files.Host.renameAt, there, if_neg (by decide), if_neg apart, dif_neg]
  intro ready
  exact ready.1.2.2 inside

end

/-- A request was refused and nothing is different. -/
structure Harmless (before after : VirtualDeviceState) (txId : UInt32) : Prop where
  refused : ∃ code params, code ≠ Code.ok ∧
    after.responseQueue = before.responseQueue ++ [buildResponse code txId params]
  disk : after.disk.node = before.disk.node
  objects : after.objects = before.objects

namespace VirtualDeviceState

def pathIn (self : VirtualDeviceState) (storageId handle : UInt32) : Option Path :=
  match self.objects.lookup handle, self.findStorage storageId with
  | some obj, some storage =>
      if obj.storageId = storageId then some (storage.config.backingDir.join obj.relPath) else none
  | _, _ => none

/-- A tracked folder, and one that is the same or lies anywhere below it. Zero is the handle of no
folder: it stands for the root of a storage. -/
structure Below (state : VirtualDeviceState) (storageId folder inner : UInt32) : Prop where
  named : inner ≠ handleRoot
  nested : ∃ outerPath innerPath outer place, state.pathIn storageId folder = some outerPath ∧
    state.pathIn storageId inner = some innerPath ∧ state.disk.locate outerPath = some outer ∧
    state.disk.locate innerPath = some place ∧ state.disk.directoryAt outer = true ∧
    state.disk.directoryAt place = true ∧ outer <+: place

/-- Whether a transfer is refused before it starts, or finds its target taken by what is no folder,
or no folder can be made there. -/
def heldBack (host : Host) (self : VirtualDeviceState) (moves : Bool) (params : List UInt32) :
    Bool :=
  !self.sessionOpen ||
    match self.checkTransfer moves params with
    | .error _ => true
    | .ok transfer =>
        !self.disk.isDirectory transfer.destPath && !canMake host self.disk transfer.destPath

/-- Whether a folder is at the target of a transfer already. -/
def meetsFolder (self : VirtualDeviceState) (moves : Bool) (params : List UInt32) : Bool :=
  match self.checkTransfer moves params with
  | .error _ => false
  | .ok transfer => self.disk.isDirectory transfer.destPath

section

variable {self : VirtualDeviceState} {storageId handle : UInt32} {moves : Bool}
  {params : List UInt32}
  {transfer : Transfer} {path outerPath innerPath : Path}

theorem pathIn_some (there : self.pathIn storageId handle = some path) :
    ∃ obj storage, self.objects.lookup handle = some obj ∧ obj.storageId = storageId ∧
      self.findStorage storageId = some storage ∧
      path = storage.config.backingDir.join obj.relPath := by
  unfold pathIn at there
  split at there
  · next obj storage tracked found =>
      split at there
      · next same =>
          cases there
          exact ⟨obj, storage, tracked, same, found, rfl⟩
      · cases there
  · cases there

theorem join_fileNamePath (base relPath objPath : Path) :
    (∃ name, base.join (relPath.join objPath.fileNamePath) = (base.join relPath).child name) ∨
      base.join (relPath.join objPath.fileNamePath) = base.join relPath := by
  unfold Path.fileNamePath
  cases objPath.fileName with
  | none =>
      right
      have same : relPath.join Path.empty = relPath := by
        obtain ⟨components⟩ := relPath
        cases components with
        | nil => rfl
        | cons first rest => simp [Path.join, Path.isAbsolute, Path.empty]
      rw [same]
  | some name =>
      left
      have joined : relPath.join ⟨[.normal name]⟩ = ⟨relPath.components ++ [.normal name]⟩ := by
        obtain ⟨components⟩ := relPath
        cases components <;> simp [Path.join, Path.isAbsolute]
      have plain : Component.normal name ≠ .rootDir ∧ Component.normal name ≠ .curDir :=
        ⟨by simp, by simp⟩
      refine ⟨name, ?_⟩
      rw [joined, Path.join_concat (Or.inr plain)]
      rfl

/-- The paths of a transfer into a folder: the target is in the folder, unless the object has no
name. -/
theorem checkTransfer_paths (checked : self.checkTransfer moves params = .ok transfer)
    (named : param params 2 ≠ handleRoot)
    (outerIs : self.pathIn (param params 1) (param params 0) = some outerPath)
    (innerIs : self.pathIn (param params 1) (param params 2) = some innerPath) :
    transfer.srcPath = outerPath ∧
      ((∃ name, transfer.destPath = innerPath.child name) ∨ transfer.destPath = innerPath) := by
  obtain ⟨obj, storage, tracked, owner, found, rfl⟩ := pathIn_some outerIs
  obtain ⟨parentObj, storage', tracked', owner', found', rfl⟩ := pathIn_some innerIs
  rw [found] at found'
  cases found'
  have resolved : self.resolvePath (param params 0) =
      some (storage.config.backingDir.join obj.relPath) := by
    rw [resolvePath, tracked]
    dsimp only
    rw [owner, found]
    rfl
  unfold checkTransfer at checked
  simp only [tracked, resolved, found, tracked', if_neg named, bind, Except.bind] at checked
  split at checked
  · cases checked
  · split at checked
    · cases checked
    · cases checked
      exact ⟨rfl, join_fileNamePath _ _ _⟩

theorem checkTransfer_error {code : UInt16}
    (refused : self.checkTransfer moves params = .error code) :
    code ≠ Code.ok := by
  unfold checkTransfer at refused
  simp only [bind, Except.bind] at refused
  repeat' split at refused
  all_goals cases refused
  all_goals decide

theorem harmless_respond {code : UInt16} {txId : UInt32} {sent : List UInt32}
    (refused : code ≠ Code.ok) : Harmless self (self.respond code txId sent) txId :=
  ⟨⟨code, sent, refused, rfl⟩, rfl, rfl⟩

end

section

variable {host : Host} {self : VirtualDeviceState} {txId : UInt32} {params : List UInt32}
  {transfer : Transfer}

theorem handleMoveObject_stopped (checked : self.checkTransfer true params = .ok transfer)
    (stopped : movePath host self.disk transfer.srcPath transfer.destPath = (false, self.disk)) :
    Harmless self (self.handleMoveObject host txId params) txId := by
  unfold handleMoveObject
  simp only [checked, stopped]
  exact harmless_respond (by decide)

theorem handleCopyObject_stopped (checked : self.checkTransfer false params = .ok transfer)
    (stopped : copyPath host self.disk transfer.srcPath transfer.destPath = (false, self.disk)) :
    Harmless self (self.handleCopyObject host txId params) txId := by
  unfold handleCopyObject
  simp only [checked, stopped, Bool.false_and, Bool.false_eq_true, ↓reduceIte]
  split
  · exact harmless_respond (by decide)
  · exact harmless_respond (by decide)

/-- A move that is refused leaves the disk as its rename or its copy did. -/
theorem handleMoveObject_refused (checked : self.checkTransfer true params = .ok transfer)
    (harmless : Harmless self (self.handleMoveObject host txId params) txId) :
    ∃ disk, movePath host self.disk transfer.srcPath transfer.destPath = (false, disk) ∧
      disk.node = self.disk.node := by
  obtain ⟨⟨code, sent, refused, answered⟩, same, -⟩ := harmless
  cases moved : movePath host self.disk transfer.srcPath transfer.destPath with
  | mk done disk =>
      unfold handleMoveObject at answered same
      simp only [checked, moved] at answered same
      cases done with
      | false => exact ⟨disk, rfl, same⟩
      | true =>
          have told : buildResponse Code.ok txId [] = buildResponse code txId sent := by
            dsimp only at answered
            split at answered
            · exact List.singleton_inj.mp (List.append_cancel_left answered)
            · exact List.singleton_inj.mp (List.append_cancel_left answered)
          exact absurd (buildResponse_inj told).1.symm refused

theorem handleCopyObject_disk (checked : self.checkTransfer false params = .ok transfer) :
    (self.handleCopyObject host txId params).disk =
      (copyPath host self.disk transfer.srcPath transfer.destPath).2 := by
  unfold handleCopyObject
  simp only [checked]
  split
  · rfl
  · split
    · rfl
    · rfl

end

end VirtualDeviceState

open VirtualDeviceState

def transferOperation (moves : Bool) : OperationCode := if moves then .moveObject else .copyObject

theorem dispatch_transfer (host : Host) (self : VirtualDeviceState) (moves : Bool) (txId : UInt32)
    (params : List UInt32) :
    self.dispatch host (transferOperation moves).toCode txId params none =
      if self.sessionOpen = false then some (self.respond Code.sessionNotOpen txId [])
      else some (if moves then self.handleMoveObject host txId params
        else self.handleCopyObject host txId params) := by
  cases moves <;> rfl

section

variable {host : Host} {self : VirtualDeviceState} {moves : Bool} {params : List UInt32}
  {txId : UInt32} {transfer : Transfer}

/-- Where no folder is yet at the target, it lies in the folder that is moved, and no rename takes
it there. -/
theorem inward_transfer (host : Host) (checked : self.checkTransfer moves params = .ok transfer)
    (below : self.Below (param params 1) (param params 0) (param params 2))
    (other : self.disk.isDirectory transfer.destPath = false) :
    self.disk.isDirectory transfer.srcPath = true ∧
      host.files.rename self.disk transfer.srcPath transfer.destPath = none ∧
      ∃ parent place name, transfer.destPath = parent.child name ∧
        self.disk.locate parent = some place ∧ self.disk.directoryAt place = true := by
  obtain ⟨outerPath, innerPath, outer, place, outerIs, innerIs, outerAt, innerAt, isOuter, isInner,
    inside⟩ := below.nested
  obtain ⟨source, target⟩ := checkTransfer_paths checked below.named outerIs innerIs
  rcases target with ⟨name, target⟩ | target
  · have longer : outer ≠ place ++ [name] := by
      intro same
      have shorter := inside.length_le
      rw [same, List.length_append, List.length_singleton] at shorter
      omega
    rw [source, target]
    exact ⟨Disk.isDirectory_iff.mpr ⟨outer, outerAt, isOuter⟩,
      rename_inside outerAt isOuter (Disk.locate_child innerAt isInner name)
        (inside.trans (List.prefix_append ..)) longer,
      innerPath, place, name, rfl, innerAt, isInner⟩
  · rw [target, Disk.isDirectory_iff.mpr ⟨place, innerAt, isInner⟩] at other
    cases other

/-- A transfer whose copy is stopped is refused and leaves no trace. -/
theorem transfer_stopped (checked : self.checkTransfer moves params = .ok transfer)
    (isDirectory : self.disk.isDirectory transfer.srcPath = true)
    (refused : host.files.rename self.disk transfer.srcPath transfer.destPath = none)
    (stopped : copyDirAll host self.disk transfer.srcPath transfer.destPath =
      (false, self.disk)) :
    Harmless self (if moves then self.handleMoveObject host txId params
      else self.handleCopyObject host txId params) txId := by
  cases moves with
  | false =>
      apply handleCopyObject_stopped checked
      rw [copyPath, if_pos isDirectory, stopped]
  | true =>
      apply handleMoveObject_stopped checked
      rw [movePath, refused]
      simp only [isDirectory, ↓reduceIte, stopped, Bool.false_eq_true]

/-- One whose copy puts something new on the disk is not refused, or leaves it there. -/
theorem transfer_leaves {location : Location}
    (checked : self.checkTransfer moves params = .ok transfer)
    (isDirectory : self.disk.isDirectory transfer.srcPath = true)
    (refused : host.files.rename self.disk transfer.srcPath transfer.destPath = none)
    (empty : (self.disk.node location).isNone = true)
    (filled : ((copyDirAll host self.disk transfer.srcPath transfer.destPath).2.node
      location).isSome = true) :
    ¬ Harmless self (if moves then self.handleMoveObject host txId params
      else self.handleCopyObject host txId params) txId := by
  intro harmless
  cases moves with
  | false =>
      have same := harmless.disk
      rw [if_neg Bool.false_ne_true, handleCopyObject_disk checked, copyPath, if_pos isDirectory]
        at same
      rw [same, Option.isSome_eq_false_iff.mpr empty] at filled
      cases filled
  | true =>
      obtain ⟨disk, moved, same⟩ := handleMoveObject_refused checked harmless
      rw [movePath, refused] at moved
      simp only [isDirectory, ↓reduceIte] at moved
      split at moved
      · cases moved
      · have left : (copyDirAll host self.disk transfer.srcPath transfer.destPath).2 = disk :=
          (Prod.mk.inj moved).2
        rw [left, same, Option.isSome_eq_false_iff.mpr empty] at filled
        cases filled

end

/-- A folder moved or copied into itself: it is refused and leaves no trace where the transfer is
held back, and not otherwise, unless a folder of its name is there already. -/
theorem folder_into_itself (host : Host) (self : VirtualDeviceState) (moves : Bool)
    (storageId folder inner txId : UInt32) (below : self.Below storageId folder inner) :
    ∃ after, self.dispatch host (transferOperation moves).toCode txId [folder, storageId, inner]
        none = some after ∧
      (self.heldBack host moves [folder, storageId, inner] = true → Harmless self after txId) ∧
      (self.meetsFolder moves [folder, storageId, inner] = false → Harmless self after txId →
        self.heldBack host moves [folder, storageId, inner] = true) := by
  rw [dispatch_transfer]
  by_cases session : self.sessionOpen = false
  · rw [if_pos session]
    refine ⟨_, rfl, fun _ => harmless_respond (by decide), fun _ _ => ?_⟩
    rw [heldBack, session]
    rfl
  · rw [if_neg session]
    rw [Bool.not_eq_false] at session
    refine ⟨_, rfl, ?_⟩
    unfold heldBack meetsFolder
    rw [session, Bool.not_true, Bool.false_or]
    cases checked : self.checkTransfer moves [folder, storageId, inner] with
    | error code =>
        refine ⟨fun _ => ?_, fun _ _ => rfl⟩
        have refused : Harmless self (self.respond code txId []) txId :=
          harmless_respond (checkTransfer_error checked)
        cases moves with
        | false =>
            rw [if_neg Bool.false_ne_true, handleCopyObject, checked]
            exact refused
        | true =>
            rw [if_pos rfl, handleMoveObject]
            dsimp only
            rw [checked]
            exact refused
    | ok transfer =>
        dsimp only
        rw [Bool.and_eq_true, Bool.not_eq_true', Bool.not_eq_true']
        constructor
        · rintro ⟨other, stopped⟩
          obtain ⟨isDirectory, refused, parent, place, name, target, located, directory⟩ :=
            inward_transfer host checked below other
          apply transfer_stopped checked isDirectory refused
          rw [target] at other stopped ⊢
          exact copyDirAll_stopped located directory other stopped
        · intro other harmless
          refine ⟨other, ?_⟩
          by_contra makes
          rw [Bool.not_eq_false] at makes
          obtain ⟨isDirectory, refused, parent, place, name, target, located, directory⟩ :=
            inward_transfer host checked below other
          have left : (self.disk.node (place ++ [name])).isNone = true ∧
              ((copyDirAll host self.disk transfer.srcPath transfer.destPath).2.node
                (place ++ [name])).isSome = true := by
            rw [target] at other makes ⊢
            exact copyDirAll_leaves located directory other makes
          exact transfer_leaves checked isDirectory refused left.1 left.2 harmless

/-- A disk with the folder `/album`, which is empty or has a file of its own name in it. -/
def albumDisk (taken : Bool) : Disk :=
  let album : Location := [⟨"album", rfl⟩]
  let disk := Disk.bare.put album ⟨.directory, none, none⟩ (.mkdir album) rfl fun _ => rfl
  if taken then
    disk.put (album ++ album) ⟨.file [], none, none⟩ (.open (album ++ album)) rfl nofun
  else disk

def albumDevice : VirtualDeviceConfig :=
  ⟨"", "", "", [⟨"", 0, ⟨[.rootDir]⟩, false⟩], false, false, false, false, [], [], .utc, false⟩

/-- A session is opened and the storage's root listed. -/
def listRoot : List Action :=
  [.operation 0x1002 1 [1] none, .operation 0x1007 2 [0x00010001, 0, 0] none]

def albumListed (taken : Bool) : Option VirtualDeviceState :=
  listRoot.foldlM (fun state (action : Action) => action.take Host.usual state)
    (.new albumDevice (albumDisk taken))

theorem albumListed_below (taken : Bool) : ∃ state, albumListed taken = some state ∧
    state.Below 0x00010001 1 1 := by
  have facts : (albumListed taken).map (fun state =>
      (state.pathIn 0x00010001 1, state.disk.directoryAt [⟨"album", rfl⟩],
        state.disk.locate ⟨[.rootDir, .normal ⟨"album", rfl⟩]⟩)) =
      some (some ⟨[.rootDir, .normal ⟨"album", rfl⟩]⟩, true, some [⟨"album", rfl⟩]) := by
    cases taken <;> decide +kernel
  obtain ⟨state, listed, same⟩ := Option.map_eq_some_iff.mp facts
  simp only [Prod.mk.injEq] at same
  obtain ⟨path, directory, located⟩ := same
  exact ⟨state, listed, by decide, _, _, _, _, path, path, located, located, directory, directory,
    List.prefix_refl _⟩

/-- An empty file is no folder, and in the way of one. -/
theorem folder_into_itself_taken : ∃ state after, albumListed true = some state ∧
    state.dispatch Host.usual (transferOperation true).toCode 3 [1, 0x00010001, 1] none =
      some after ∧ Harmless state after 3 := by
  obtain ⟨state, listed, below⟩ := albumListed_below true
  obtain ⟨after, answered, harmless, -⟩ :=
    folder_into_itself Host.usual state true 0x00010001 1 1 3 below
  have held : (albumListed true).map (fun state =>
      state.heldBack Host.usual true [1, 0x00010001, 1]) = some true := by
    decide +kernel
  rw [listed, Option.map_some, Option.some.injEq] at held
  exact ⟨state, after, listed, answered, harmless held⟩

/-- The empty album copied into itself is copied into its copy, until the names are too long. -/
theorem album_swallows_itself : ¬ ∀ (host : Host) (config : VirtualDeviceConfig) (disk : Disk)
    (actions : List Action) (state : VirtualDeviceState) (moves : Bool)
    (storageId folder inner txId : UInt32), Run (Steps host) (.new config disk) actions state →
      state.Below storageId folder inner → ∃ after, state.dispatch host
        (transferOperation moves).toCode txId [folder, storageId, inner] none = some after ∧
        Harmless state after txId := by
  intro refused
  obtain ⟨state, listed, below⟩ := albumListed_below false
  have run : Run (Steps Host.usual) (.new albumDevice (albumDisk false)) listRoot state :=
    Run.of_foldlM (fun _ _ _ taken => taken) _ listed
  obtain ⟨after, answered, harmless⟩ := refused Host.usual albumDevice (albumDisk false) listRoot
    state false 0x00010001 1 1 3 run below
  have debris : (albumListed false).map (fun state =>
      ((state.disk.node [⟨"album", rfl⟩, ⟨"album", rfl⟩, ⟨"album", rfl⟩]).isSome,
        (state.dispatch Host.usual (transferOperation false).toCode 3 [1, 0x00010001, 1] none).map
          fun after =>
            (after.disk.node [⟨"album", rfl⟩, ⟨"album", rfl⟩, ⟨"album", rfl⟩]).isSome)) =
      some (false, some true) := by
    decide +kernel
  rw [listed, Option.map_some, answered, Option.map_some, harmless.disk] at debris
  obtain ⟨before, later⟩ := Prod.mk.inj (Option.some.inj debris)
  rw [before] at later
  cases later

end VirtualDevice
