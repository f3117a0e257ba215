import MtpRs.VirtualDevice.Realignment
import MtpRs.VirtualDevice.Scans

set_option autoImplicit false

/- What a device comes to track by itself: listings and rescans give new handles to files and
folders that have none. -/
namespace VirtualDevice

open Files (Component Disk Location Name Path)
open Ptp (EventCode)

namespace VirtualDeviceState

/-- The handles in use have been given out, and none is the root's. -/
structure Counted (state : VirtualDeviceState) : Prop where
  started : 0 < state.nextHandle
  live : ∀ handle obj, state.objects.lookup handle = some obj →
    handle ≠ handleRoot ∧ handle.toNat < state.nextHandle

/-- No two storages share an ID. -/
def Distinct (state : VirtualDeviceState) : Prop :=
  (state.storages.map VirtualStorageState.storageId).Nodup

/-- One of the device's storages. -/
def Owns (state : VirtualDeviceState) (storageId : UInt32) : Prop :=
  ∃ storage, state.findStorage storageId = some storage

/-- A handle that is the root's, or whose object is a directory on the disk. -/
def IsFolder (state : VirtualDeviceState) (parent : UInt32) : Prop :=
  parent ≠ handleRoot → ∀ folder storage, state.objects.lookup parent = some folder →
    state.findStorage folder.storageId = some storage →
      state.disk.isDirectory (storage.config.backingDir.join folder.relPath) = true

/-- Objects tracked under new handles, with the events that tell of them. As long as the handles
last, each is an entry of a folder. -/
inductive Discovers (first : VirtualDeviceState) : VirtualDeviceState → Prop where
  | refl : Discovers first first
  | queued {state : VirtualDeviceState} (code : EventCode) (params : List UInt32)
      (found : Discovers first state) : Discovers first (state.queueEvent code params)
  | entry {state : VirtualDeviceState} {obj : VirtualObject} (found : Discovers first state)
      (owned : first.Owns obj.storageId)
      (fresh : ¬ state.Tracks obj.storageId obj.relPath)
      (named : state.EntryOf obj ∨ ∃ names, names ≠ [] ∧ obj.relPath = relativePath names)
      (known : first.Counted → first.Distinct → state.nextHandle ≤ 2 ^ 32 →
        state.EntryOf obj ∧ state.IsFolder obj.parent) :
      Discovers first (state.allocHandle.2.track state.allocHandle.1 obj)

section

variable {host : Host} {first state middle after : VirtualDeviceState} {obj : VirtualObject}
  {handle storageId parent : UInt32}

theorem findStorage_congr (storages : after.storages = state.storages) (id : UInt32) :
    after.findStorage id = state.findStorage id := by
  rw [findStorage, storages, findStorage]

theorem Owns.congr (owns : after.Owns storageId) (storages : after.storages = state.storages) :
    state.Owns storageId := by
  rwa [Owns, findStorage_congr storages] at owns

theorem owns_of_mem {storage : VirtualStorageState} (mem : storage ∈ state.storages) :
    state.Owns storage.storageId := by
  cases found : state.findStorage storage.storageId with
  | some other => exact ⟨other, found⟩
  | none =>
      have other := List.find?_eq_none.mp found storage mem
      simp at other

theorem toNat_handle (bound : state.nextHandle < 2 ^ 32) :
    (UInt32.ofNat state.nextHandle).toNat = state.nextHandle := by
  rw [UInt32.toNat_ofNat', Nat.mod_eq_of_lt bound]

/-- While handles last, the next one is in use for nothing. -/
theorem Counted.fresh (counted : state.Counted) (bound : state.nextHandle < 2 ^ 32) :
    state.objects.lookup (UInt32.ofNat state.nextHandle) = none := by
  by_contra taken
  obtain ⟨obj, found⟩ := Option.ne_none_iff_exists'.mp taken
  have less := (counted.live _ obj found).2
  rw [toNat_handle bound] at less
  exact Nat.lt_irrefl _ less

theorem Counted.entry (counted : state.Counted) (bound : state.nextHandle < 2 ^ 32)
    (obj : VirtualObject) : (state.allocHandle.2.track state.allocHandle.1 obj).Counted where
  started := Nat.succ_pos _
  live handle other found := by
    rcases AList.lookup_insert_eq_some.mp found with ⟨rfl, -⟩ | ⟨-, there⟩
    · have same : state.allocHandle.1.toNat = state.nextHandle := toNat_handle bound
      refine ⟨?_, ?_⟩
      · intro root
        rw [root] at same
        exact absurd same (Nat.ne_of_lt counted.started)
      · rw [same]
        exact Nat.lt_succ_self _
    · obtain ⟨notRoot, less⟩ := counted.live handle other there
      exact ⟨notRoot, Nat.lt_succ_of_lt less⟩

/-- What was tracked keeps its handle when a new one is given out. -/
theorem Counted.lookup_entry (counted : state.Counted) (bound : state.nextHandle < 2 ^ 32)
    (obj : VirtualObject) {other : VirtualObject}
    (found : state.objects.lookup handle = some other) :
    (state.allocHandle.2.track state.allocHandle.1 obj).objects.lookup handle = some other := by
  refine AList.lookup_insert_eq_some.mpr (Or.inr ⟨?_, found⟩)
  rintro rfl
  have none := counted.fresh bound
  rw [show state.allocHandle.1 = UInt32.ofNat state.nextHandle from rfl] at found
  rw [found] at none
  cases none

namespace Discovers

/-- Only the objects, the count of handles and the events change. -/
theorem same (found : Discovers first state) : state = { first with
    nextHandle := state.nextHandle, objects := state.objects, eventQueue := state.eventQueue } := by
  induction found with
  | refl => rfl
  | queued _ _ _ ih =>
      rw [queueEvent]
      dsimp only
      rw [ih]
  | entry _ _ _ _ _ ih =>
      rw [track, allocHandle]
      dsimp only
      rw [ih]

theorem storages_eq (found : Discovers first state) : state.storages = first.storages := by
  rw [found.same]

theorem disk_eq (found : Discovers first state) : state.disk = first.disk := by rw [found.same]

theorem pendingSend_eq (found : Discovers first state) : state.pendingSend = first.pendingSend := by
  rw [found.same]

theorem nextHandle_le (found : Discovers first state) : first.nextHandle ≤ state.nextHandle := by
  induction found with
  | refl => exact Nat.le_refl _
  | queued _ _ _ ih => exact ih
  | entry _ _ _ _ _ ih => exact Nat.le_succ_of_le ih

theorem counted (found : Discovers first state) (start : first.Counted)
    (bound : state.nextHandle ≤ 2 ^ 32) : state.Counted := by
  induction found with
  | refl => exact start
  | queued _ _ _ ih =>
      have held := ih bound
      exact ⟨held.started, held.live⟩
  | entry _ _ _ _ _ ih => exact (ih (Nat.le_of_succ_le bound)).entry bound _

theorem lookup (found : Discovers first state) (start : first.Counted)
    (bound : state.nextHandle ≤ 2 ^ 32) (known : first.objects.lookup handle = some obj) :
    state.objects.lookup handle = some obj := by
  induction found with
  | refl => exact known
  | queued _ _ _ ih => exact ih bound
  | entry before _ _ _ _ ih =>
      have earlier := Nat.le_of_succ_le bound
      exact (before.counted start earlier).lookup_entry bound _ (ih earlier)

theorem trans (early : Discovers first middle) (late : Discovers middle after) :
    Discovers first after := by
  induction late with
  | refl => exact early
  | queued code params _ ih => exact ih.queued code params
  | entry before owned fresh named known ih =>
      refine ih.entry (owned.congr early.storages_eq) fresh named fun start distinct bound => ?_
      refine known (early.counted start (before.nextHandle_le.trans bound)) ?_ bound
      unfold Distinct at distinct ⊢
      rw [early.storages_eq]
      exact distinct

end Discovers

/-- A folder stays one while the disk does and its handle keeps its object. -/
theorem IsFolder.congr (folder : state.IsFolder parent) (storages : after.storages = state.storages)
    (disk : after.disk = state.disk)
    (same : after.objects.lookup parent = state.objects.lookup parent) : after.IsFolder parent := by
  intro notRoot obj storage found owner
  rw [same] at found
  rw [findStorage_congr storages] at owner
  rw [disk]
  exact folder notRoot obj storage found owner

theorem scanEntries_discovers (found : Discovers first state) (names : List Name)
    (owned : first.Owns storageId) (inside : state.FolderIn storageId parent)
    (reads : first.Counted → state.nextHandle ≤ 2 ^ 32 → state.IsFolder parent) :
    Discovers first (scanEntries host storageId parent names state).2 := by
  induction names generalizing state with
  | nil => exact found
  | cons name rest ih =>
      rw [scanEntries]
      dsimp only
      split
      · exact ih found inside reads
      · next unknown =>
          have entry : state.EntryOf ⟨state.entryPath parent name, storageId, parent⟩ := by
            by_cases root : parent = handleRoot
            · refine Or.inl ⟨root, name, ?_⟩
              rw [entryPath, if_pos root]
            · obtain ⟨obj, folder, same⟩ := inside root
              refine Or.inr ⟨root, obj, name, folder, same, ?_⟩
              rw [entryPath, if_neg root, folder]
          apply ih (found.entry owned (handleAt_none unknown) (Or.inl entry)
            fun start _ bound => ⟨entry, reads start bound⟩) (inside.entry _)
          intro start bound notRoot
          have earlier := Nat.le_of_succ_le bound
          obtain ⟨obj, folder, -⟩ := inside notRoot
          have kept := (found.counted start earlier).lookup_entry bound
            ⟨state.entryPath parent name, storageId, parent⟩ folder
          exact (reads start earlier).congr rfl rfl (kept.trans folder.symm) notRoot

theorem scanDir_discovers {result : Option (List UInt32)}
    (scanned : state.scanDir host storageId parent = (result, after)) : Discovers state after := by
  unfold scanDir at scanned
  split at scanned
  · cases scanned
    exact .refl
  · next storage owner =>
      split at scanned
      · cases scanned
        exact .refl
      · next dirPath listed =>
          split at scanned
          · next directory =>
              split at scanned
              · cases scanned
                exact .refl
              · cases scanned
                have id := (findStorage_mem owner).2
                apply scanEntries_discovers .refl _ ⟨storage, owner⟩
                · rw [← id]
                  exact scannedDir_folderIn listed
                · intro _ _ notRoot folder other tracked place
                  rw [scannedDir, if_neg notRoot, tracked] at listed
                  dsimp only at listed
                  split at listed
                  · next same =>
                      rw [same, id, owner] at place
                      cases place
                      cases listed
                      exact directory
                  · cases listed
          · cases scanned
            exact .refl

theorem Scanned.discovers (scanned : Scanned host state after) : Discovers state after := by
  induction scanned with
  | refl => exact .refl
  | tail _ one ih =>
      obtain ⟨storageId, parent, rfl⟩ := one
      exact ih.trans (scanDir_discovers rfl)

theorem Discovers.holds (found : Discovers state after) (start : state.Counted)
    (bound : after.nextHandle ≤ 2 ^ 32) {folder : List Name}
    (holds : state.Holds storageId folder parent) : after.Holds storageId folder parent := by
  rcases holds with atRoot | ⟨inner, obj, known, same⟩
  · exact Or.inl atRoot
  · exact Or.inr ⟨inner, obj, found.lookup start bound known, same⟩

theorem Holds.entryOf {folder : List Name} (holds : state.Holds storageId folder parent)
    (counted : state.Counted) (name : Name) :
    state.EntryOf ⟨relativePath (folder ++ [name]), storageId, parent⟩ := by
  rcases holds with ⟨rfl, rfl⟩ | ⟨-, obj, known, same, path⟩
  · exact Or.inl ⟨rfl, name, rfl⟩
  · refine Or.inr ⟨(counted.live parent obj known).1, obj, name, known, same, ?_⟩
    rw [path]
    simp [relativePath, Path.child]

theorem Distinct.findStorage (distinct : state.Distinct) {storage other : VirtualStorageState}
    (mem : storage ∈ state.storages) (found : state.findStorage storage.storageId = some other) :
    other = storage := by
  obtain ⟨listed, same⟩ := findStorage_mem found
  exact List.inj_on_of_nodup_map distinct listed mem same

theorem isDirectory_of_readDir {disk : Disk} {path : Path} {entries : List Name × Bool}
    (read : host.files.readDir disk path = some entries) : disk.isDirectory path = true := by
  obtain ⟨location, located, listed⟩ := Option.bind_eq_some_iff.mp read
  unfold Files.Host.readDirAt at listed
  split at listed
  · next directory => exact Disk.isDirectory_iff.mpr ⟨location, located, directory⟩
  · cases listed

variable (host) in
/-- The scan of one directory finds entries of it and of the directories below. -/
theorem rescanDir_discovers {storage : VirtualStorageState} (fuel : Nat) (folder : List Name)
    (mem : storage ∈ state.storages) (holds : state.Holds storage.storageId folder parent) :
    Discovers state (rescanDir host storage.storageId storage.config.backingDir fuel state
      (storage.config.backingDir.descend folder) parent).2 := by
  induction fuel generalizing state folder parent with
  | zero => exact .refl
  | succ fuel ih =>
      rw [rescanDir_succ]
      split
      · exact .refl
      · next entries complete read =>
          have directory := isDirectory_of_readDir read
          have reads : ∀ {reached : VirtualDeviceState}, Discovers state reached →
              state.Counted → state.Distinct → reached.nextHandle ≤ 2 ^ 32 →
                reached.IsFolder parent := by
            intro reached found start distinct bound notRoot obj other known owner
            rcases found.holds start bound holds with ⟨-, root⟩ | ⟨-, same, known', id, path⟩
            · exact absurd root notRoot
            · rw [known] at known'
              cases known'
              rw [findStorage_congr found.storages_eq, id] at owner
              rw [distinct.findStorage mem owner, path, found.disk_eq, relativePath,
                Path.join_normals]
              exact directory
          have entry_discovers : ∀ (counted : Nat × VirtualDeviceState) (entry : Name),
              Discovers state counted.2 → Discovers state (rescanEntry host storage.storageId
                storage.config.backingDir (rescanDir host storage.storageId
                  storage.config.backingDir fuel) (storage.config.backingDir.descend folder) parent
                counted entry).2 := by
            intro counted entry found
            rw [rescanEntry, ← Path.descend_concat, Path.stripPrefix_descend]
            dsimp only
            rw [show (⟨(folder ++ [entry]).map Component.normal⟩ : Path) =
              relativePath (folder ++ [entry]) from rfl]
            cases search : counted.2.handleAt host storage.storageId
                (relativePath (folder ++ [entry])) with
            | some known =>
                obtain ⟨obj, tracked, same⟩ := handleAt_some search
                dsimp only
                split
                · exact found.trans (ih (folder ++ [entry]) (by rwa [found.storages_eq])
                    (Or.inr ⟨by simp, obj, tracked, same⟩))
                · exact found
            | none =>
                have added : Discovers state (counted.2.add
                    ⟨relativePath (folder ++ [entry]), storage.storageId, parent⟩) := by
                  refine (found.entry (owns_of_mem mem) (handleAt_none search)
                    (Or.inr ⟨folder ++ [entry], by simp, rfl⟩) ?_).queued _ _
                  intro start distinct bound
                  exact ⟨(found.holds start bound holds).entryOf (found.counted start bound) entry,
                    reads found start distinct bound⟩
                dsimp only
                split
                · refine added.trans (ih (folder ++ [entry]) (by rwa [added.storages_eq]) ?_)
                  exact Or.inr ⟨by simp, _, lookup_add.mpr (Or.inl ⟨rfl, rfl⟩), rfl, rfl⟩
                · exact added
          exact List.foldlRecOn (motive := fun counted => Discovers state counted.2) entries _
            (b := (0, state)) .refl fun counted found entry _ => entry_discovers counted entry found

/-- The removals of a rescan change the objects and the events alone. -/
theorem dropStale_same (stale : List (UInt32 × UInt32)) (state : VirtualDeviceState) :
    dropStale stale state = { state with
      objects := (dropStale stale state).objects
      eventQueue := (dropStale stale state).eventQueue } := by
  induction stale generalizing state with
  | nil => rfl
  | cons first rest ih => exact ih _

variable (host state) in
theorem rescanBackingDirs_discovers :
    Discovers (state.dropped host) (state.rescanBackingDirs host).2 := by
  have storages := (dropStale_spec (state.staleHandles host) state).2.2.2.2
  unfold rescanBackingDirs
  dsimp only
  apply List.foldlRecOn (motive := Discovers (state.dropped host))
  · apply List.foldlRecOn (motive := fun counted : Nat × List UInt32 × VirtualDeviceState =>
      Discovers (state.dropped host) counted.2.2)
    · exact .refl
    · rintro ⟨added, changed, reached⟩ found storage mem
      have here : storage ∈ reached.storages := by
        rw [found.storages_eq, dropped, storages]
        exact mem
      have scanned := rescanDir_discovers host
        (reached.disk.domain.length + 1) [] here (Or.inl ⟨rfl, rfl⟩)
      rw [Path.descend_nil] at scanned
      exact found.trans scanned
  · intro reached found id _
    exact found.queued _ _

end

end VirtualDeviceState

end VirtualDevice
