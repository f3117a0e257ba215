import MtpRs.VirtualDevice.Rescan

set_option autoImplicit false

/- What a whole rescan leaves: the files and folders on the disk, as far as handles last. -/
namespace VirtualDevice

open Ptp (EventCode)
open Files (Component Disk Location Name Path)

namespace VirtualDeviceState

/-- What the device keeps of its storages and of the objects it tracks in them. -/
structure Founded (state : VirtualDeviceState) : Prop where
  ids : (state.storages.map VirtualStorageState.storageId).Nodup
  named : ∀ storage ∈ state.storages, storage.config.backingDir.components ≠ []
  owned : ∀ handle obj, state.objects.lookup handle = some obj →
    ∃ storage, state.findStorage obj.storageId = some storage
  plain : ∀ handle obj, state.objects.lookup handle = some obj →
    ∃ names, names ≠ [] ∧ obj.relPath = relativePath names

/-- Every directory below the backing directories can be read in full. -/
def Readable (host : Host) (state : VirtualDeviceState) : Prop :=
  ∀ storage ∈ state.storages, ∀ root,
    state.disk.locate storage.config.backingDir = some root → readableBelow host state.disk root

/-- The files and folders of a storage that have no handle. -/
def missingIn (state : VirtualDeviceState) (storage : VirtualStorageState) : List (UInt32 × Path) :=
  match state.disk.locate storage.config.backingDir with
  | none => []
  | some root =>
      ((state.disk.domain.dedup.filter fun location =>
          decide (root <+: location ∧ location ≠ root) && (state.disk.node location).isSome).map
        fun location => (storage.storageId, relativePath (location.drop root.length))).filter
          fun pair => state.objects.entries.all fun entry => pairOf entry.2 != pair

def missing (state : VirtualDeviceState) : List (UInt32 × Path) :=
  state.storages.flatMap state.missingIn

section

variable {state : VirtualDeviceState} {host : Host} {handle : UInt32} {obj : VirtualObject}

theorem relativePath_inj {first second : List Name} :
    relativePath first = relativePath second ↔ first = second := by
  constructor
  · intro same
    exact List.map_injective_iff.mpr (fun _ _ => Component.normal.inj)
      (congrArg Path.components same)
  · intro same
    rw [same]

theorem Founded.findStorage (founded : state.Founded) {storage : VirtualStorageState}
    (mem : storage ∈ state.storages) :
    state.findStorage storage.storageId = some storage := by
  cases found : state.findStorage storage.storageId with
  | none =>
      have none := List.find?_eq_none.mp found storage mem
      simp at none
  | some other =>
      obtain ⟨inStorages, same⟩ := findStorage_mem found
      rw [List.inj_on_of_nodup_map founded.ids inStorages mem same]

/-- The file of a tracked object is there where it is one of the disk's. -/
theorem Founded.present_iff (founded : state.Founded) {storage : VirtualStorageState}
    (found : state.objects.lookup handle = some obj)
    (owner : state.findStorage obj.storageId = some storage) :
    state.disk.present (storage.config.backingDir.join obj.relPath) = true ↔
      state.OnDisk obj.storageId obj.relPath := by
  obtain ⟨names, some, path⟩ := founded.plain handle obj found
  have start := founded.named storage (findStorage_mem owner).1
  rw [path, relativePath, Path.join_normals, Disk.present_descend_iff start]
  constructor
  · rintro ⟨root, located, there⟩
    exact ⟨storage, owner, root, located, names, some, rfl, there⟩
  · rintro ⟨other, again, root, located, others, -, same, there⟩
    cases owner.symm.trans again
    rw [relativePath_inj.mp same]
    exact ⟨root, located, there⟩

theorem tracks_iff {id : UInt32} {relPath : Path} : state.Tracks id relPath ↔
    ∃ entry ∈ state.objects.entries, pairOf entry.2 = (id, relPath) := by
  constructor
  · rintro ⟨handle, obj, found, rfl, rfl⟩
    exact ⟨⟨handle, obj⟩, AList.mem_lookup_iff.mp found, rfl⟩
  · rintro ⟨⟨handle, obj⟩, mem, same⟩
    exact ⟨handle, obj, AList.mem_lookup_iff.mpr mem, congrArg Prod.fst same,
      congrArg Prod.snd same⟩

theorem mem_missingIn {storage : VirtualStorageState} {pair : UInt32 × Path} :
    pair ∈ state.missingIn storage ↔ pair.1 = storage.storageId ∧
      (∃ root, state.disk.locate storage.config.backingDir = some root ∧
        ∃ names, names ≠ [] ∧ pair.2 = relativePath names ∧
          (state.disk.node (root ++ names)).isSome = true) ∧ ¬ state.Tracks pair.1 pair.2 := by
  have untracked : (state.objects.entries.all fun entry => pairOf entry.2 != pair) = true ↔
      ¬ state.Tracks pair.1 pair.2 := by
    rw [tracks_iff, List.all_eq_true]
    simp [Sigma.forall]
  unfold missingIn
  cases located : state.disk.locate storage.config.backingDir with
  | none => simp
  | some root =>
      rw [List.mem_filter, untracked, List.mem_map, ← and_assoc]
      refine and_congr_left fun _ => ?_
      constructor
      · rintro ⟨location, mem, rfl⟩
        simp only [List.mem_filter, Bool.and_eq_true, decide_eq_true_eq] at mem
        obtain ⟨-, ⟨⟨names, rfl⟩, apart⟩, there⟩ := mem
        rw [List.drop_left]
        refine ⟨rfl, root, rfl, names, ?_, rfl, there⟩
        rintro rfl
        exact apart (List.append_nil _)
      · rintro ⟨same, other, again, names, some, path, there⟩
        cases again
        refine ⟨root ++ names, ?_, ?_⟩
        · simp only [List.mem_filter, List.mem_dedup, Bool.and_eq_true, decide_eq_true_eq]
          refine ⟨state.disk.covered _ there, ⟨List.prefix_append .., fun same => some ?_⟩, there⟩
          exact List.self_eq_append_right.mp same.symm
        · rw [List.drop_left, ← same, ← path]

theorem mem_missing (founded : state.Founded) {pair : UInt32 × Path} :
    pair ∈ state.missing ↔ state.OnDisk pair.1 pair.2 ∧ ¬ state.Tracks pair.1 pair.2 := by
  rw [missing, List.mem_flatMap]
  constructor
  · rintro ⟨storage, mem, inStorage⟩
    obtain ⟨same, there, untracked⟩ := mem_missingIn.mp inStorage
    exact ⟨⟨storage, same ▸ founded.findStorage mem, there⟩, untracked⟩
  · rintro ⟨⟨storage, found, there⟩, untracked⟩
    obtain ⟨mem, same⟩ := findStorage_mem found
    exact ⟨storage, mem, mem_missingIn.mpr ⟨same.symm, there, untracked⟩⟩

theorem missing_nodup (founded : state.Founded) : state.missing.Nodup := by
  rw [missing, List.nodup_flatMap]
  constructor
  · intro storage _
    unfold missingIn
    cases state.disk.locate storage.config.backingDir with
    | none => exact List.nodup_nil
    | some root =>
        apply List.Nodup.filter
        apply List.Nodup.map_on _ ((List.nodup_dedup _).filter _)
        intro first firstMem second secondMem same
        simp only [List.mem_filter, Bool.and_eq_true, decide_eq_true_eq] at firstMem secondMem
        obtain ⟨-, ⟨⟨names, rfl⟩, -⟩, -⟩ := firstMem
        obtain ⟨-, ⟨⟨others, rfl⟩, -⟩, -⟩ := secondMem
        rw [List.drop_left, List.drop_left] at same
        rw [relativePath_inj.mp (congrArg Prod.snd same)]
  · apply (List.pairwise_map.mp founded.ids).imp
    intro first second apart pair inFirst inSecond
    exact apart ((mem_missingIn.mp inFirst).1.symm.trans (mem_missingIn.mp inSecond).1)

theorem rescanStorage_lists {disk : Disk} {storage : VirtualStorageState}
    (start : storage.config.backingDir.components ≠ [])
    (readable : ∀ root, disk.locate storage.config.backingDir = some root →
      readableBelow host disk root) (state : VirtualDeviceState) (same : state.disk = disk) :
    ∃ added, rescanDir host storage.storageId storage.config.backingDir
        (state.disk.domain.length + 1) state storage.config.backingDir handleRoot =
          (added.length, state.addAll added) ∧
      state.Lists (inStorage storage.storageId fun names => ∃ root,
        disk.locate storage.config.backingDir = some root ∧ below disk root [] names)
        storage.storageId [] handleRoot added := by
  -- A backing directory that is not one has nothing below it.
  have nothing (failed : host.files.readDir disk storage.config.backingDir = none)
      (empty : ∀ names root, disk.locate storage.config.backingDir = some root →
        ¬ below disk root [] names) :
      rescanDir host storage.storageId storage.config.backingDir (disk.domain.length + 1) state
          storage.config.backingDir handleRoot = (([] : List VirtualObject).length,
            state.addAll []) ∧
        state.Lists (inStorage storage.storageId fun names => ∃ root,
          disk.locate storage.config.backingDir = some root ∧ below disk root [] names)
          storage.storageId [] handleRoot [] := by
    refine ⟨by rw [rescanDir_succ, same, failed]; rfl, Lists.nothing.congr fun id names => ?_⟩
    rw [false_iff]
    rintro ⟨-, root, located, inside⟩
    exact empty names root located inside
  rw [same]
  cases located : disk.locate storage.config.backingDir with
  | none =>
      refine ⟨[], ?_⟩
      rw [← located]
      apply nothing
      · rw [Files.Host.readDir, located, Option.bind_none]
      · intro names root found
        cases located.symm.trans found
  | some root =>
      by_cases directory : disk.directoryAt root = true
      · obtain ⟨added, scanned, lists⟩ := rescanDir_lists start located (readable root located)
          (disk.domain.length + 1) state same [] handleRoot (by rwa [List.append_nil])
          (Nat.lt_succ_of_le (Disk.below_le ..))
        rw [Path.descend_nil] at scanned
        refine ⟨added, scanned, lists.congr fun id names => and_congr_right fun _ => ?_⟩
        simp
      · refine ⟨[], ?_⟩
        rw [← located]
        apply nothing
        · rw [Files.Host.readDir, located, Option.bind_some, Files.Host.readDirAt, if_neg directory]
        · rintro names other again ⟨inner, some, rfl, there⟩
          cases located.symm.trans again
          exact directory (Disk.directoryAt_of_below some there)

/-- The storages one after the other; a storage that gains nothing is not among the changed. -/
theorem foldl_storages {disk : Disk} (storages : List VirtualStorageState)
    (named : ∀ storage ∈ storages, storage.config.backingDir.components ≠ [])
    (readable : ∀ storage ∈ storages, ∀ root,
      disk.locate storage.config.backingDir = some root → readableBelow host disk root)
    (count : Nat) (changed : List UInt32) (state : VirtualDeviceState)
    (same : state.disk = disk) :
    ∃ added told, storages.foldl
        (fun (counted : Nat × List UInt32 × VirtualDeviceState) storage =>
          let (added, changed, state) := counted
          let (storageAdded, state) := rescanDir host storage.storageId storage.config.backingDir
            (state.disk.domain.length + 1) state storage.config.backingDir handleRoot
          (added + storageAdded,
            if 0 < storageAdded then changed ++ [storage.storageId] else changed, state))
        (count, changed, state) = (count + added.length, told, state.addAll added) ∧
      (added = [] → told = changed) ∧
      state.Lists (fun id names => ∃ storage ∈ storages, inStorage storage.storageId
        (fun names => ∃ root, disk.locate storage.config.backingDir = some root ∧
          below disk root [] names) id names) 0 [] handleRoot added := by
  induction storages generalizing count changed state with
  | nil => exact ⟨[], changed, rfl, fun _ => rfl, Lists.nothing.congr (by simp)⟩
  | cons storage rest ih =>
      obtain ⟨first, scanned, lists⟩ := rescanStorage_lists (named storage (List.mem_cons_self ..))
        (readable storage (List.mem_cons_self ..)) state same
      obtain ⟨others, told, folded, quiet, after⟩ :=
        ih (fun other mem => named other (List.mem_cons_of_mem _ mem))
          (fun other mem => readable other (List.mem_cons_of_mem _ mem)) (count + first.length)
          (if 0 < first.length then changed ++ [storage.storageId] else changed)
          (state.addAll first) (addAll_disk.trans same)
      refine ⟨first ++ others, told, ?_, ?_, ?_⟩
      · rw [List.foldl_cons]
        dsimp only
        rw [scanned, folded, addAll_append, List.length_append, Nat.add_assoc]
      · intro nothing
        obtain ⟨noFirst, noOthers⟩ := List.append_eq_nil_iff.mp nothing
        rw [quiet noOthers, noFirst]
        rfl
      · refine ((lists.inside (Or.inl ⟨rfl, rfl⟩)).append after).congr fun id names => ?_
        rw [List.exists_mem_cons_iff]

/-- The stale handles are those of objects whose files are gone, each once. -/
theorem mem_staleHandles (founded : state.Founded) :
    handle ∈ (state.staleHandles host).map Prod.fst ↔
      ∃ obj, state.objects.lookup handle = some obj ∧ ¬ state.OnDisk obj.storageId obj.relPath := by
  rw [staleHandles, List.mem_map]
  constructor
  · rintro ⟨⟨_, id⟩, mem, rfl⟩
    obtain ⟨⟨key, obj⟩, inOrder, test⟩ := List.mem_filterMap.mp mem
    have found := AList.mem_lookup_iff.mpr (Arrangement.mem_arrange.mp inOrder)
    obtain ⟨storage, owner⟩ := founded.owned key obj found
    dsimp only at test
    rw [owner] at test
    dsimp only at test
    split at test
    · cases test
    · next absent =>
        cases test
        exact ⟨obj, found, mt (founded.present_iff found owner).mpr absent⟩
  · rintro ⟨obj, found, gone⟩
    obtain ⟨storage, owner⟩ := founded.owned handle obj found
    have inOrder : ⟨handle, obj⟩ ∈ host.objectOrder.arrange state.objects.entries :=
      Arrangement.mem_arrange.mpr (AList.mem_lookup_iff.mp found)
    refine ⟨(handle, obj.storageId), List.mem_filterMap.mpr ⟨_, inOrder, ?_⟩, rfl⟩
    dsimp only
    rw [owner]
    exact if_neg (mt (founded.present_iff found owner).mp gone)

theorem staleHandles_nodup : ((state.staleHandles host).map Prod.fst).Nodup := by
  have keys : ((host.objectOrder.arrange state.objects.entries).map Sigma.fst).Nodup :=
    ((host.objectOrder.perm _).map Sigma.fst).nodup_iff.mpr state.objects.nodupKeys
  refine List.Nodup.sublist ?_ keys
  rw [staleHandles]
  generalize host.objectOrder.arrange state.objects.entries = entries
  induction entries with
  | nil => exact .slnil
  | cons entry rest ih =>
      rw [List.filterMap_cons, List.map_cons]
      cases state.findStorage entry.2.storageId with
      | none => exact .cons _ ih
      | some storage =>
          by_cases there : state.disk.present (storage.config.backingDir.join entry.2.relPath) =
            true
          · simp only [there, if_true]
            exact .cons _ ih
          · simp only [there]
            exact .cons_cons _ ih

/-- The removals take their handles, and tell of them. -/
theorem dropStale_spec (stale : List (UInt32 × UInt32)) (state : VirtualDeviceState) :
    (∀ handle obj, (dropStale stale state).objects.lookup handle = some obj ↔
        state.objects.lookup handle = some obj ∧ handle ∉ stale.map Prod.fst) ∧
      (dropStale stale state).eventQueue =
        state.eventQueue ++ (stale.map Prod.fst).map (fun h => buildEvent .objectRemoved [h]) ∧
      (dropStale stale state).nextHandle = state.nextHandle ∧
      (dropStale stale state).disk = state.disk ∧
      (dropStale stale state).storages = state.storages := by
  induction stale generalizing state with
  | nil => simp [dropStale]
  | cons entry rest ih =>
      obtain ⟨key, id⟩ := entry
      obtain ⟨lookup, events, next, disk, storages⟩ :=
        ih ({ state with objects := state.objects.erase key }.queueEvent .objectRemoved [key])
      rw [dropStale]
      refine ⟨fun handle obj => ?_, ?_, next, disk, storages⟩
      · rw [lookup, queueEvent, AList.lookup_erase_eq_some, List.map_cons, List.mem_cons, not_or]
        constructor
        · rintro ⟨⟨apart, found⟩, others⟩
          exact ⟨found, apart, others⟩
        · rintro ⟨found, apart, others⟩
          exact ⟨⟨apart, found⟩, others⟩
      · rw [events, queueEvent, List.map_cons, List.map_cons, List.append_assoc]
        rfl

theorem foldl_queueEvent (code : EventCode) (ids : List UInt32) (state : VirtualDeviceState) :
    ids.foldl (fun state id => state.queueEvent code [id]) state =
      { state with
        eventQueue := state.eventQueue ++ ids.map fun id => buildEvent code [id] } := by
  induction ids generalizing state with
  | nil => simp
  | cons id rest ih =>
      rw [List.foldl_cons, ih, queueEvent, List.map_cons, List.append_assoc]
      rfl

/-- A rescan is removals, then additions of what has no handle then, then the storages' events. -/
theorem rescanBackingDirs_eq (founded : state.Founded) (readable : state.Readable host) :
    ∃ added told, state.rescanBackingDirs host =
        (⟨added.length, (state.staleHandles host).length⟩,
          { (dropStale (state.staleHandles host) state).addAll added with
            eventQueue := ((dropStale (state.staleHandles host) state).addAll added).eventQueue ++
              told.map fun id => buildEvent .storageInfoChanged [id] }) ∧
      (added = [] → state.staleHandles host = [] → told = []) ∧
      (dropStale (state.staleHandles host) state).Lists
        (fun id names => ∃ storage ∈ state.storages, inStorage storage.storageId
          (fun names => ∃ root, state.disk.locate storage.config.backingDir = some root ∧
            below state.disk root [] names) id names) 0 [] handleRoot added := by
  obtain ⟨-, -, -, disk, -⟩ := dropStale_spec (state.staleHandles host) state
  obtain ⟨added, changed, folded, quiet, lists⟩ := foldl_storages state.storages founded.named
    readable 0 ((state.staleHandles host).map Prod.snd)
    (dropStale (state.staleHandles host) state) disk
  refine ⟨added, host.storageOrder.arrange changed.dedup, ?_, ?_, lists⟩
  · unfold rescanBackingDirs
    dsimp only at folded ⊢
    rw [folded]
    dsimp only
    rw [foldl_queueEvent, Nat.zero_add]
  · intro nothing noStale
    rw [quiet nothing, noStale]
    exact (host.storageOrder.perm []).eq_nil

end

end VirtualDeviceState

end VirtualDevice
