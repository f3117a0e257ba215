import MtpRs.VirtualDevice.Scans

set_option autoImplicit false

/- A listing of a folder holds the handles of what lies in it. -/
namespace VirtualDevice

open Files (Disk Name Path)

namespace VirtualDeviceState

/-- Handles enough for all that are given out on the way. -/
def RoomUntil (first after : VirtualDeviceState) : Prop :=
  first.Room (after.nextHandle - first.nextHandle)

/-- No other handle is tracked for the same file. -/
def Only (state : VirtualDeviceState) (handle : UInt32) (obj : VirtualObject) : Prop :=
  ∀ other found, state.objects.lookup other = some found → pairOf found = pairOf obj →
    other = handle

/-- An object where a listing of its folder finds it: its folder is there, and no other handle is
tracked for its file. -/
structure Listed (state : VirtualDeviceState) (handle : UInt32) (obj : VirtualObject) : Prop where
  path : ∃ name, state.entryPath obj.parent name = obj.relPath
  folder : ∃ storage dir, state.findStorage obj.storageId = some storage ∧
    state.scannedDir storage obj.parent = some dir ∧ state.disk.isDirectory dir = true
  only : state.Only handle obj
  unreserved : obj.parent ≠ handleAll

section

variable {host : Host} {first state after : VirtualDeviceState} {handle storageId parent : UInt32}
  {obj : VirtualObject}

theorem Grows.nextHandle_le (grows : Grows first after) : first.nextHandle ≤ after.nextHandle := by
  induction grows with
  | refl => exact Nat.le_refl _
  | entry _ _ _ ih =>
      simp only [track, allocHandle]
      omega

theorem RoomUntil.refl (state : VirtualDeviceState) : state.RoomUntil state := by
  rw [RoomUntil, Nat.sub_self, Room]
  exact state.objects.keys_nodup

theorem RoomUntil.before (room : first.RoomUntil after) (later : Grows state after) :
    first.RoomUntil state :=
  Room.mono room (Nat.sub_le_sub_right later.nextHandle_le _)

/-- With room for what is given out, what is tracked stays so. -/
theorem Grows.kept (grows : Grows first after)
    (room : first.RoomUntil after)
    (found : first.objects.lookup handle = some obj) : after.objects.lookup handle = some obj := by
  induction grows with
  | refl => exact found
  | @entry state entry grown known fresh ih =>
      have le := grown.nextHandle_le
      have counted : (state.allocHandle.2.track state.allocHandle.1 entry).nextHandle -
          first.nextHandle = (state.nextHandle - first.nextHandle) + 1 := by
        simp only [track, allocHandle]
        omega
      rw [RoomUntil, counted] at room
      have new := room.fresh.1
      apply AList.lookup_insert_eq_some.mpr
      refine Or.inr ⟨?_, ih (room.mono (Nat.le_succ _))⟩
      intro same
      apply new
      have given : first.handleAfter (state.nextHandle - first.nextHandle) = handle := by
        rw [same, handleAfter, allocHandle, Nat.add_sub_cancel' le]
      rw [given]
      exact mem_keys_of_lookup found

theorem Grows.only (grows : Grows first after)
    (room : first.RoomUntil after)
    (found : first.objects.lookup handle = some obj) (only : first.Only handle obj) :
    after.Only handle obj := by
  induction grows with
  | refl => exact only
  | @entry state entry grown known fresh ih =>
      have earlier : first.RoomUntil state := room.before (Grows.entry .refl known fresh)
      intro other seen lookup pair
      rcases AList.lookup_insert_eq_some.mp lookup with ⟨-, rfl⟩ | ⟨-, there⟩
      · have same := Prod.mk.inj pair
        exact absurd ⟨handle, obj, grown.kept earlier found, same.1.symm, same.2.symm⟩ fresh
      · exact ih earlier other seen there pair

theorem Grows.objectFacts_eq (grows : Grows first after)
    (room : first.RoomUntil after)
    (found : first.objects.lookup handle = some obj) :
    after.objectFacts handle = first.objectFacts handle := by
  have kept := grows.kept room found
  unfold objectFacts findStorage
  rw [kept, found, grows.same]

theorem readDir_whole {disk : Disk} {path : Path} {entries : List Name}
    (listed : host.files.readDir disk path = some (entries, true)) (name : Name)
    (there : disk.present (path.child name) = true) : name ∈ entries := by
  obtain ⟨location, located, read⟩ := Option.bind_eq_some_iff.mp listed
  have start := Disk.components_ne_nil located
  obtain ⟨same, found, node⟩ := (@Disk.present_descend_iff disk _ start [name]).mp there
  rw [located] at found
  rw [← Option.some.inj found] at node
  rw [Files.Host.readDirAt] at read
  split at read
  · split at read
    · cases read
      exact Arrangement.mem_arrange.mpr (Disk.mem_names.mpr node)
    · cases read
    · cases read
  · cases read

theorem objectFacts_present {facts : ObjectFacts} {storage : VirtualStorageState}
    (known : state.objectFacts handle = some facts)
    (found : state.objects.lookup handle = some obj)
    (owner : state.findStorage obj.storageId = some storage) :
    state.disk.present (storage.config.backingDir.join obj.relPath) = true := by
  unfold objectFacts at known
  simp only [found, owner, Option.bind_eq_bind, Option.bind_some] at known
  obtain ⟨node, there, -⟩ := Option.bind_eq_some_iff.mp known
  rw [Disk.present, there]
  rfl

/-- The path of an entry is where the listing of its folder reads it. -/
theorem scannedDir_child {storage : VirtualStorageState} {dir : Path} {name : Name}
    (listed : state.scannedDir storage parent = some dir) :
    storage.config.backingDir.join (state.entryPath parent name) = dir.child name := by
  unfold scannedDir at listed
  unfold entryPath
  by_cases root : parent = handleRoot
  · rw [if_pos root] at listed ⊢
    rw [← Option.some.inj listed, Path.join_normal]
  · rw [if_neg root] at listed ⊢
    cases found : state.objects.lookup parent with
    | none =>
        rw [found] at listed
        cases listed
    | some folder =>
        rw [found] at listed
        dsimp only at listed ⊢
        rw [Option.ite_none_right_eq_some, Option.some.injEq] at listed
        rw [← listed.2, Path.join_child]

theorem Grows.entryPath_eq {storage : VirtualStorageState} {dir : Path} (grows : Grows first after)
    (room : first.RoomUntil after) (listed : first.scannedDir storage parent = some dir)
    (name : Name) :
    after.entryPath parent name = first.entryPath parent name ∧
      after.scannedDir storage parent = some dir := by
  unfold scannedDir at listed ⊢
  unfold entryPath
  by_cases root : parent = handleRoot
  · rw [if_pos root] at listed ⊢
    rw [if_pos root, if_pos root]
    exact ⟨rfl, listed⟩
  · rw [if_neg root] at listed ⊢
    rw [if_neg root, if_neg root]
    cases found : first.objects.lookup parent with
    | none =>
        rw [found] at listed
        cases listed
    | some folder =>
        rw [grows.kept room found]
        rw [found] at listed
        exact ⟨rfl, listed⟩

/-- The loop of a listing gives an entry the handle it is tracked under. -/
theorem scanEntries_lists {names : List Name} {name : Name} {storage : VirtualStorageState}
    {dir : Path}
    (found : first.objects.lookup handle = some obj) (only : first.Only handle obj)
    (folder : first.scannedDir storage obj.parent = some dir)
    (inside : state.FolderIn obj.storageId obj.parent)
    (path : first.entryPath obj.parent name = obj.relPath) (grown : Grows first state)
    (room : first.RoomUntil (scanEntries host obj.storageId obj.parent names state).2)
    (mem : name ∈ names) :
    handle ∈ (scanEntries host obj.storageId obj.parent names state).1 := by
  induction names generalizing state with
  | nil => cases mem
  | cons entry rest ih =>
      have before : first.RoomUntil state := room.before (scanEntries_grows _ inside)
      by_cases own : entry = name
      · have here : state.entryPath obj.parent entry = obj.relPath := by
          rw [own, (grown.entryPath_eq before folder name).1, path]
        have tracked := grown.kept before found
        rw [scanEntries, here]
        cases known : state.handleAt host obj.storageId obj.relPath with
        | some other =>
            obtain ⟨seen, lookup, sameStorage, samePath⟩ := handleAt_some known
            have same := grown.only before found only other seen lookup
              (Prod.ext sameStorage samePath)
            rw [same]
            exact List.mem_cons_self
        | none => exact absurd ⟨handle, obj, tracked, rfl, rfl⟩ (handleAt_none known)
      · have later : name ∈ rest := (List.mem_cons.mp mem).resolve_left (Ne.symm own)
        have one := @scanEntries_grows host _ _ _ [entry] inside
        rw [scanEntries] at room one ⊢
        dsimp only at room one ⊢
        cases known : state.handleAt host obj.storageId (state.entryPath obj.parent entry) with
        | some other =>
            rw [known] at room
            exact List.mem_cons_of_mem _ (ih inside grown room later)
        | none =>
            rw [known] at room one
            exact List.mem_cons_of_mem _ (ih (inside.entry _) (grown.trans one) room later)

/-- A listing of the folder of an object holds its handle. -/
theorem scanDir_lists {facts : ObjectFacts} {handles : List UInt32}
    (found : first.objects.lookup handle = some obj) (listed : first.Listed handle obj)
    (known : first.objectFacts handle = some facts) (grown : Grows first state)
    (scanned : state.scanDir host obj.storageId obj.parent = (some handles, after))
    (room : first.RoomUntil after) : handle ∈ handles := by
  obtain ⟨name, path⟩ := listed.path
  obtain ⟨storage, dir, owner, folder, directory⟩ := listed.folder
  have before := room.before (scanDir_grows scanned)
  have there := objectFacts_present known found owner
  rw [← path, scannedDir_child folder] at there
  have inside := (grown.entryPath_eq before folder name).2
  have sameStorage : state.findStorage obj.storageId = some storage := by
    rw [grown.same]
    exact owner
  have sameDisk : state.disk = first.disk := by rw [grown.same]
  have folderIn : state.FolderIn obj.storageId obj.parent := by
    rw [← (findStorage_mem owner).2]
    exact scannedDir_folderIn inside
  rw [scanDir, sameStorage] at scanned
  dsimp only at scanned
  rw [inside] at scanned
  dsimp only at scanned
  rw [sameDisk, if_pos directory] at scanned
  cases read : host.files.readDir first.disk dir with
  | none =>
      rw [read] at scanned
      cases scanned
  | some result =>
      obtain ⟨entries, complete⟩ := result
      rw [read] at scanned
      cases complete with
      | false => cases scanned
      | true =>
          cases scanned
          exact scanEntries_lists found listed.only folder folderIn path grown room
            (readDir_whole read name there)

/-- Each storage of a request is listed in its turn. -/
theorem mem_listStorages {list : VirtualDeviceState → UInt32 →
      Option (Option (List UInt32) × VirtualDeviceState)}
    (grows : ∀ {reached last : VirtualDeviceState} {id result},
      list reached id = some (result, last) → Grows reached last)
    {ids handles : List UInt32} (listed : listStorages list ids state = some (some handles, after))
    (mem : storageId ∈ ids) :
    ∃ between own last, Grows state between ∧ list between storageId = some (some own, last) ∧
      Grows last after ∧ own ⊆ handles := by
  induction ids generalizing state handles with
  | nil => cases mem
  | cons id rest ih =>
      rw [listStorages] at listed
      split at listed
      · cases listed
      · cases listed
      · next own reached one =>
          split at listed
          · cases listed
          · cases listed
          · next others last more =>
              cases listed
              rcases List.mem_cons.mp mem with here | later
              · rw [here]
                exact ⟨state, own, reached, .refl, one, listStorages_closed (fun _ => .refl) .trans
                  grows more, List.subset_append_left ..⟩
              · obtain ⟨between, held, last', before, now, behind, within⟩ := ih more later
                exact ⟨between, held, last', (grows one).trans before, now, behind,
                  fun k mem => List.mem_append_right _ (within mem)⟩

/-- A request for the entries of a folder covers each object in it. -/
theorem requestedObjects_lists {facts : ObjectFacts} {handles : List UInt32}
    (found : first.objects.lookup handle = some obj) (listed : first.Listed handle obj)
    (known : first.objectFacts handle = some facts) (grown : Grows first state)
    (requested : state.requestedObjects host obj.parent 1 = some (.ok handles, after))
    (room : first.RoomUntil after) : handle ∈ handles := by
  have covers : ∀ {between last : VirtualDeviceState} {own : List UInt32}, Grows first between →
      between.scanDir host obj.storageId obj.parent = (some own, last) → Grows last after →
        handle ∈ own := fun grown scanned later =>
    scanDir_lists found listed known grown scanned (room.before later)
  have unreserved := listed.unreserved
  have before := room.before (requestedObjects_grows requested)
  obtain ⟨storage, dir, owner, folder, -⟩ := listed.folder
  unfold requestedObjects at requested
  dsimp only at requested
  rw [if_neg (by simp)] at requested
  by_cases root : obj.parent = 0
  · have atRoot : obj.parent = handleRoot := root
    rw [if_pos (Or.inl root)] at requested
    obtain ⟨⟨listing, reached⟩, listedAll, same⟩ := Option.map_eq_some_iff.mp requested
    have mem : obj.storageId ∈ state.storages.map VirtualStorageState.storageId := by
      rw [grown.same]
      have own := findStorage_mem owner
      exact List.mem_map.mpr ⟨storage, own.1, own.2⟩
    cases listing with
    | none => cases same
    | some all =>
        cases same
        obtain ⟨between, own, last, before, one, later, within⟩ :=
          mem_listStorages (fun one => scanDir_grows (Option.some.inj one)) listedAll mem
        rw [← atRoot, Option.some.injEq] at one
        exact within (covers (grown.trans before) one later)
  · rw [if_neg (not_or.mpr ⟨root, unreserved⟩)] at requested
    cases parent : state.objects.lookup obj.parent with
    | none =>
        rw [parent] at requested
        cases requested
    | some parentObj =>
        have same : parentObj.storageId = obj.storageId := by
          obtain ⟨tracked, there, inside⟩ := scannedDir_folderIn folder root
          rw [grown.kept before there, Option.some.injEq] at parent
          rw [← parent, inside, (findStorage_mem owner).2]
        rw [parent] at requested
        dsimp only at requested
        rw [if_pos rfl, same] at requested
        split at requested
        · next children reached scanned =>
            cases requested
            exact List.mem_append_left _ (covers grown scanned .refl)
        · cases requested

end

end VirtualDeviceState

end VirtualDevice
