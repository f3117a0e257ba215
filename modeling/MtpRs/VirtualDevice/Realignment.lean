import MtpRs.VirtualDevice.RescanOutcome

set_option autoImplicit false

/- When a rescan brings the objects in line with the disk: where every handle it gives out is
new. -/
namespace VirtualDevice

open Ptp (EventCode)
open Files (Disk Path)

namespace VirtualDeviceState

/-- What a rescan is for. The events of the removals and additions each name a handle of their
own. -/
structure Realigned (host : Host) (before : VirtualDeviceState)
    (result : RescanSummary × VirtualDeviceState) : Prop where
  tracked : ∀ id relPath, result.2.Tracks id relPath ↔ before.OnDisk id relPath
  kept : ∀ handle obj, before.objects.lookup handle = some obj →
    before.OnDisk obj.storageId obj.relPath → result.2.objects.lookup handle = some obj
  told : ∃ removed added changed : List UInt32,
    result.2.eventQueue = before.eventQueue ++
      removed.map (fun h => buildEvent .objectRemoved [h]) ++
      added.map (fun h => buildEvent .objectAdded [h]) ++
      changed.map (fun id => buildEvent .storageInfoChanged [id]) ∧
    result.1 = ⟨added.length, removed.length⟩ ∧ (removed ++ added).Nodup ∧
    (∀ handle, handle ∈ removed ↔ ∃ obj, before.objects.lookup handle = some obj ∧
      ¬ before.OnDisk obj.storageId obj.relPath) ∧
    ∀ handle, handle ∈ added ↔ ∃ obj, result.2.objects.lookup handle = some obj ∧
      ¬ before.Tracks obj.storageId obj.relPath
  /-- A new object's parent is the handle of its folder. -/
  placed : ∀ handle obj, result.2.objects.lookup handle = some obj →
    ¬ before.Tracks obj.storageId obj.relPath → result.2.Placed obj
  again : result.2.rescanBackingDirs host = (⟨0, 0⟩, result.2)

section

variable {state : VirtualDeviceState} {host : Host} {added : List VirtualObject}

/-- What the walk of a rescan goes through. -/
def within (state : VirtualDeviceState) (id : UInt32) (names : List Files.Name) : Prop :=
  ∃ storage ∈ state.storages, inStorage storage.storageId
    (fun names => ∃ root, state.disk.locate storage.config.backingDir = some root ∧
      below state.disk root [] names) id names

theorem onDisk_iff (founded : state.Founded) {id : UInt32} {relPath : Path} :
    state.OnDisk id relPath ↔ ∃ names, state.within id names ∧ relPath = relativePath names := by
  constructor
  · rintro ⟨storage, found, root, located, names, some, path, there⟩
    obtain ⟨mem, same⟩ := findStorage_mem found
    exact ⟨names, ⟨storage, mem, same.symm, root, located, names, some, rfl, there⟩, path⟩
  · rintro ⟨names, ⟨storage, mem, same, root, located, inner, some, split, there⟩, path⟩
    rw [List.nil_append] at split
    exact ⟨storage, same ▸ founded.findStorage mem, root, located, names, split ▸ some, path, there⟩

/-- The state of a rescan after its removals. -/
def dropped (host : Host) (state : VirtualDeviceState) : VirtualDeviceState :=
  dropStale (state.staleHandles host) state

theorem lookup_dropped (founded : state.Founded) {handle : UInt32} {obj : VirtualObject} :
    (state.dropped host).objects.lookup handle = some obj ↔
      state.objects.lookup handle = some obj ∧ state.OnDisk obj.storageId obj.relPath := by
  rw [dropped, (dropStale_spec _ state).1, mem_staleHandles founded]
  refine and_congr_right fun found => ?_
  constructor
  · intro fresh
    by_contra gone
    exact fresh ⟨obj, found, gone⟩
  · rintro there ⟨other, again, gone⟩
    cases found.symm.trans again
    exact gone there

theorem tracks_dropped (founded : state.Founded) {id : UInt32} {relPath : Path} :
    (state.dropped host).Tracks id relPath ↔
      state.Tracks id relPath ∧ state.OnDisk id relPath := by
  constructor
  · rintro ⟨handle, obj, found, rfl, rfl⟩
    obtain ⟨before, there⟩ := (lookup_dropped founded).mp found
    exact ⟨⟨handle, obj, before, rfl, rfl⟩, there⟩
  · rintro ⟨⟨handle, obj, found, rfl, rfl⟩, there⟩
    exact ⟨handle, obj, (lookup_dropped founded).mpr ⟨found, there⟩, rfl, rfl⟩

theorem handedOut_dropped (count : Nat) :
    (state.dropped host).handedOut count = state.handedOut count := by
  have next : (state.dropped host).nextHandle = state.nextHandle := (dropStale_spec _ state).2.2.1
  unfold handedOut handleAfter
  rw [next]

theorem Room.dropped (founded : state.Founded) {count : Nat} (room : state.Room count) :
    (state.dropped host).Room count := by
  rw [Room, List.nodup_append] at room ⊢
  rw [handedOut_dropped]
  refine ⟨room.1, AList.keys_nodup _, ?_⟩
  rintro handle given _ key rfl
  obtain ⟨obj, found⟩ := lookup_of_mem_keys key
  exact room.2.2 handle given handle (mem_keys_of_lookup ((lookup_dropped founded).mp found).1) rfl

section

variable (founded : state.Founded)
  (lists : (state.dropped host).Lists state.within 0 [] handleRoot added)

include founded lists

theorem added_onDisk {obj : VirtualObject} (mem : obj ∈ added) :
    state.OnDisk obj.storageId obj.relPath := by
  obtain ⟨names, inside, path⟩ := lists.found obj mem
  exact (onDisk_iff founded).mpr ⟨names, inside, path⟩

/-- An addition that was not tracked after the removals was not tracked before them. -/
theorem added_untracked {obj : VirtualObject} (mem : obj ∈ added)
    (fresh : ¬ (state.dropped host).Tracks obj.storageId obj.relPath) :
    ¬ state.Tracks obj.storageId obj.relPath := fun tracks =>
  fresh ((tracks_dropped founded).mpr ⟨tracks, added_onDisk founded lists mem⟩)

/-- With room for all of them, what is tracked in the end is what is on the disk. -/
theorem tracks_realigned (room : (state.dropped host).Room added.length) {id : UInt32}
    {relPath : Path} :
    ((state.dropped host).addAll added).Tracks id relPath ↔ state.OnDisk id relPath := by
  constructor
  · intro tracks
    rcases (tracks_addAll room).mp tracks with before | ⟨obj, mem, rfl, rfl⟩
    · exact ((tracks_dropped founded).mp before).2
    · exact added_onDisk founded lists mem
  · intro there
    obtain ⟨names, inside, rfl⟩ := (onDisk_iff founded).mp there
    exact lists.covers room id names inside

/-- With room for all of them, the additions are what had no handle. -/
theorem added_perm_missing (room : (state.dropped host).Room added.length) :
    (added.map pairOf).Perm state.missing := by
  obtain ⟨distinct, fresh⟩ := lists.fits.distinct (room.mono (Nat.sub_le ..))
  rw [List.perm_ext_iff_of_nodup distinct (missing_nodup founded)]
  intro pair
  rw [mem_missing founded]
  constructor
  · intro mem
    obtain ⟨obj, inAdded, rfl⟩ := List.mem_map.mp mem
    exact ⟨added_onDisk founded lists inAdded,
      added_untracked founded lists inAdded (fresh obj inAdded)⟩
  · rintro ⟨there, untracked⟩
    rcases (tracks_addAll room).mp ((tracks_realigned founded lists room).mpr there) with
      before | ⟨obj, mem, sameStorage, samePath⟩
    · exact absurd ((tracks_dropped founded).mp before).1 untracked
    · exact List.mem_map.mpr ⟨obj, mem, Prod.ext sameStorage samePath⟩

/-- With room for what has no handle, there is room for the additions. -/
theorem room_of_missing (room : state.Room state.missing.length) :
    added.length ≤ state.missing.length := by
  by_contra more
  -- One addition more than has no handle would repeat one.
  have firsts : (added.take (state.missing.length + 1)).length = state.missing.length + 1 := by
    rw [List.length_take]
    omega
  have fits : (state.dropped host).Fits (added.take (state.missing.length + 1)) := by
    have all := lists.fits
    rw [← List.take_append_drop (state.missing.length + 1) added] at all
    exact (fits_append.mp all).1
  have enough : (state.dropped host).Room ((added.take (state.missing.length + 1)).length - 1) := by
    rw [firsts]
    exact room.dropped founded
  obtain ⟨distinct, fresh⟩ := fits.distinct enough
  have without : (added.take (state.missing.length + 1)).map pairOf ⊆ state.missing := by
    intro pair mem
    obtain ⟨obj, inFirsts, rfl⟩ := List.mem_map.mp mem
    have inAdded := List.mem_of_mem_take inFirsts
    exact (mem_missing founded).mpr ⟨added_onDisk founded lists inAdded,
      added_untracked founded lists inAdded (fresh obj inFirsts)⟩
  have few := (List.subperm_of_subset distinct without).length_le
  rw [List.length_map, firsts] at few
  omega

end

theorem buildEvent_inj {code : EventCode} {first second : UInt32}
    (same : buildEvent code [first] = buildEvent code [second]) : first = second := by
  have words := List.append_cancel_left same
  simp only [List.take_succ_cons, List.take_nil, List.flatMap_cons, List.flatMap_nil] at words
  have parsed := congrArg Ptp.unpackU32 words
  rw [Ptp.unpackU32_packU32, Ptp.unpackU32_packU32] at parsed
  exact Except.ok.inj parsed

theorem onDisk_congr {other : VirtualDeviceState} (disk : other.disk = state.disk)
    (storages : other.storages = state.storages) (id : UInt32) (relPath : Path) :
    other.OnDisk id relPath ↔ state.OnDisk id relPath := by
  unfold OnDisk findStorage
  rw [disk, storages]

/-- Where every object has its file and every file its object, a rescan does nothing. -/
theorem rescan_settled (founded : state.Founded) (readable : state.Readable host)
    (aligned : ∀ id relPath, state.Tracks id relPath ↔ state.OnDisk id relPath) :
    state.rescanBackingDirs host = (⟨0, 0⟩, state) := by
  obtain ⟨added, told, same, quiet, lists⟩ := rescanBackingDirs_eq founded readable
  have noStale : state.staleHandles host = [] := by
    rw [← List.map_eq_nil_iff (f := Prod.fst), List.eq_nil_iff_forall_not_mem]
    intro handle mem
    obtain ⟨obj, found, gone⟩ := (mem_staleHandles founded).mp mem
    exact gone ((aligned _ _).mp ⟨handle, obj, found, rfl, rfl⟩)
  have nothing : added = [] := by
    cases added with
    | nil => rfl
    | cons obj rest =>
        have there := added_onDisk founded lists (List.mem_cons_self ..)
        exact absurd ((tracks_dropped founded).mpr ⟨(aligned _ _).mpr there, there⟩) lists.fits.1
  rw [same, quiet nothing noStale, nothing, noStale]
  simp [dropStale]

/-- The state a rescan leaves after these additions. -/
def rescanned (host : Host) (state : VirtualDeviceState) (added : List VirtualObject)
    (changed : List UInt32) : VirtualDeviceState :=
  { (state.dropped host).addAll added with
    eventQueue := ((state.dropped host).addAll added).eventQueue ++
      changed.map fun id => buildEvent .storageInfoChanged [id] }

theorem rescanned_eventQueue (changed : List UInt32) :
    (state.rescanned host added changed).eventQueue = state.eventQueue ++
      ((state.staleHandles host).map Prod.fst).map (fun h => buildEvent .objectRemoved [h]) ++
      (state.handedOut added.length).map (fun h => buildEvent .objectAdded [h]) ++
      changed.map fun id => buildEvent .storageInfoChanged [id] := by
  have removals : (state.dropped host).eventQueue = _ := (dropStale_spec _ state).2.1
  rw [rescanned, addAll_eventQueue, handedOut_dropped, removals]

theorem rescanned_disk (changed : List UInt32) :
    (state.rescanned host added changed).disk = state.disk :=
  addAll_disk.trans (dropStale_spec _ state).2.2.2.1

theorem rescanned_storages (changed : List UInt32) :
    (state.rescanned host added changed).storages = state.storages :=
  addAll_storages.trans (dropStale_spec _ state).2.2.2.2

section

variable (founded : state.Founded) (readable : state.Readable host)
  (lists : (state.dropped host).Lists state.within 0 [] handleRoot added)

include founded lists

/-- The handles given out are those of the new objects. -/
theorem mem_handedOut_iff (room : (state.dropped host).Room added.length) {handle : UInt32} :
    handle ∈ state.handedOut added.length ↔
      ∃ obj, ((state.dropped host).addAll added).objects.lookup handle = some obj ∧
        ¬ state.Tracks obj.storageId obj.relPath := by
  obtain ⟨-, fresh⟩ := lists.fits.distinct (room.mono (Nat.sub_le ..))
  have handles : state.handedOut added.length = (state.dropped host).handedOut added.length :=
    (handedOut_dropped _).symm
  rw [handles, mem_handedOut]
  constructor
  · rintro ⟨i, inside, rfl⟩
    refine ⟨added[i], (lookup_addAll room).mpr (Or.inr ⟨i, List.getElem?_eq_getElem inside, rfl⟩),
      ?_⟩
    exact added_untracked founded lists (List.getElem_mem inside)
      (fresh _ (List.getElem_mem inside))
  · rintro ⟨obj, found, untracked⟩
    rcases (lookup_addAll room).mp found with before | ⟨i, there, same⟩
    · exact absurd ⟨handle, obj, ((lookup_dropped founded).mp before).1, rfl, rfl⟩ untracked
    · exact ⟨i, (List.getElem?_eq_some_iff.mp there).1, same.symm⟩

include readable in
/-- New handles for all additions leave the objects in line with the disk. -/
theorem realigned_of_room (room : state.Room added.length) (changed : List UInt32) :
    Realigned host state (⟨added.length, (state.staleHandles host).length⟩,
      state.rescanned host added changed) := by
  have later : (state.dropped host).Room added.length := room.dropped founded
  have aligned : ∀ id relPath, (state.rescanned host added changed).Tracks id relPath ↔
      state.OnDisk id relPath := fun _ _ => tracks_realigned founded lists later
  have disk : (state.rescanned host added changed).disk = state.disk := rescanned_disk changed
  have storages : (state.rescanned host added changed).storages = state.storages :=
    rescanned_storages changed
  have sameDisk := onDisk_congr disk storages
  refine ⟨aligned, ?_, ?_, ?_, ?_⟩
  · intro handle obj found there
    exact lookup_addAll_of_lookup later ((lookup_dropped founded).mpr ⟨found, there⟩)
  · refine ⟨(state.staleHandles host).map Prod.fst, state.handedOut added.length, changed,
      rescanned_eventQueue changed, ?_, ?_, fun handle => mem_staleHandles founded,
      fun handle => mem_handedOut_iff founded lists later⟩
    · simp [handedOut]
    · rw [Room, List.nodup_append] at room
      refine List.nodup_append.mpr ⟨staleHandles_nodup, room.1, ?_⟩
      rintro handle stale _ given rfl
      obtain ⟨obj, found, -⟩ := (mem_staleHandles founded).mp stale
      exact room.2.2 handle given handle (mem_keys_of_lookup found) rfl
  · intro handle obj found untracked
    rcases (lookup_addAll later).mp found with before | ⟨i, there, -⟩
    · exact absurd ⟨handle, obj, ((lookup_dropped founded).mp before).1, rfl, rfl⟩ untracked
    · exact lists.placed later (Or.inl ⟨rfl, rfl⟩) obj (List.mem_of_getElem? there)
  · apply rescan_settled _ _ fun id relPath => (aligned id relPath).trans (sameDisk id relPath).symm
    · refine ⟨storages ▸ founded.ids, storages ▸ founded.named, fun handle obj found => ?_,
        fun handle obj found => ?_⟩
      · obtain ⟨storage, owner, -⟩ :=
          (sameDisk _ _).mpr ((aligned _ _).mp ⟨handle, obj, found, rfl, rfl⟩)
        exact ⟨storage, owner⟩
      · obtain ⟨-, -, -, -, names, some, path, -⟩ :=
          (aligned _ _).mp ⟨handle, obj, found, rfl, rfl⟩
        exact ⟨names, some, path⟩
    · unfold Readable
      rw [storages, disk]
      exact readable

/-- A rescan that leaves the objects in line with the disk had new handles for all additions. -/
theorem Realigned.room {changed : List UInt32}
    (realigned : Realigned host state (⟨added.length, (state.staleHandles host).length⟩,
      state.rescanned host added changed)) : state.Room added.length := by
  obtain ⟨removed, told, others, queue, summary, distinct, gone, -⟩ := realigned.told
  obtain ⟨addedCount, removedCount⟩ := RescanSummary.mk.inj summary
  -- The events name the handles given out.
  have sameQueue := (rescanned_eventQueue changed).symm.trans queue
  rw [List.append_assoc, List.append_assoc, List.append_assoc, List.append_assoc] at sameQueue
  have rest := List.append_cancel_left sameQueue
  obtain ⟨-, additions⟩ := List.append_inj rest (by simp [removedCount])
  obtain ⟨same, -⟩ := List.append_inj additions (by simp [handedOut, addedCount])
  have names : state.handedOut added.length = told :=
    List.map_injective_iff.mpr (fun _ _ => buildEvent_inj) same
  rw [← names, List.nodup_append] at distinct
  refine List.nodup_append.mpr ⟨distinct.2.1, AList.keys_nodup _, ?_⟩
  rintro handle given _ key rfl
  obtain ⟨obj, found⟩ := lookup_of_mem_keys key
  by_cases there : state.OnDisk obj.storageId obj.relPath
  · have once : ((state.dropped host).handedOut added.length).Nodup := by
      rw [handedOut_dropped]
      exact distinct.2.1
    have lost := (lists.fits.lost once ((lookup_dropped founded).mpr ⟨found, there⟩)).2
    rw [handedOut_dropped] at lost
    exact lost given (realigned.kept handle obj found there)
  · have removedToo := (gone handle).mpr ⟨obj, found, there⟩
    exact distinct.2.2 handle removedToo handle given rfl

end

/-- A rescan brings the objects in line with the disk if and only if the handles it has to give out
are new. -/
theorem realigned_iff (host : Host) (state : VirtualDeviceState) (founded : state.Founded)
    (readable : state.Readable host) :
    Realigned host state (state.rescanBackingDirs host) ↔ state.Room state.missing.length := by
  obtain ⟨added, changed, result, quiet, lists⟩ := rescanBackingDirs_eq founded readable
  rw [result]
  constructor
  · intro realigned
    have room := Realigned.room founded lists realigned
    rw [← (added_perm_missing founded lists (room.dropped founded)).length_eq, List.length_map]
    exact room
  · intro room
    exact realigned_of_room founded readable lists
      (room.mono (room_of_missing founded lists room)) changed

end

/-- A directory with the files `a` and `b`. -/
def twoFiles : Disk :=
  ((Disk.bare.put [⟨"d", rfl⟩] ⟨.directory, none, none⟩ (.mkdir [⟨"d", rfl⟩]) rfl fun _ => rfl).put
    [⟨"d", rfl⟩, ⟨"a", rfl⟩] ⟨.file [], none, none⟩ (.open [⟨"d", rfl⟩, ⟨"a", rfl⟩]) rfl
      fun isDirectory => absurd isDirectory Bool.false_ne_true).put
    [⟨"d", rfl⟩, ⟨"b", rfl⟩] ⟨.file [], none, none⟩ (.open [⟨"d", rfl⟩, ⟨"b", rfl⟩]) rfl
      fun isDirectory => absurd isDirectory Bool.false_ne_true

/-- A device over them that tracks the first one, under the handle 1. -/
def tracksOne (nextHandle : Nat) : VirtualDeviceState :=
  { new
      ⟨"", "", "", [⟨"", 0, .ofString "/d", false⟩], false, false, false, false, [], [], .utc,
        false⟩
      twoFiles with
    nextHandle := nextHandle
    objects := (∅ : Objects).insert 1 ⟨.ofString "a", 0x00010001, handleRoot⟩ }

theorem tracksOne_founded (nextHandle : Nat) : (tracksOne nextHandle).Founded where
  ids := List.nodup_singleton _
  named := List.forall_mem_singleton.mpr (by decide +kernel)
  owned handle obj found := by
    rcases AList.lookup_insert_eq_some.mp found with ⟨-, rfl⟩ | ⟨-, none⟩
    · exact ⟨_, rfl⟩
    · cases none
  plain handle obj found := by
    rcases AList.lookup_insert_eq_some.mp found with ⟨-, rfl⟩ | ⟨-, none⟩
    · exact ⟨[⟨"a", rfl⟩], List.cons_ne_nil _ _, by decide +kernel⟩
    · cases none

theorem tracksOne_readable (nextHandle : Nat) : (tracksOne nextHandle).Readable Host.usual :=
  fun _ _ _ _ _ _ => rfl

theorem realigned_two_files :
    Realigned Host.usual (tracksOne 2) ((tracksOne 2).rescanBackingDirs Host.usual) :=
  (realigned_iff Host.usual (tracksOne 2) (tracksOne_founded 2) (tracksOne_readable 2)).mpr (by
    unfold Room
    decide +kernel)

/-- After 2³² handles the next one is 1 again: the file `b` takes it from `a`. -/
theorem handle_taken : ¬ Realigned Host.usual (tracksOne (2 ^ 32 + 1))
    ((tracksOne (2 ^ 32 + 1)).rescanBackingDirs Host.usual) := by
  intro realigned
  have taken : (((tracksOne (2 ^ 32 + 1)).rescanBackingDirs Host.usual).2.objects.lookup 1).map
      VirtualObject.relPath = some (.ofString "b") := by decide +kernel
  rw [realigned.kept 1 ⟨.ofString "a", 0x00010001, handleRoot⟩ rfl
    ⟨_, rfl, [⟨"d", rfl⟩], by decide +kernel, [⟨"a", rfl⟩], List.cons_ne_nil _ _,
      by decide +kernel, by decide +kernel⟩] at taken
  exact absurd taken (by decide +kernel)

end VirtualDeviceState

end VirtualDevice
