import MtpRs.VirtualDevice.State

set_option autoImplicit false

/- Objects a scan adds one after the other, each under the next handle of the device. -/
namespace VirtualDevice

open Ptp (EventCode)
open Files (Path)

namespace VirtualDeviceState

variable (self : VirtualDeviceState)

/-- A path that has a handle in a storage. -/
def Tracks (storageId : UInt32) (relPath : Path) : Prop :=
  ∃ handle obj, self.objects.lookup handle = some obj ∧ obj.storageId = storageId ∧
    obj.relPath = relPath

/-- An object under the next handle, and the event that tells of it. -/
def add (obj : VirtualObject) : VirtualDeviceState :=
  (self.allocHandle.2.track self.allocHandle.1 obj).queueEvent .objectAdded [self.allocHandle.1]

def addAll (added : List VirtualObject) : VirtualDeviceState := added.foldl add self

/-- The handle the device gives out after this many others. -/
def handleAfter (count : Nat) : UInt32 := UInt32.ofNat (self.nextHandle + count)

def handedOut (count : Nat) : List UInt32 := (List.range count).map self.handleAfter

/-- Objects none of which was tracked when it was added. -/
def Fits (self : VirtualDeviceState) : List VirtualObject → Prop
  | [] => True
  | obj :: rest => ¬ self.Tracks obj.storageId obj.relPath ∧ (self.add obj).Fits rest

/-- Handles enough for this many more objects: none twice, and none that is in use. -/
def Room (count : Nat) : Prop := (self.handedOut count ++ self.objects.keys).Nodup

section

variable {self : VirtualDeviceState} {added later : List VirtualObject} {obj : VirtualObject}
  {handle : UInt32} {count : Nat} {storageId : UInt32} {relPath : Path}

theorem findStorage_mem {id : UInt32} {storage : VirtualStorageState}
    (found : self.findStorage id = some storage) :
    storage ∈ self.storages ∧ storage.storageId = id :=
  ⟨List.mem_of_find?_eq_some found, by simpa using List.find?_some found⟩

@[simp] theorem addAll_nil : self.addAll [] = self := rfl

@[simp] theorem addAll_append : self.addAll (added ++ later) = (self.addAll added).addAll later :=
  List.foldl_append

@[simp] theorem addAll_singleton : self.addAll [obj] = self.add obj := rfl

theorem addAll_nextHandle : (self.addAll added).nextHandle = self.nextHandle + added.length := by
  induction added generalizing self with
  | nil => rfl
  | cons obj rest ih =>
      rw [addAll, List.foldl_cons, ← addAll, ih, add, List.length_cons]
      simp only [queueEvent, track, allocHandle]
      omega

@[simp] theorem addAll_disk : (self.addAll added).disk = self.disk := by
  induction added generalizing self with
  | nil => rfl
  | cons obj rest ih => exact ih

@[simp] theorem addAll_storages : (self.addAll added).storages = self.storages := by
  induction added generalizing self with
  | nil => rfl
  | cons obj rest ih => exact ih

theorem handleAfter_addAll :
    (self.addAll added).handleAfter count = self.handleAfter (added.length + count) := by
  rw [handleAfter, handleAfter, addAll_nextHandle, Nat.add_assoc]

theorem handedOut_succ :
    self.handedOut (count + 1) = self.handedOut count ++ [self.handleAfter count] := by
  rw [handedOut, List.range_succ, List.map_append, List.map_singleton]
  rfl

theorem handedOut_add (more : Nat) : self.handedOut (added.length + more) =
    self.handedOut added.length ++ (self.addAll added).handedOut more := by
  induction more with
  | zero => simp [handedOut]
  | succ more ih =>
      rw [← Nat.add_assoc, handedOut_succ, ih, handedOut_succ, handleAfter_addAll,
        List.append_assoc]

theorem mem_handedOut {found : UInt32} :
    found ∈ self.handedOut count ↔ ∃ i < count, self.handleAfter i = found := by
  simp [handedOut]

/-- Each addition tells of its handle. -/
theorem addAll_eventQueue : (self.addAll added).eventQueue =
    self.eventQueue ++ (self.handedOut added.length).map fun h => buildEvent .objectAdded [h] := by
  induction added using List.reverseRecOn with
  | nil => simp [handedOut]
  | append_singleton added obj ih =>
      have handle : (self.addAll added).allocHandle.1 = self.handleAfter added.length := by
        rw [allocHandle, addAll_nextHandle]
        rfl
      rw [addAll_append, addAll_singleton, List.length_append, List.length_singleton,
        handedOut_succ, List.map_append, ← List.append_assoc, ← ih, ← handle]
      rfl

theorem lookup_add {found : VirtualObject} : (self.add obj).objects.lookup handle = some found ↔
    handle = self.handleAfter 0 ∧ obj = found ∨
      handle ≠ self.handleAfter 0 ∧ self.objects.lookup handle = some found :=
  AList.lookup_insert_eq_some

theorem mem_keys_of_lookup (found : self.objects.lookup handle = some obj) :
    handle ∈ self.objects.keys := by
  rw [← AList.mem_keys, ← AList.lookup_isSome, found]
  rfl

theorem lookup_of_mem_keys (mem : handle ∈ self.objects.keys) :
    ∃ obj, self.objects.lookup handle = some obj := by
  rw [← AList.mem_keys, ← AList.lookup_isSome] at mem
  exact Option.isSome_iff_exists.mp mem

theorem Room.mono {more : Nat} (room : self.Room more) (fewer : count ≤ more) :
    self.Room count := by
  apply List.Nodup.sublist _ room
  exact ((List.range_sublist.mpr fewer).map _).append_right _

/-- The next handle of a room is new. -/
theorem Room.fresh (room : self.Room (count + 1)) :
    self.handleAfter count ∉ self.objects.keys ∧
      self.handleAfter count ∉ self.handedOut count := by
  rw [Room, handedOut_succ, List.append_assoc, List.nodup_append] at room
  obtain ⟨-, rest, apart⟩ := room
  refine ⟨(List.nodup_cons.mp rest).1, fun mem => ?_⟩
  exact apart _ mem _ (List.mem_cons_self ..) rfl

/-- With room for them, the additions come on top of what was there. -/
theorem lookup_addAll (room : self.Room added.length) :
    (self.addAll added).objects.lookup handle = some obj ↔
      self.objects.lookup handle = some obj ∨
        ∃ i, added[i]? = some obj ∧ handle = self.handleAfter i := by
  induction added using List.reverseRecOn generalizing handle obj with
  | nil => simp
  | append_singleton added last ih =>
      rw [List.length_append, List.length_singleton] at room
      obtain ⟨notKey, notEarlier⟩ := room.fresh
      have earlier := @ih obj handle (room.mono (Nat.le_succ _))
      rw [addAll_append, addAll_singleton, lookup_add, handleAfter_addAll, Nat.add_zero, earlier]
      constructor
      · rintro (⟨rfl, rfl⟩ | ⟨-, there | ⟨i, found, same⟩⟩)
        · exact Or.inr ⟨added.length, by simp, rfl⟩
        · exact Or.inl there
        · refine Or.inr ⟨i, ?_, same⟩
          rw [List.getElem?_append_left (List.getElem?_eq_some_iff.mp found).1, found]
      · rintro (there | ⟨i, found, rfl⟩)
        · right
          refine ⟨?_, Or.inl there⟩
          rintro rfl
          exact notKey (mem_keys_of_lookup there)
        · by_cases inside : i < added.length
          · rw [List.getElem?_append_left inside] at found
            refine Or.inr ⟨fun same => ?_, Or.inr ⟨i, found, rfl⟩⟩
            exact notEarlier (mem_handedOut.mpr ⟨i, inside, same⟩)
          · have bound := (List.getElem?_eq_some_iff.mp found).1
            rw [List.length_append, List.length_singleton] at bound
            have last : i = added.length := by omega
            subst last
            rw [List.getElem?_concat_length, Option.some.injEq] at found
            exact Or.inl ⟨rfl, found⟩

/-- What is tracked stays tracked under its handle. -/
theorem lookup_addAll_of_lookup (room : self.Room added.length)
    (found : self.objects.lookup handle = some obj) :
    (self.addAll added).objects.lookup handle = some obj :=
  (lookup_addAll room).mpr (Or.inl found)

theorem Tracks.addAll (room : self.Room added.length) (tracks : self.Tracks storageId relPath) :
    (self.addAll added).Tracks storageId relPath := by
  obtain ⟨handle, obj, found, same⟩ := tracks
  exact ⟨handle, obj, lookup_addAll_of_lookup room found, same⟩

theorem tracks_addAll (room : self.Room added.length) :
    (self.addAll added).Tracks storageId relPath ↔ self.Tracks storageId relPath ∨
      ∃ obj ∈ added, obj.storageId = storageId ∧ obj.relPath = relPath := by
  constructor
  · rintro ⟨handle, obj, found, same⟩
    rcases (lookup_addAll room).mp found with there | ⟨i, there, -⟩
    · exact Or.inl ⟨handle, obj, there, same⟩
    · exact Or.inr ⟨obj, List.mem_of_getElem? there, same⟩
  · rintro (tracks | ⟨obj, mem, same⟩)
    · exact tracks.addAll room
    · obtain ⟨i, there⟩ := List.mem_iff_getElem?.mp mem
      exact ⟨_, obj, (lookup_addAll room).mpr (Or.inr ⟨i, there, rfl⟩), same⟩

/-- What is left of a room after some additions. -/
theorem Room.left (room : self.Room (added.length + count)) : (self.addAll added).Room count := by
  have first := room.mono (Nat.le_add_right ..)
  rw [Room, handedOut_add, List.append_assoc, List.nodup_append] at room
  obtain ⟨-, rest, apart⟩ := room
  rw [List.nodup_append] at rest
  refine List.nodup_append.mpr ⟨rest.1, AList.keys_nodup _, ?_⟩
  rintro handle given _ key rfl
  obtain ⟨obj, found⟩ := lookup_of_mem_keys key
  rcases (lookup_addAll first).mp found with there | ⟨i, there, same⟩
  · exact rest.2.2 handle given handle (mem_keys_of_lookup there) rfl
  · have inside := (List.getElem?_eq_some_iff.mp there).1
    exact apart handle (mem_handedOut.mpr ⟨i, inside, same.symm⟩) handle
      (List.mem_append_left _ given) rfl

theorem fits_append : self.Fits (added ++ later) ↔
    self.Fits added ∧ (self.addAll added).Fits later := by
  induction added generalizing self with
  | nil => exact ⟨fun fits => ⟨trivial, fits⟩, fun fits => fits.2⟩
  | cons obj rest ih =>
      rw [List.cons_append, Fits, Fits, ih, and_assoc]
      rfl

def pairOf (obj : VirtualObject) : UInt32 × Path := (obj.storageId, obj.relPath)

/-- Additions that fit, with room for all but the last, are of distinct pairs not tracked before. -/
theorem Fits.distinct (fits : self.Fits added) (room : self.Room (added.length - 1)) :
    (added.map pairOf).Nodup ∧ ∀ obj ∈ added, ¬ self.Tracks obj.storageId obj.relPath := by
  induction added using List.reverseRecOn with
  | nil => exact ⟨List.nodup_nil, List.forall_mem_nil _⟩
  | append_singleton added last ih =>
      obtain ⟨fitting, fresh⟩ := fits_append.mp fits
      rw [List.length_append, List.length_singleton, Nat.add_sub_cancel] at room
      obtain ⟨distinct, untracked⟩ := ih fitting (room.mono (Nat.sub_le ..))
      have unknown := fresh.1
      rw [tracks_addAll room, not_or] at unknown
      constructor
      · rw [List.map_append, List.map_singleton, List.nodup_append]
        refine ⟨distinct, List.nodup_singleton _, ?_⟩
        rintro pair mem _ last rfl
        obtain ⟨obj, inAdded, rfl⟩ := List.mem_map.mp mem
        have same := List.mem_singleton.mp last
        exact unknown.2 ⟨obj, inAdded, congrArg Prod.fst same, congrArg Prod.snd same⟩
      · intro obj mem
        rcases List.mem_append.mp mem with earlier | last
        · exact untracked obj earlier
        · rw [List.mem_singleton.mp last]
          exact unknown.1

/-- An addition under a handle in use, while all are given out once, takes it from its object. -/
theorem Fits.lost (fits : self.Fits added) (once : (self.handedOut added.length).Nodup)
    (found : self.objects.lookup handle = some obj) :
    (handle ∉ self.handedOut added.length →
        (self.addAll added).objects.lookup handle = some obj) ∧
      (handle ∈ self.handedOut added.length →
        (self.addAll added).objects.lookup handle ≠ some obj) := by
  induction added using List.reverseRecOn with
  | nil => simpa [handedOut] using found
  | append_singleton added last ih =>
      obtain ⟨fitting, fresh⟩ := fits_append.mp fits
      rw [List.length_append, List.length_singleton, handedOut_succ] at once ⊢
      obtain ⟨earlierOnce, -, apart⟩ := List.nodup_append.mp once
      obtain ⟨kept, gone⟩ := ih fitting earlierOnce
      rw [List.mem_append, List.mem_singleton, addAll_append, addAll_singleton]
      constructor
      · intro notGiven
        rw [not_or] at notGiven
        rw [lookup_add, handleAfter_addAll]
        exact Or.inr ⟨notGiven.2, kept notGiven.1⟩
      · rintro given same
        rw [lookup_add, handleAfter_addAll, Nat.add_zero] at same
        rcases same with ⟨taken, rfl⟩ | ⟨notTaken, there⟩
        · have notEarlier : handle ∉ self.handedOut added.length := fun mem =>
            apart handle mem _ (List.mem_singleton_self _) taken
          exact fresh.1 ⟨handle, last, kept notEarlier, rfl, rfl⟩
        · rcases given with earlier | now
          · exact gone earlier there
          · exact notTaken now

end

end VirtualDeviceState

end VirtualDevice
