import MtpRs.VirtualDevice.Numbered

set_option autoImplicit false

/- The tree of what a device tracks: every object is an entry of a folder that is tracked in the
same storage, or of the root, and can be found from there. -/
namespace VirtualDevice

open Files (Disk Name Path)
open Ptp (Bytes OperationCode)
open Runs (Restricted Run)

def isName (path : Path) : Bool :=
  match path.components with
  | [.normal _] => true
  | _ => false

theorem isName_iff {path : Path} : isName path = true ↔ ∃ name, path = ⟨[.normal name]⟩ := by
  obtain ⟨components⟩ := path
  unfold isName
  constructor
  · intro one
    split at one
    · next name same => exact ⟨name, congrArg Files.Path.mk same⟩
    · cases one
  · rintro ⟨name, same⟩
    cases same
    rfl

namespace VirtualDeviceState

/-- Whether an object would be an entry of a tracked folder of its storage, or of the root. -/
def isEntry (self : VirtualDeviceState) (obj : VirtualObject) : Bool :=
  if obj.parent = handleRoot then isName obj.relPath
  else
    match self.objects.lookup obj.parent, obj.relPath.fileName with
    | some folder, some name =>
        folder.storageId == obj.storageId && obj.relPath == folder.relPath.child name
    | _, _ => false

/-- Whether anything is tracked in a folder. -/
def holdsSome (self : VirtualDeviceState) (handle : UInt32) : Bool :=
  self.objects.entries.any fun entry => entry.2.parent == handle

/-- An operation that would have an object lie where its parent is not, or leave what lies in a
folder behind. -/
def uproots (self : VirtualDeviceState) (op : OperationCode) (params : List UInt32)
    (dataPayload : Option Bytes) : Bool :=
  let handle := param params 0
  match op with
  | .sendObjectInfo =>
      match self.checkSendObjectInfo params dataPayload with
      | .error _ => false
      | .ok target => !isName (.ofString target.info.filename)
  | .sendObject =>
      match self.pendingSend with
      | none => false
      | some upload =>
          match self.checkSendObject upload with
          | .error _ => false
          | .ok (_, relPath) =>
              self.holdsSome upload.assignedHandle || upload.parent == upload.assignedHandle ||
                !self.isEntry ⟨relPath, upload.storageId, upload.parent⟩
  | .moveObject =>
      match self.checkTransfer true params with
      | .error _ => false
      | .ok transfer =>
          self.holdsSome handle || transfer.destParent == handle ||
            !self.isEntry ⟨transfer.newRel, transfer.destStorage.storageId, transfer.destParent⟩
  | .copyObject =>
      match self.checkTransfer false params with
      | .error _ => false
      | .ok transfer =>
          !self.isEntry ⟨transfer.newRel, transfer.destStorage.storageId, transfer.destParent⟩
  | .setObjectPropValue =>
      match self.checkRename params dataPayload with
      | .error _ => false
      | .ok (_, _, newName) => self.holdsSome handle || !isName (.ofString newName)
  | _ => false

/-- An event for a path that would be tracked in no folder, or for a folder that holds something. -/
def eventUproots (host : Host) (self : VirtualDeviceState) (storages : List (Path × UInt32))
    (path : Path) : Bool :=
  match findStorageForPath ((self.disk.canonicalize path).getD path) storages with
  | none => false
  | some (storageId, relPath) =>
      match self.handleAt host storageId relPath with
      | none => !self.isEntry ⟨relPath, storageId, self.parentOf host storageId relPath⟩
      | some handle => self.holdsSome handle

/-- One of the paths of an event, each after the ones before it. -/
def eventsUproot (host : Host) (storages : List (Path × UInt32)) (kind : EventKind) :
    List Path → VirtualDeviceState → Bool
  | [], _ => false
  | path :: rest, self =>
      self.eventUproots host storages path ||
        eventsUproot host storages kind rest (self.notifyPath host storages kind path)

/-- Every object is an entry. -/
def Rooted (self : VirtualDeviceState) : Prop :=
  ∀ handle obj, self.objects.lookup handle = some obj → self.EntryOf obj

section

variable {host : Host} {state after : VirtualDeviceState} {obj : VirtualObject}
  {handle storageId : UInt32} {relPath : Path} {storages : List (Path × UInt32)}

theorem isEntry_iff : state.isEntry obj = true ↔ state.EntryOf obj := by
  unfold isEntry EntryOf
  by_cases root : obj.parent = handleRoot
  · rw [if_pos root, isName_iff]
    simp [root]
  · rw [if_neg root]
    constructor
    · intro test
      split at test
      · next folder name found last =>
          rw [Bool.and_eq_true, beq_iff_eq, beq_iff_eq] at test
          exact Or.inr ⟨root, folder, name, found, test.1, test.2⟩
      · cases test
    · rintro (⟨top, -⟩ | ⟨-, folder, name, found, same, path⟩)
      · exact absurd top root
      · have last : obj.relPath.fileName = some name := by rw [path, Path.fileName_child]
        rw [found, last]
        simp [same, path]

theorem holdsSome_eq_false : state.holdsSome handle = false ↔
    ∀ other obj, state.objects.lookup other = some obj → obj.parent ≠ handle := by
  unfold holdsSome
  rw [List.any_eq_false]
  constructor
  · intro none other obj found
    simpa using none ⟨other, obj⟩ (AList.mem_lookup_iff.mp found)
  · rintro none ⟨other, obj⟩ mem
    simpa using none other obj (AList.mem_lookup_iff.mpr mem)

/-- An object stays an entry while its folder stays. -/
theorem EntryOf.kept (entry : state.EntryOf obj)
    (kept : obj.parent ≠ handleRoot → ∀ folder, state.objects.lookup obj.parent = some folder →
      ∃ still, after.objects.lookup obj.parent = some still ∧ pairOf still = pairOf folder) :
    after.EntryOf obj := by
  rcases entry with top | ⟨inner, folder, name, found, same, path⟩
  · exact Or.inl top
  · obtain ⟨still, there, pair⟩ := kept inner folder found
    obtain ⟨sameStorage, samePath⟩ := Prod.mk.inj pair
    exact Or.inr ⟨inner, still, name, there, sameStorage.trans same, by rw [path, samePath]⟩

variable (state) in
/-- Every object was an entry before, and its folder is as it was. -/
theorem Rooted.of_entries
    (each : ∀ handle obj, after.objects.lookup handle = some obj →
      state.EntryOf obj ∧ (obj.parent ≠ handleRoot → ∀ folder,
        state.objects.lookup obj.parent = some folder →
          after.objects.lookup obj.parent = some folder)) : after.Rooted := by
  intro handle obj found
  obtain ⟨entry, kept⟩ := each handle obj found
  exact entry.kept fun inner folder there => ⟨folder, kept inner folder there, rfl⟩

theorem Rooted.same (rooted : state.Rooted) (objects : after.objects = state.objects) :
    after.Rooted := by
  refine Rooted.of_entries state fun handle obj found => ?_
  rw [objects] at found ⊢
  exact ⟨rooted handle obj found, fun _ _ => id⟩

/-- A new entry under a handle that was in use for nothing. -/
theorem Rooted.grown (rooted : state.Rooted) (entry : state.EntryOf obj)
    (fresh : state.objects.lookup handle = none)
    (objects : after.objects = state.objects.insert handle obj) : after.Rooted := by
  refine Rooted.of_entries state fun other found tracked => ?_
  rw [objects] at tracked ⊢
  have stays : ∀ parent folder, state.objects.lookup parent = some folder →
      (state.objects.insert handle obj).lookup parent = some folder := by
    intro parent folder there
    refine AList.lookup_insert_eq_some.mpr (Or.inr ⟨?_, there⟩)
    rintro rfl
    rw [fresh] at there
    cases there
  rcases AList.lookup_insert_eq_some.mp tracked with ⟨-, rfl⟩ | ⟨-, there⟩
  · exact ⟨entry, fun _ folder => stays _ folder⟩
  · exact ⟨rooted other found there, fun _ folder => stays _ folder⟩

/-- An entry under a handle that nothing lies in. -/
theorem Rooted.replaced (rooted : state.Rooted) (entry : state.EntryOf obj)
    (empty : state.holdsSome handle = false) (apart : obj.parent ≠ handle)
    (kept : ∀ other found, after.objects.lookup other = some found →
      found = obj ∨ state.objects.lookup other = some found)
    (others : ∀ other, other ≠ handle → after.objects.lookup other = state.objects.lookup other) :
    after.Rooted := by
  refine Rooted.of_entries state fun other found tracked => ?_
  rcases kept other found tracked with rfl | there
  · exact ⟨entry, fun _ folder above => by rwa [others _ apart]⟩
  · refine ⟨rooted other found there, fun _ folder above => ?_⟩
    rwa [others _ (holdsSome_eq_false.mp empty other found there)]

/-- Fewer objects, among them the folder of each. -/
theorem Rooted.fewer (rooted : state.Rooted)
    (kept : ∀ handle obj, after.objects.lookup handle = some obj →
      state.objects.lookup handle = some obj)
    (folders : ∀ handle obj, after.objects.lookup handle = some obj → obj.parent ≠ handleRoot →
      ∀ folder, state.objects.lookup obj.parent = some folder →
        after.objects.lookup obj.parent = some folder) : after.Rooted :=
  Rooted.of_entries state fun handle obj found =>
    ⟨rooted handle obj (kept handle obj found), folders handle obj found⟩

theorem Discovers.rooted (found : Discovers state after) (rooted : state.Rooted)
    (counted : state.Counted) (distinct : state.Distinct) (bound : after.nextHandle ≤ 2 ^ 32) :
    after.Rooted := by
  induction found with
  | refl => exact rooted
  | queued _ _ _ ih => exact (ih bound).same rfl
  | @entry reached obj before owned fresh named known ih =>
      have earlier : reached.nextHandle ≤ 2 ^ 32 := Nat.le_of_succ_le bound
      have room : reached.nextHandle < 2 ^ 32 := bound
      have free := (before.counted counted earlier).fresh room
      exact (ih earlier).grown (known counted distinct earlier).1 free rfl

/-- What a deletion leaves is below other folders. -/
theorem Rooted.deleted {gone : VirtualObject} (rooted : state.Rooted)
    (objects : after.objects = state.objects.keep fun _ other =>
      !(other.storageId == gone.storageId && other.relPath.startsWith gone.relPath)) :
    after.Rooted := by
  refine rooted.fewer (fun handle obj found => ?_) fun handle obj found inner folder above => ?_
  · rw [objects] at found
    exact (AList.lookup_keep_eq_some.mp found).1
  · rw [objects] at found ⊢
    obtain ⟨there, stays⟩ := AList.lookup_keep_eq_some.mp found
    refine AList.lookup_keep_eq_some.mpr ⟨above, ?_⟩
    rcases rooted handle obj there with ⟨top, -⟩ | ⟨-, folder', name, above', same, path⟩
    · exact absurd top inner
    · rw [above] at above'
      cases above'
      rw [Bool.not_eq_true', Bool.and_eq_false_iff] at stays ⊢
      refine stays.imp (fun apart => by rw [same]; exact apart) fun apart => ?_
      rw [Bool.eq_false_iff] at apart ⊢
      intro inside
      apply apart
      rw [path]
      exact Path.startsWith_child inside

theorem sendTarget_parent {params : List UInt32} {dataPayload : Option Bytes} {target : SendTarget}
    (checked : state.checkSendObjectInfo params dataPayload = .ok target) :
    target.parent = handleRoot ∧ target.parentPath = .empty ∨
      target.parent ≠ handleRoot ∧ ∃ folder, state.objects.lookup target.parent = some folder ∧
        folder.storageId = target.storage.storageId ∧ target.parentPath = folder.relPath := by
  unfold checkSendObjectInfo at checked
  dsimp only at checked
  generalize (if param params 1 = handleSendRoot then handleRoot else param params 1) = parent
    at checked
  split at checked
  · cases checked
  · next storage owner =>
      have id := (findStorage_mem owner).2
      simp only [bind, Except.bind] at checked
      by_cases top : parent = handleRoot
      · rw [if_pos top] at checked
        repeat' split at checked
        all_goals cases checked
        all_goals exact Or.inl ⟨top, rfl⟩
      · rw [if_neg top] at checked
        cases tracked : state.objects.lookup parent with
        | none =>
            rw [tracked] at checked
            dsimp only at checked
            repeat' split at checked
            all_goals cases checked
        | some folder =>
            rw [tracked] at checked
            dsimp only at checked
            by_cases same : folder.storageId = param params 0 ∧
                state.disk.isDirectory (storage.config.backingDir.join folder.relPath) = true
            · rw [if_pos same] at checked
              repeat' split at checked
              all_goals cases checked
              all_goals exact Or.inr ⟨top, folder, tracked, same.1.trans id.symm, rfl⟩
            · rw [if_neg same] at checked
              repeat' split at checked
              all_goals cases checked

/-- A file or folder sent under a plain name is an entry. -/
theorem sendTarget_entry {params : List UInt32} {dataPayload : Option Bytes} {target : SendTarget}
    (checked : state.checkSendObjectInfo params dataPayload = .ok target)
    (named : isName (.ofString target.info.filename) = true) :
    state.EntryOf ⟨target.relPath, target.storage.storageId, target.parent⟩ := by
  obtain ⟨name, plain⟩ := isName_iff.mp named
  have path : target.relPath = target.parentPath.child name := by
    rw [SendTarget.relPath, plain, Path.join_normal]
  rcases sendTarget_parent checked with ⟨top, empty⟩ | ⟨inner, folder, tracked, same, above⟩
  · refine Or.inl ⟨top, name, ?_⟩
    rw [path, empty]
    rfl
  · exact Or.inr ⟨inner, folder, name, tracked, same, by rw [path, above]⟩

theorem EntryOf.renamed {newName : String} (entry : state.EntryOf obj)
    (named : isName (.ofString newName) = true) :
    state.EntryOf { obj with relPath := renamedPath obj.relPath newName } := by
  obtain ⟨name, plain⟩ := isName_iff.mp named
  rcases entry with ⟨top, old, path⟩ | ⟨inner, folder, old, tracked, same, path⟩
  · refine Or.inl ⟨top, name, ?_⟩
    rw [path, renamedPath, plain]
    rfl
  · refine Or.inr ⟨inner, folder, name, tracked, same, ?_⟩
    dsimp only
    rw [path, renamedPath, Path.parent_child, plain]
    dsimp only
    split
    · next empty =>
        rw [empty]
        rfl
    · rw [Path.join_normal]

section

variable {params : List UInt32} {dataPayload : Option Bytes} {op : OperationCode}

theorem Handled.rooted (handled : Handled host state params dataPayload after op)
    (rooted : state.Rooted) (counted : state.Counted) (bound : after.nextHandle ≤ 2 ^ 32)
    (stays : state.uproots op params dataPayload = false) : after.Rooted := by
  cases handled with
  | uploadUnmade _ _ leaves => exact rooted.same leaves.objects
  | uploadFailed _ _ _ leaves => exact rooted.same leaves.objects
  | uploadMade checked _ _ leaves =>
      have next := leaves.nextHandle
      rw [uproots, checked] at stays
      have named : isName (.ofString _) = true := Bool.not_eq_eq_eq_not.mp stays
      exact rooted.grown (sendTarget_entry checked named) (counted.fresh (by omega)) leaves.objects
  | dataDropped leaves => exact rooted.same leaves.objects
  | dataFailed _ _ _ leaves => exact rooted.same leaves.objects
  | dataWritten waiting checked _ leaves =>
      rw [uproots, waiting] at stays
      dsimp only at stays
      rw [checked] at stays
      dsimp only at stays
      rw [Bool.or_eq_false_iff, Bool.or_eq_false_iff, Bool.not_eq_false', isEntry_iff,
        beq_eq_false_iff_ne] at stays
      obtain ⟨⟨empty, apart⟩, entry⟩ := stays
      refine rooted.replaced entry empty apart (fun other found tracked => ?_)
        fun other different => ?_
      · rw [leaves.objects] at tracked
        rcases AList.lookup_insert_eq_some.mp tracked with ⟨-, same⟩ | ⟨-, there⟩
        · exact Or.inl same.symm
        · exact Or.inr there
      · rw [leaves.objects, AList.lookup_insert_ne different]
  | deleteFailed _ _ leaves => exact rooted.same leaves.objects
  | deleted _ _ leaves => exact rooted.deleted leaves.objects
  | moveFailed _ _ leaves => exact rooted.same leaves.objects
  | moved checked _ leaves =>
      rw [uproots, checked] at stays
      dsimp only at stays
      rw [Bool.or_eq_false_iff, Bool.or_eq_false_iff, Bool.not_eq_false', isEntry_iff,
        beq_eq_false_iff_ne] at stays
      obtain ⟨⟨empty, apart⟩, entry⟩ := stays
      refine rooted.replaced entry empty apart (fun other found tracked => ?_)
        fun other different => ?_
      · rw [leaves.objects] at tracked
        rcases AList.lookup_modify_eq_some.mp tracked with ⟨_, -, -, same⟩ | ⟨-, there⟩
        · exact Or.inl same
        · exact Or.inr there
      · rw [leaves.objects, AList.lookup_modify_ne different]
  | copyUntracked _ _ leaves => exact rooted.same leaves.objects
  | copied checked _ _ leaves =>
      have next := leaves.nextHandle
      rw [uproots, checked] at stays
      have entry := isEntry_iff.mp (Bool.not_eq_eq_eq_not.mp stays)
      exact rooted.grown entry (counted.fresh (by omega)) leaves.objects
  | renamed checked _ _ _ _ leaves =>
      obtain ⟨tracked, -⟩ := checkRename_ok checked
      rw [uproots, checked] at stays
      dsimp only at stays
      rw [Bool.or_eq_false_iff, Bool.not_eq_false'] at stays
      obtain ⟨empty, named⟩ := stays
      have entry := (rooted _ _ tracked).renamed named
      have apart := holdsSome_eq_false.mp empty _ _ tracked
      refine rooted.replaced entry empty apart
        (fun other found renamed => ?_) fun other different => ?_
      · rw [leaves.objects] at renamed
        rcases AList.lookup_modify_eq_some.mp renamed with ⟨before, there, -, same⟩ | ⟨-, there⟩
        · rw [tracked] at there
          cases there
          exact Or.inl same
        · exact Or.inr there
      · rw [leaves.objects, AList.lookup_modify_ne different]

end

theorem Handled.storages_eq {params : List UInt32} {dataPayload : Option Bytes} {op : OperationCode}
    (handled : Handled host state params dataPayload after op) :
    after.storages = state.storages := by
  cases handled <;> (rename_i leaves; exact leaves.storages)

theorem Noticed.storages_eq {path : Path} (noticed : Noticed host storages state path after) :
    after.storages = state.storages := by
  cases noticed <;> (rename_i leaves; exact leaves.storages)

theorem Noticed.rooted {path : Path} (noticed : Noticed host storages state path after)
    (rooted : state.Rooted) (counted : state.Counted) (bound : after.nextHandle ≤ 2 ^ 32)
    (stays : state.eventUproots host storages path = false) : after.Rooted := by
  cases noticed with
  | ignored leaves => exact rooted.same leaves.objects
  | created found _ unknown leaves =>
      have next := leaves.nextHandle
      rw [eventUproots, found] at stays
      dsimp only at stays
      rw [unknown] at stays
      have entry := isEntry_iff.mp (Bool.not_eq_eq_eq_not.mp stays)
      exact rooted.grown entry (counted.fresh (by omega)) leaves.objects
  | removed found _ known leaves =>
      rw [eventUproots, found] at stays
      dsimp only at stays
      rw [known] at stays
      refine rooted.fewer (fun handle obj tracked => ?_) fun handle obj tracked _ folder above => ?_
      · rw [leaves.objects] at tracked
        exact (AList.lookup_erase_eq_some.mp tracked).2
      · rw [leaves.objects] at tracked ⊢
        have there := (AList.lookup_erase_eq_some.mp tracked).2
        exact AList.lookup_erase_eq_some.mpr
          ⟨holdsSome_eq_false.mp stays handle obj there, above⟩

theorem dropped_storages : (state.dropped host).storages = state.storages :=
  (dropStale_spec (state.staleHandles host) state).2.2.2.2

/-- The objects a rescan removes: those whose file is gone. -/
theorem mem_stale : handle ∈ (state.staleHandles host).map Prod.fst ↔
    ∃ obj storage, state.objects.lookup handle = some obj ∧
      state.findStorage obj.storageId = some storage ∧
        state.disk.present (storage.config.backingDir.join obj.relPath) = false := by
  rw [staleHandles, List.mem_map]
  constructor
  · rintro ⟨⟨_, id⟩, mem, rfl⟩
    obtain ⟨⟨key, obj⟩, inOrder, test⟩ := List.mem_filterMap.mp mem
    have found := AList.mem_lookup_iff.mpr (Arrangement.mem_arrange.mp inOrder)
    dsimp only at test
    split at test
    · cases test
    · next storage owner =>
        split at test
        · cases test
        · next gone =>
            cases test
            exact ⟨obj, storage, found, owner, Bool.eq_false_iff.mpr gone⟩
  · rintro ⟨obj, storage, found, owner, gone⟩
    refine ⟨(handle, obj.storageId), List.mem_filterMap.mpr ⟨⟨handle, obj⟩, ?_, ?_⟩, rfl⟩
    · exact Arrangement.mem_arrange.mpr (AList.mem_lookup_iff.mp found)
    · dsimp only
      rw [owner]
      dsimp only
      rw [gone]
      rfl

theorem EntryOf.named (entry : state.EntryOf obj) :
    ∃ above name, obj.relPath = Path.child above name := by
  rcases entry with ⟨-, name, path⟩ | ⟨-, folder, name, -, -, path⟩
  · exact ⟨.empty, name, path⟩
  · exact ⟨folder.relPath, name, path⟩

/-- What a rescan removes first takes what lies in it along. -/
theorem Rooted.dropped (rooted : state.Rooted) : (state.dropped host).Rooted := by
  obtain ⟨lookup, -⟩ := dropStale_spec (state.staleHandles host) state
  refine rooted.fewer (fun handle obj found => ((lookup handle obj).mp found).1)
    fun handle obj found inner folder above => ?_
  obtain ⟨there, fine⟩ := (lookup handle obj).mp found
  refine (lookup _ folder).mpr ⟨above, fun stale => fine ?_⟩
  obtain ⟨other, storage, above', owner, gone⟩ := mem_stale.mp stale
  rw [above] at above'
  cases above'
  rcases rooted handle obj there with ⟨top, -⟩ | ⟨-, folder', name, above', same, path⟩
  · exact absurd top inner
  · rw [above] at above'
    cases above'
    refine mem_stale.mpr ⟨obj, storage, there, same ▸ owner, ?_⟩
    obtain ⟨outer, last, named⟩ := (rooted _ folder above).named
    rw [Bool.eq_false_iff] at gone ⊢
    intro present
    apply gone
    have start : (storage.config.backingDir.join folder.relPath).components ≠ [] := by
      rw [named, Path.join_child]
      simp [Path.child]
    rw [path, Path.join_child] at present
    exact Disk.present_front start (List.cons_ne_nil _ _) present

theorem Rooted.rekeyObject (rooted : state.Rooted) (counted : state.Counted)
    (bound : (state.rekeyObject host relPath).2.nextHandle ≤ 2 ^ 32) :
    (state.rekeyObject host relPath).2.Rooted := by
  unfold VirtualDeviceState.rekeyObject at bound ⊢
  split at bound
  · exact rooted
  · next oldKey obj search =>
      have found : state.objects.lookup oldKey = some obj :=
        AList.mem_lookup_iff.mpr (Arrangement.find?_eq_some search).1
      have fresh := counted.fresh (Nat.lt_of_succ_le bound)
      have given : state.allocHandle.2.Given (UInt32.ofNat state.nextHandle) :=
        counted.given rfl bound
      have notRoot : oldKey ≠ handleRoot := (counted.live oldKey obj found).1
      dsimp only
      intro handle child tracked
      rw [AList.lookup_mapValues] at tracked
      obtain ⟨before, there, changed⟩ := Option.map_eq_some_iff.mp tracked
      have entry : state.EntryOf before := by
        rcases AList.lookup_insert_eq_some.mp there with ⟨-, rfl⟩ | ⟨-, there⟩
        · exact rooted oldKey obj found
        · exact rooted handle before (AList.lookup_erase_eq_some.mp there).2
      have pairs : ∀ child : VirtualObject, pairOf (if child.parent = oldKey then
          { child with parent := UInt32.ofNat state.nextHandle } else child) = pairOf child := by
        intro child
        split <;> rfl
      rcases entry with ⟨top, named⟩ | ⟨inner, folder, name, above, same, path⟩
      · have apart : before.parent ≠ oldKey := fun is => notRoot (is.symm.trans top)
        rw [if_neg apart] at changed
        subst changed
        exact Or.inl ⟨top, named⟩
      · by_cases moves : before.parent = oldKey
        · rw [if_pos moves] at changed
          subst changed
          rw [moves, found] at above
          cases above
          obtain ⟨sameStorage, samePath⟩ := Prod.mk.inj (pairs obj)
          refine Or.inr ⟨given.1, _, name, ?_, sameStorage.trans same, by rw [path, samePath]⟩
          rw [AList.lookup_mapValues]
          exact Option.map_eq_some_iff.mpr ⟨obj, AList.lookup_insert _, rfl⟩
        · rw [if_neg moves] at changed
          subst changed
          obtain ⟨sameStorage, samePath⟩ := Prod.mk.inj (pairs folder)
          refine Or.inr ⟨inner, _, name, ?_, sameStorage.trans same, by rw [path, samePath]⟩
          have later : before.parent ≠ UInt32.ofNat state.nextHandle := by
            intro is
            rw [is, fresh] at above
            cases above
          have kept : ((state.objects.erase oldKey).insert (UInt32.ofNat state.nextHandle)
              obj).lookup before.parent = some folder := by
            rw [AList.lookup_insert_ne later, AList.lookup_erase_ne moves, above]
          rw [AList.lookup_mapValues]
          exact Option.map_eq_some_iff.mpr ⟨folder, kept, rfl⟩

end

end VirtualDeviceState

/-- What would leave an object without its folder. -/
def Occurrence.uproots (host : Host) (state : VirtualDeviceState) : Occurrence → Bool
  | operation opCode _ params dataPayload =>
      state.uproots (OperationCode.ofCode opCode) params dataPayload
  | notified storages kind paths =>
      kind != .other && state.eventsUproot host storages kind paths
  | _ => false

section

variable {host : Host} {state next : VirtualDeviceState} {occurrence : Occurrence}

theorem Happens.storages (happens : Happens host state occurrence next) :
    next.storages = state.storages := by
  cases occurrence with
  | operation opCode txId params dataPayload =>
      rcases VirtualDeviceState.dispatch_handled happens with ⟨_, -, leaves⟩ | closed | ⟨-, handled⟩
      · exact leaves.storages
      · exact closed.storages
      · exact handled.storages_eq
  | scanDir storageId parent =>
      cases happens
      exact (VirtualDeviceState.scanDir_discovers rfl).storages_eq
  | scanAll storageId =>
      obtain ⟨⟨result, reached⟩, listed, same⟩ := Option.map_eq_some_iff.mp happens
      cases same
      exact (VirtualDeviceState.Scanned.discovers
        (VirtualDeviceState.scanAll_scanned listed)).storages_eq
  | rescan =>
      cases happens
      exact (VirtualDeviceState.rescanBackingDirs_discovers host state).storages_eq.trans
        VirtualDeviceState.dropped_storages
  | notified storages kind paths =>
      cases happens
      exact VirtualDeviceState.handleNotifyEvent_closed
        (fun _ _ {reached _} _ _ (kept : reached.storages = state.storages) noticed =>
          noticed.storages_eq.trans kept) rfl
  | rekeyed relPath =>
      cases happens
      unfold VirtualDeviceState.rekeyObject
      split <;> rfl
  | paused count =>
      cases happens
      rfl
  | changed disk =>
      cases happens
      rfl

theorem nextHandle_le_notified {storages : List (Path × UInt32)} {kind : EventKind}
    (paths : List Path) : state.nextHandle ≤
      (paths.foldl (VirtualDeviceState.notifyPath host storages kind) state).nextHandle := by
  induction paths generalizing state with
  | nil => exact Nat.le_refl _
  | cons path rest ih =>
      have noticed := VirtualDeviceState.notifyPath_noticed host state storages kind path
      exact noticed.nextHandle_le.trans ih

theorem rooted_notified {storages : List (Path × UInt32)} {kind : EventKind} (paths : List Path)
    (numbered : state.Numbered) (rooted : state.Rooted)
    (stays : state.eventsUproot host storages kind paths = false)
    (bound : (paths.foldl (VirtualDeviceState.notifyPath host storages kind) state).nextHandle ≤
      2 ^ 32) :
    (paths.foldl (VirtualDeviceState.notifyPath host storages kind) state).Rooted := by
  induction paths generalizing state with
  | nil => exact rooted
  | cons path rest ih =>
      rw [VirtualDeviceState.eventsUproot, Bool.or_eq_false_iff] at stays
      have noticed := VirtualDeviceState.notifyPath_noticed host state storages kind path
      have room := (nextHandle_le_notified rest).trans bound
      have numbered' := noticed.numbered numbered room
      exact ih numbered' (noticed.rooted rooted numbered.toCounted room stays.1) stays.2 bound

theorem Happens.rooted (happens : Happens host state occurrence next) (numbered : state.Numbered)
    (distinct : state.Distinct) (rooted : state.Rooted) (bound : next.nextHandle ≤ 2 ^ 32)
    (stays : occurrence.uproots host state = false) : next.Rooted := by
  cases occurrence with
  | operation opCode txId params dataPayload =>
      rcases VirtualDeviceState.dispatch_handled happens with looks | closed | ⟨-, handled⟩
      · obtain ⟨reached, scanned, leaves⟩ := looks
        have more := leaves.nextHandle
        have found := VirtualDeviceState.Scanned.discovers scanned
        exact (found.rooted rooted numbered.toCounted distinct (by omega)).same leaves.objects
      · intro handle obj found
        rw [closed.objects] at found
        cases found
      · exact handled.rooted rooted numbered.toCounted bound stays
  | scanDir storageId parent =>
      cases happens
      exact (VirtualDeviceState.scanDir_discovers rfl).rooted rooted numbered.toCounted distinct
        bound
  | scanAll storageId =>
      obtain ⟨⟨result, reached⟩, listed, same⟩ := Option.map_eq_some_iff.mp happens
      cases same
      exact (VirtualDeviceState.Scanned.discovers
        (VirtualDeviceState.scanAll_scanned listed)).rooted rooted numbered.toCounted distinct bound
  | rescan =>
      cases happens
      have dropped : (state.dropped host).Counted := numbered.dropped.toCounted
      have apart : (state.dropped host).Distinct := by
        rwa [VirtualDeviceState.Distinct, VirtualDeviceState.dropped_storages]
      have scanned := VirtualDeviceState.rescanBackingDirs_discovers host state
      exact scanned.rooted rooted.dropped dropped apart bound
  | notified storages kind paths =>
      cases happens
      unfold VirtualDeviceState.handleNotifyEvent at bound ⊢
      split
      · exact rooted
      · next told =>
          rw [if_neg told] at bound
          rw [Occurrence.uproots, Bool.and_eq_false_iff] at stays
          refine rooted_notified paths numbered rooted (stays.resolve_left ?_) bound
          simpa using told
  | rekeyed relPath =>
      cases happens
      exact rooted.rekeyObject numbered.toCounted bound
  | paused count =>
      cases happens
      exact rooted.same rfl
  | changed disk =>
      cases happens
      exact rooted.same rfl

/-- The storages get IDs of their own, as long as there are that many. -/
theorem distinct_new (config : VirtualDeviceConfig) (disk : Disk)
    (few : config.storages.length ≤ 2 ^ 32) : (VirtualDeviceState.new config disk).Distinct := by
  refine List.pairwise_iff_getElem.mpr fun first second one two before same => ?_
  simp only [VirtualDeviceState.new, List.length_map, List.length_mapIdx] at one two
  simp only [VirtualDeviceState.new, List.getElem_map, List.getElem_mapIdx,
    VirtualStorageState.resolve] at same
  have index := congrArg UInt32.toNat ((UInt32.add_right_inj _).mp same)
  rw [UInt32.toNat_ofNat', UInt32.toNat_ofNat', Nat.mod_eq_of_lt (by omega),
    Nat.mod_eq_of_lt (by omega)] at index
  omega

end

end VirtualDevice
