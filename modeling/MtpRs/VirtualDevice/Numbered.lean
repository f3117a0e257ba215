import MtpRs.VirtualDevice.Handles

set_option autoImplicit false

/- The handles in use over whole runs: all have been given out, and none is the root's. -/
namespace VirtualDevice

open Files (Disk Path)
open Ptp (Bytes EventCode OperationCode)
open Runs (Run)

namespace VirtualDeviceState

/-- A handle that has been given out and is not the root's. -/
def Given (state : VirtualDeviceState) (handle : UInt32) : Prop :=
  handle ≠ handleRoot ∧ handle.toNat < state.nextHandle

/-- All handles of objects are such handles, and so is the one of an announced upload. -/
structure Numbered (state : VirtualDeviceState) : Prop extends Counted state where
  waiting : ∀ upload, state.pendingSend = some upload → state.Given upload.assignedHandle

section

variable {host : Host} {state after : VirtualDeviceState} {handle storageId : UInt32}
  {relPath : Path}

theorem Given.later (given : state.Given handle) (later : state.nextHandle ≤ after.nextHandle) :
    after.Given handle :=
  ⟨given.1, Nat.lt_of_lt_of_le given.2 later⟩

theorem Counted.given (counted : state.Counted) (next : after.nextHandle = state.nextHandle + 1)
    (bound : after.nextHandle ≤ 2 ^ 32) : after.Given (UInt32.ofNat state.nextHandle) := by
  have number : (UInt32.ofNat state.nextHandle).toNat = state.nextHandle := toNat_handle (by omega)
  refine ⟨?_, by omega⟩
  intro root
  rw [root] at number
  exact absurd number (Nat.ne_of_lt counted.started)

/-- Objects that keep their handles, and others under handles that have been given out. -/
theorem Numbered.of_keys (numbered : state.Numbered) (later : state.nextHandle ≤ after.nextHandle)
    (keys : ∀ handle obj, after.objects.lookup handle = some obj →
      (∃ before, state.objects.lookup handle = some before) ∨ after.Given handle)
    (waiting : ∀ upload, after.pendingSend = some upload →
      state.pendingSend = some upload ∨ after.Given upload.assignedHandle) : after.Numbered where
  started := Nat.lt_of_lt_of_le numbered.started later
  live handle obj found := by
    rcases keys handle obj found with ⟨before, there⟩ | given
    · exact Given.later (numbered.live handle before there) later
    · exact given
  waiting upload pending := by
    rcases waiting upload pending with there | given
    · exact (numbered.waiting upload there).later later
    · exact given

theorem Numbered.fewer (numbered : state.Numbered) (next : after.nextHandle = state.nextHandle)
    (kept : ∀ handle obj, after.objects.lookup handle = some obj →
      state.objects.lookup handle = some obj) (pending : after.pendingSend = state.pendingSend) :
    after.Numbered :=
  numbered.of_keys (Nat.le_of_eq next.symm)
    (fun handle obj found => Or.inl ⟨obj, kept handle obj found⟩)
    fun _ waits => Or.inl (pending ▸ waits)

/-- One more object under the next handle. -/
theorem Numbered.gives {obj : VirtualObject} (numbered : state.Numbered)
    (next : after.nextHandle = state.nextHandle + 1) (bound : after.nextHandle ≤ 2 ^ 32)
    (objects : after.objects = state.objects.insert (UInt32.ofNat state.nextHandle) obj)
    (pending : ∀ upload, after.pendingSend = some upload →
      state.pendingSend = some upload ∨ upload.assignedHandle = UInt32.ofNat state.nextHandle) :
    after.Numbered := by
  have given := numbered.toCounted.given next bound
  refine numbered.of_keys (by omega) (fun handle found tracked => ?_) fun upload waits => ?_
  · rw [objects] at tracked
    rcases AList.lookup_insert_eq_some.mp tracked with ⟨rfl, -⟩ | ⟨-, there⟩
    · exact Or.inr given
    · exact Or.inl ⟨found, there⟩
  · refine (pending upload waits).imp_right fun same => ?_
    rw [same]
    exact given

theorem Discovers.numbered (found : Discovers state after) (numbered : state.Numbered)
    (bound : after.nextHandle ≤ 2 ^ 32) : after.Numbered where
  toCounted := found.counted numbered.toCounted bound
  waiting upload waits := by
    rw [found.pendingSend_eq] at waits
    exact (numbered.waiting upload waits).later found.nextHandle_le

theorem Looks.numbered (looks : Looks host state after) (numbered : state.Numbered)
    (bound : after.nextHandle ≤ 2 ^ 32) : after.Numbered := by
  obtain ⟨reached, scanned, leaves⟩ := looks
  have found := Scanned.discovers scanned
  have next := leaves.nextHandle
  refine (found.numbered numbered (by omega)).fewer next (fun handle obj => ?_) ?_
  · rw [leaves.objects]
    exact id
  · rw [leaves.pendingSend, found.pendingSend_eq]

section

variable {params : List UInt32} {dataPayload : Option Bytes} {opCode : UInt16} {txId : UInt32}
  {op : OperationCode}

theorem Handled.nextHandle_le (handled : Handled host state params dataPayload after op) :
    state.nextHandle ≤ after.nextHandle := by
  cases handled <;> (rename_i leaves; have next := leaves.nextHandle; omega)

theorem Handled.numbered (handled : Handled host state params dataPayload after op)
    (numbered : state.Numbered) (bound : after.nextHandle ≤ 2 ^ 32) : after.Numbered := by
  have same : ∀ {upload disk}, (upload = none ∨ upload = state.pendingSend) →
      ∀ {count}, state.nextHandle ≤ count → state.Leaves after count state.objects upload disk →
        after.Numbered := by
    intro upload disk either count later leaves
    refine numbered.of_keys (by rw [leaves.nextHandle]; exact later) (fun handle obj found => ?_)
      fun sent waits => ?_
    · rw [leaves.objects] at found
      exact Or.inl ⟨obj, found⟩
    · rw [leaves.pendingSend] at waits
      rcases either with rfl | rfl
      · cases waits
      · exact Or.inl waits
  cases handled with
  | uploadUnmade _ _ leaves => exact same (Or.inl rfl) (Nat.le_succ _) leaves
  | uploadFailed _ _ _ leaves => exact same (Or.inl rfl) (Nat.le_succ _) leaves
  | uploadMade _ _ _ leaves =>
      refine numbered.gives leaves.nextHandle bound leaves.objects fun upload waits => Or.inr ?_
      rw [leaves.pendingSend] at waits
      split at waits
      · cases waits
      · cases waits
        rfl
  | dataDropped leaves => exact same (Or.inl rfl) (Nat.le_refl _) leaves
  | dataFailed _ _ _ leaves => exact same (Or.inl rfl) (Nat.le_refl _) leaves
  | dataWritten waiting _ _ leaves =>
      have given := numbered.waiting _ waiting
      refine numbered.of_keys (Nat.le_of_eq leaves.nextHandle.symm) (fun handle obj found => ?_)
        fun sent waits => ?_
      · rw [leaves.objects] at found
        rcases AList.lookup_insert_eq_some.mp found with ⟨rfl, -⟩ | ⟨-, there⟩
        · exact Or.inr (given.later (Nat.le_of_eq leaves.nextHandle.symm))
        · exact Or.inl ⟨obj, there⟩
      · rw [leaves.pendingSend] at waits
        cases waits
  | deleteFailed _ _ leaves => exact same (Or.inr rfl) (Nat.le_refl _) leaves
  | deleted _ _ leaves =>
      refine numbered.fewer leaves.nextHandle (fun handle obj found => ?_) leaves.pendingSend
      rw [leaves.objects] at found
      exact (AList.lookup_keep_eq_some.mp found).1
  | moveFailed _ _ leaves => exact same (Or.inr rfl) (Nat.le_refl _) leaves
  | copyUntracked _ _ leaves => exact same (Or.inr rfl) (Nat.le_refl _) leaves
  | copied _ _ _ leaves =>
      refine numbered.gives leaves.nextHandle bound leaves.objects fun upload waits => Or.inl ?_
      rwa [leaves.pendingSend] at waits
  | moved _ _ leaves | renamed _ _ _ _ _ leaves =>
      refine numbered.of_keys (Nat.le_of_eq leaves.nextHandle.symm) (fun handle obj found => ?_)
        fun sent waits => Or.inl ?_
      · rw [leaves.objects] at found
        left
        rcases AList.lookup_modify_eq_some.mp found with ⟨before, there, rfl, -⟩ | ⟨-, there⟩
        · exact ⟨before, there⟩
        · exact ⟨obj, there⟩
      · rwa [leaves.pendingSend] at waits

end

theorem Noticed.numbered {storages : List (Path × UInt32)} {path : Path}
    (noticed : Noticed host storages state path after) (numbered : state.Numbered)
    (bound : after.nextHandle ≤ 2 ^ 32) : after.Numbered := by
  cases noticed with
  | ignored leaves =>
      refine numbered.fewer leaves.nextHandle (fun handle obj found => ?_) leaves.pendingSend
      rwa [leaves.objects] at found
  | created _ _ _ leaves =>
      refine numbered.gives leaves.nextHandle bound leaves.objects fun upload waits => Or.inl ?_
      rwa [leaves.pendingSend] at waits
  | removed _ _ _ leaves =>
      refine numbered.fewer leaves.nextHandle (fun handle obj found => ?_) leaves.pendingSend
      rw [leaves.objects] at found
      exact (AList.lookup_erase_eq_some.mp found).2

theorem Noticed.nextHandle_le {storages : List (Path × UInt32)} {path : Path}
    (noticed : Noticed host storages state path after) : state.nextHandle ≤ after.nextHandle := by
  cases noticed <;> (rename_i leaves; have next := leaves.nextHandle; omega)

theorem rekeyObject_numbered (numbered : state.Numbered)
    (bound : (state.rekeyObject host relPath).2.nextHandle ≤ 2 ^ 32) :
    (state.rekeyObject host relPath).2.Numbered := by
  unfold rekeyObject at bound ⊢
  split at bound
  · exact numbered
  · next oldKey obj search =>
      have given : state.allocHandle.2.Given (UInt32.ofNat state.nextHandle) :=
        numbered.toCounted.given rfl bound
      refine numbered.of_keys (Nat.le_succ _) (fun handle child found => ?_) fun _ => Or.inl
      rw [AList.lookup_mapValues] at found
      obtain ⟨before, there, -⟩ := Option.map_eq_some_iff.mp found
      rcases AList.lookup_insert_eq_some.mp there with ⟨rfl, -⟩ | ⟨-, there⟩
      · exact Or.inr given
      · exact Or.inl ⟨before, (AList.lookup_erase_eq_some.mp there).2⟩

theorem Numbered.dropped (numbered : state.Numbered) : (state.dropped host).Numbered := by
  obtain ⟨lookup, -, next, -, -⟩ := dropStale_spec (state.staleHandles host) state
  refine numbered.fewer next (fun handle obj found => ((lookup handle obj).mp found).1) ?_
  rw [VirtualDeviceState.dropped, dropStale_same]

end

end VirtualDeviceState

section

variable {host : Host} {state next : VirtualDeviceState} {occurrence : Occurrence}

theorem Happens.nextHandle_le (happens : Happens host state occurrence next) :
    state.nextHandle ≤ next.nextHandle := by
  cases occurrence with
  | operation opCode txId params dataPayload =>
      rcases VirtualDeviceState.dispatch_handled happens with looks | closed | ⟨-, handled⟩
      · obtain ⟨reached, scanned, leaves⟩ := looks
        rw [leaves.nextHandle]
        exact (VirtualDeviceState.Scanned.discovers scanned).nextHandle_le
      · rw [closed.nextHandle]
      · exact handled.nextHandle_le
  | scanDir storageId parent =>
      cases happens
      exact (VirtualDeviceState.scanDir_discovers rfl).nextHandle_le
  | scanAll storageId =>
      obtain ⟨⟨result, reached⟩, listed, same⟩ := Option.map_eq_some_iff.mp happens
      cases same
      exact (VirtualDeviceState.Scanned.discovers
        (VirtualDeviceState.scanAll_scanned listed)).nextHandle_le
  | rescan =>
      cases happens
      have later := (VirtualDeviceState.rescanBackingDirs_discovers host state).nextHandle_le
      rwa [VirtualDeviceState.dropped, VirtualDeviceState.dropStale_same] at later
  | notified storages kind paths =>
      cases happens
      exact VirtualDeviceState.handleNotifyEvent_closed
        (fun _ _ _ _ _ _ (later : state.nextHandle ≤ _) noticed =>
          later.trans noticed.nextHandle_le) (Nat.le_refl _)
  | rekeyed relPath =>
      cases happens
      exact (VirtualDeviceState.rekeyObject_follows relPath).later
  | paused count =>
      cases happens
      exact Nat.le_refl _
  | changed disk =>
      cases happens
      exact Nat.le_refl _

theorem Happens.numbered (happens : Happens host state occurrence next)
    (numbered : state.Numbered) (bound : next.nextHandle ≤ 2 ^ 32) : next.Numbered := by
  cases occurrence with
  | operation opCode txId params dataPayload =>
      rcases VirtualDeviceState.dispatch_handled happens with looks | closed | ⟨-, handled⟩
      · exact looks.numbered numbered bound
      · refine numbered.of_keys (Nat.le_of_eq closed.nextHandle.symm) (fun handle obj found => ?_)
          fun upload waits => ?_
        · rw [closed.objects] at found
          cases found
        · rw [closed.pendingSend] at waits
          cases waits
      · exact handled.numbered numbered bound
  | scanDir storageId parent =>
      cases happens
      exact (VirtualDeviceState.scanDir_discovers rfl).numbered numbered bound
  | scanAll storageId =>
      obtain ⟨⟨result, reached⟩, listed, same⟩ := Option.map_eq_some_iff.mp happens
      cases same
      exact (VirtualDeviceState.Scanned.discovers
        (VirtualDeviceState.scanAll_scanned listed)).numbered numbered bound
  | rescan =>
      cases happens
      have scanned := VirtualDeviceState.rescanBackingDirs_discovers host state
      exact scanned.numbered numbered.dropped bound
  | notified storages kind paths =>
      cases happens
      exact VirtualDeviceState.handleNotifyEvent_closed
        (fun _ _ {reached _} _ _ (held : reached.nextHandle ≤ 2 ^ 32 → reached.Numbered) noticed
            last => noticed.numbered (held (noticed.nextHandle_le.trans last)) last)
        (fun _ => numbered) bound
  | rekeyed relPath =>
      cases happens
      exact VirtualDeviceState.rekeyObject_numbered numbered bound
  | paused count =>
      cases happens
      exact numbered.fewer rfl (fun _ _ => id) rfl
  | changed disk =>
      cases happens
      exact numbered.fewer rfl (fun _ _ => id) rfl

theorem numbered_new (config : VirtualDeviceConfig) (disk : Disk) :
    (VirtualDeviceState.new config disk).Numbered where
  started := Nat.one_pos
  live _ _ found := by cases found
  waiting _ waits := by cases waits

end

end VirtualDevice
