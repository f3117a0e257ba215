import MtpRs.Lib.Runs
import MtpRs.VirtualDevice.GuardedOperations

set_option autoImplicit false

/- The read-only storages of a device, over whole runs. -/
namespace VirtualDevice

open Files (Disk Path Spares)
open Ptp (Bytes OperationCode)
open Runs (Restricted Run)

/-- What can happen to a device: an operation with the payload of its data phase, a listing or a
rescan. -/
inductive Action where
  | operation (opCode : UInt16) (txId : UInt32) (params : List UInt32)
      (dataPayload : Option Bytes)
  | scanDir (storageId parent : UInt32)
  | scanAll (storageId : UInt32)
  | rescan

/-- The device after an action, where there is one. -/
def Action.take (host : Host) (state : VirtualDeviceState) : Action → Option VirtualDeviceState
  | operation opCode txId params dataPayload =>
      state.dispatch host opCode txId params dataPayload
  | scanDir storageId parent => some (state.scanDir host storageId parent).2
  | scanAll storageId => (state.scanAll host storageId).map Prod.snd
  | rescan => some (state.rescanBackingDirs host).2

def Action.leadsOut (state : VirtualDeviceState) : Action → Bool
  | operation opCode _ params dataPayload =>
      OperationCode.ofCode opCode == .setObjectPropValue &&
        state.renameLeadsOut params dataPayload
  | scanDir _ _ => false
  | scanAll _ => false
  | rescan => false

/-- One action after the other. -/
def Steps (host : Host) (state : VirtualDeviceState) (action : Action)
    (next : VirtualDeviceState) : Prop :=
  action.take host state = some next

section

variable {host : Host} {start state next : VirtualDeviceState} {action : Action}

theorem Action.take_guards (apart : Apart start.storageConfigs start.disk.workingDirectory)
    (guards : start.Guards state) (stays : action.leadsOut state = false)
    (taken : action.take host state = some next) : start.Guards next := by
  cases action with
  | operation opCode txId params dataPayload =>
      apply guards.dispatch apart _ taken
      intro rename
      rw [leadsOut, rename] at stays
      exact stays
  | scanDir storageId parent =>
      cases taken
      exact guards.grows (VirtualDeviceState.scanDir_grows rfl)
  | scanAll storageId =>
      obtain ⟨⟨result, reached⟩, listed, same⟩ := Option.map_eq_some_iff.mp taken
      cases same
      exact guards.grows (VirtualDeviceState.scanAll_grows listed)
  | rescan =>
      cases taken
      exact guards.rescanBackingDirs

/-- The canonical form of a backing directory is the same place. -/
theorem home_canonical (disk : Disk) (config : VirtualStorageConfig) :
    ({ config with
        backingDir := (disk.canonicalize config.backingDir).getD config.backingDir } :
      VirtualStorageConfig).home disk.workingDirectory = config.home disk.workingDirectory := by
  rw [VirtualStorageConfig.home]
  cases found : disk.canonicalize config.backingDir with
  | none => rfl
  | some canonical =>
      rw [Disk.canonicalize_follow found]
      exact Path.follow_ofLocation _ _

theorem storageConfigs_new (config : VirtualDeviceConfig) (disk : Disk) :
    (VirtualDeviceState.new config disk).storageConfigs = config.storages.map fun storage =>
      { storage with
        backingDir := (disk.canonicalize storage.backingDir).getD storage.backingDir } := by
  apply List.ext_getElem?
  intro i
  rw [VirtualDeviceState.storageConfigs, VirtualDeviceState.new, List.getElem?_map,
    List.getElem?_mapIdx, List.getElem?_map]
  cases config.storages[i]? with
  | none => rfl
  | some storage => rfl

theorem apart_new {config : VirtualDeviceConfig} {disk : Disk}
    (apart : Apart config.storages disk.workingDirectory) :
    Apart (VirtualDeviceState.new config disk).storageConfigs disk.workingDirectory := by
  rw [storageConfigs_new, Apart, List.pairwise_map]
  apply List.Pairwise.imp _ apart
  intro first second separate
  rw [Separate, home_canonical, home_canonical]
  exact separate

theorem sealed_new (config : VirtualDeviceConfig) (disk : Disk) :
    (VirtualDeviceState.new config disk).sealed =
      readOnlyPlaces config.storages disk.workingDirectory := by
  funext location
  rw [VirtualDeviceState.sealed, storageConfigs_new, readOnlyPlaces, readOnlyPlaces]
  simp only [List.mem_map, exists_exists_and_eq_and, eq_iff_iff]
  have home := home_canonical disk
  exact exists_congr fun storage => and_congr_right fun _ => and_congr_right fun _ => by
    rw [← home storage]
    rfl

end

/-- Nothing in a read-only storage is created, changed, renamed or removed by a device whose backing
directories lie apart, as long as no rename leads an object out of its storage. -/
theorem read_only_spared (host : Host) (config : VirtualDeviceConfig) (disk : Disk)
    (apart : Apart config.storages disk.workingDirectory) (actions : List Action)
    (last : VirtualDeviceState)
    (run : Run (Restricted (fun state action => action.leadsOut state = false) (Steps host))
      (.new config disk) actions last) :
    Spares (readOnlyPlaces config.storages disk.workingDirectory) disk last.disk := by
  have guards : (VirtualDeviceState.new config disk).Guards last :=
    run.invariant _ (fun state action next guards taken =>
      Action.take_guards (apart_new apart) guards taken.1 taken.2) (.refl rfl rfl)
  rw [← sealed_new]
  exact guards.spares

/-- A disk with the directories `/sd/r` and `/sd/sd/r`. -/
def twoBackings : Disk :=
  (((Disk.bare.put [⟨"sd", rfl⟩] ⟨.directory, none, none⟩ (.mkdir [⟨"sd", rfl⟩]) rfl fun _ =>
    rfl).put
    [⟨"sd", rfl⟩, ⟨"r", rfl⟩] ⟨.directory, none, none⟩ (.mkdir [⟨"sd", rfl⟩, ⟨"r", rfl⟩]) rfl
      fun _ => rfl).put
    [⟨"sd", rfl⟩, ⟨"sd", rfl⟩] ⟨.directory, none, none⟩ (.mkdir [⟨"sd", rfl⟩, ⟨"sd", rfl⟩]) rfl
      fun _ => rfl).put
    [⟨"sd", rfl⟩, ⟨"sd", rfl⟩, ⟨"r", rfl⟩] ⟨.directory, none, none⟩
      (.mkdir [⟨"sd", rfl⟩, ⟨"sd", rfl⟩, ⟨"r", rfl⟩]) rfl fun _ => rfl

/-- A device over them, the second one read-only. -/
def besideReadOnly : VirtualDeviceConfig :=
  ⟨"", "", "", [⟨"", 0, .ofString "/sd/r", false⟩, ⟨"", 0, .ofString "/sd/sd/r", true⟩], true,
    false, false, false, [], [], .utc, false⟩

theorem besideReadOnly_apart : Apart besideReadOnly.storages twoBackings.workingDirectory := by
  unfold Apart
  decide +kernel

/-- A session in which an object is announced, renamed and deleted: its format and its name in an
`ObjectInfo`, and its new name. -/
def announcedAndDeleted (format name newName : Bytes) : List Action :=
  [.operation 0x1002 1 [1] none,
    .operation 0x100C 2 [0x00010001, 0xFFFFFFFF]
      (some ([0, 0, 0, 0] ++ format ++ List.replicate 46 0 ++ name ++ [0, 0, 0])),
    .operation 0x9804 3 [1, 0xDC07] (some newName),
    .operation 0x100B 4 [1] none]

def sessionOver (actions : List Action) : Option VirtualDeviceState :=
  actions.foldlM (fun state action => action.take Host.usual state)
    (.new besideReadOnly twoBackings)

theorem read_only_spared_renamed_file : ∃ last,
    Run (Restricted (fun state action => action.leadsOut state = false) (Steps Host.usual))
      (.new besideReadOnly twoBackings)
      (announcedAndDeleted [0, 0x30] [2, 97, 0, 0, 0] [2, 98, 0, 0, 0]) last ∧
    Spares (readOnlyPlaces besideReadOnly.storages twoBackings.workingDirectory) twoBackings
      last.disk := by
  obtain ⟨last, ran⟩ := Option.isSome_iff_exists.mp
    (show ((announcedAndDeleted [0, 0x30] [2, 97, 0, 0, 0] [2, 98, 0, 0, 0]).foldlM
      (fun state action => if action.leadsOut state = false then action.take Host.usual state
        else none) (VirtualDeviceState.new besideReadOnly twoBackings)).isSome = true
      by decide +kernel)
  have run := Run.restricted_of_foldlM (fun (state : VirtualDeviceState) (action : Action) =>
    action.take Host.usual state) _ ran
  exact ⟨last, run, read_only_spared Host.usual besideReadOnly twoBackings besideReadOnly_apart _
    last run⟩

/-- A folder without a name is tracked at the backing directory `/sd/r`. Renamed to `../sd/r` it is
checked from `/sd` and leads to `/sd/sd/r` from then on, which is what the deletion removes. -/
theorem read_only_backing_removed : ¬ ∀ (host : Host) (config : VirtualDeviceConfig) (disk : Disk),
    Apart config.storages disk.workingDirectory → ∀ (actions : List Action)
      (last : VirtualDeviceState), Run (Steps host) (.new config disk) actions last →
        Spares (readOnlyPlaces config.storages disk.workingDirectory) disk last.disk := by
  intro spared
  have removed : (sessionOver (announcedAndDeleted [1, 0x30] [0]
      [8, 46, 0, 46, 0, 47, 0, 115, 0, 100, 0, 47, 0, 114, 0, 0, 0])).map (fun last =>
        (last.disk.node [⟨"sd", rfl⟩, ⟨"sd", rfl⟩, ⟨"r", rfl⟩]).isSome) = some false := by
    decide +kernel
  obtain ⟨last, ran, gone⟩ := Option.map_eq_some_iff.mp removed
  have run : Run (Steps Host.usual) (.new besideReadOnly twoBackings) _ last :=
    Run.of_foldlM (fun _ _ _ taken => taken) _ ran
  have spares := spared Host.usual besideReadOnly twoBackings besideReadOnly_apart _ last run
  have backing : readOnlyPlaces besideReadOnly.storages twoBackings.workingDirectory
      [⟨"sd", rfl⟩, ⟨"sd", rfl⟩, ⟨"r", rfl⟩] :=
    ⟨⟨"", 0, .ofString "/sd/sd/r", true⟩, by simp [besideReadOnly], rfl, by decide +kernel⟩
  rw [spares.node _ backing] at gone
  cases gone

end VirtualDevice
