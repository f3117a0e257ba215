import MtpRs.Lib.Effects
import MtpRs.VirtualDevice.Scans

set_option autoImplicit false

/- A device whose backing directories lie apart: which places belong to its read-only storages, and
what the objects it tracks say of the others. Listings and rescans keep it so. -/
namespace VirtualDevice

open Files (Away Component Disk Location Name Path Spares)

/-- The place of a storage's backing directory, whether or not it is there. -/
def VirtualStorageConfig.home (config : VirtualStorageConfig) (workingDirectory : Location) :
    Location :=
  config.backingDir.follow workingDirectory

/-- Neither backing directory lies in the other. -/
def Separate (workingDirectory : Location) (first second : VirtualStorageConfig) : Prop :=
  ¬ first.home workingDirectory <+: second.home workingDirectory ∧
    ¬ second.home workingDirectory <+: first.home workingDirectory

instance (workingDirectory : Location) : Std.Symm (Separate workingDirectory) :=
  ⟨fun _ _ both => ⟨both.2, both.1⟩⟩

instance (workingDirectory : Location) (first second : VirtualStorageConfig) :
    Decidable (Separate workingDirectory first second) :=
  inferInstanceAs (Decidable (_ ∧ _))

def Apart (storages : List VirtualStorageConfig) (workingDirectory : Location) : Prop :=
  storages.Pairwise (Separate workingDirectory)

/-- The backing directories of read-only storages and all places below them. -/
def readOnlyPlaces (storages : List VirtualStorageConfig) (workingDirectory : Location)
    (location : Location) : Prop :=
  ∃ storage ∈ storages, storage.readOnly = true ∧ storage.home workingDirectory <+: location

/-- All in the backing directory of a storage that can be written is away from those that cannot. -/
theorem Apart.away {storages : List VirtualStorageConfig} {workingDirectory location : Location}
    (apart : Apart storages workingDirectory) {storage : VirtualStorageConfig}
    (mem : storage ∈ storages) (writable : storage.readOnly = false)
    (inside : storage.home workingDirectory <+: location) :
    Away (readOnlyPlaces storages workingDirectory) location := by
  rintro other below ⟨sealed, inStorages, readOnly, there⟩
  have different : storage ≠ sealed := by
    rintro rfl
    rw [writable] at readOnly
    cases readOnly
  have separate := List.Pairwise.forall apart mem inStorages different
  rcases List.prefix_or_prefix_of_prefix (inside.trans below) there with first | second
  · exact separate.1 first
  · exact separate.2 second

namespace VirtualDeviceState

/-- The configurations of the storages as the device uses them. -/
def storageConfigs (self : VirtualDeviceState) : List VirtualStorageConfig :=
  self.storages.map VirtualStorageState.config

def home (self : VirtualDeviceState) (storage : VirtualStorageState) : Location :=
  storage.config.home self.disk.workingDirectory

/-- What the device must leave alone. -/
def sealed (self : VirtualDeviceState) : Location → Prop :=
  readOnlyPlaces self.storageConfigs self.disk.workingDirectory

/-- An object whose path leads to no place outside the backing directory of its storage. -/
def Inside (self : VirtualDeviceState) (obj : VirtualObject) : Prop :=
  ∀ storage, self.findStorage obj.storageId = some storage →
    self.home storage <+: obj.relPath.follow (self.home storage)

/-- A device started from `start` that has left read-only storages alone, and tracks nothing that
leads out of a storage. -/
structure Guards (start state : VirtualDeviceState) : Prop where
  storages : state.storages = start.storages
  spares : Spares start.sealed start.disk state.disk
  objects : ∀ handle obj, state.objects.lookup handle = some obj → start.Inside obj
  pending : ∀ upload, state.pendingSend = some upload → start.isReadOnly upload.storageId = false

section

variable {host : Host} {start state after : VirtualDeviceState} {handle storageId parent : UInt32}
  {obj : VirtualObject} {storage : VirtualStorageState}

/-- A path of names leads below every backing directory. -/
theorem inside_of_names (names : List Name) (path : obj.relPath.components = names.map .normal) :
    start.Inside obj := by
  intro storage _
  have same : obj.relPath = Path.empty.descend names := congrArg Files.Path.mk path
  rw [same, Path.follow_descend]
  exact List.prefix_append ..

theorem Guards.refl (tracksNothing : start.objects = ∅) (sendsNothing : start.pendingSend = none) :
    Guards start start where
  storages := rfl
  spares := .refl _
  objects handle obj found := by
    rw [tracksNothing] at found
    cases found
  pending upload isPending := by
    rw [sendsNothing] at isPending
    cases isPending

/-- What only queues something, or counts. -/
theorem Guards.congr (guards : Guards start state) (storages : after.storages = state.storages)
    (disk : after.disk = state.disk) (objects : after.objects = state.objects)
    (pending : after.pendingSend = state.pendingSend) : Guards start after where
  storages := storages.trans guards.storages
  spares := disk ▸ guards.spares
  objects := objects ▸ guards.objects
  pending := pending ▸ guards.pending

theorem Guards.findStorage (guards : Guards start state) (id : UInt32) :
    state.findStorage id = start.findStorage id := by
  rw [VirtualDeviceState.findStorage, guards.storages, VirtualDeviceState.findStorage]

theorem Guards.isReadOnly (guards : Guards start state) (id : UInt32) :
    state.isReadOnly id = start.isReadOnly id := by
  rw [VirtualDeviceState.isReadOnly, guards.findStorage, VirtualDeviceState.isReadOnly]

theorem Guards.home (guards : Guards start state) (storage : VirtualStorageState) :
    state.home storage = start.home storage := by
  rw [VirtualDeviceState.home, guards.spares.workingDirectory]
  rfl

/-- Where the path of a file in a storage leads. -/
theorem Guards.follow (guards : Guards start state) (storage : VirtualStorageState)
    (relPath : Path) : (storage.config.backingDir.join relPath).follow state.disk.workingDirectory =
      relPath.follow (start.home storage) := by
  rw [Path.follow_join, guards.spares.workingDirectory]
  rfl

theorem Guards.queueEvent (guards : Guards start state) (code : Ptp.EventCode)
    (params : List UInt32) : Guards start (state.queueEvent code params) :=
  guards.congr rfl rfl rfl rfl

theorem Guards.alloc (guards : Guards start state) : Guards start state.allocHandle.2 :=
  guards.congr rfl rfl rfl rfl

/-- Fewer objects, or others that lead out of no storage either. -/
theorem Guards.withObjects (guards : Guards start state) {objects : Objects}
    (inside : ∀ handle obj, objects.lookup handle = some obj → start.Inside obj) :
    Guards start { state with objects := objects } where
  storages := guards.storages
  spares := guards.spares
  objects := inside
  pending := guards.pending

theorem Guards.track (guards : Guards start state) (handle : UInt32) (inside : start.Inside obj) :
    Guards start (state.track handle obj) := by
  apply guards.withObjects
  intro other found tracked
  rcases AList.lookup_insert_eq_some.mp tracked with ⟨-, rfl⟩ | ⟨-, there⟩
  · exact inside
  · exact guards.objects other found there

theorem Guards.add (guards : Guards start state) (inside : start.Inside obj) :
    Guards start (state.add obj) :=
  (guards.alloc.track _ inside).queueEvent _ _

/-- Listings track entries below what is tracked. -/
theorem Guards.grows (guards : Guards start state) (grows : Grows state after) :
    Guards start after := by
  induction grows with
  | refl => exact guards
  | @entry state obj _ known _ kept =>
      apply kept.alloc.track
      rcases known with ⟨-, name, path⟩ | ⟨-, folder, name, found, same, path⟩
      · exact inside_of_names [name] (congrArg Path.components path)
      · intro storage owner
        rw [path, Path.follow_child]
        exact (kept.objects _ folder found storage (same ▸ owner)).trans (List.prefix_append ..)

theorem Guards.dropStale (guards : Guards start state) (stale : List (UInt32 × UInt32)) :
    Guards start (dropStale stale state) := by
  induction stale generalizing state with
  | nil => exact guards
  | cons first rest ih =>
      rw [VirtualDeviceState.dropStale]
      apply ih
      apply Guards.queueEvent
      apply guards.withObjects
      intro handle obj found
      exact guards.objects handle obj (AList.lookup_erase_eq_some.mp found).2

/-- A rescan adds names below the backing directory. -/
theorem Guards.rescanDir (guards : Guards start state) (backingDir : Path) (fuel : Nat)
    (names : List Name) : Guards start
      (rescanDir host storageId backingDir fuel state (backingDir.descend names) parent).2 := by
  induction fuel generalizing state names parent with
  | zero => exact guards
  | succ fuel ih =>
      rw [rescanDir_succ]
      split
      · exact guards
      · next entries complete _ =>
          have entry_guards : ∀ (counted : Nat × VirtualDeviceState) (entry : Name),
              Guards start counted.2 → Guards start (rescanEntry host storageId backingDir
                (VirtualDeviceState.rescanDir host storageId backingDir fuel)
                (backingDir.descend names) parent counted entry).2 := by
            intro counted entry reached
            rw [rescanEntry, ← Path.descend_concat, Path.stripPrefix_descend]
            dsimp only
            cases counted.2.handleAt host storageId ⟨(names ++ [entry]).map .normal⟩ with
            | some known =>
                dsimp only
                split
                · exact ih reached _
                · exact reached
            | none =>
                have inside : start.Inside ⟨⟨(names ++ [entry]).map .normal⟩, storageId, parent⟩ :=
                  inside_of_names (names ++ [entry]) rfl
                have added := reached.add inside
                dsimp only
                split
                · exact ih added _
                · exact added
          have initially : Guards start ((0, state) : Nat × VirtualDeviceState).2 := guards
          exact List.foldlRecOn (motive := fun counted => Guards start counted.2) entries _
            initially
            fun counted reached entry _ => entry_guards counted entry reached

theorem Guards.rescanBackingDirs (guards : Guards start state) :
    Guards start (state.rescanBackingDirs host).2 := by
  unfold VirtualDeviceState.rescanBackingDirs
  dsimp only
  apply List.foldlRecOn (motive := Guards start)
  · apply List.foldlRecOn (motive := fun counted : Nat × List UInt32 × VirtualDeviceState =>
      Guards start counted.2.2)
    · exact guards.dropStale _
    · rintro ⟨added, changed, reached⟩ kept storage _
      have scanned : Guards start (VirtualDeviceState.rescanDir host storage.storageId
          storage.config.backingDir (reached.disk.domain.length + 1) reached
          (storage.config.backingDir.descend []) handleRoot).2 := kept.rescanDir _ _ _
      rw [Path.descend_nil] at scanned
      exact scanned
  · intro reached kept id _
    exact kept.queueEvent _ _

end

end VirtualDeviceState

end VirtualDevice
