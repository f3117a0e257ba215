import MtpRs.Lib.Registers
import MtpRs.Lib.Runs
import MtpRs.VirtualDevice.Discovery
import MtpRs.VirtualDevice.Outcomes
import MtpRs.VirtualDevice.ReadOnly
import MtpRs.VirtualDevice.Watcher

set_option autoImplicit false

/- Handles over whole runs: the device's table of objects is a register of paths. -/
namespace VirtualDevice

open Files (Disk Path)
open Ptp (Bytes EventCode OperationCode)
open Registers (Register Sound Step)
open Relation (ReflTransGen)
open Runs (Restricted Run)

/-- What can happen to a device and its disk: an operation, a listing, a rescan, an event of the
watcher, a new handle for an object, a pause of the watcher or its end, or a change of the disk from
outside. -/
inductive Occurrence where
  | operation (opCode : UInt16) (txId : UInt32) (params : List UInt32)
      (dataPayload : Option Bytes)
  | scanDir (storageId parent : UInt32)
  | scanAll (storageId : UInt32)
  | rescan
  | notified (storages : List (Path × UInt32)) (kind : EventKind) (paths : List Path)
  | rekeyed (relPath : Path)
  | paused (count : Nat)
  | changed (disk : Disk)

def Occurrence.take (host : Host) (state : VirtualDeviceState) :
    Occurrence → Option VirtualDeviceState
  | operation opCode txId params dataPayload =>
      state.dispatch host opCode txId params dataPayload
  | scanDir storageId parent => some (state.scanDir host storageId parent).2
  | scanAll storageId => (state.scanAll host storageId).map Prod.snd
  | rescan => some (state.rescanBackingDirs host).2
  | notified storages kind paths => some (state.handleNotifyEvent host storages kind paths)
  | rekeyed relPath => some (state.rekeyObject host relPath).2
  | paused count => some { state with pauseCount := count }
  | changed disk => some { state with disk := disk }

/-- One occurrence after the other. -/
def Happens (host : Host) (state : VirtualDeviceState) (occurrence : Occurrence)
    (next : VirtualDeviceState) : Prop :=
  occurrence.take host state = some next

namespace VirtualDeviceState

/-- Whether a path is denoted by a handle other than one it may have. -/
def taken (self : VirtualDeviceState) (free : Option UInt32) (storageId : UInt32) (relPath : Path) :
    Bool :=
  self.objects.entries.any fun entry =>
    some entry.1 != free && pairOf entry.2 == (storageId, relPath)

/-- An operation that would put an object where another handle's object is, or complete an upload
whose handle no longer denotes it. -/
def collides (self : VirtualDeviceState) (op : OperationCode) (params : List UInt32)
    (dataPayload : Option Bytes) : Bool :=
  match op with
  | .sendObjectInfo =>
      match self.checkSendObjectInfo params dataPayload with
      | .error _ => false
      | .ok target =>
          (validatePathWithin self.disk target.storage.config.backingDir target.fullPath).isSome &&
            self.taken none target.storage.storageId target.relPath
  | .sendObject =>
      match self.pendingSend with
      | none => false
      | some upload =>
          match self.checkSendObject upload with
          | .error _ => false
          | .ok (_, relPath) =>
              (self.objects.lookup upload.assignedHandle).map pairOf !=
                some (upload.storageId, relPath)
  | .moveObject =>
      match self.checkTransfer true params with
      | .error _ => false
      | .ok transfer =>
          self.taken (some (param params 0)) transfer.destStorage.storageId transfer.newRel
  | .copyObject =>
      match self.checkTransfer false params with
      | .error _ => false
      | .ok transfer =>
          !self.clashes transfer && self.taken none transfer.destStorage.storageId transfer.newRel
  | .setObjectPropValue =>
      match self.checkRename params dataPayload with
      | .error _ => false
      | .ok (obj, _, newName) =>
          self.taken (some (param params 0)) obj.storageId (renamedPath obj.relPath newName)
  | _ => false

/-- The register a device keeps: the paths its handles denote. -/
def register (self : VirtualDeviceState) : Register (UInt32 × Path) where
  next := self.nextHandle
  holder number :=
    if number < 2 ^ 32 then (self.objects.lookup (UInt32.ofNat number)).map pairOf else none

/-- A later state of a device, whose register has been kept in order as long as handles last. -/
structure Follows (state after : VirtualDeviceState) : Prop where
  later : state.nextHandle ≤ after.nextHandle
  steps : after.nextHandle ≤ 2 ^ 32 → Sound state.register →
    Registers.Steps state.register after.register

section

variable {host : Host} {state middle after : VirtualDeviceState} {obj : VirtualObject}
  {handle storageId : UInt32} {relPath : Path} {number : Nat}

theorem taken_eq_false {free : Option UInt32} : state.taken free storageId relPath = false ↔
    ∀ handle obj, state.objects.lookup handle = some obj → pairOf obj = (storageId, relPath) →
      some handle = free := by
  rw [taken, List.any_eq_false]
  constructor
  · intro none handle obj found pair
    have test := none ⟨handle, obj⟩ (AList.mem_lookup_iff.mp found)
    simpa [pair] using test
  · rintro only ⟨handle, obj⟩ mem
    have same := only handle obj (AList.mem_lookup_iff.mpr mem)
    simpa using fun different pair => different (same pair)

theorem untracked_of_taken (free : state.taken none storageId relPath = false) :
    ¬ state.Tracks storageId relPath := by
  rintro ⟨handle, obj, found, sameStorage, samePath⟩
  cases taken_eq_false.mp free handle obj found (Prod.ext sameStorage samePath)

theorem holder_eq_some {pair : UInt32 × Path} : state.register.holder number = some pair ↔
    number < 2 ^ 32 ∧ ∃ obj, state.objects.lookup (UInt32.ofNat number) = some obj ∧
      pairOf obj = pair := by
  unfold register
  dsimp only
  split
  · next small =>
      rw [Option.map_eq_some_iff]
      exact ⟨fun found => ⟨small, found⟩, And.right⟩
  · next large =>
      constructor
      · intro found
        cases found
      · rintro ⟨small, -⟩
        exact absurd small large

variable (state) in
theorem holder_toNat (handle : UInt32) :
    state.register.holder handle.toNat = (state.objects.lookup handle).map pairOf := by
  unfold register
  dsimp only
  rw [if_pos handle.toNat_lt, UInt32.ofNat_toNat]

theorem free_of_untracked (fresh : ¬ state.Tracks obj.storageId obj.relPath) :
    state.register.Free none (pairOf obj) := by
  intro number stands
  obtain ⟨-, other, found, pair⟩ := holder_eq_some.mp stands
  obtain ⟨sameStorage, samePath⟩ := Prod.mk.inj pair
  exact absurd ⟨_, other, found, sameStorage, samePath⟩ fresh

/-- An object under the next handle. -/
theorem step_give (fresh : ¬ state.Tracks obj.storageId obj.relPath)
    (bound : state.nextHandle < 2 ^ 32) (next : after.nextHandle = state.nextHandle + 1)
    (objects : after.objects = state.objects.insert (UInt32.ofNat state.nextHandle) obj) :
    Step state.register after.register := by
  refine .give (pairOf obj) (free_of_untracked fresh) next ?_ ?_
  · refine holder_eq_some.mpr ⟨bound, obj, ?_, rfl⟩
    rw [objects]
    exact AList.lookup_insert _
  · intro number different
    unfold register
    dsimp only
    split
    · next small =>
        rw [objects, AList.lookup_insert_ne]
        intro same
        have numbers := congrArg UInt32.toNat same
        rw [UInt32.toNat_ofNat', UInt32.toNat_ofNat', Nat.mod_eq_of_lt small,
          Nat.mod_eq_of_lt bound] at numbers
        exact different numbers
    · rfl

/-- Objects that are no longer tracked. -/
theorem step_forget (next : state.nextHandle ≤ after.nextHandle)
    (kept : ∀ handle obj, after.objects.lookup handle = some obj →
      state.objects.lookup handle = some obj) : Step state.register after.register := by
  refine .forget next fun number pair stands => ?_
  obtain ⟨small, obj, found, same⟩ := holder_eq_some.mp stands
  exact holder_eq_some.mpr ⟨small, obj, kept _ obj found, same⟩

/-- An object at another path, which no other handle denotes. -/
theorem step_retitle {before : VirtualObject} (held : state.objects.lookup handle = some before)
    (free : ∀ other found, state.objects.lookup other = some found → pairOf found = pairOf obj →
      some other = some handle)
    (next : after.nextHandle = state.nextHandle)
    (given : after.objects.lookup handle = some obj)
    (others : ∀ other, other ≠ handle → after.objects.lookup other = state.objects.lookup other) :
    Step state.register after.register := by
  refine .retitle handle.toNat (pairOf obj) ?_ ?_ next ?_ ?_
  · rw [holder_toNat, held]
    exact Option.some_ne_none _
  · intro number stands
    obtain ⟨small, found, lookup, pair⟩ := holder_eq_some.mp stands
    rw [← Option.some.inj (free _ found lookup pair), UInt32.toNat_ofNat', Nat.mod_eq_of_lt small]
  · rw [holder_toNat, given]
    rfl
  · intro number different
    unfold register
    dsimp only
    split
    · next small =>
        rw [others]
        rintro rfl
        rw [UInt32.toNat_ofNat', Nat.mod_eq_of_lt small] at different
        exact different rfl
    · rfl

theorem register_congr (next : after.nextHandle = state.nextHandle)
    (same : ∀ handle, (after.objects.lookup handle).map pairOf =
      (state.objects.lookup handle).map pairOf) : after.register = state.register := by
  unfold register
  rw [next]
  congr 1
  funext number
  split
  · exact same _
  · rfl

namespace Follows

theorem of_step (later : state.nextHandle ≤ after.nextHandle)
    (step : after.nextHandle ≤ 2 ^ 32 → Step state.register after.register) :
    Follows state after :=
  ⟨later, fun bound _ => .single (step bound)⟩

theorem same (next : after.nextHandle = state.nextHandle)
    (denoted : ∀ handle, (after.objects.lookup handle).map pairOf =
      (state.objects.lookup handle).map pairOf) : Follows state after where
  later := Nat.le_of_eq next.symm
  steps _ _ := by rw [register_congr next denoted]

theorem congr (next : after.nextHandle = state.nextHandle)
    (objects : after.objects = state.objects) : Follows state after :=
  same next fun _ => by rw [objects]

theorem refl (state : VirtualDeviceState) : Follows state state := congr rfl rfl

theorem trans (early : Follows state middle) (late : Follows middle after) :
    Follows state after where
  later := Nat.le_trans early.later late.later
  steps bound sound := by
    have first := early.steps (Nat.le_trans late.later bound) sound
    exact first.trans (late.steps bound (sound.steps first))

theorem forgets (next : after.nextHandle = state.nextHandle)
    (kept : ∀ handle obj, after.objects.lookup handle = some obj →
      state.objects.lookup handle = some obj) : Follows state after :=
  of_step (Nat.le_of_eq next.symm) fun _ => step_forget (Nat.le_of_eq next.symm) kept

/-- An object at another path, which no other handle denotes. -/
theorem retitles {before : VirtualObject} (held : state.objects.lookup handle = some before)
    {change : VirtualObject → VirtualObject} (next : after.nextHandle = state.nextHandle)
    (objects : after.objects = state.objects.modify handle change)
    (free : state.taken (some handle) (change before).storageId (change before).relPath = false) :
    Follows state after := by
  refine of_step (Nat.le_of_eq next.symm) fun _ =>
    step_retitle held (taken_eq_false.mp free) next ?_ fun other different => ?_
  · rw [objects]
    exact AList.lookup_modify_eq_some.mpr (Or.inl ⟨before, held, rfl, rfl⟩)
  · rw [objects, AList.lookup_modify_ne different]

/-- A handle that is counted and not given. -/
theorem skips (next : after.nextHandle = state.nextHandle + 1)
    (objects : after.objects = state.objects) : Follows state after := by
  have later : state.nextHandle ≤ after.nextHandle := by omega
  refine .of_step later fun _ => step_forget later fun _ _ found => ?_
  rwa [objects] at found

/-- An object under a new handle. -/
theorem gives (fresh : ¬ state.Tracks obj.storageId obj.relPath)
    (next : after.nextHandle = state.nextHandle + 1)
    (objects : after.objects = state.objects.insert (UInt32.ofNat state.nextHandle) obj) :
    Follows state after :=
  of_step (by omega) fun bound => step_give fresh (by omega) next objects

end Follows

theorem Discovers.follows (found : Discovers state after) : Follows state after := by
  induction found with
  | refl => exact .refl state
  | queued _ _ _ ih => exact ih.trans (.congr rfl rfl)
  | entry _ _ fresh _ _ ih => exact ih.trans (.gives fresh rfl rfl)

theorem rescanBackingDirs_follows : Follows state (state.rescanBackingDirs host).2 := by
  obtain ⟨lookup, -, next, -⟩ := dropStale_spec (state.staleHandles host) state
  have dropped : Follows state (state.dropped host) :=
    .forgets next fun handle obj found => ((lookup handle obj).mp found).1
  exact dropped.trans (rescanBackingDirs_discovers host state).follows

theorem Noticed.follows {storages : List (Path × UInt32)} {path : Path}
    (noticed : Noticed host storages state path after) : Follows state after := by
  cases noticed with
  | ignored leaves => exact .congr leaves.nextHandle leaves.objects
  | created _ _ unknown leaves =>
      refine .gives ?_ leaves.nextHandle leaves.objects
      exact handleAt_none unknown
  | removed _ _ _ leaves =>
      refine .forgets leaves.nextHandle fun handle obj found => ?_
      rw [leaves.objects] at found
      exact (AList.lookup_erase_eq_some.mp found).2

theorem handleNotifyEvent_follows (storages : List (Path × UInt32)) (kind : EventKind)
    (paths : List Path) : Follows state (state.handleNotifyEvent host storages kind paths) :=
  handleNotifyEvent_closed (fun _ _ _ _ _ _ follows noticed => follows.trans noticed.follows)
    (.refl state)

variable (state) in
/-- The parents of the objects are no part of the register. -/
theorem register_mapValues {objects : Objects} (change : UInt32 → VirtualObject → VirtualObject)
    (same : ∀ handle obj, pairOf (change handle obj) = pairOf obj) :
    ({ state with objects := objects.mapValues change } : VirtualDeviceState).register =
      ({ state with objects := objects } : VirtualDeviceState).register := by
  refine register_congr rfl fun handle => ?_
  rw [AList.lookup_mapValues, Option.map_map]
  congr 1
  funext obj
  exact same handle obj

/-- The old handle is taken back before the new one is given. -/
theorem rekeyObject_follows (relPath : Path) :
    Follows state (state.rekeyObject host relPath).2 := by
  unfold rekeyObject
  split
  · exact .refl state
  · next oldKey obj search =>
      have found : state.objects.lookup oldKey = some obj :=
        AList.mem_lookup_iff.mpr (Arrangement.find?_eq_some search).1
      refine ⟨Nat.le_succ _, fun bound sound => ?_⟩
      have erased : Step state.register
          ({ state with objects := state.objects.erase oldKey }).register :=
        step_forget (Nat.le_refl _) fun handle other there =>
          (AList.lookup_erase_eq_some.mp there).2
      have unknown : ¬ ({ state with objects := state.objects.erase oldKey }).Tracks obj.storageId
          obj.relPath := by
        rintro ⟨handle, other, there, sameStorage, samePath⟩
        obtain ⟨different, there⟩ := AList.lookup_erase_eq_some.mp there
        have one := state.holder_toNat handle
        have two := state.holder_toNat oldKey
        rw [there] at one
        rw [found] at two
        have pair : pairOf other = pairOf obj := Prod.ext sameStorage samePath
        rw [Option.map_some, pair] at one
        exact different (UInt32.toNat_inj.mp (sound.once _ _ _ one two))
      refine (ReflTransGen.single erased).tail ?_
      dsimp only [allocHandle]
      rw [register_mapValues { state with nextHandle := state.nextHandle + 1 }]
      · exact step_give unknown (Nat.lt_of_succ_le bound) rfl rfl
      · intro handle child
        split <;> rfl

theorem Looks.follows (looks : Looks host state after) : Follows state after := by
  obtain ⟨reached, scanned, leaves⟩ := looks
  exact (Scanned.discovers scanned).follows.trans (.congr leaves.nextHandle leaves.objects)

section

variable {params : List UInt32} {dataPayload : Option Bytes} {opCode : UInt16} {txId : UInt32}
  {op : OperationCode}

theorem Handled.follows (handled : Handled host state params dataPayload after op)
    (apart : state.collides op params dataPayload = false) : Follows state after := by
  cases handled with
  | uploadUnmade _ _ leaves => exact .skips leaves.nextHandle leaves.objects
  | uploadFailed _ _ _ leaves => exact .skips leaves.nextHandle leaves.objects
  | @uploadMade target _ checked valid _ leaves =>
      rw [collides, checked] at apart
      dsimp only at apart
      rw [Bool.not_eq_true, Option.isNone_eq_false_iff] at valid
      rw [valid, Bool.true_and] at apart
      exact .gives (untracked_of_taken apart) leaves.nextHandle leaves.objects
  | dataDropped leaves => exact .congr leaves.nextHandle leaves.objects
  | dataFailed _ _ _ leaves => exact .congr leaves.nextHandle leaves.objects
  | @dataWritten upload storage relPath _ waiting checked _ leaves =>
      rw [collides, waiting] at apart
      dsimp only at apart
      rw [checked] at apart
      have denoted := bne_eq_false_iff_eq.mp apart
      refine .same leaves.nextHandle fun handle => ?_
      rw [leaves.objects]
      by_cases same : handle = upload.assignedHandle
      · rw [same, AList.lookup_insert, denoted]
        rfl
      · rw [AList.lookup_insert_ne same]
  | deleteFailed _ _ leaves => exact .congr leaves.nextHandle leaves.objects
  | deleted _ _ leaves =>
      refine .forgets leaves.nextHandle fun handle obj found => ?_
      rw [leaves.objects] at found
      exact (AList.lookup_keep_eq_some.mp found).1
  | moveFailed _ _ leaves => exact .congr leaves.nextHandle leaves.objects
  | moved checked _ leaves =>
      rw [collides, checked] at apart
      exact .retitles (checkTransfer_ok checked).tracked leaves.nextHandle leaves.objects apart
  | copyUntracked _ _ leaves => exact .congr leaves.nextHandle leaves.objects
  | copied checked clear _ leaves =>
      rw [collides, checked] at apart
      dsimp only at apart
      rw [Bool.not_eq_true] at clear
      rw [clear, Bool.not_false, Bool.true_and] at apart
      exact .gives (untracked_of_taken apart) leaves.nextHandle leaves.objects
  | renamed checked _ _ _ _ leaves =>
      rw [collides, checked] at apart
      exact .retitles (checkRename_ok checked).1 leaves.nextHandle leaves.objects apart

theorem dispatch_follows (apart : state.collides (.ofCode opCode) params dataPayload = false)
    (dispatched : state.dispatch host opCode txId params dataPayload = some after) :
    Follows state after := by
  rcases dispatch_handled dispatched with looks | closed | ⟨-, handled⟩
  · exact looks.follows
  · refine .forgets closed.nextHandle fun handle obj found => ?_
    rw [closed.objects] at found
    cases found
  · exact handled.follows apart

end

end

end VirtualDeviceState

open VirtualDeviceState (Follows dispatch_follows pairOf register)

def Occurrence.collides (state : VirtualDeviceState) : Occurrence → Bool
  | operation opCode _ params dataPayload =>
      state.collides (OperationCode.ofCode opCode) params dataPayload
  | _ => false

section

variable {host : Host} {first state next : VirtualDeviceState} {occurrence : Occurrence}
  {occurrences : List Occurrence}

/-- What happens one after the other without a collision. -/
abbrev Orderly (host : Host) : VirtualDeviceState → List Occurrence → VirtualDeviceState → Prop :=
  Run (Restricted (fun state occurrence => occurrence.collides state = false) (Happens host))

theorem Happens.follows (happens : Happens host state occurrence next)
    (apart : occurrence.collides state = false) : Follows state next := by
  cases occurrence with
  | operation opCode txId params dataPayload => exact dispatch_follows apart happens
  | scanDir storageId parent =>
      cases happens
      exact (VirtualDeviceState.scanDir_discovers rfl).follows
  | scanAll storageId =>
      obtain ⟨⟨result, reached⟩, listed, same⟩ := Option.map_eq_some_iff.mp happens
      cases same
      exact (VirtualDeviceState.Scanned.discovers
        (VirtualDeviceState.scanAll_scanned listed)).follows
  | rescan =>
      cases happens
      exact VirtualDeviceState.rescanBackingDirs_follows
  | notified storages kind paths =>
      cases happens
      exact VirtualDeviceState.handleNotifyEvent_follows storages kind paths
  | rekeyed relPath =>
      cases happens
      exact VirtualDeviceState.rekeyObject_follows relPath
  | paused count =>
      cases happens
      exact .congr rfl rfl
  | changed disk =>
      cases happens
      exact .congr rfl rfl

theorem Orderly.follows (run : Orderly host first occurrences next) : Follows first next := by
  induction run with
  | nil => exact .refl _
  | snoc _ taken ih => exact ih.trans (Happens.follows taken.2 taken.1)

end

/-- The `ObjectInfo` of a file with a name of one character. -/
def announced (name : UInt8) : Bytes :=
  [0, 0, 0, 0, 0, 0x30] ++ List.replicate 46 0 ++ [2, name, 0, 0, 0, 0, 0, 0]

end VirtualDevice
