import MtpRs.VirtualDevice.Confinement
import MtpRs.VirtualDevice.WholeListing

set_option autoImplicit false

/- The device always answers: while handles last no listing goes on without end, and no operation
runs into a panic. -/
namespace VirtualDevice

open Files (Disk Location Path)
open Ptp (Bytes OperationCode)

/-- What leads below a place has a parent. -/
theorem Beneath.parent {home : Location} {path : Path} (beneath : Beneath home (path.follow home)) :
    path ≠ ⟨[.curDir]⟩ ∧ ∃ parent, path.parent = some parent := by
  constructor
  · rintro rfl
    exact beneath.2 rfl
  · obtain ⟨components⟩ := path
    cases components using List.reverseRecOn with
    | nil => exact absurd rfl beneath.2
    | append_singleton front last =>
        by_cases root : last = .rootDir
        · subst root
          have top : Path.follow ⟨front ++ [.rootDir]⟩ home = [] := by
            rw [Path.follow, List.foldl_concat]
            rfl
          rw [top] at beneath
          exact absurd (List.prefix_nil.mp beneath.1).symm beneath.2
        · exact ⟨⟨front⟩, Path.parent_concat root⟩

namespace VirtualDeviceState

/-- Handles for all that is on the disk, for each storage and once more. -/
def HandlesLast (state : VirtualDeviceState) : Prop :=
  state.nextHandle + (state.storages.length + 1) * state.disk.domain.length ≤ 2 ^ 32

instance (state : VirtualDeviceState) : Decidable state.HandlesLast :=
  inferInstanceAs (Decidable (_ ≤ _))

section

variable {host : Host} {state after : VirtualDeviceState} {params : List UInt32}
  {dataPayload : Option Bytes} {obj : VirtualObject} {storage : VirtualStorageState}
  {handle : UInt32}

/-- A listing of everything, of whatever storage, ends. -/
theorem scanAll_ends (host : Host) (storageId : UInt32) (counted : state.Counted)
    (bound : state.nextHandle + state.disk.domain.length ≤ 2 ^ 32) :
    ∃ result after, state.scanAll host storageId = some (result, after) ∧
      after.nextHandle ≤ state.nextHandle + state.disk.domain.length := by
  cases owner : state.findStorage storageId with
  | none =>
      refine ⟨none, state, ?_, Nat.le_add_right ..⟩
      rw [scanAll, scanDir, owner]
  | some storage =>
      obtain rfl := (findStorage_mem owner).2
      cases place : state.disk.locate storage.config.backingDir with
      | none =>
          have gone : ¬ state.disk.isDirectory storage.config.backingDir = true := by
            simp [Disk.isDirectory, Disk.metadata, place]
          refine ⟨some [], state, ?_, Nat.le_add_right ..⟩
          rw [scanAll, scanDir, owner]
          dsimp only
          rw [scannedDir, if_pos rfl]
          dsimp only
          rw [if_neg gone]
          dsimp only
          rw [List.reverse_nil, scanFolders]
      | some root =>
          have few := Disk.forest_length_le state.disk root
          obtain ⟨result, after, listed, less, -⟩ :=
            scanAll_whole host ⟨owner, place⟩ counted (by omega)
          exact ⟨result, after, listed, by omega⟩

/-- Listings of storages end where each leaves what the next ones need. -/
theorem listStorages_ends {list : VirtualDeviceState → UInt32 →
      Option (Option (List UInt32) × VirtualDeviceState)} (needs : Nat → VirtualDeviceState → Prop)
    (each : ∀ {left : Nat} {reached : VirtualDeviceState} (id : UInt32), needs (left + 1) reached →
      ∃ result after, list reached id = some (result, after) ∧ needs left after)
    (ids : List UInt32) (met : needs ids.length state) :
    (listStorages list ids state).isSome = true := by
  induction ids generalizing state with
  | nil => rfl
  | cons id rest ih =>
      obtain ⟨result, reached, listed, met'⟩ := each id met
      rw [listStorages, listed]
      cases result with
      | none => rfl
      | some handles =>
          obtain ⟨⟨others, last⟩, same⟩ := Option.isSome_iff_exists.mp (ih met')
          dsimp only
          rw [same]
          cases others <;> rfl

theorem requestedObjects_isSome (host : Host) (handle depth : UInt32) (lasts : state.HandlesLast)
    (counted : state.Counted) : (state.requestedObjects host handle depth).isSome = true := by
  unfold requestedObjects
  dsimp only
  split
  · rw [Option.isSome_map]
    refine listStorages_ends (fun left reached => reached.Counted ∧
      reached.disk = state.disk ∧
        reached.nextHandle + left * state.disk.domain.length ≤ 2 ^ 32) ?_ _ ⟨counted, rfl, ?_⟩
    · rintro left reached id ⟨counted, disk, room⟩
      rw [Nat.succ_mul] at room
      obtain ⟨result, after, listed, less⟩ := scanAll_ends host id counted (by rw [disk]; omega)
      have found := Scanned.discovers (scanAll_scanned listed)
      rw [disk] at less
      exact ⟨result, after, listed, found.counted counted (by omega), found.disk_eq.trans disk,
        by omega⟩
    · unfold HandlesLast at lasts
      rw [Nat.succ_mul] at lasts
      rw [List.length_map]
      omega
  · split
    · rw [Option.isSome_map]
      exact listStorages_ends (fun _ _ => True)
        (fun id _ => ⟨_, _, rfl, trivial⟩) _ trivial
    · repeat' split
      all_goals rfl

theorem answer_isSome (lasts : state.HandlesLast) (counted : state.Counted) :
    (state.answer host params).isSome = true := by
  unfold answer
  split
  · rfl
  · next handle depth properties _ =>
      obtain ⟨⟨result, reached⟩, same⟩ := Option.isSome_iff_exists.mp
        (requestedObjects_isSome host handle depth lasts counted)
      rw [same]
      cases result with
      | error code => rfl
      | ok handles =>
          dsimp only
          split <;> rfl

theorem getObjectHandles_isSome {opCode : UInt16} {txId : UInt32} (lasts : state.HandlesLast)
    (counted : state.Counted) :
    (state.handleGetObjectHandles host opCode txId params).isSome = true := by
  unfold handleGetObjectHandles
  dsimp only
  split
  · rfl
  · split
    · rfl
    · rw [Option.isSome_map]
      split
      · unfold HandlesLast at lasts
        rw [Nat.succ_mul] at lasts
        obtain ⟨result, after, listed, -⟩ :=
          scanAll_ends host (param params 0) counted (by omega)
        rw [listed]
        rfl
      · rfl

theorem resolvePath_isSome (lodges : state.Lodges)
    (tracked : state.objects.lookup handle = some obj) :
    (state.resolvePath handle).isSome = true := by
  obtain ⟨storage, owner, -⟩ := lodges handle obj tracked
  rw [resolvePath, tracked, Option.isSome_map, owner]
  rfl

theorem getObjectPropValue_isSome {opCode : UInt16} {txId : UInt32} (lodges : state.Lodges) :
    (state.handleGetObjectPropValue host opCode txId params).isSome = true := by
  unfold handleGetObjectPropValue
  dsimp only
  split
  · rfl
  · next obj tracked =>
      split
      case h_4 =>
        rw [Option.isSome_map]
        exact resolvePath_isSome lodges tracked
      all_goals rfl

theorem setObjectPropValue_isSome {txId : UInt32} (lodges : state.Lodges) :
    (state.handleSetObjectPropValue host txId params dataPayload).isSome = true := by
  unfold handleSetObjectPropValue
  split
  · rfl
  · next obj oldPath newName checked =>
      obtain ⟨tracked, -, resolved⟩ := checkRename_ok checked
      obtain ⟨storage, owner, rfl⟩ := resolvePath_some tracked resolved
      obtain ⟨further, parent, above⟩ := ((lodges _ obj tracked).beneath owner).parent
      rw [Option.isSome_map, Path.parent_join above further]
      rfl

/-- Every operation is carried out. -/
theorem dispatch_isSome (host : Host) (opCode : UInt16) (txId : UInt32) (params : List UInt32)
    (dataPayload : Option Bytes) (lasts : state.HandlesLast) (counted : state.Counted)
    (lodges : state.Lodges) :
    (state.dispatch host opCode txId params dataPayload).isSome = true := by
  unfold VirtualDeviceState.dispatch
  dsimp only
  split
  case h_4 op _ _ _ =>
    split
    · rfl
    · split
      case h_3 => exact getObjectHandles_isSome lasts counted
      case h_8 =>
        split
        · rw [handleGetObjectPropList, Option.isSome_map]
          exact answer_isSome lasts counted
        · rfl
      case h_15 => exact getObjectPropValue_isSome lodges
      case h_16 => exact setObjectPropValue_isSome lodges
      case h_6 | h_7 => split <;> rfl
      all_goals rfl
  all_goals rfl

end

end VirtualDeviceState

end VirtualDevice
