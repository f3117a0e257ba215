import Mathlib.Logic.Relation
import MtpRs.VirtualDevice.PropList
import MtpRs.VirtualDevice.Rescan

set_option autoImplicit false

/- Listings: a device only comes to track entries of folders it knows that had no handle. -/
namespace VirtualDevice

open Files (Name Path)
open Relation (ReflTransGen)

namespace VirtualDeviceState

/-- One folder listed after the other. -/
abbrev Scanned (host : Host) : VirtualDeviceState → VirtualDeviceState → Prop :=
  ReflTransGen fun state after =>
    ∃ storageId parent, after = (state.scanDir host storageId parent).2

/-- An object for an entry of a folder tracked in the same storage, or of the root. -/
def EntryOf (state : VirtualDeviceState) (obj : VirtualObject) : Prop :=
  obj.parent = handleRoot ∧ (∃ name, obj.relPath = ⟨[.normal name]⟩) ∨
    obj.parent ≠ handleRoot ∧ ∃ folder name, state.objects.lookup obj.parent = some folder ∧
      folder.storageId = obj.storageId ∧ obj.relPath = folder.relPath.child name

/-- The root of a storage, or a folder tracked in it. -/
def FolderIn (state : VirtualDeviceState) (storageId parent : UInt32) : Prop :=
  parent ≠ handleRoot →
    ∃ folder, state.objects.lookup parent = some folder ∧ folder.storageId = storageId

/-- Entries tracked one after the other, each under the next handle. -/
inductive Grows (first : VirtualDeviceState) : VirtualDeviceState → Prop where
  | refl : Grows first first
  | entry {state : VirtualDeviceState} {obj : VirtualObject} (grown : Grows first state)
      (known : state.EntryOf obj) (fresh : ¬ state.Tracks obj.storageId obj.relPath) :
      Grows first (state.allocHandle.2.track state.allocHandle.1 obj)

section

variable {host : Host} {first state after : VirtualDeviceState}
  {handle storageId parent : UInt32}

theorem Grows.trans (early : Grows first state) (late : Grows state after) : Grows first after := by
  induction late with
  | refl => exact early
  | entry _ known fresh ih => exact .entry ih known fresh

/-- Only the objects and the count of handles change. -/
theorem Grows.same (grows : Grows first after) :
    after = { first with nextHandle := after.nextHandle, objects := after.objects } := by
  induction grows with
  | refl => rfl
  | @entry state obj _ _ _ ih =>
      rw [track, allocHandle]
      dsimp only
      rw [ih]

/-- A folder stays in its storage when an entry of it is tracked, even under its own handle. -/
theorem FolderIn.entry (folder : state.FolderIn storageId parent) (path : Path) :
    (state.allocHandle.2.track state.allocHandle.1 ⟨path, storageId, parent⟩).FolderIn storageId
      parent := by
  intro notRoot
  by_cases taken : parent = state.allocHandle.1
  · exact ⟨_, AList.lookup_insert_eq_some.mpr (Or.inl ⟨taken, rfl⟩), rfl⟩
  · obtain ⟨obj, found, same⟩ := folder notRoot
    exact ⟨obj, AList.lookup_insert_eq_some.mpr (Or.inr ⟨taken, found⟩), same⟩

theorem scanEntries_grows (names : List Name) (folder : state.FolderIn storageId parent) :
    Grows state (scanEntries host storageId parent names state).2 := by
  induction names generalizing state with
  | nil => exact .refl
  | cons name rest ih =>
      rw [scanEntries]
      dsimp only
      split
      · exact ih folder
      · next unknown =>
          have known : state.EntryOf ⟨state.entryPath parent name, storageId, parent⟩ := by
            by_cases root : parent = handleRoot
            · refine Or.inl ⟨root, name, ?_⟩
              rw [entryPath, if_pos root]
            · obtain ⟨obj, found, same⟩ := folder root
              refine Or.inr ⟨root, obj, name, found, same, ?_⟩
              rw [entryPath, if_neg root, found]
          exact (Grows.entry .refl known (handleAt_none unknown)).trans (ih (folder.entry _))

theorem scannedDir_folderIn {storage : VirtualStorageState} {dirPath : Path}
    (listed : state.scannedDir storage parent = some dirPath) :
    state.FolderIn storage.storageId parent := by
  intro notRoot
  unfold scannedDir at listed
  rw [if_neg notRoot] at listed
  split at listed
  · next folder found =>
      split at listed
      · next same => exact ⟨folder, found, same⟩
      · cases listed
  · cases listed

theorem scanDir_grows {result : Option (List UInt32)}
    (scanned : state.scanDir host storageId parent = (result, after)) : Grows state after := by
  unfold scanDir at scanned
  split at scanned
  · cases scanned
    exact .refl
  · next storage owner =>
      split at scanned
      · cases scanned
        exact .refl
      · next dirPath listed =>
          split at scanned
          · split at scanned
            · cases scanned
              exact .refl
            · cases scanned
              apply scanEntries_grows
              rw [← (findStorage_mem owner).2]
              exact scannedDir_folderIn listed
          · cases scanned
            exact .refl

theorem scanDir_scanned {result : Option (List UInt32)}
    (listed : state.scanDir host storageId parent = (result, after)) : Scanned host state after :=
  .single ⟨storageId, parent, (congrArg Prod.snd listed).symm⟩

theorem scanFolders_scanned {fuel : Nat} {queue allHandles : List UInt32}
    {result : Option (List UInt32)}
    (listed : state.scanFolders host storageId fuel queue allHandles = some (result, after)) :
    Scanned host state after := by
  induction fuel generalizing state queue allHandles with
  | zero =>
      cases queue with
      | nil =>
          cases listed
          exact .refl
      | cons _ _ => cases listed
  | succ fuel ih =>
      cases queue with
      | nil =>
          cases listed
          exact .refl
      | cons handle rest =>
          rw [scanFolders] at listed
          split at listed
          · split at listed
            · split at listed
              · next failed one =>
                  cases listed
                  exact scanDir_scanned one
              · next children reached one => exact (scanDir_scanned one).trans (ih listed)
            · exact ih listed
          · exact ih listed

theorem scanAll_scanned {result : Option (List UInt32)}
    (listed : state.scanAll host storageId = some (result, after)) : Scanned host state after := by
  unfold scanAll at listed
  split at listed
  · next failed one =>
      cases listed
      exact scanDir_scanned one
  · next handles reached one => exact (scanDir_scanned one).trans (scanFolders_scanned listed)

/-- What each listing does the listings of all storages do. -/
theorem listStorages_closed {related : VirtualDeviceState → VirtualDeviceState → Prop}
    (refl : ∀ state, related state state)
    (trans : ∀ {first middle last}, related first middle → related middle last → related first last)
    {list : VirtualDeviceState → UInt32 → Option (Option (List UInt32) × VirtualDeviceState)}
    (each : ∀ {reached last : VirtualDeviceState} {id result},
      list reached id = some (result, last) → related reached last)
    {ids : List UInt32} {result : Option (List UInt32)}
    (listed : listStorages list ids state = some (result, after)) : related state after := by
  induction ids generalizing state result after with
  | nil =>
      cases listed
      exact refl _
  | cons id rest ih =>
      rw [listStorages] at listed
      split at listed
      · cases listed
      · next failed one =>
          cases listed
          exact each one
      · next handles reached one =>
          split at listed
          · cases listed
          · next last others =>
              cases listed
              exact trans (each one) (ih others)
          · next others last more =>
              cases listed
              exact trans (each one) (ih more)

theorem requestedObjects_scanned {depth : UInt32} {result : Except UInt16 (List UInt32)}
    (requested : state.requestedObjects host handle depth = some (result, after)) :
    Scanned host state after := by
  unfold requestedObjects at requested
  dsimp only at requested
  split at requested
  · obtain ⟨⟨listing, reached⟩, listed, same⟩ := Option.map_eq_some_iff.mp requested
    have lists : Scanned host state reached := listStorages_closed (fun _ => ReflTransGen.refl)
      (fun early late => ReflTransGen.trans early late) scanAll_scanned listed
    cases listing <;> cases same <;> exact lists
  · split at requested
    · obtain ⟨⟨listing, reached⟩, listed, same⟩ := Option.map_eq_some_iff.mp requested
      have lists : Scanned host state reached := listStorages_closed (fun _ => ReflTransGen.refl)
        (fun early late => ReflTransGen.trans early late)
        (fun one => scanDir_scanned (Option.some.inj one)) listed
      cases listing <;> cases same <;> exact lists
    · split at requested
      · cases requested
        exact .refl
      · split at requested
        · split at requested
          · next children reached one =>
              cases requested
              exact scanDir_scanned one
          · next reached one =>
              cases requested
              exact scanDir_scanned one
        · cases requested
          exact .refl

theorem answer_scanned {params : List UInt32} {result : Except UInt16 Ptp.Bytes}
    (answered : state.answer host params = some (result, after)) : Scanned host state after := by
  unfold answer at answered
  split at answered
  · cases answered
    exact .refl
  · split at answered
    · cases answered
    · next code reached requested =>
        cases answered
        exact requestedObjects_scanned requested
    · next handles reached requested =>
        split at answered
        · cases answered
          exact requestedObjects_scanned requested
        · cases answered
          exact requestedObjects_scanned requested

/-- Listings only come to track entries. -/
theorem Scanned.grows (scanned : Scanned host state after) : Grows state after := by
  induction scanned with
  | refl => exact .refl
  | tail _ one ih =>
      obtain ⟨storageId, parent, rfl⟩ := one
      exact ih.trans (scanDir_grows rfl)

theorem scanAll_grows {result : Option (List UInt32)}
    (listed : state.scanAll host storageId = some (result, after)) : Grows state after :=
  Scanned.grows (scanAll_scanned listed)

theorem requestedObjects_grows {depth : UInt32} {result : Except UInt16 (List UInt32)}
    (requested : state.requestedObjects host handle depth = some (result, after)) :
    Grows state after :=
  Scanned.grows (requestedObjects_scanned requested)

theorem answer_grows {params : List UInt32} {result : Except UInt16 Ptp.Bytes}
    (answered : state.answer host params = some (result, after)) : Grows state after :=
  Scanned.grows (answer_scanned answered)

end

end VirtualDeviceState

end VirtualDevice
