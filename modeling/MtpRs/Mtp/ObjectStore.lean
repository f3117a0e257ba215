import MtpRs.Mtp.PropList

set_option autoImplicit false

namespace Ptp

theorem getObjectInfoFull_ok (info : ObjectInfo) (objectSize : Except PtpError Bytes) :
    ∃ size, getObjectInfoFull (.ok info) objectSize = .ok { info with size := size } := by
  by_cases saturated : info.size = 2 ^ 32 - 1
  · cases objectSize with
    | error e => exact ⟨info.size, getObjectInfoFull_refused e⟩
    | ok bytes =>
        simp only [getObjectInfoFull, bind, Except.bind, if_pos saturated]
        cases unpackU64 bytes with
        | error e => exact ⟨info.size, rfl⟩
        | ok realSize => exact ⟨realSize.toNat, rfl⟩
  · exact ⟨info.size, getObjectInfoFull_small saturated objectSize⟩

/-- A size lookup never fails a dataset in hand and changes nothing else of it. -/
theorem getObjectDatasetFull_ok (dataset : ObjectDataset) (objectSize : Except PtpError Bytes) :
    ∃ size, getObjectDatasetFull (.ok dataset) objectSize = .ok { dataset with size := size } := by
  obtain ⟨size, resolved⟩ := getObjectInfoFull_ok dataset.toObjectInfo objectSize
  refine ⟨size, ?_⟩
  simp only [getObjectDatasetFull, bind, Except.bind, resolved]

end Ptp

/- A store that does not change while it is listed, and what the per-handle path makes of it. -/
namespace Mtp

open Ptp (Bytes ObjectDataset PtpError)

/-- The objects of one storage, in handle order, with what the device says of each. -/
structure ObjectStore where
  handles : List UInt32
  distinct : handles.Nodup
  info : UInt32 → ObjectDataset
  objectSize : UInt32 → Except PtpError Bytes

namespace ObjectStore

def dataset (store : ObjectStore) (handle : UInt32) : ObjectDataset :=
  match Ptp.getObjectDatasetFull (.ok (store.info handle)) (store.objectSize handle) with
  | .ok info => { info with handle := handle }
  | .error _ => { store.info handle with handle := handle }

def object (store : ObjectStore) (handle : UInt32) : ListedObject :=
  .fromPtp (store.dataset handle)

/-- What the device reports as an object's parent. -/
def parent (store : ObjectStore) (handle : UInt32) : UInt32 := (store.info handle).parent

/-- Every metadata request about an object of the store is answered, and answered from it. -/
structure Describes (store : ObjectStore) (device : Responder) : Prop where
  info : ∀ cursor, ∀ handle ∈ store.handles,
    device.objectInfo cursor handle = .ok (store.info handle)
  size : ∀ cursor, ∀ handle ∈ store.handles,
    device.objectSize cursor handle = store.objectSize handle

section

variable {store : ObjectStore} {device : Responder} {filter : ParentFilter}

theorem dataset_eq (store : ObjectStore) (handle : UInt32) :
    ∃ size, Ptp.getObjectDatasetFull (.ok (store.info handle)) (store.objectSize handle) =
        .ok { store.info handle with size := size } ∧
      store.dataset handle = { store.info handle with size := size, handle := handle } := by
  obtain ⟨size, resolved⟩ :=
    Ptp.getObjectDatasetFull_ok (store.info handle) (store.objectSize handle)
  refine ⟨size, resolved, ?_⟩
  simp only [dataset, resolved]

@[simp] theorem dataset_handle (handle : UInt32) : (store.dataset handle).handle = handle := by
  obtain ⟨size, -, same⟩ := store.dataset_eq handle
  rw [same]

@[simp] theorem dataset_parent (handle : UInt32) :
    (store.dataset handle).parent = store.parent handle := by
  obtain ⟨size, -, same⟩ := store.dataset_eq handle
  rw [same]
  rfl

@[simp] theorem dataset_isFolder (handle : UInt32) :
    (store.dataset handle).isFolder = (store.info handle).isFolder := by
  obtain ⟨size, -, same⟩ := store.dataset_eq handle
  rw [same]
  rfl

@[simp] theorem dataset_format (handle : UInt32) :
    (store.dataset handle).format = (store.info handle).format := by
  obtain ⟨size, -, same⟩ := store.dataset_eq handle
  rw [same]

@[simp] theorem object_handle (handle : UInt32) : (store.object handle).handle = handle :=
  store.dataset_handle handle

/-- The next handle of a described store that is not cancelled: an item, or nothing where the
filter drops the object. -/
theorem Describes.listingItems_cons (described : store.Describes device) {cursor : Nat}
    {handle : UInt32} {rest : List UInt32} (inStore : handle ∈ store.handles)
    (goesOn : device.bailIfCancelled (.handle cursor) = .ok ()) :
    listingItems device filter cursor (handle :: rest) =
      if filter.accepts (store.parent handle) then
        .ok (store.object handle) :: listingItems device filter (cursor + 1) rest
      else listingItems device filter (cursor + 1) rest := by
  obtain ⟨size, resolved, same⟩ := store.dataset_eq handle
  have answer : device.getObjectInfoFull cursor handle =
      .ok { store.info handle with size := size } := by
    rw [Responder.getObjectInfoFull, described.info cursor handle inStore,
      described.size cursor handle inStore, resolved]
  simp only [listingItems, goesOn, answer, object, same]
  rfl

/-- A listing of a described store that ends without an error holds the accepted objects, in
the order of the handles. -/
theorem Describes.ended_items (described : store.Describes device) {answered : List UInt32}
    (inStore : ∀ handle ∈ answered, handle ∈ store.handles) (cursor : Nat)
    {objects : List ListedObject}
    (ended : listingItems device filter cursor answered = objects.map .ok) :
    objects =
      (answered.filter fun handle => filter.accepts (store.parent handle)).map store.object := by
  induction answered generalizing cursor objects with
  | nil => exact List.map_eq_nil_iff.mp ended.symm
  | cons handle rest ih =>
      have restIn : ∀ h ∈ rest, h ∈ store.handles := fun h mem =>
        inStore h (List.mem_cons_of_mem _ mem)
      cases looked : device.bailIfCancelled (.handle cursor) with
      | error e =>
          unfold listingItems at ended
          rw [looked] at ended
          cases objects <;> cases ended
      | ok _ =>
          rw [described.listingItems_cons (inStore handle (List.mem_cons_self ..)) looked] at ended
          rw [List.filter_cons]
          by_cases accepted : filter.accepts (store.parent handle)
          · rw [if_pos accepted] at ended ⊢
            cases objects with
            | nil => cases ended
            | cons object others =>
                injection ended with first later
                injection first with first
                rw [List.map_cons, ih restIn _ later, ← first]
          · rw [if_neg accepted] at ended ⊢
            exact ih restIn _ ended

/-- One that is not cancelled ends without an error. -/
theorem Describes.listingItems_eq (described : store.Describes device)
    (running : ∀ cursor, device.cancelled (.handle cursor) = false) {answered : List UInt32}
    (inStore : ∀ handle ∈ answered, handle ∈ store.handles) (cursor : Nat) :
    listingItems device filter cursor answered =
      ((answered.filter fun handle => filter.accepts (store.parent handle)).map
        store.object).map .ok := by
  induction answered generalizing cursor with
  | nil => rfl
  | cons handle rest ih =>
      have goesOn : device.bailIfCancelled (.handle cursor) = .ok () :=
        if_neg (by simp [running cursor])
      have others := ih (fun h mem => inStore h (List.mem_cons_of_mem _ mem)) (cursor + 1)
      rw [described.listingItems_cons (inStore handle (List.mem_cons_self ..)) goesOn, others,
        List.filter_cons]
      by_cases accepted : filter.accepts (store.parent handle)
      · rw [if_pos accepted, if_pos accepted]
        rfl
      · rw [if_neg accepted, if_neg accepted]

end

end ObjectStore

end Mtp
