import MtpRs.Mtp.ObjectStore

set_option autoImplicit false

/- The root of a storage, listed handle by handle: which root objects each way to ask for the
handles leaves in. -/
namespace Mtp

open Ptp (ObjectDataset PtpError)

/-- The spellings of the root as an object's parent. -/
def rootSpelling (storage parent : UInt32) : Bool :=
  parent == 0 || parent == 0xFFFFFFFF || parent == storage

/-- A storage whose root objects, and no others, report a spelling of the root, and whose ID is
no object's handle. -/
structure RootStore (storage : UInt32) extends ObjectStore where
  isRoot : UInt32 → Bool
  spelled : ∀ handle ∈ handles, isRoot handle = rootSpelling storage (info handle).parent
  free : storage ∉ handles

namespace RootStore

variable {storage : UInt32}

def rootHandles (store : RootStore storage) : List UInt32 := store.handles.filter store.isRoot

/-- Exactly the root objects, each once, in handle order. -/
def Complete (store : RootStore storage) (objects : List ListedObject) : Prop :=
  objects = store.rootHandles.map store.object

/-- A device that answers from the store: every request for the root's handles it accepts gets
the root handles only or all handles. -/
structure Answers (store : RootStore storage) (device : Responder) : Prop where
  describes : store.Describes device
  handles : ∀ attempt parent answered, parent = handleRoot ∨ parent = handleAll →
    device.objectHandles attempt storage parent = .ok answered →
      answered = store.rootHandles ∨ answered = store.handles

end RootStore

/-- The device declined `0xFFFFFFFF` and accepted `0`. -/
def TookParentZero (device : Responder) (storage : UInt32) : Prop :=
  (∀ answered, device.objectHandles 0 storage handleAll ≠ .ok answered) ∧
    ∃ answered, device.objectHandles 1 storage handleRoot = .ok answered

section

variable {device : Responder} {storage : UInt32} {answered : List UInt32} {filter : ParentFilter}

theorem resolveOwn_root (resolved : resolveOwn device storage none = .ok (answered, filter)) :
    (device.objectHandles 1 storage handleRoot = .ok answered ∧ filter = .exact handleRoot) ∨
      ((∃ e, device.objectHandles 1 storage handleRoot = .error e) ∧
        device.objectHandles 2 storage handleAll = .ok answered ∧
        filter = rootFilter storage answered) := by
  unfold resolveOwn at resolved
  cases looked : device.bailIfCancelled .handles with
  | error e =>
      rw [looked] at resolved
      cases resolved
  | ok _ =>
      simp only [looked, bind, Except.bind, Option.getD_none, Option.isNone_none, ite_true]
        at resolved
      split at resolved
      · next handles accepted =>
          cases resolved
          exact Or.inl ⟨accepted, rfl⟩
      · next operation declined =>
          cases again : device.objectHandles 2 storage handleAll with
          | error e =>
              rw [again] at resolved
              cases resolved
          | ok handles =>
              rw [again] at resolved
              cases resolved
              exact Or.inr ⟨⟨_, declined⟩, rfl, rfl⟩
      · cases resolved

/-- The three ways a root listing gets its handles, each with its filter. -/
theorem resolveListing_root (resolved : resolveListing device storage none = .ok
    (answered, filter)) :
    (TookParentZero device storage ∧
        device.objectHandles 1 storage handleRoot = .ok answered ∧ filter = .exact handleRoot) ∨
      (¬ TookParentZero device storage ∧
        (∃ attempt, device.objectHandles attempt storage handleAll = .ok answered) ∧
        filter = rootFilter storage answered) := by
  unfold resolveListing at resolved
  rw [if_pos (show (none : Option UInt32).isNone = true from rfl)] at resolved
  cases first : device.objectHandles 0 storage handleAll with
  | ok handles =>
      rw [first] at resolved
      cases resolved
      exact Or.inr ⟨fun took => took.1 _ first, ⟨0, first⟩, rfl⟩
  | error e =>
      simp only [first] at resolved
      by_cases declined : isAllHandleRejection e
      · rw [if_pos declined] at resolved
        rcases resolveOwn_root resolved with ⟨accepted, same⟩ | ⟨⟨e', refused⟩, again, same⟩
        · refine Or.inl ⟨⟨?_, answered, accepted⟩, accepted, same⟩
          intro handles accepted
          rw [first] at accepted
          cases accepted
        · refine Or.inr ⟨?_, ⟨2, again⟩, same⟩
          rintro ⟨-, handles, accepted⟩
          rw [refused] at accepted
          cases accepted
      · rw [if_neg declined] at resolved
        cases resolved

/-- A storage ID that is none of the handles marks the root. -/
theorem rootFilter_free (free : storage ∉ answered) :
    rootFilter storage answered = .root (some storage) := by
  have apart : answered.any (· == storage) = false := by
    rw [List.any_eq_false]
    intro handle mem same
    exact free (eq_of_beq same ▸ mem)
  simp [rootFilter, apart]

end

namespace RootStore

variable {storage : UInt32} {device : Responder} {answered : List UInt32}

theorem mem_handles {store : RootStore storage}
    (lists : answered = store.rootHandles ∨ answered = store.handles) :
    ∀ handle ∈ answered, handle ∈ store.handles := by
  intro handle mem
  rcases lists with rfl | rfl
  · exact (List.mem_filter.mp mem).1
  · exact mem

/-- Either set of handles leaves the root handles, in order, after a filter by root. -/
theorem filter_isRoot {store : RootStore storage}
    (lists : answered = store.rootHandles ∨ answered = store.handles) :
    answered.filter store.isRoot = store.rootHandles := by
  rcases lists with rfl | rfl
  · rw [rootHandles, List.filter_filter]
    simp only [Bool.and_self]
  · rfl

/-- The root filter accepts the root objects, whichever of the handles were answered. -/
theorem filter_rootFilter {store : RootStore storage}
    (lists : answered = store.rootHandles ∨ answered = store.handles) :
    (answered.filter fun handle => (rootFilter storage answered).accepts (store.parent handle)) =
      store.rootHandles := by
  rw [← filter_isRoot lists]
  apply List.filter_congr
  intro handle mem
  rw [rootFilter_free fun collides => store.free (mem_handles lists _ collides),
    store.spelled handle (mem_handles lists handle mem)]
  rfl

/-- The exact filter accepts the root objects exactly when they all report parent 0. -/
theorem filter_exact {store : RootStore storage}
    (lists : answered = store.rootHandles ∨ answered = store.handles) :
    (answered.filter fun handle => ParentFilter.accepts (.exact handleRoot) (store.parent handle)) =
        store.rootHandles ↔
      ∀ handle ∈ store.rootHandles, store.parent handle = 0 := by
  constructor
  · intro same handle mem
    rw [← same] at mem
    exact eq_of_beq (List.mem_filter.mp mem).2
  · intro zero
    rw [← filter_isRoot lists]
    apply List.filter_congr
    intro handle mem
    have inStore := mem_handles lists handle mem
    by_cases root : store.isRoot handle
    · have reported := zero handle (List.mem_filter.mpr ⟨inStore, root⟩)
      rw [root, reported]
      rfl
    · have apart : store.parent handle ≠ 0 := by
        intro reported
        apply root
        rw [store.spelled handle inStore, show (store.info handle).parent = 0 from reported]
        rfl
      rw [Bool.not_eq_true] at root
      rw [root]
      exact beq_false_of_ne apart

theorem map_object_injective (store : RootStore storage) {first second : List UInt32} :
    first.map store.object = second.map store.object ↔ first = second := by
  constructor
  · intro same
    have handles := congrArg (List.map ListedObject.handle) same
    simpa only [List.map_map, Function.comp_def, ObjectStore.object_handle, List.map_id']
      using handles
  · exact congrArg _

/-- What `list` of the root is, once it ends without an error. -/
theorem list_root {store : RootStore storage} {backend : ListingBackend} {total : Nat}
    {objects : List ListedObject} (answers : store.Answers device)
    (ended : (backend.list device storage none).1 = .ok ⟨total, objects.map .ok⟩) :
    ∃ answered filter, resolveListing device storage none = .ok (answered, filter) ∧
      (answered = store.rootHandles ∨ answered = store.handles) ∧
      objects = (answered.filter fun handle => filter.accepts (store.parent handle)).map
        store.object := by
  have perHandle : listPerHandle device storage none = .ok ⟨total, objects.map .ok⟩ := by
    unfold ListingBackend.list at ended
    cases looked : device.bailIfCancelled .entry with
    | error e =>
        rw [looked] at ended
        cases ended
    | ok _ =>
        rw [looked] at ended
        simpa only [ite_self] using ended
  unfold listPerHandle at perHandle
  cases resolved : resolveListing device storage none with
  | error e =>
      rw [resolved] at perHandle
      cases perHandle
  | ok pair =>
      obtain ⟨answered, filter⟩ := pair
      rw [resolved] at perHandle
      injection perHandle with same
      injection same with same items
      have lists : answered = store.rootHandles ∨ answered = store.handles := by
        rcases resolveListing_root resolved with ⟨-, accepted, -⟩ | ⟨-, ⟨attempt, accepted⟩, -⟩
        · exact answers.handles 1 handleRoot answered (Or.inl rfl) accepted
        · exact answers.handles attempt handleAll answered (Or.inr rfl) accepted
      exact ⟨answered, filter, rfl, lists,
        answers.describes.ended_items (mem_handles lists) 0 items⟩

/-- A root listing that ends without an error is complete exactly when the handles did not come
from `parent = 0` or every root object reports 0. -/
theorem complete_iff (store : RootStore storage) (backend : ListingBackend) (total : Nat)
    (objects : List ListedObject) (answers : store.Answers device)
    (ended : (backend.list device storage none).1 = .ok ⟨total, objects.map .ok⟩) :
    store.Complete objects ↔
      (TookParentZero device storage →
        ∀ handle ∈ store.rootHandles, store.parent handle = handleRoot) := by
  obtain ⟨answered, filter, resolved, lists, rfl⟩ := list_root answers ended
  rw [Complete, map_object_injective]
  rcases resolveListing_root resolved with ⟨took, -, rfl⟩ | ⟨not, -, rfl⟩
  · rw [filter_exact lists]
    exact ⟨fun zero _ => zero, fun zero => zero took⟩
  · exact ⟨fun _ took => absurd took not, fun _ => filter_rootFilter lists⟩

/-- One object, in the root by the spelling that asks for it. -/
def oneObject : RootStore 0x00010001 where
  handles := [5]
  distinct := by decide
  info _ := { ObjectDataset.empty with filename := "DCIM", parent := 0xFFFFFFFF }
  objectSize _ := .error (.protocol .operationNotSupported .getObjectPropValue)
  isRoot _ := true
  spelled := List.forall_mem_singleton.mpr (by decide)
  free := by decide

/-- It declines `0xFFFFFFFF` and answers `0` with its handles. -/
def decliningAll : Responder where
  cancelled _ := false
  objectHandles _ _ parent :=
    if parent = handleAll then .error (.protocol .invalidParameter .getObjectHandles)
    else .ok [5]
  objectInfo _ handle := .ok (oneObject.info handle)
  objectSize _ handle := oneObject.objectSize handle
  objectPropList _ _ := .error (.protocol .operationNotSupported .getObjectPropList)

theorem decliningAll_answers : oneObject.Answers decliningAll where
  describes := ⟨fun _ _ _ => rfl, fun _ _ _ => rfl⟩
  handles := by
    intro attempt parent answered _ accepted
    right
    by_cases all : parent = handleAll
    · rw [show decliningAll.objectHandles attempt 0x00010001 parent = .error _ from if_pos all]
        at accepted
      cases accepted
    · rw [show decliningAll.objectHandles attempt 0x00010001 parent = .ok [5] from if_neg all]
        at accepted
      cases accepted
      rfl

/-- A full root listed as an empty one. -/
theorem complete_lost :
    oneObject.Answers decliningAll ∧ oneObject.rootHandles = [5] ∧
      ((⟨true, false, 0⟩ : ListingBackend).list decliningAll 0x00010001 none).1 = .ok ⟨1, []⟩ ∧
      ¬ oneObject.Complete [] :=
  ⟨decliningAll_answers, by decide, by rfl,
    fun complete => absurd (congrArg List.length complete) (by decide)⟩

theorem complete_iff_decliningAll :
    oneObject.Complete [] ↔
      (TookParentZero decliningAll 0x00010001 →
        ∀ handle ∈ oneObject.rootHandles, oneObject.parent handle = handleRoot) :=
  complete_iff oneObject ⟨true, false, 0⟩ 1 [] decliningAll_answers (by rfl)

end RootStore

end Mtp
