import MtpRs.Mtp.PropChildren

set_option autoImplicit false

/- The two ways to list a folder agree: what the fast path yields is what the per-handle path
would, and what the backend remembers of a device changes no listing. -/
namespace Mtp

open Ptp (AssociationType ObjectDataset ObjectFormatCode ObjectPropListElement ObjectPropertyCode
  PtpError)

/-- An element of an answer to a request for a required property. -/
def Responder.RequiredElement (device : Responder) (parent : UInt32)
    (element : ObjectPropListElement) : Prop :=
  ∃ property ∈ propListRequired, ∃ answer,
    device.objectPropList parent property = .ok (.ok answer) ∧ element ∈ answer

/-- The session or its transport failed under a property request, or the token was set. -/
def Responder.SessionFailure (device : Responder) (parent : UInt32) (e : PtpError) : Prop :=
  (e = .cancelled ∧ ∃ here, device.cancelled here = true) ∨
    ∃ property, device.objectPropList parent property = .error e ∧ isAllHandleRejection e = false

section

variable {device : Responder} {parent : UInt32}

theorem bailIfCancelled_error {here : Checkpoint} {e : PtpError}
    (looked : device.bailIfCancelled here = .error e) : device.SessionFailure parent e := by
  unfold Responder.bailIfCancelled at looked
  split at looked
  · next set =>
      cases looked
      exact Or.inl ⟨rfl, here, set⟩
  · cases looked

theorem askPropList_error {property : ObjectPropertyCode} {e : PtpError}
    (failed : askPropList device parent property = .error e) : device.SessionFailure parent e := by
  unfold askPropList at failed
  split at failed
  · cases failed
  · cases failed
  · next inner asked =>
      split at failed
      · cases failed
      · split at failed
        · cases failed
        · next sick =>
            cases failed
            exact Or.inr ⟨property, asked, Bool.not_eq_true _ ▸ sick⟩

theorem askPropList_elements {property : ObjectPropertyCode}
    {answer : List ObjectPropListElement}
    (asked : askPropList device parent property = .ok (.elements answer)) :
    device.objectPropList parent property = .ok (.ok answer) := by
  unfold askPropList at asked
  split at asked
  · next elements same =>
      cases asked
      exact same
  · cases asked
  · split at asked
    · cases asked
    · split at asked <;> cases asked

/-- How asking for the required properties goes on after one of them. -/
theorem askRequired_cons (property : ObjectPropertyCode) (rest : List ObjectPropertyCode)
    (elements : List ObjectPropListElement) :
    (∃ e, askRequired device parent (property :: rest) elements = .error e ∧
        device.SessionFailure parent e) ∨
      askRequired device parent (property :: rest) elements = .ok .off ∨
      askRequired device parent (property :: rest) elements = .ok .refused ∨
      ∃ answer, device.objectPropList parent property = .ok (.ok answer) ∧
        askRequired device parent (property :: rest) elements =
          askRequired device parent rest (elements ++ answer) := by
  simp only [askRequired, bind, Except.bind]
  cases looked : device.bailIfCancelled (.property property) with
  | error e => exact Or.inl ⟨e, rfl, bailIfCancelled_error looked⟩
  | ok _ =>
      cases asked : askPropList device parent property with
      | error e => exact Or.inl ⟨e, rfl, askPropList_error asked⟩
      | ok answer =>
          cases answer with
          | elements answer =>
              exact Or.inr (Or.inr (Or.inr ⟨answer, askPropList_elements asked, rfl⟩))
          | declined => exact Or.inr (Or.inl rfl)
          | unparseable => exact Or.inr (Or.inl rfl)
          | refused => exact Or.inr (Or.inr (Or.inl rfl))

theorem askRequired_error {properties : List ObjectPropertyCode}
    {elements : List ObjectPropListElement} {e : PtpError}
    (failed : askRequired device parent properties elements = .error e) :
    device.SessionFailure parent e := by
  induction properties generalizing elements with
  | nil => cases failed
  | cons property rest ih =>
      rcases askRequired_cons property rest elements with
        ⟨e', same, failure⟩ | same | same | ⟨answer, -, same⟩ <;> rw [same] at failed
      · cases failed
        exact failure
      · cases failed
      · cases failed
      · exact ih failed

/-- The elements together: those of the answers, and no others. -/
theorem askRequired_elements {properties : List ObjectPropertyCode}
    {elements gathered : List ObjectPropListElement}
    (asked : askRequired device parent properties elements = .ok (.elements gathered)) :
    ∀ element, element ∈ gathered ↔ element ∈ elements ∨ ∃ property ∈ properties, ∃ answer,
      device.objectPropList parent property = .ok (.ok answer) ∧ element ∈ answer := by
  intro element
  induction properties generalizing elements with
  | nil =>
      cases asked
      simp
  | cons property rest ih =>
      rcases askRequired_cons property rest elements with
        ⟨e', same, -⟩ | same | same | ⟨answer, given, same⟩ <;> rw [same] at asked
      · cases asked
      · cases asked
      · cases asked
      · rw [ih asked, List.mem_append, or_assoc]
        apply or_congr_right
        constructor
        · rintro (mem | ⟨other, inRest, found⟩)
          · exact ⟨property, List.mem_cons_self .., answer, given, mem⟩
          · exact ⟨other, List.mem_cons_of_mem _ inRest, found⟩
        · rintro ⟨other, mem, answer', given', inAnswer⟩
          rcases List.mem_cons.mp mem with rfl | inRest
          · rw [given] at given'
            cases given'
            exact Or.inl inAnswer
          · exact Or.inr ⟨other, inRest, answer', given', inAnswer⟩

end

/-- The fields a listing compares, and the one its folder flag reads besides. -/
def core (dataset : ObjectDataset) :
    UInt32 × String × UInt32 × ObjectFormatCode × Nat × AssociationType :=
  (dataset.handle, dataset.filename, dataset.parent, dataset.format, dataset.size,
    dataset.associationType)

section

variable {device : Responder} {parent : UInt32}

/-- A date sets nothing a listing compares. -/
theorem setProperty_core {dataset after : ObjectDataset} {property : ObjectPropertyCode}
    {value : Ptp.PropertyValue} (date : property = .dateModified ∨ property = .dateCreated)
    (set : dataset.setProperty property value = some after) : core after = core dataset := by
  have sets := ObjectDataset.setProperty_sets set
  have apart : ∀ other, other ∈ propListRequired → other ≠ property := by
    rintro other required rfl
    rcases date with rfl | rfl <;> exact absurd required (by decide)
  have parent := sets.others .parentObject (apart _ (by decide))
  have filename := sets.others .objectFileName (apart _ (by decide))
  have format := sets.others .objectFormat (apart _ (by decide))
  have size := sets.others .objectSize (apart _ (by decide))
  simp only [Ptp.SameField] at parent filename format size
  simp only [core, sets.handle, parent, filename, format, size, sets.association]

theorem setOptional_core {state : List ObjectDataset × Bool} {element : ObjectPropListElement}
    (date : element.property = .dateModified ∨ element.property = .dateCreated) :
    (setOptional state element).1.map core = state.1.map core := by
  simp only [setOptional, List.map_map]
  apply List.map_congr_left
  intro child _
  simp only [Function.comp]
  by_cases same : child.handle = element.handle
  · rw [if_pos same]
    cases set : element.value.bind (child.setProperty element.property) with
    | none => rfl
    | some after =>
        obtain ⟨value, -, set⟩ := Option.bind_eq_some_iff.mp set
        exact setProperty_core date set
  · rw [if_neg same]
    rfl

theorem foldl_setOptional_core (elements : List ObjectPropListElement)
    (state : List ObjectDataset × Bool)
    (dates : ∀ element ∈ elements, element.property = .dateModified ∨
      element.property = .dateCreated) :
    (elements.foldl setOptional state).1.map core = state.1.map core := by
  induction elements generalizing state with
  | nil => rfl
  | cons element rest ih =>
      rw [List.foldl_cons, ih _ fun e mem => dates e (List.mem_cons_of_mem _ mem)]
      exact setOptional_core (dates element (List.mem_cons_self ..))

/-- A backend remembers no less after a listing, and forgets nothing of the device. -/
structure ListingBackend.Remembers (before after : ListingBackend) : Prop where
  device : after.hasObjectPropList = before.hasObjectPropList
  off : before.propListOff = true → after.propListOff = true
  declined : ∃ more, after.propListDeclinedOptional = before.propListDeclinedOptional ||| more

namespace ListingBackend

theorem Remembers.refl (backend : ListingBackend) : backend.Remembers backend :=
  ⟨rfl, id, 0, UInt8.or_zero.symm⟩

theorem Remembers.trans {first second third : ListingBackend} (early : first.Remembers second)
    (late : second.Remembers third) : first.Remembers third := by
  obtain ⟨more, same⟩ := early.declined
  obtain ⟨evenMore, same'⟩ := late.declined
  refine ⟨late.device.trans early.device, late.off ∘ early.off, more ||| evenMore, ?_⟩
  rw [same', same, UInt8.or_assoc]

/-- The optional properties set nothing a listing compares, and a decline is remembered. -/
theorem addOptionalProperties_spec {properties : List (UInt8 × ObjectPropertyCode)}
    (dates : ∀ entry ∈ properties, entry.2 = .dateModified ∨ entry.2 = .dateCreated)
    {self after : ListingBackend} {children : List ObjectDataset}
    {result : Except PtpError (List ObjectDataset)}
    (added : addOptionalProperties device parent properties self children = (result, after)) :
    self.Remembers after ∧
      ((∃ e, result = .error e ∧ device.SessionFailure parent e) ∨
        ∃ datasets, result = .ok datasets ∧ datasets.map core = children.map core) := by
  induction properties generalizing self children with
  | nil =>
      cases added
      exact ⟨Remembers.refl _, Or.inr ⟨children, rfl, rfl⟩⟩
  | cons entry rest ih =>
      obtain ⟨bit, property⟩ := entry
      have date := dates (bit, property) (List.mem_cons_self ..)
      have others := fun entry mem => dates entry (List.mem_cons_of_mem _ mem)
      have declines : self.Remembers
          { self with propListDeclinedOptional := self.propListDeclinedOptional ||| bit } :=
        ⟨rfl, id, bit, rfl⟩
      unfold addOptionalProperties at added
      simp only [] at added
      split at added
      · exact ih others added
      · cases looked : device.bailIfCancelled (.property property) with
        | error e =>
            rw [looked] at added
            cases added
            exact ⟨Remembers.refl _, Or.inl ⟨e, rfl, bailIfCancelled_error looked⟩⟩
        | ok _ =>
            cases asked : askPropList device parent property with
            | error e =>
                rw [looked, asked] at added
                cases added
                exact ⟨Remembers.refl _, Or.inl ⟨e, rfl, askPropList_error asked⟩⟩
            | ok answer =>
                simp only [looked, asked] at added
                cases answer with
                | elements answer =>
                    simp only [] at added
                    have same := foldl_setOptional_core
                      (answer.filter fun e => e.property == property) (children, false) (by
                        intro element mem
                        rw [eq_of_beq (List.mem_filter.mp mem).2]
                        exact date)
                    have next := ih others added
                    rw [same] at next
                    refine ⟨?_, next.2⟩
                    split at next
                    · exact next.1
                    · exact declines.trans next.1
                | declined =>
                    have next := ih others added
                    exact ⟨declines.trans next.1, next.2⟩
                | unparseable =>
                    have next := ih others added
                    exact ⟨declines.trans next.1, next.2⟩
                | refused => exact ih others added

/-- The outcomes of the fast path: a failing session, the per-handle path's turn, or the
children the required answers gave, dates set. -/
theorem listByPropList_spec {self after : ListingBackend} {storage : UInt32}
    {result : Except PtpError (Option (List ObjectDataset))}
    (listed : self.listByPropList device storage parent = (result, after)) :
    self.Remembers after ∧
      ((∃ e, result = .error e ∧ device.SessionFailure parent e) ∨ result = .ok none ∨
        ∃ elements children datasets, result = .ok (some datasets) ∧ children ≠ [] ∧
          askRequired device parent propListRequired [] = .ok (.elements elements) ∧
          childrenFromPropList elements storage parent = .ok children ∧
          datasets.map core = children.map core) := by
  have turnsOff : self.Remembers { self with propListOff := true } :=
    ⟨rfl, fun _ => rfl, 0, UInt8.or_zero.symm⟩
  unfold listByPropList at listed
  simp only [] at listed
  split at listed
  · cases listed
    exact ⟨Remembers.refl _, Or.inr (Or.inl rfl)⟩
  · cases asked : askRequired device parent propListRequired [] with
    | error e =>
        rw [asked] at listed
        cases listed
        exact ⟨Remembers.refl _, Or.inl ⟨e, rfl, askRequired_error asked⟩⟩
    | ok answer =>
        rw [asked] at listed
        cases answer with
        | off =>
            cases listed
            exact ⟨turnsOff, Or.inr (Or.inl rfl)⟩
        | refused =>
            cases listed
            exact ⟨Remembers.refl _, Or.inr (Or.inl rfl)⟩
        | elements elements =>
            simp only [] at listed
            split at listed
            · cases listed
              exact ⟨Remembers.refl _, Or.inr (Or.inl rfl)⟩
            · next children notEmpty usable =>
                cases added :
                    addOptionalProperties device parent propListOptional self children with
                | mk outcome remembered =>
                    have spec := addOptionalProperties_spec (by decide) added
                    rw [added] at listed
                    rcases spec.2 with ⟨e, rfl, failure⟩ | ⟨datasets, rfl, same⟩
                    · cases listed
                      exact ⟨spec.1, Or.inl ⟨e, rfl, failure⟩⟩
                    · cases listed
                      exact ⟨spec.1, Or.inr (Or.inr
                        ⟨elements, children, datasets, rfl, notEmpty, rfl, usable, same⟩)⟩
            · cases listed
              exact ⟨turnsOff, Or.inr (Or.inl rfl)⟩
            · cases listed
              exact ⟨Remembers.refl _, Or.inr (Or.inl rfl)⟩

end ListingBackend

end

namespace ObjectStore

/-- The objects a folder holds, in handle order. -/
def children (store : ObjectStore) (parent : UInt32) : List UInt32 :=
  store.handles.filter fun handle => store.parent handle == parent

/-- What two listings are compared by. A folder's size means nothing. -/
def key (store : ObjectStore) (o : ListedObject) :
    UInt32 × String × UInt32 × UInt16 × Option Nat :=
  (o.handle, o.filename, o.parent, o.format,
    if (store.info o.handle).isFolder then none else some o.size)

/-- The same objects, whatever their order. -/
def SameObjects (store : ObjectStore) (first second : List ListedObject) : Prop :=
  (first.map store.key).Perm (second.map store.key)

/-- Exactly the objects of a folder, once each. -/
def Lists (store : ObjectStore) (parent : UInt32) (objects : List ListedObject) : Prop :=
  store.SameObjects objects ((store.children parent).map store.object)

end ObjectStore

/-- A dataset alike is compared as the object itself. -/
theorem ListedAlike.key_eq {store : ObjectStore} {dataset : ObjectDataset}
    (alike : ListedAlike store dataset) :
    store.key (.fromPtp dataset) = store.key (store.object dataset.handle) := by
  have parents : dataset.parent = (store.dataset dataset.handle).parent := by
    rw [store.dataset_parent]
    exact alike.parent
  have sizes : (if (store.info dataset.handle).isFolder then none else some dataset.size) =
      if (store.info dataset.handle).isFolder then none
      else some (store.dataset dataset.handle).size := by
    by_cases isFolder : (store.info dataset.handle).isFolder
    · rw [if_pos isFolder, if_pos isFolder]
    · rw [if_neg isFolder, if_neg isFolder, alike.size]
      rw [store.dataset_isFolder]
      exact Bool.not_eq_true _ ▸ isFolder
  show (dataset.handle, dataset.filename, dataset.parent, dataset.format.toCode,
      if (store.info dataset.handle).isFolder then none else some dataset.size) =
    ((store.dataset dataset.handle).handle, (store.dataset dataset.handle).filename,
      (store.dataset dataset.handle).parent, (store.dataset dataset.handle).format.toCode,
      if (store.info (store.dataset dataset.handle).handle).isFolder then none
      else some (store.dataset dataset.handle).size)
  rw [store.dataset_handle, ← alike.filename, ← alike.format, ← parents, sizes]

namespace ObjectStore

/-- Folder flags that follow the format, and otherwise say less than the device. -/
def Flagged (store : ObjectStore) (objects : List ListedObject) : Prop :=
  ∀ o ∈ objects, ((store.info o.handle).format = .association → o.isFolder = true) ∧
    (o.isFolder = true → (store.info o.handle).isFolder = true)

/-- A device that answers about a folder from the store. -/
structure Consistent (store : ObjectStore) (storage parent : UInt32) (device : Responder) :
    Prop where
  describes : store.Describes device
  /-- No folder holds itself. -/
  apart : parent ∈ store.handles → store.parent parent ≠ parent
  handles : ∀ answered, device.objectHandles 1 storage parent = .ok answered →
    answered.Nodup ∧ (∀ handle ∈ answered, handle ∈ store.handles) ∧
      ∀ handle ∈ store.children parent, handle ∈ answered
  truthful : ∀ element, device.RequiredElement parent element → element.handle ≠ parent →
    element.handle ∈ store.handles ∧ Truthful (store.dataset element.handle) element
  complete : (∃ element, device.RequiredElement parent element ∧
      element.handle ∈ store.children parent) →
    ∀ handle ∈ store.children parent, ∃ element, device.RequiredElement parent element ∧
      element.handle = handle

section

variable {store : ObjectStore} {storage parent : UInt32} {device : Responder}

theorem mem_children {handle : UInt32} :
    handle ∈ store.children parent ↔ handle ∈ store.handles ∧ store.parent handle = parent := by
  rw [children, List.mem_filter, beq_iff_eq]

theorem children_nodup : (store.children parent).Nodup := store.distinct.filter _

theorem heard_elements {elements : List ObjectPropListElement}
    (asked : askRequired device parent propListRequired [] = .ok (.elements elements))
    (element : ObjectPropListElement) :
    element ∈ elements ↔ device.RequiredElement parent element := by
  rw [askRequired_elements asked]
  exact or_iff_right List.not_mem_nil

theorem Consistent.folderChildren (consistent : store.Consistent storage parent device)
    {elements : List ObjectPropListElement} {found : List ObjectDataset}
    (asked : askRequired device parent propListRequired [] = .ok (.elements elements))
    (usable : childrenFromPropList elements storage parent = .ok found) :
    FolderChildren store elements parent found := by
  apply childrenFromPropList_ok _ usable
  intro element mem elsewhere
  exact (consistent.truthful element ((heard_elements asked element).mp mem) elsewhere).2

/-- The fast path's children are the folder's. -/
theorem Consistent.lists_children (consistent : store.Consistent storage parent device)
    {elements : List ObjectPropListElement} {found datasets : List ObjectDataset}
    (asked : askRequired device parent propListRequired [] = .ok (.elements elements))
    (usable : childrenFromPropList elements storage parent = .ok found) (notEmpty : found ≠ [])
    (same : datasets.map core = found.map core) :
    store.Lists parent (datasets.map ListedObject.fromPtp) := by
  have heard := heard_elements asked
  have folder := consistent.folderChildren asked usable
  have inside : ∀ handle ∈ found.map (fun dataset => dataset.handle),
      handle ∈ store.children parent := by
    intro handle mem
    obtain ⟨element, inElements, rfl, elsewhere⟩ := (folder.handles handle).mp mem
    obtain ⟨dataset, inFound, own⟩ := List.mem_map.mp mem
    have reported : store.parent dataset.handle = parent := by
      rw [← (folder.alike dataset inFound).parent]
      exact folder.inside dataset inFound
    rw [own] at reported
    exact mem_children.mpr
      ⟨(consistent.truthful element ((heard element).mp inElements) elsewhere).1, reported⟩
  have all : ∀ handle ∈ store.children parent,
      handle ∈ found.map fun dataset => dataset.handle := by
    have present : ∃ element, device.RequiredElement parent element ∧
        element.handle ∈ store.children parent := by
      obtain ⟨first, rest, rfl⟩ := List.exists_cons_of_ne_nil notEmpty
      have mem := List.mem_map_of_mem (f := fun d : ObjectDataset => d.handle)
        (List.mem_cons_self (a := first) (l := rest))
      obtain ⟨element, inElements, own, -⟩ := (folder.handles _).mp mem
      exact ⟨element, (heard element).mp inElements, own ▸ inside _ mem⟩
    intro handle mem
    obtain ⟨element, asked, rfl⟩ := consistent.complete present handle mem
    refine (folder.handles _).mpr ⟨element, (heard element).mpr asked, rfl, ?_⟩
    rintro rfl
    have own := mem_children.mp mem
    exact consistent.apart own.1 own.2
  have handles : (found.map fun dataset => dataset.handle).Perm (store.children parent) :=
    (List.perm_ext_iff_of_nodup folder.distinct children_nodup).mpr fun handle =>
      ⟨inside handle, all handle⟩
  have keys : (datasets.map ListedObject.fromPtp).map store.key =
      (found.map fun dataset => dataset.handle).map fun handle =>
        store.key (store.object handle) := by
    have byCore : ∀ list : List ObjectDataset, (list.map ListedObject.fromPtp).map store.key =
        (list.map core).map fun c => (c.1, c.2.1, c.2.2.1, c.2.2.2.1.toCode,
          if (store.info c.1).isFolder then none else some c.2.2.2.2.1) := by
      intro list
      rw [List.map_map, List.map_map]
      rfl
    rw [byCore, same, ← byCore, List.map_map, List.map_map]
    apply List.map_congr_left
    intro dataset mem
    exact (folder.alike dataset mem).key_eq
  have expected : ((store.children parent).map store.object).map store.key =
      (store.children parent).map fun handle => store.key (store.object handle) :=
    List.map_map ..
  rw [Lists, SameObjects, keys, expected]
  exact handles.map _

theorem Consistent.flagged_children (consistent : store.Consistent storage parent device)
    {elements : List ObjectPropListElement} {found datasets : List ObjectDataset}
    (asked : askRequired device parent propListRequired [] = .ok (.elements elements))
    (usable : childrenFromPropList elements storage parent = .ok found)
    (same : datasets.map core = found.map core) :
    store.Flagged (datasets.map ListedObject.fromPtp) := by
  have folder := consistent.folderChildren asked usable
  intro o mem
  obtain ⟨dataset, inDatasets, rfl⟩ := List.mem_map.mp mem
  have there := List.mem_map_of_mem (f := core) inDatasets
  rw [same] at there
  obtain ⟨child, inFound, equal⟩ := List.mem_map.mp there
  simp only [core, Prod.mk.injEq] at equal
  have alike := folder.alike child inFound
  have format : dataset.format = (store.info dataset.handle).format := by
    rw [← equal.2.2.2.1, ← equal.1, alike.format, store.dataset_format]
  have association : dataset.associationType = .regular := by
    rw [← equal.2.2.2.2.2, alike.association]
  simp only [ListedObject.isFolder, ListedObject.fromPtp, ObjectDataset.isFolder, association,
    format]
  constructor
  · intro isFolder
    rw [isFolder]
    rfl
  · intro isFolder
    rw [Bool.or_eq_true] at isFolder ⊢
    exact Or.inl (isFolder.resolve_right (by decide))

/-- The per-handle path lists the folder, once it ends without an error. -/
theorem Consistent.lists_perHandle (consistent : store.Consistent storage parent device)
    {total : Nat} {objects : List ListedObject}
    (listed : listPerHandle device storage (some parent) = .ok ⟨total, objects.map .ok⟩) :
    store.Lists parent objects := by
  unfold listPerHandle at listed
  cases resolved : resolveListing device storage (some parent) with
  | error e =>
      rw [resolved] at listed
      cases listed
  | ok pair =>
      obtain ⟨answered, filter⟩ := pair
      rw [resolved] at listed
      injection listed with same
      injection same with _ items
      have own : device.objectHandles 1 storage parent = .ok answered ∧ filter = .exact parent := by
        simp only [resolveListing, Option.isNone_some, Bool.false_eq_true, ↓reduceIte, resolveOwn,
          Option.getD_some, bind, Except.bind] at resolved
        split at resolved
        · cases resolved
        · split at resolved
          · next accepted =>
              cases resolved
              exact ⟨accepted, rfl⟩
          · cases resolved
          · cases resolved
      obtain ⟨accepted, rfl⟩ := own
      obtain ⟨distinct, inStore, all⟩ := consistent.handles answered accepted
      rw [Lists, SameObjects, consistent.describes.ended_items inStore 0 items]
      apply List.Perm.map
      apply List.Perm.map
      apply (List.perm_ext_iff_of_nodup (distinct.filter _) children_nodup).mpr
      intro handle
      rw [List.mem_filter, mem_children]
      constructor
      · rintro ⟨mem, accepts⟩
        exact ⟨inStore handle mem, eq_of_beq accepts⟩
      · rintro ⟨mem, reported⟩
        exact ⟨all handle (mem_children.mpr ⟨mem, reported⟩), beq_iff_eq.mpr reported⟩

end

end ObjectStore

/-- Folder listings one after another, each with its own device answers, over what the backend
remembers. -/
def ListingBackend.listings (storage : UInt32) : ListingBackend → List (Responder × UInt32) →
    List (Except Error BackendListing) × ListingBackend
  | self, [] => ([], self)
  | self, (device, parent) :: rest =>
      let (result, after) := self.list device storage (some parent)
      let (results, last) := after.listings storage rest
      (result :: results, last)

/-- What one listing of a folder comes to. -/
structure ObjectStore.Agreed (store : ObjectStore) (storage : UInt32)
    (call : Responder × UInt32) (result : Except Error BackendListing) : Prop where
  /-- The per-handle path, the fast path with something to show, or a failing session. -/
  paths : result = listPerHandle call.1 storage (some call.2) ∨
    (∃ objects, objects ≠ [] ∧ result = .ok ⟨objects.length, objects.map .ok⟩ ∧
      store.Lists call.2 objects) ∨
    ∃ e, result = .error (.ofPtp e) ∧ call.1.SessionFailure call.2 e
  /-- The objects the per-handle path yields. -/
  perHandle : ∀ total objects total' objects', result = .ok ⟨total, objects.map .ok⟩ →
    listPerHandle call.1 storage (some call.2) = .ok ⟨total', objects'.map .ok⟩ →
    store.SameObjects objects objects'
  /-- The objects a backend that remembers anything else yields. -/
  remembered : ∀ (other : ListingBackend) total objects total' objects',
    result = .ok ⟨total, objects.map .ok⟩ →
    (other.list call.1 storage (some call.2)).1 = .ok ⟨total', objects'.map .ok⟩ →
    store.SameObjects objects objects'
  notEmpty : ∀ total, result = .ok ⟨total, []⟩ → store.children call.2 = []

namespace ListingBackend

section

variable {store : ObjectStore} {storage parent : UInt32} {device : Responder}

theorem list_paths (consistent : store.Consistent storage parent device) (self : ListingBackend) :
    self.Remembers (self.list device storage (some parent)).2 ∧
      ((self.list device storage (some parent)).1 = listPerHandle device storage (some parent) ∨
        (∃ objects, objects ≠ [] ∧
          (self.list device storage (some parent)).1 = .ok ⟨objects.length, objects.map .ok⟩ ∧
          store.Lists parent objects ∧ self.hasObjectPropList = true ∧ store.Flagged objects) ∨
        ∃ e, (self.list device storage (some parent)).1 = .error (.ofPtp e) ∧
          device.SessionFailure parent e) := by
  unfold list
  cases looked : device.bailIfCancelled .entry with
  | error e => exact ⟨Remembers.refl self, Or.inr (Or.inr ⟨e, rfl, bailIfCancelled_error looked⟩)⟩
  | ok _ =>
      by_cases fast : self.hasObjectPropList
      · simp only [if_pos fast]
        cases listed : self.listByPropList device storage parent with
        | mk result after =>
            obtain ⟨remembers, spec⟩ := listByPropList_spec listed
            rcases spec with ⟨e, rfl, failure⟩ | rfl |
              ⟨elements, children, datasets, rfl, notEmpty, asked, usable, same⟩
            · exact ⟨remembers, Or.inr (Or.inr ⟨e, rfl, failure⟩)⟩
            · exact ⟨remembers, Or.inl rfl⟩
            · refine ⟨remembers, Or.inr (Or.inl
                ⟨datasets.map ListedObject.fromPtp, ?_, ?_,
                  consistent.lists_children asked usable notEmpty same, fast,
                  consistent.flagged_children asked usable same⟩)⟩
              · intro none
                rw [List.map_eq_nil_iff.mp none] at same
                exact notEmpty (List.map_eq_nil_iff.mp same.symm)
              · rw [List.length_map, List.map_map]
                rfl
      · simp only [if_neg fast]
        exact ⟨Remembers.refl self, Or.inl trivial⟩

/-- A listing that ends without an error lists its folder, whatever the backend remembers. -/
theorem list_lists (consistent : store.Consistent storage parent device) {self : ListingBackend}
    {total : Nat} {objects : List ListedObject}
    (listed : (self.list device storage (some parent)).1 = .ok ⟨total, objects.map .ok⟩) :
    store.Lists parent objects := by
  rcases (list_paths consistent self).2 with same | ⟨found, -, same, lists, -⟩ | ⟨e, same, -⟩
  · rw [same] at listed
    exact consistent.lists_perHandle listed
  · rw [same] at listed
    injection listed with pairs
    injection pairs with _ items
    have equal : found = objects :=
      List.map_injective_iff.mpr (fun _ _ eq => Except.ok.inj eq) items
    rw [← equal]
    exact lists
  · rw [same] at listed
    cases listed

theorem list_agreed (consistent : store.Consistent storage parent device)
    (self : ListingBackend) :
    store.Agreed storage (device, parent) (self.list device storage (some parent)).1 where
  paths := by
    rcases (list_paths consistent self).2 with same | ⟨objects, some, same, lists, -⟩ | failed
    · exact Or.inl same
    · exact Or.inr (Or.inl ⟨objects, some, same, lists⟩)
    · exact Or.inr (Or.inr failed)
  perHandle _ _ _ _ listed listed' :=
    (list_lists consistent listed).trans (consistent.lists_perHandle listed').symm
  remembered _ _ _ _ _ listed listed' :=
    (list_lists consistent listed).trans (list_lists consistent listed').symm
  notEmpty total listed := by
    have lists : store.Lists parent [] := list_lists consistent listed
    have none := List.Perm.nil_eq lists
    exact List.map_eq_nil_iff.mp (List.map_eq_nil_iff.mp none.symm)

end

/-- Every listing of a folder agrees with the per-handle path, and what the backend remembers
only grows. -/
theorem listings_agree (store : ObjectStore) (storage : UInt32)
    (calls : List (Responder × UInt32))
    (consistent : ∀ call ∈ calls, store.Consistent storage call.2 call.1)
    (backend : ListingBackend) :
    backend.Remembers (backend.listings storage calls).2 ∧
      List.Forall₂ (store.Agreed storage) calls (backend.listings storage calls).1 := by
  induction calls generalizing backend with
  | nil => exact ⟨Remembers.refl backend, .nil⟩
  | cons call rest ih =>
      obtain ⟨device, parent⟩ := call
      have first := consistent (device, parent) (List.mem_cons_self ..)
      have later := ih (fun call mem => consistent call (List.mem_cons_of_mem _ mem))
        (backend.list device storage (some parent)).2
      exact ⟨(list_paths first backend).1.trans later.1,
        .cons (list_agreed first backend) later.2⟩

/-- A picture in a folder of the root. -/
def onePicture : ObjectStore where
  handles := [3, 7]
  distinct := by decide
  info handle :=
    if handle = 3 then
      { ObjectDataset.empty with
        filename := "DCIM", format := .association, associationType := .genericFolder }
    else { ObjectDataset.empty with filename := "IMG_1.jpg", format := .jpeg, size := 9, parent :=
      3 }
  objectSize _ := .error (.protocol .operationNotSupported .getObjectPropValue)

/-- It answers every required property of the folder and declines the dates. -/
def servingLists : Responder where
  cancelled _ := false
  objectHandles _ _ _ := .ok [7]
  objectInfo _ handle := .ok (onePicture.info handle)
  objectSize _ handle := onePicture.objectSize handle
  objectPropList _ property :=
    match property with
    | .parentObject => .ok (.ok [⟨7, .parentObject, some (.uint32 3)⟩])
    | .objectFileName => .ok (.ok [⟨7, .objectFileName, some (.string "IMG_1.jpg")⟩])
    | .objectFormat => .ok (.ok [⟨7, .objectFormat, some (.uint16 0x3801)⟩])
    | .objectSize => .ok (.ok [⟨7, .objectSize, some (.uint64 9)⟩])
    | _ => .error (.protocol (.unknown 0xA801) .getObjectPropList)

theorem servingLists_consistent : onePicture.Consistent 0x00010001 3 servingLists where
  describes := ⟨fun _ _ _ => rfl, fun _ _ _ => rfl⟩
  apart _ := by decide
  handles answered accepted := by
    cases accepted
    refine ⟨by decide, List.forall_mem_singleton.mpr (by decide), ?_⟩
    intro handle mem
    rwa [show onePicture.children 3 = [7] from by decide] at mem
  truthful := by
    rintro element ⟨property, required, answer, given, mem⟩ -
    simp only [propListRequired, List.mem_cons, List.not_mem_nil, or_false] at required
    rcases required with rfl | rfl | rfl | rfl
    all_goals
      cases given
      rw [List.mem_singleton] at mem
      subst mem
      refine ⟨by decide, ?_⟩
      intro _ _ value after same set
      cases same
      exact (Option.some.inj set).symm
  complete _ := by
    intro handle mem
    have only : onePicture.children 3 = [7] := by decide
    rw [only, List.mem_singleton] at mem
    subst mem
    exact ⟨_, ⟨.parentObject, by decide, _, rfl, List.mem_singleton_self _⟩, rfl⟩

theorem listings_agree_onePicture :
    (⟨true, false, 0⟩ : ListingBackend).Remembers
        ((⟨true, false, 0⟩ : ListingBackend).listings 0x00010001
          [(servingLists, 3), (servingLists, 3)]).2 ∧
      List.Forall₂ (onePicture.Agreed 0x00010001) [(servingLists, 3), (servingLists, 3)]
        ((⟨true, false, 0⟩ : ListingBackend).listings 0x00010001
          [(servingLists, 3), (servingLists, 3)]).1 :=
  listings_agree onePicture 0x00010001 [(servingLists, 3), (servingLists, 3)]
    (by simp [servingLists_consistent]) ⟨true, false, 0⟩

end ListingBackend

end Mtp
