import MtpRs.Mtp.ObjectStore

set_option autoImplicit false

/- What the property-list answers of a folder, folded into its children, say of each child
when they agree with the device's own datasets. -/
namespace Ptp

/-- Two datasets agree in the field of a required property. -/
def SameField (property : ObjectPropertyCode) (a b : ObjectDataset) : Prop :=
  match property with
  | .parentObject => a.parent = b.parent
  | .objectFileName => a.filename = b.filename
  | .objectFormat => a.format = b.format
  | .objectSize => a.size = b.size
  | _ => True

/-- What taking a value does to a dataset: one field is the value's, the others stay. -/
structure Sets (property : ObjectPropertyCode) (before after : ObjectDataset) : Prop where
  handle : after.handle = before.handle
  association : after.associationType = before.associationType
  others : ∀ other, other ≠ property → SameField other after before

namespace ObjectDataset

variable {self after : ObjectDataset} {property : ObjectPropertyCode}

theorem setString_sets {s : String} (set : self.setString property s = some after) :
    Sets property self after := by
  cases property <;> cases set <;> refine ⟨rfl, rfl, ?_⟩ <;> intro other apart <;>
    cases other <;> first | rfl | trivial

theorem setString_alike {s : String} (set : self.setString property s = some after)
    (other : ObjectDataset) :
    ∃ same, other.setString property s = some same ∧ SameField property after same := by
  cases property <;> cases set <;> refine ⟨_, rfl, ?_⟩ <;> first | rfl | trivial

theorem setUnsigned_sets {n : Nat} (set : self.setUnsigned property n = some after) :
    Sets property self after := by
  unfold setUnsigned at set
  cases property <;>
    simp only [Option.ite_none_right_eq_some, Option.some.injEq, reduceCtorEq] at set
  case objectSize =>
    subst set
    refine ⟨rfl, rfl, ?_⟩
    intro other apart
    cases other <;> first | rfl | trivial
  all_goals
    obtain ⟨-, rfl⟩ := set
    refine ⟨rfl, rfl, ?_⟩
    intro other apart
    cases other <;> first | rfl | trivial

theorem setUnsigned_alike {n : Nat} (set : self.setUnsigned property n = some after)
    (other : ObjectDataset) :
    ∃ same, other.setUnsigned property n = some same ∧ SameField property after same := by
  unfold setUnsigned at set ⊢
  cases property <;>
    simp only [Option.ite_none_right_eq_some, Option.some.injEq, reduceCtorEq] at set ⊢
  case objectSize =>
    subst set
    exact ⟨_, rfl, rfl⟩
  all_goals
    obtain ⟨fits, rfl⟩ := set
    refine ⟨_, ⟨fits, rfl⟩, ?_⟩
    first | rfl | trivial

theorem setProperty_sets {value : PropertyValue}
    (set : self.setProperty property value = some after) : Sets property self after := by
  cases value with
  | string s => exact setString_sets set
  | uint8 n | uint16 n | uint32 n | uint64 n => exact setUnsigned_sets set
  | int8 n | int16 n | int32 n | int64 n => cases set

/-- Whether a value is taken, and what it sets, does not depend on the dataset. -/
theorem setProperty_alike {value : PropertyValue}
    (set : self.setProperty property value = some after) (other : ObjectDataset) :
    ∃ same, other.setProperty property value = some same ∧ SameField property after same := by
  cases value with
  | string s => exact setString_alike set other
  | uint8 n | uint16 n | uint32 n | uint64 n => exact setUnsigned_alike set other
  | int8 n | int16 n | int32 n | int64 n => cases set

end ObjectDataset

end Ptp

namespace Mtp

open Ptp (ObjectDataset ObjectPropListElement ObjectPropertyCode Sets SameField)

/-- A child carries a required property. -/
def Child.Carries (self : Child) (property : ObjectPropertyCode) : Prop :=
  self.required &&& requiredBit property ≠ 0

theorem requiredBit_apart {property other : ObjectPropertyCode}
    (required : other ∈ propListRequired)
    (apart : property ≠ other) : requiredBit property &&& requiredBit other = 0 := by
  simp only [propListRequired, List.mem_cons, List.not_mem_nil, or_false] at required
  rcases required with rfl | rfl | rfl | rfl <;> cases property <;>
    first | contradiction | rfl | simp [requiredBit, propListRequired, List.findIdx?_cons]

theorem or_and_bits (a b c : UInt8) : (a ||| b) &&& c = (a &&& c) ||| (b &&& c) := by
  apply UInt8.toBitVec_inj.1
  ext i
  simp [Bool.and_or_distrib_right]

/-- An element says of an object what the device's own dataset does. A folder's size means
nothing. -/
def Truthful (dataset : ObjectDataset) (element : ObjectPropListElement) : Prop :=
  element.property ∈ propListRequired →
    (element.property = .objectSize → dataset.isFolder = false) →
    ∀ value after, element.value = some value →
      dataset.setProperty element.property value = some after → after = dataset

namespace Child

/-- What a child carries is what the device's dataset holds. -/
structure Agrees (dataset : ObjectDataset) (child : Child) : Prop where
  association : child.info.associationType = .regular
  carried : ∀ property ∈ propListRequired, child.Carries property →
    (property = .objectSize → dataset.isFolder = false) → SameField property child.info dataset

variable {dataset : ObjectDataset} {self : Child} {element : ObjectPropListElement}

theorem agrees_new (handle : UInt32) : Agrees dataset (new handle) where
  association := rfl
  carried property _ carries := absurd (by simp [new]) carries

@[simp] theorem setElement_handle : (self.setElement element).info.handle = self.info.handle := by
  unfold setElement
  cases set : element.value.bind (self.info.setProperty element.property) with
  | none => rfl
  | some info =>
      obtain ⟨value, -, set⟩ := Option.bind_eq_some_iff.mp set
      exact (ObjectDataset.setProperty_sets set).handle

theorem Agrees.setElement (agrees : self.Agrees dataset) (truthful : Truthful dataset element) :
    (self.setElement element).Agrees dataset := by
  cases set : element.value.bind (self.info.setProperty element.property) with
  | none =>
      simp only [Child.setElement, set]
      exact agrees
  | some info =>
      simp only [Child.setElement, set]
      obtain ⟨value, given, set⟩ := Option.bind_eq_some_iff.mp set
      have sets := ObjectDataset.setProperty_sets set
      refine ⟨sets.association.trans agrees.association, ?_⟩
      intro property required carries file
      by_cases same : element.property = property
      · subst same
        obtain ⟨own, accepted, alike⟩ := ObjectDataset.setProperty_alike set dataset
        rw [← truthful required file value own given accepted]
        exact alike
      · have before : self.Carries property := by
          intro missing
          apply carries
          rw [or_and_bits, missing, requiredBit_apart required same]
          rfl
        have kept := sets.others property (Ne.symm same)
        have held := agrees.carried property required before file
        cases property <;> first | exact kept.trans held | trivial

/-- A folder needs no size; everything else is needed of every child. -/
theorem needs_eq (self : Child) : self.needs = if self.info.isFolder then 7 else 15 := by
  unfold needs
  split <;> rfl

end Child

/-- The children gathered from the elements seen so far: one for each handle. -/
structure Gathered (store : ObjectStore) (seen : List ObjectPropListElement)
    (children : List Child) : Prop where
  distinct : (children.map fun child => child.info.handle).Nodup
  handles : ∀ handle, handle ∈ children.map (fun child => child.info.handle) ↔
    ∃ element ∈ seen, element.handle = handle
  agrees : ∀ child ∈ children, child.Agrees (store.dataset child.info.handle)

section

variable {store : ObjectStore} {seen : List ObjectPropListElement} {children : List Child}
  {element : ObjectPropListElement}

theorem updateChild_handles (handle : UInt32) (element : ObjectPropListElement) :
    (updateChild children handle fun child => child.setElement element).map
        (fun child => child.info.handle) =
      children.map fun child => child.info.handle := by
  rw [updateChild, List.map_map]
  apply List.map_congr_left
  intro child _
  by_cases same : child.info.handle = handle
  · simp only [Function.comp, if_pos same, Child.setElement_handle]
  · simp only [Function.comp, if_neg same]

theorem takeElement_handles :
    (takeElement children element).map (fun child => child.info.handle) =
      if element.handle ∈ children.map (fun child => child.info.handle) then
        children.map fun child => child.info.handle
      else (children.map fun child => child.info.handle) ++ [element.handle] := by
  have known : (children.any fun child => child.info.handle == element.handle) = true ↔
      element.handle ∈ children.map fun child => child.info.handle := by
    simp only [List.any_eq_true, beq_iff_eq, List.mem_map]
  unfold takeElement
  by_cases present : element.handle ∈ children.map fun child => child.info.handle
  · rw [if_pos (known.mpr present), updateChild_handles, if_pos present]
  · rw [if_neg (mt known.mp present), updateChild_handles, if_neg present, List.map_append]
    rfl

/-- The children before the update: those there were, and a new one. -/
theorem mem_takeElement {child : Child} (mem : child ∈ takeElement children element) :
    ∃ before, (before ∈ children ∨ before = Child.new element.handle) ∧
      (before.info.handle = element.handle ∧ child = before.setElement element ∨
        child = before) := by
  obtain ⟨before, there, rfl⟩ := List.mem_map.mp mem
  refine ⟨before, ?_, ?_⟩
  · split at there
    · exact Or.inl there
    · rcases List.mem_append.mp there with old | added
      · exact Or.inl old
      · exact Or.inr (List.mem_singleton.mp added)
  · by_cases same : before.info.handle = element.handle
    · rw [if_pos same]
      exact Or.inl ⟨same, rfl⟩
    · rw [if_neg same]
      exact Or.inr rfl

theorem gathered_nil : Gathered store [] [] where
  distinct := List.nodup_nil
  handles _ := by simp
  agrees _ mem := absurd mem List.not_mem_nil

/-- One more element keeps the children gathered. -/
theorem Gathered.take (gathered : Gathered store seen children)
    (truthful : Truthful (store.dataset element.handle) element) :
    Gathered store (seen ++ [element]) (takeElement children element) where
  distinct := by
    rw [takeElement_handles]
    by_cases present : element.handle ∈ children.map fun child => child.info.handle
    · rw [if_pos present]
      exact gathered.distinct
    · rw [if_neg present]
      apply List.nodup_append.mpr
      refine ⟨gathered.distinct, List.pairwise_singleton .., ?_⟩
      intro handle mem added addedMem same
      rw [same, List.mem_singleton.mp addedMem] at mem
      exact present mem
  handles handle := by
    have old := gathered.handles handle
    rw [takeElement_handles]
    by_cases present : element.handle ∈ children.map fun child => child.info.handle
    · rw [if_pos present, old]
      constructor
      · rintro ⟨e, mem, same⟩
        exact ⟨e, List.mem_append_left _ mem, same⟩
      · rintro ⟨e, mem, rfl⟩
        rcases List.mem_append.mp mem with mem | added
        · exact ⟨e, mem, rfl⟩
        · rw [List.mem_singleton.mp added]
          exact (gathered.handles _).mp present
    · simp only [if_neg present, List.mem_append, List.mem_singleton, old]
      constructor
      · rintro (⟨e, mem, same⟩ | rfl)
        · exact ⟨e, Or.inl mem, same⟩
        · exact ⟨element, Or.inr rfl, rfl⟩
      · rintro ⟨e, mem | rfl, same⟩
        · exact Or.inl ⟨e, mem, same⟩
        · exact Or.inr same.symm
  agrees child mem := by
    obtain ⟨before, there, updated⟩ := mem_takeElement mem
    have agreed : before.Agrees (store.dataset before.info.handle) := by
      rcases there with old | rfl
      · exact gathered.agrees before old
      · exact Child.agrees_new element.handle
    rcases updated with ⟨same, rfl⟩ | rfl
    · rw [Child.setElement_handle, same]
      rw [same] at agreed
      exact agreed.setElement truthful
    · exact agreed

theorem Gathered.foldl (gathered : Gathered store seen children)
    (elements : List ObjectPropListElement)
    (truthful : ∀ element ∈ elements, Truthful (store.dataset element.handle) element) :
    Gathered store (seen ++ elements) (elements.foldl takeElement children) := by
  induction elements generalizing seen children with
  | nil =>
      rw [List.append_nil]
      exact gathered
  | cons element rest ih =>
      have next := gathered.take (truthful element (List.mem_cons_self ..))
      have all := ih next fun e mem => truthful e (List.mem_cons_of_mem _ mem)
      rwa [List.append_assoc, List.singleton_append] at all

/-- A verdict without an objection: every child carries what it needs. -/
theorem requiredVerdict_ok {properties : List ObjectPropertyCode} {verdict : Except Unusable Unit}
    (accepted : requiredVerdict children properties verdict = .ok ()) :
    verdict = .ok () ∧ ∀ property ∈ properties, ∀ child ∈ children,
      child.needs &&& requiredBit property ≠ 0 → child.Carries property := by
  induction properties generalizing verdict with
  | nil => exact ⟨accepted, fun _ mem => absurd mem List.not_mem_nil⟩
  | cons property rest ih =>
      simp only [requiredVerdict] at accepted
      split at accepted
      · cases accepted
      · obtain ⟨passed, later⟩ := ih accepted
        split at passed
        · cases passed
        · next none =>
            refine ⟨passed, ?_⟩
            intro other mem child inChildren needed
            rcases List.mem_cons.mp mem with rfl | mem
            · intro missing
              apply none
              apply List.length_pos_of_mem
              rw [List.mem_filter, List.mem_filter]
              exact ⟨⟨inChildren, bne_iff_ne.mpr needed⟩, beq_iff_eq.mpr missing⟩
            · exact later other mem child inChildren needed

/-- A dataset describes an object of the store, as far as a listing compares. -/
structure ListedAlike (store : ObjectStore) (dataset : ObjectDataset) : Prop where
  parent : dataset.parent = store.parent dataset.handle
  filename : dataset.filename = (store.dataset dataset.handle).filename
  format : dataset.format = (store.dataset dataset.handle).format
  size : (store.dataset dataset.handle).isFolder = false →
    dataset.size = (store.dataset dataset.handle).size
  /-- No answer names an association type. -/
  association : dataset.associationType = .regular

@[simp] theorem Child.finish_handle (child : Child) (storage : UInt32) :
    (child.finish storage).handle = child.info.handle := by
  unfold Child.finish
  split <;> rfl

/-- A child with all it needs is the device's object. -/
theorem Child.Agrees.listedAlike {child : Child} {storage : UInt32}
    (agrees : child.Agrees (store.dataset child.info.handle))
    (complete : ∀ property ∈ propListRequired, child.needs &&& requiredBit property ≠ 0 →
      child.Carries property) : ListedAlike store (child.finish storage) := by
  have needed : ∀ property ∈ propListRequired, property ≠ .objectSize →
      SameField property child.info (store.dataset child.info.handle) := by
    intro property required notSize
    apply agrees.carried property required _ fun size => absurd size notSize
    apply complete property required
    rw [child.needs_eq]
    simp only [propListRequired, List.mem_cons, List.not_mem_nil, or_false] at required
    rcases required with rfl | rfl | rfl | rfl
    · split <;> decide
    · split <;> decide
    · split <;> decide
    · exact absurd rfl notSize
  have parent := needed .parentObject (by decide) (by decide)
  have filename := needed .objectFileName (by decide) (by decide)
  have format := needed .objectFormat (by decide) (by decide)
  have size : (store.dataset child.info.handle).isFolder = false →
      child.info.size = (store.dataset child.info.handle).size := by
    intro file
    apply agrees.carried .objectSize (by decide) _ fun _ => file
    apply complete .objectSize (by decide)
    have notFolder : child.info.isFolder = false := by
      rw [ObjectDataset.isFolder, Bool.or_eq_false_iff] at file ⊢
      refine ⟨?_, by rw [agrees.association]; rfl⟩
      rw [show child.info.format = _ from format]
      exact file.1
    rw [child.needs_eq, notFolder]
    decide
  have same : ({ child.info with storageId := (child.finish storage).storageId } : ObjectDataset) =
      child.finish storage := by
    unfold Child.finish
    split <;> rfl
  rw [← same]
  exact ⟨parent.trans (store.dataset_parent _), filename, format, size, agrees.association⟩

/-- What `childrenFromPropList` hands out: children of the folder, once each, as the device
describes them; every object of the answers is among them. -/
structure FolderChildren (store : ObjectStore) (elements : List ObjectPropListElement)
    (parent : UInt32) (datasets : List ObjectDataset) : Prop where
  distinct : (datasets.map fun dataset => dataset.handle).Nodup
  handles : ∀ handle, handle ∈ datasets.map (fun dataset => dataset.handle) ↔
    ∃ element ∈ elements, element.handle = handle ∧ handle ≠ parent
  alike : ∀ dataset ∈ datasets, ListedAlike store dataset
  inside : ∀ dataset ∈ datasets, dataset.parent = parent

theorem childrenFromPropList_ok {elements : List ObjectPropListElement} {storage parent : UInt32}
    {datasets : List ObjectDataset}
    (truthful : ∀ element ∈ elements, element.handle ≠ parent →
      Truthful (store.dataset element.handle) element)
    (usable : childrenFromPropList elements storage parent = .ok datasets) :
    FolderChildren store elements parent datasets := by
  have gathered : Gathered store (elements.filter fun e => e.handle != parent)
      ((elements.filter fun e => e.handle != parent).foldl takeElement []) := by
    apply gathered_nil.foldl
    intro element mem
    have kept := List.mem_filter.mp mem
    exact truthful element kept.1 (bne_iff_ne.mp kept.2)
  unfold childrenFromPropList at usable
  generalize (elements.filter fun e => e.handle != parent).foldl takeElement [] = children
    at gathered usable
  simp only [] at usable
  split at usable
  · cases usable
  · next sameParent =>
      cases verdict : requiredVerdict children propListRequired (.ok ()) with
      | error e =>
          rw [verdict] at usable
          cases usable
      | ok _ =>
          rw [verdict] at usable
          cases usable
          obtain ⟨-, complete⟩ := requiredVerdict_ok verdict
          have handles : (children.map fun child => child.finish storage).map
              (fun dataset => dataset.handle) = children.map fun child => child.info.handle := by
            simp only [List.map_map, Function.comp_def, Child.finish_handle]
          have alike : ∀ child ∈ children, ListedAlike store (child.finish storage) := by
            intro child mem
            apply (gathered.agrees child mem).listedAlike
            exact fun property required => complete property required child mem
          refine ⟨handles ▸ gathered.distinct, ?_, ?_, ?_⟩
          · intro handle
            rw [handles, gathered.handles handle]
            constructor
            · rintro ⟨element, mem, rfl⟩
              have kept := List.mem_filter.mp mem
              exact ⟨element, kept.1, rfl, bne_iff_ne.mp kept.2⟩
            · rintro ⟨element, mem, rfl, apart⟩
              exact ⟨element, List.mem_filter.mpr ⟨mem, bne_iff_ne.mpr apart⟩, rfl⟩
          · intro dataset mem
            obtain ⟨child, inChildren, rfl⟩ := List.mem_map.mp mem
            exact alike child inChildren
          · intro dataset mem
            obtain ⟨child, inChildren, rfl⟩ := List.mem_map.mp mem
            have carries : child.Carries .parentObject := by
              apply complete .parentObject (by decide) child inChildren
              rw [child.needs_eq]
              split <;> decide
            apply Decidable.byContradiction
            intro elsewhere
            apply sameParent
            rw [List.any_eq_true]
            refine ⟨child, inChildren, ?_⟩
            have own : (child.finish storage).parent = child.info.parent := by
              unfold Child.finish
              split <;> rfl
            rw [own] at elsewhere
            rw [Bool.and_eq_true, bne_iff_ne, bne_iff_ne]
            exact ⟨carries, elsewhere⟩

end

end Mtp
