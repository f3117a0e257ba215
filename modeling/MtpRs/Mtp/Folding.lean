import MtpRs.Mtp.PropVerdict

set_option autoImplicit false

/- The elements of one object folded into a dataset, and a dataset told by its elements. -/
namespace Ptp

open LastWrites (isSome_last last mem_of_last settle settle_cons_none settle_cons_some)

/-- A value tells what a dataset has in the field of a property, where there is one. -/
inductive Tells (info : ObjectDataset) : ObjectPropertyCode → PropertyValue → Prop where
  | storageId : Tells info .storageId (.uint32 info.storageId)
  | objectFormat {code : UInt16} (same : .ofCode code = info.format) :
      Tells info .objectFormat (.uint16 code)
  | protectionStatus {code : UInt16} (same : .ofCode code = info.protectionStatus) :
      Tells info .protectionStatus (.uint16 code)
  | objectSize {n : UInt64} (same : n.toNat = info.size) : Tells info .objectSize (.uint64 n)
  | objectFileName : Tells info .objectFileName (.string info.filename)
  | dateCreated {s : String} (same : DateTime.parse s = info.created) :
      Tells info .dateCreated (.string s)
  | dateModified {s : String} (same : DateTime.parse s = info.modified) :
      Tells info .dateModified (.string s)
  | parentObject : Tells info .parentObject (.uint32 info.parent)
  | other {property : ObjectPropertyCode} {value : PropertyValue}
    (unsettable : property ∉ settable) :
      Tells info property value

/-- The same in both, but for a size that only one of them can hold. -/
structure DescribedAlike (listed info : ObjectDataset) : Prop where
  storageId : listed.storageId = info.storageId
  format : listed.format = info.format
  parent : listed.parent = info.parent
  filename : listed.filename = info.filename
  created : listed.created = info.created
  modified : listed.modified = info.modified
  size : info.size = min listed.size (2 ^ 32 - 1)

def describing : List ObjectPropertyCode :=
  [.storageId, .objectFormat, .objectSize, .objectFileName, .dateCreated, .dateModified,
    .parentObject]

def ObjectDataset.setElement (info : ObjectDataset) (element : ObjectPropListElement) :
    ObjectDataset :=
  match element.value with
  | some value => info.put element.property value
  | none => info

/-- One object's elements folded into a dataset. -/
def foldElements (elements : List ObjectPropListElement) (handle : UInt32) : ObjectDataset :=
  (Mtp.ofObject elements handle).foldl ObjectDataset.setElement ObjectDataset.empty

def ObjectDataset.copyField (info : ObjectDataset) (property : ObjectPropertyCode)
    (before : ObjectDataset) : ObjectDataset :=
  match property with
  | .storageId => { before with storageId := info.storageId }
  | .objectFormat => { before with format := info.format }
  | .protectionStatus => { before with protectionStatus := info.protectionStatus }
  | .objectSize => { before with size := info.size }
  | .objectFileName => { before with filename := info.filename }
  | .dateCreated => { before with created := info.created }
  | .dateModified => { before with modified := info.modified }
  | .parentObject => { before with parent := info.parent }
  | _ => before

section

variable {info : ObjectDataset} {property : ObjectPropertyCode} {value : PropertyValue}
  {elements : List ObjectPropListElement} {handle : UInt32}

theorem setElement_eq_put (element : ObjectPropListElement) :
    info.setElement element = (Mtp.acceptedValue element).elim info fun write =>
      info.put write.1 write.2 := by
  unfold ObjectDataset.setElement Mtp.acceptedValue
  cases element.value with
  | none => rfl
  | some value =>
      rw [Option.bind_some]
      rcases ObjectDataset.put_cases element.property value with ⟨refused, idle⟩ | ⟨taken, -⟩
      · simp [refused, idle]
      · simp [taken]

theorem foldElements_eq (elements : List ObjectPropListElement) (handle : UInt32) :
    foldElements elements handle = settle ObjectDataset.put (Mtp.lastAccepted elements handle)
      settable ObjectDataset.empty := by
  have folds : ∀ (own : List ObjectPropListElement) (info : ObjectDataset),
      own.foldl ObjectDataset.setElement info =
        (Mtp.accepted own).foldl (fun info write => info.put write.1 write.2) info := by
    intro own
    induction own with
    | nil => exact fun _ => rfl
    | cons element rest ih =>
        intro info
        unfold Mtp.accepted at ih ⊢
        rw [List.foldl_cons, ih, List.filterMap_cons, setElement_eq_put]
        cases Mtp.acceptedValue element with
        | none => rfl
        | some write => rfl
  rw [foldElements, folds, Mtp.lastAccepted]
  apply ObjectDataset.independent_put.foldl_eq (by decide)
  · intro write mem
    exact Mtp.settable_writes mem
  · intro write mem
    exact Mtp.accepted_valid mem

/-- What is told of a property that has a field is set. -/
theorem Tells.sets (tells : Tells info property value) (own : property ∈ settable)
    (before : ObjectDataset) :
    before.setProperty property value = some (info.copyField property before) := by
  cases tells with
  | storageId =>
      change before.setUnsigned .storageId info.storageId.toNat = _
      rw [ObjectDataset.setUnsigned, if_pos info.storageId.toNat_lt, UInt32.ofNat_toNat]
      rfl
  | objectFormat same =>
      change before.setUnsigned .objectFormat (UInt16.toNat _) = _
      rw [ObjectDataset.setUnsigned, if_pos (UInt16.toNat_lt _), UInt16.ofNat_toNat, same]
      rfl
  | protectionStatus same =>
      change before.setUnsigned .protectionStatus (UInt16.toNat _) = _
      rw [ObjectDataset.setUnsigned, if_pos (UInt16.toNat_lt _), UInt16.ofNat_toNat, same]
      rfl
  | objectSize same =>
      rw [ObjectDataset.copyField, ← same]
      rfl
  | objectFileName => rfl
  | dateCreated same =>
      rw [ObjectDataset.copyField, ← same]
      rfl
  | dateModified same =>
      rw [ObjectDataset.copyField, ← same]
      rfl
  | parentObject =>
      change before.setUnsigned .parentObject info.parent.toNat = _
      rw [ObjectDataset.setUnsigned, if_pos info.parent.toNat_lt, UInt32.ofNat_toNat]
      rfl
  | other unsettable => exact absurd own unsettable

theorem Tells.put (tells : Tells info property value) (own : property ∈ settable)
    (before : ObjectDataset) : before.put property value = info.copyField property before := by
  rw [ObjectDataset.put, tells.sets own, Option.getD_some]

theorem Tells.accepted (tells : Tells info property value) (own : property ∈ settable) :
    ObjectDataset.accepts property value = true := by
  rw [ObjectDataset.accepts, tells.sets own, Option.isSome_some]

/-- Fields told of one dataset make the same one, as far as it is described. -/
theorem settle_tells {values : ObjectPropertyCode → Option PropertyValue}
    (tells : ∀ property value, values property = some value → Tells info property value)
    (given : ∀ property ∈ describing, (values property).isSome = true) :
    ∃ protection, settle ObjectDataset.put values settable ObjectDataset.empty =
      { ObjectDataset.empty with
        storageId := info.storageId
        format := info.format
        protectionStatus := protection
        size := info.size
        filename := info.filename
        created := info.created
        modified := info.modified
        parent := info.parent } := by
  have put : ∀ property ∈ describing, ∀ before rest,
      settle ObjectDataset.put values (property :: rest) before =
        settle ObjectDataset.put values rest (info.copyField property before) := by
    intro property mem before rest
    obtain ⟨value, found⟩ := Option.isSome_iff_exists.mp (given property mem)
    have described : ∀ property ∈ describing, property ∈ settable := by decide
    rw [settle_cons_some found, (tells property value found).put (described property mem)]
  have protection : ∀ before rest, ∃ status,
      settle ObjectDataset.put values (.protectionStatus :: rest) before =
        settle ObjectDataset.put values rest { before with protectionStatus := status } := by
    intro before rest
    cases found : values .protectionStatus with
    | none => exact ⟨before.protectionStatus, settle_cons_none found⟩
    | some value =>
        refine ⟨info.protectionStatus, ?_⟩
        rw [settle_cons_some found, (tells _ value found).put (by decide)]
        rfl
  unfold settable
  rw [put .storageId (by decide), put .objectFormat (by decide)]
  obtain ⟨status, same⟩ := protection (info.copyField .objectFormat
    (info.copyField .storageId ObjectDataset.empty)) [.objectSize, .objectFileName, .dateCreated,
      .dateModified, .parentObject]
  rw [same, put .objectSize (by decide), put .objectFileName (by decide),
    put .dateCreated (by decide), put .dateModified (by decide), put .parentObject (by decide)]
  exact ⟨status, rfl⟩

/-- The elements of one object, which all tell of one dataset, make what they tell of it. -/
theorem foldElements_tells
    (tells : ∀ element ∈ elements, element.handle = handle → ∀ value, element.value = some value →
      Tells info element.property value)
    (given : ∀ property ∈ describing, ∃ element ∈ elements, element.handle = handle ∧
      element.property = property ∧ element.value.isSome = true) :
    ∃ protection, foldElements elements handle =
      { ObjectDataset.empty with
        storageId := info.storageId
        format := info.format
        protectionStatus := protection
        size := info.size
        filename := info.filename
        created := info.created
        modified := info.modified
        parent := info.parent } := by
  rw [foldElements_eq]
  apply settle_tells
  · intro property value found
    obtain ⟨element, mem, taken⟩ := List.mem_filterMap.mp (mem_of_last found)
    obtain ⟨own, same⟩ := List.mem_filter.mp mem
    obtain ⟨sent, held, accepted⟩ := Option.bind_eq_some_iff.mp taken
    rw [Option.ite_none_right_eq_some, Option.some.injEq, Prod.mk.injEq] at accepted
    have told := tells element own (by simpa using same) sent held
    rw [accepted.2.1, accepted.2.2] at told
    exact told
  · intro property described
    obtain ⟨element, own, same, named, held⟩ := given property described
    obtain ⟨value, held⟩ := Option.isSome_iff_exists.mp held
    have settable : ∀ property ∈ describing, property ∈ settable := by decide
    have told := tells element own same value held
    rw [named] at told
    apply isSome_last
    refine List.mem_filterMap.mpr ⟨element, List.mem_filter.mpr ⟨own, by simpa using same⟩, ?_⟩
    rw [Mtp.acceptedValue, held, Option.bind_some, named,
      if_pos (told.accepted (settable property described))]

end

end Ptp
