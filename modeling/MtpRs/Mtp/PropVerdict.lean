import MtpRs.Lib.LastWrites
import MtpRs.Mtp.PropChildren

set_option autoImplicit false

/- What the property-list answers of a folder come to: when they are refused, for good or for now,
and which objects they hold otherwise. -/
namespace Ptp

open LastWrites (Independent)

/-- What a value of a property that is accepted does to a dataset. -/
inductive Assigns : ObjectPropertyCode → (ObjectDataset → ObjectDataset) → Prop where
  | storageId (n : UInt32) : Assigns .storageId fun info => { info with storageId := n }
  | objectFormat (format : ObjectFormatCode) :
      Assigns .objectFormat fun info => { info with format := format }
  | protectionStatus (status : ProtectionStatus) :
      Assigns .protectionStatus fun info => { info with protectionStatus := status }
  | objectSize (n : Nat) : Assigns .objectSize fun info => { info with size := n }
  | objectFileName (s : String) : Assigns .objectFileName fun info => { info with filename := s }
  | dateCreated (date : Option DateTime) :
      Assigns .dateCreated fun info => { info with created := date }
  | dateModified (date : Option DateTime) :
      Assigns .dateModified fun info => { info with modified := date }
  | parentObject (n : UInt32) : Assigns .parentObject fun info => { info with parent := n }

def settable : List ObjectPropertyCode :=
  [.storageId, .objectFormat, .protectionStatus, .objectSize, .objectFileName, .dateCreated,
    .dateModified, .parentObject]

section

variable {property other : ObjectPropertyCode} {assign second : ObjectDataset → ObjectDataset}

theorem Assigns.mem_settable (assigns : Assigns property assign) : property ∈ settable := by
  cases assigns <;> decide

theorem Assigns.commute (assigns : Assigns property assign)
    (later : Assigns other second) (apart : property ≠ other) (info : ObjectDataset) :
    second (assign info) = assign (second info) := by
  cases assigns <;> cases later <;> first | rfl | exact absurd rfl apart

theorem Assigns.absorb (assigns : Assigns property assign)
    (later : Assigns property second) (info : ObjectDataset) :
    second (assign info) = second info := by
  cases assigns <;> cases later <;> rfl

end

namespace ObjectDataset

/-- A value that is not accepted changes nothing. -/
def put (property : ObjectPropertyCode) (value : PropertyValue) (self : ObjectDataset) :
    ObjectDataset :=
  (self.setProperty property value).getD self

/-- Whether `set_property` accepts a value. -/
def accepts (property : ObjectPropertyCode) (value : PropertyValue) : Bool :=
  (empty.setProperty property value).isSome

section

theorem setString_assigns (property : ObjectPropertyCode) (s : String) :
    (∀ info : ObjectDataset, info.setString property s = none) ∨
      ∃ assign, Assigns property assign ∧
        ∀ info : ObjectDataset, info.setString property s = some (assign info) := by
  cases property
  case objectFileName => exact Or.inr ⟨_, .objectFileName s, fun _ => rfl⟩
  case dateCreated => exact Or.inr ⟨_, .dateCreated (DateTime.parse s), fun _ => rfl⟩
  case dateModified => exact Or.inr ⟨_, .dateModified (DateTime.parse s), fun _ => rfl⟩
  all_goals exact Or.inl fun _ => rfl

theorem setUnsigned_assigns (property : ObjectPropertyCode) (n : Nat) :
    (∀ info : ObjectDataset, info.setUnsigned property n = none) ∨
      ∃ assign, Assigns property assign ∧
        ∀ info : ObjectDataset, info.setUnsigned property n = some (assign info) := by
  unfold setUnsigned
  cases property
  case objectSize => exact Or.inr ⟨_, .objectSize n, fun _ => rfl⟩
  case storageId =>
    by_cases fits : n < 2 ^ 32
    · exact Or.inr ⟨_, .storageId (UInt32.ofNat n), fun _ => if_pos fits⟩
    · exact Or.inl fun _ => if_neg fits
  case parentObject =>
    by_cases fits : n < 2 ^ 32
    · exact Or.inr ⟨_, .parentObject (UInt32.ofNat n), fun _ => if_pos fits⟩
    · exact Or.inl fun _ => if_neg fits
  case objectFormat =>
    by_cases fits : n < 2 ^ 16
    · exact Or.inr ⟨_, .objectFormat (.ofCode (UInt16.ofNat n)), fun _ => if_pos fits⟩
    · exact Or.inl fun _ => if_neg fits
  case protectionStatus =>
    by_cases fits : n < 2 ^ 16
    · exact Or.inr ⟨_, .protectionStatus (.ofCode (UInt16.ofNat n)), fun _ => if_pos fits⟩
    · exact Or.inl fun _ => if_neg fits
  all_goals exact Or.inl fun _ => rfl

theorem setProperty_assigns (property : ObjectPropertyCode) (value : PropertyValue) :
    (∀ info : ObjectDataset, info.setProperty property value = none) ∨
      ∃ assign, Assigns property assign ∧
        ∀ info : ObjectDataset, info.setProperty property value = some (assign info) := by
  cases value with
  | string s => exact setString_assigns property s
  | uint8 n | uint16 n | uint32 n | uint64 n => exact setUnsigned_assigns property _
  | int8 n | int16 n | int32 n | int64 n => exact Or.inl fun _ => rfl

theorem setProperty_eq (self : ObjectDataset) (property : ObjectPropertyCode)
    (value : PropertyValue) :
    self.setProperty property value =
      if accepts property value then some (self.put property value) else none := by
  unfold accepts put
  rcases setProperty_assigns property value with never | ⟨assign, _, always⟩
  · rw [never, never]
    rfl
  · rw [always, always]
    rfl

/-- Accepted or not, a value has an effect on its own field only. -/
theorem put_cases (property : ObjectPropertyCode) (value : PropertyValue) :
    (accepts property value = false ∧ ∀ info : ObjectDataset, info.put property value = info) ∨
      accepts property value = true ∧ ∃ assign, Assigns property assign ∧
        ∀ info : ObjectDataset, info.put property value = assign info := by
  unfold accepts put
  rcases setProperty_assigns property value with never | ⟨assign, assigns, always⟩
  · left
    simp only [never, Option.isSome_none, Option.getD_none, implies_true, and_self]
  · right
    simp only [always, Option.isSome_some, Option.getD_some, true_and]
    exact ⟨assign, assigns, fun _ => rfl⟩

end

theorem independent_put :
    Independent (fun property value => accepts property value = true) put where
  commute {property other} apart v w info := by
    rcases put_cases property v with ⟨-, idle⟩ | ⟨-, first, assigns, same⟩
    · rw [idle, idle]
    · rcases put_cases other w with ⟨-, idle⟩ | ⟨-, second, later, also⟩
      · rw [idle, idle]
      · rw [also, same, same, also]
        exact assigns.commute later apart info
  absorb {property w} accepted v info := by
    rcases put_cases property w with ⟨refused, -⟩ | ⟨-, second, later, also⟩
    · rw [refused] at accepted
      cases accepted
    · rcases put_cases property v with ⟨-, idle⟩ | ⟨-, first, assigns, same⟩
      · rw [idle]
      · rw [also, also, same]
        exact assigns.absorb later info

end ObjectDataset

end Ptp

namespace Mtp

open LastWrites (Independent eraseDups_concat last nodup_eraseDups settle)
open Ptp (ObjectDataset ObjectPropListElement ObjectPropertyCode PropertyValue settable)

def ofObject (elements : List ObjectPropListElement) (handle : UInt32) :
    List ObjectPropListElement :=
  elements.filter fun element => element.handle == handle

/-- An element's property and value, if `set_property` accepts it. -/
def acceptedValue (element : ObjectPropListElement) : Option (ObjectPropertyCode × PropertyValue) :=
  element.value.bind fun value =>
    if ObjectDataset.accepts element.property value then some (element.property, value) else none

def accepted (elements : List ObjectPropListElement) : List (ObjectPropertyCode × PropertyValue) :=
  elements.filterMap acceptedValue

/-- The last value of an object's property that is accepted. -/
def lastAccepted (elements : List ObjectPropListElement) (handle : UInt32) :
    ObjectPropertyCode → Option PropertyValue :=
  last (accepted (ofObject elements handle))

/-- The object of a handle by its last accepted values, in the asked storage where none was
given. -/
def described (elements : List ObjectPropListElement) (storage handle : UInt32) : ObjectDataset :=
  settle ObjectDataset.put (lastAccepted elements handle) settable
    { ObjectDataset.empty with handle := handle, storageId := storage }

/-- The handles of the children, in first-seen order. -/
def childHandles (elements : List ObjectPropListElement) (parent : UInt32) : List UInt32 :=
  ((elements.filter fun element => element.handle != parent).map fun element =>
    element.handle).eraseDups

/-- A folder needs no size, and everything else is needed of every child. -/
def Needed (info : ObjectDataset) (property : ObjectPropertyCode) : Prop :=
  property = .objectSize → info.isFolder = false

/-- A property is given of none of the objects that need it, of which there is at least one. -/
def MissingEverywhere {α : Type} (objects : List α) (needs lacks : α → Prop) : Prop :=
  (∃ object ∈ objects, needs object) ∧ ∀ object ∈ objects, needs object → lacks object

/-- A property is missing of some object that needs it. -/
def MissingSomewhere {α : Type} (objects : List α) (needs lacks : α → Prop) : Prop :=
  ∃ object ∈ objects, needs object ∧ lacks object

/-- The answers are no use, and no use asking for again: they hold a child of another folder, or a
required property is missing everywhere. -/
def Systemic (elements : List ObjectPropListElement) (storage parent : UInt32) : Prop :=
  (∃ handle ∈ childHandles elements parent,
    (lastAccepted elements handle .parentObject).isSome = true ∧
      (described elements storage handle).parent ≠ parent) ∨
  ∃ property ∈ propListRequired, MissingEverywhere (childHandles elements parent)
    (fun handle => Needed (described elements storage handle) property)
    fun handle => lastAccepted elements handle property = none

/-- Some child lacks what it needs. -/
def Incomplete (elements : List ObjectPropListElement) (storage parent : UInt32) : Prop :=
  ∃ property ∈ propListRequired, MissingSomewhere (childHandles elements parent)
    (fun handle => Needed (described elements storage handle) property)
    fun handle => lastAccepted elements handle property = none

/-- A result by its two refusals, of which the first takes precedence. -/
structure Decides {α : Type} (result : Except Unusable α) (systemic incomplete : Prop)
    (value : α) : Prop where
  refusesForGood : result = .error .systemic ↔ systemic
  refusesNow : result = .error .incomplete ↔ ¬ systemic ∧ incomplete
  accepts : ∀ v, result = .ok v ↔ ¬ systemic ∧ ¬ incomplete ∧ v = value

/-- The same elements of each object, in the same order, among those of the others in any. -/
def Interleaved (one other : List ObjectPropListElement) : Prop :=
  ∀ handle, ofObject one handle = ofObject other handle

def SameVerdict : Except Unusable (List ObjectDataset) → Except Unusable (List ObjectDataset) → Prop
  | .ok one, .ok other => one.Perm other
  | .error one, .error other => one = other
  | _, _ => False

section

variable {elements : List ObjectPropListElement} {storage parent handle : UInt32}

theorem Decides.of {α : Type} {result : Except Unusable α} {systemic incomplete : Prop} {value : α}
    (first : systemic → result = .error .systemic)
    (second : ¬ systemic → incomplete → result = .error .incomplete)
    (otherwise : ¬ systemic → ¬ incomplete → result = .ok value) :
    Decides result systemic incomplete value := by
  by_cases s : systemic
  · have result := first s
    constructor <;> simp [result, s]
  · by_cases i : incomplete
    · have result := second s i
      constructor <;> simp [result, s, i]
    · have result := otherwise s i
      constructor <;> simp [result, s, i, eq_comm]

def Child.write (child : Child) (write : ObjectPropertyCode × PropertyValue) : Child where
  info := child.info.put write.1 write.2
  required := child.required ||| requiredBit write.1
  hasStorage := child.hasStorage || write.1 == .storageId

theorem setElement_eq (child : Child) (element : ObjectPropListElement) :
    child.setElement element = (acceptedValue element).elim child child.write := by
  unfold Child.setElement acceptedValue
  cases element.value with
  | none => rfl
  | some value =>
      rw [Option.bind_some, Option.bind_some, ObjectDataset.setProperty_eq]
      cases ObjectDataset.accepts element.property value with
      | false => rfl
      | true => rfl

def childOf (own : List ObjectPropListElement) (handle : UInt32) : Child :=
  own.foldl Child.setElement (Child.new handle)

theorem foldl_setElement (own : List ObjectPropListElement) (child : Child) :
    own.foldl Child.setElement child = (accepted own).foldl Child.write child := by
  induction own generalizing child with
  | nil => rfl
  | cons element rest ih =>
      unfold accepted at ih ⊢
      rw [List.foldl_cons, ih, List.filterMap_cons, setElement_eq]
      cases acceptedValue element with
      | none => rfl
      | some write => rfl

theorem accepted_valid {own : List ObjectPropListElement}
    {write : ObjectPropertyCode × PropertyValue}
    (mem : write ∈ accepted own) : ObjectDataset.accepts write.1 write.2 = true := by
  obtain ⟨element, _, given⟩ := List.mem_filterMap.mp mem
  obtain ⟨value, _, taken⟩ := Option.bind_eq_some_iff.mp given
  rw [Option.ite_none_right_eq_some, Option.some.injEq] at taken
  rw [← taken.2]
  exact taken.1

theorem info_write (writes : List (ObjectPropertyCode × PropertyValue)) (child : Child) :
    (writes.foldl Child.write child).info =
      writes.foldl (fun info write => info.put write.1 write.2) child.info := by
  induction writes generalizing child with
  | nil => rfl
  | cons write rest ih => rw [List.foldl_cons, List.foldl_cons, ih]; rfl

theorem last_isSome_concat (writes : List (ObjectPropertyCode × PropertyValue))
    (write : ObjectPropertyCode × PropertyValue) (property : ObjectPropertyCode) :
    (last (writes ++ [write]) property).isSome = true ↔
      write.1 = property ∨ (last writes property).isSome = true := by
  rw [LastWrites.last_concat]
  split <;> simp [*]

theorem carries_write (writes : List (ObjectPropertyCode × PropertyValue))
    {property : ObjectPropertyCode} (required : property ∈ propListRequired) :
    (writes.foldl Child.write (Child.new handle)).Carries property ↔
      (last writes property).isSome = true := by
  induction writes using List.reverseRecOn with
  | nil => simp [Child.Carries, Child.new, last]
  | append_singleton writes write ih =>
      rw [List.foldl_append, List.foldl_cons, List.foldl_nil, last_isSome_concat, ← ih]
      unfold Child.Carries Child.write
      rw [or_and_bits]
      by_cases own : write.1 = property
      · have bit : requiredBit property ≠ 0 := by
          simp only [propListRequired, List.mem_cons, List.not_mem_nil, or_false] at required
          rcases required with rfl | rfl | rfl | rfl <;> decide
        rw [own]
        simp [bit]
      · rw [requiredBit_apart required own]
        simp [own]

theorem hasStorage_write (writes : List (ObjectPropertyCode × PropertyValue)) :
    (writes.foldl Child.write (Child.new handle)).hasStorage = true ↔
      (last writes .storageId).isSome = true := by
  induction writes using List.reverseRecOn with
  | nil => simp [Child.new, last]
  | append_singleton writes write ih =>
      rw [List.foldl_append, List.foldl_cons, List.foldl_nil, last_isSome_concat, ← ih]
      simp [Child.write, or_comm]

theorem settable_writes {own : List ObjectPropListElement}
    {write : ObjectPropertyCode × PropertyValue} (mem : write ∈ accepted own) :
    write.1 ∈ settable := by
  rcases ObjectDataset.put_cases write.1 write.2 with ⟨refused, -⟩ | ⟨-, assign, assigns, -⟩
  · rw [accepted_valid mem] at refused
    cases refused
  · exact assigns.mem_settable

theorem childOf_info (own : List ObjectPropListElement) (handle : UInt32) :
    (childOf own handle).info = settle ObjectDataset.put (last (accepted own)) settable
      { ObjectDataset.empty with handle := handle } := by
  rw [childOf, foldl_setElement, info_write]
  exact ObjectDataset.independent_put.foldl_eq (by decide) (fun write mem => settable_writes mem)
    fun write mem => accepted_valid mem

theorem childOf_carries (own : List ObjectPropListElement) (handle : UInt32)
    {property : ObjectPropertyCode} (required : property ∈ propListRequired) :
    (childOf own handle).Carries property ↔ (last (accepted own) property).isSome = true := by
  rw [childOf, foldl_setElement]
  exact carries_write _ required

theorem put_storageId (info : ObjectDataset) (storage : UInt32) :
    info.put .storageId (.uint32 storage) = { info with storageId := storage } := by
  have fits : storage.toNat < 2 ^ 32 := storage.toNat_lt
  have set : info.setUnsigned .storageId storage.toNat =
      some { info with storageId := UInt32.ofNat storage.toNat } := if_pos fits
  show (info.setUnsigned .storageId storage.toNat).getD info = _
  rw [set, UInt32.ofNat_toNat]
  rfl

theorem put_storageId_again {value : PropertyValue}
    (accepted : ObjectDataset.accepts .storageId value = true) (info : ObjectDataset)
    (storage : UInt32) :
    ({ info with storageId := storage } : ObjectDataset).put .storageId value =
      info.put .storageId value := by
  rw [← put_storageId]
  exact ObjectDataset.independent_put.absorb accepted _ info

/-- The asked storage counts as a value that comes before all others. -/
theorem childOf_finish (elements : List ObjectPropListElement) (storage handle : UInt32) :
    (childOf (ofObject elements handle) handle).finish storage =
      described elements storage handle := by
  have stored : (childOf (ofObject elements handle) handle).hasStorage = true ↔
      (last (accepted (ofObject elements handle)) .storageId).isSome = true := by
    rw [childOf, foldl_setElement, hasStorage_write]
  have info := childOf_info (ofObject elements handle) handle
  obtain ⟨rest, first, other⟩ : ∃ rest, settable = .storageId :: rest ∧ .storageId ∉ rest :=
    ⟨_, rfl, by decide⟩
  unfold Child.finish described lastAccepted
  rw [first] at info ⊢
  cases given : last (accepted (ofObject elements handle)) .storageId with
  | none =>
      have unset : (childOf (ofObject elements handle) handle).hasStorage = false := by
        rw [given] at stored
        simpa using stored
      rw [unset, info, LastWrites.settle_cons_none given, LastWrites.settle_cons_none given]
      simp only [Bool.false_eq_true, if_false]
      rw [← put_storageId, ObjectDataset.independent_put.put_settle other, put_storageId]
  | some value =>
      have valid := accepted_valid (LastWrites.mem_of_last given)
      have set := stored.mpr (by rw [given]; rfl)
      have again := put_storageId_again valid { ObjectDataset.empty with handle := handle } storage
      rw [set, if_pos rfl, info, LastWrites.settle_cons_some given,
        LastWrites.settle_cons_some given, ← again]

theorem finish_needs (child : Child) (storage : UInt32) {property : ObjectPropertyCode}
    (required : property ∈ propListRequired) :
    child.needs &&& requiredBit property ≠ 0 ↔ Needed (child.finish storage) property := by
  have folder : (child.finish storage).isFolder = child.info.isFolder := by
    unfold Child.finish
    split <;> rfl
  rw [child.needs_eq, Needed, folder]
  simp only [propListRequired, List.mem_cons, List.not_mem_nil, or_false] at required
  rcases required with rfl | rfl | rfl | rfl <;> cases child.info.isFolder <;> decide

theorem ofObject_concat (elements : List ObjectPropListElement) (element : ObjectPropListElement)
    (handle : UInt32) :
    ofObject (elements ++ [element]) handle =
      if element.handle = handle then ofObject elements handle ++ [element]
      else ofObject elements handle := by
  unfold ofObject
  rw [List.filter_append]
  by_cases own : element.handle = handle
  · simp [own]
  · simp [own]

@[simp] theorem childOf_handle (own : List ObjectPropListElement) (handle : UInt32) :
    (childOf own handle).info.handle = handle := by
  unfold childOf
  induction own using List.reverseRecOn with
  | nil => rfl
  | append_singleton own element ih =>
      rw [List.foldl_append, List.foldl_cons, List.foldl_nil, Child.setElement_handle, ih]

theorem childOf_concat (elements : List ObjectPropListElement) (element : ObjectPropListElement)
    (handle : UInt32) :
    childOf (ofObject (elements ++ [element]) handle) handle =
      if handle = element.handle then (childOf (ofObject elements handle) handle).setElement element
      else childOf (ofObject elements handle) handle := by
  rw [ofObject_concat]
  by_cases own : element.handle = handle
  · rw [if_pos own, if_pos own.symm, childOf, List.foldl_append]
    rfl
  · rw [if_neg own, if_neg fun same => own same.symm]

theorem childOf_new (unseen : handle ∉ elements.map fun element => element.handle) :
    childOf (ofObject elements handle) handle = Child.new handle := by
  have none : ofObject elements handle = [] := by
    unfold ofObject
    rw [List.filter_eq_nil_iff]
    intro element mem same
    rw [beq_iff_eq] at same
    exact unseen (List.mem_map.mpr ⟨element, mem, same⟩)
  rw [none]
  rfl

/-- Each child is made by its own elements, in first-seen order. -/
theorem foldl_takeElement (elements : List ObjectPropListElement) :
    elements.foldl takeElement [] =
      (elements.map fun element => element.handle).eraseDups.map fun handle =>
        childOf (ofObject elements handle) handle := by
  induction elements using List.reverseRecOn with
  | nil => rfl
  | append_singleton elements element ih =>
      have grown : (if (elements.foldl takeElement []).any
            (fun child => child.info.handle == element.handle)
          then elements.foldl takeElement []
          else elements.foldl takeElement [] ++ [Child.new element.handle]) =
          (elements.map (fun element => element.handle) ++ [element.handle]).eraseDups.map
            fun handle => childOf (ofObject elements handle) handle := by
        have known : (elements.foldl takeElement []).any
            (fun child => child.info.handle == element.handle) = true ↔
            element.handle ∈ elements.map fun element => element.handle := by
          simp [ih]
        rw [eraseDups_concat]
        by_cases seen : element.handle ∈ elements.map fun element => element.handle
        · rw [if_pos (known.mpr seen), if_pos seen, ih]
        · rw [if_neg (mt known.mp seen), if_neg seen, ih, List.map_append, List.map_singleton,
            childOf_new seen]
      rw [List.foldl_append, List.foldl_cons, List.foldl_nil, takeElement]
      simp only [grown]
      rw [List.map_append, List.map_singleton, updateChild, List.map_map]
      apply List.map_congr_left
      intro handle _
      rw [childOf_concat, Function.comp, childOf_handle]

def Child.Needs (self : Child) (property : ObjectPropertyCode) : Prop :=
  self.needs &&& requiredBit property ≠ 0

/-- The children that need a property, and among them those that lack it. -/
def needing (children : List Child) (property : ObjectPropertyCode) : List Child :=
  children.filter fun child => child.needs &&& requiredBit property != 0

def lacking (children : List Child) (property : ObjectPropertyCode) : List Child :=
  (needing children property).filter fun child => child.required &&& requiredBit property == 0

variable {children : List Child} {properties : List ObjectPropertyCode}
  {verdict : Except Unusable Unit} {property : ObjectPropertyCode} {child : Child}

theorem mem_needing : child ∈ needing children property ↔ child ∈ children ∧
    child.Needs property := by
  rw [needing, List.mem_filter, bne_iff_ne, Child.Needs]

theorem lacking_pos : 0 < (lacking children property).length ↔
    MissingSomewhere children (Child.Needs · property) (¬ Child.Carries · property) := by
  rw [List.length_pos_iff_exists_mem]
  apply exists_congr
  intro child
  simp only [lacking, List.mem_filter, mem_needing, beq_iff_eq, Child.Carries, not_not, and_assoc]

theorem lacking_all :
    (0 < (lacking children property).length ∧
      (lacking children property).length = (needing children property).length) ↔
      MissingEverywhere children (Child.Needs · property) (¬ Child.Carries · property) := by
  have all : (lacking children property).length = (needing children property).length ↔
      ∀ child ∈ children, child.Needs property → ¬ child.Carries property := by
    rw [lacking, List.length_filter_eq_length_iff]
    apply forall_congr'
    intro child
    rw [mem_needing, beq_iff_eq, Child.Carries, not_not, and_imp]
  rw [lacking_pos, all]
  constructor
  · intro ⟨⟨child, mem, needs, _⟩, every⟩
    exact ⟨⟨child, mem, needs⟩, every⟩
  · intro ⟨⟨child, mem, needs⟩, every⟩
    exact ⟨⟨child, mem, needs, every child mem needs⟩, every⟩

theorem requiredVerdict_cons (property : ObjectPropertyCode) (rest : List ObjectPropertyCode) :
    requiredVerdict children (property :: rest) verdict =
      if 0 < (lacking children property).length ∧
          (lacking children property).length = (needing children property).length
      then .error .systemic
      else requiredVerdict children rest
        (if 0 < (lacking children property).length then .error .incomplete else verdict) := rfl

theorem requiredVerdict_systemic
    (missing : ∃ property ∈ properties,
      MissingEverywhere children (Child.Needs · property) (¬ Child.Carries · property)) :
    requiredVerdict children properties verdict = .error .systemic := by
  induction properties generalizing verdict with
  | nil => simp at missing
  | cons property rest ih =>
      rw [requiredVerdict_cons]
      obtain ⟨other, mem, missing⟩ := missing
      cases List.mem_cons.mp mem with
      | inl own =>
          rw [own] at missing
          rw [if_pos (lacking_all.mpr missing)]
      | inr later =>
          by_cases first : 0 < (lacking children property).length ∧
              (lacking children property).length = (needing children property).length
          · rw [if_pos first]
          · rw [if_neg first, ih ⟨other, later, missing⟩]

/-- What one property came to so far is kept, unless another one is missing everywhere. -/
theorem requiredVerdict_kept
    (served : ¬ ∃ property ∈ properties,
      MissingEverywhere children (Child.Needs · property) (¬ Child.Carries · property)) :
    ((∃ property ∈ properties,
        MissingSomewhere children (Child.Needs · property) (¬ Child.Carries · property)) →
      requiredVerdict children properties verdict = .error .incomplete) ∧
    ((¬ ∃ property ∈ properties,
        MissingSomewhere children (Child.Needs · property) (¬ Child.Carries · property)) →
      requiredVerdict children properties verdict = verdict) := by
  induction properties generalizing verdict with
  | nil => simp [requiredVerdict]
  | cons property rest ih =>
      have own : ¬ (0 < (lacking children property).length ∧
          (lacking children property).length = (needing children property).length) := by
        rw [lacking_all]
        intro missing
        exact served ⟨property, List.mem_cons_self, missing⟩
      have served : ¬ ∃ property ∈ rest,
          MissingEverywhere children (Child.Needs · property) (¬ Child.Carries · property) := by
        rintro ⟨other, mem, missing⟩
        exact served ⟨other, List.mem_cons_of_mem _ mem, missing⟩
      rw [requiredVerdict_cons, if_neg own]
      by_cases short : 0 < (lacking children property).length
      · rw [if_pos short]
        have kept : requiredVerdict children rest (.error .incomplete) = .error .incomplete := by
          by_cases again : ∃ property ∈ rest,
              MissingSomewhere children (Child.Needs · property) (¬ Child.Carries · property)
          · exact (ih served).1 again
          · exact (ih served).2 again
        exact ⟨fun _ => kept, fun all =>
          absurd ⟨property, List.mem_cons_self, lacking_pos.mp short⟩ all⟩
      · rw [if_neg short]
        constructor
        · rintro ⟨other, mem, missing⟩
          cases List.mem_cons.mp mem with
          | inl same =>
              rw [same] at missing
              exact absurd (lacking_pos.mpr missing) short
          | inr mem => exact (ih served).1 ⟨other, mem, missing⟩
        · intro all
          apply (ih served).2
          rintro ⟨other, mem, missing⟩
          exact all ⟨other, List.mem_cons_of_mem _ mem, missing⟩

/-- The children of the answers, in first-seen order. -/
def childrenOf (elements : List ObjectPropListElement) (parent : UInt32) : List Child :=
  (childHandles elements parent).map fun handle => childOf (ofObject elements handle) handle

theorem ofObject_filter (apart : handle ≠ parent) :
    ofObject (elements.filter fun element => element.handle != parent) handle =
      ofObject elements handle := by
  unfold ofObject
  rw [List.filter_filter]
  apply List.filter_congr
  intro element _
  by_cases own : element.handle = handle
  · simp [own, apart]
  · simp [own]

theorem mem_childHandles : handle ∈ childHandles elements parent ↔
    (∃ element ∈ elements, element.handle = handle) ∧ handle ≠ parent := by
  rw [childHandles, List.mem_eraseDups, List.mem_map]
  simp only [List.mem_filter, bne_iff_ne]
  constructor
  · intro ⟨element, ⟨mem, apart⟩, same⟩
    exact ⟨⟨element, mem, same⟩, by rwa [← same]⟩
  · intro ⟨⟨element, mem, same⟩, apart⟩
    exact ⟨element, ⟨mem, by rwa [same]⟩, same⟩

theorem childrenOf_eq (elements : List ObjectPropListElement) (parent : UInt32) :
    (elements.filter fun element => element.handle != parent).foldl takeElement [] =
      childrenOf elements parent := by
  rw [foldl_takeElement, childrenOf, childHandles]
  apply List.map_congr_left
  intro handle mem
  have apart := (mem_childHandles.mp mem).2
  rw [ofObject_filter apart]

/-- What children need and lack, by what the answers say of their handles. -/
theorem missing_iff (elements : List ObjectPropListElement) (storage parent : UInt32)
    (required : property ∈ propListRequired) :
    (MissingEverywhere (childrenOf elements parent) (Child.Needs · property)
        (¬ Child.Carries · property) ↔
      MissingEverywhere (childHandles elements parent)
        (fun handle => Needed (described elements storage handle) property)
        fun handle => lastAccepted elements handle property = none) ∧
    (MissingSomewhere (childrenOf elements parent) (Child.Needs · property)
        (¬ Child.Carries · property) ↔
      MissingSomewhere (childHandles elements parent)
        (fun handle => Needed (described elements storage handle) property)
        fun handle => lastAccepted elements handle property = none) := by
  have needs : ∀ handle, (childOf (ofObject elements handle) handle).Needs property ↔
      Needed (described elements storage handle) property := by
    intro handle
    rw [← childOf_finish]
    exact finish_needs _ storage required
  have lacks : ∀ handle, ¬ (childOf (ofObject elements handle) handle).Carries property ↔
      lastAccepted elements handle property = none := by
    intro handle
    rw [childOf_carries _ _ required, Option.not_isSome_iff_eq_none]
    rfl
  simp only [MissingEverywhere, MissingSomewhere, childrenOf, List.mem_map, forall_exists_index,
    and_imp, forall_apply_eq_imp_iff₂, exists_exists_and_eq_and, needs, lacks, and_self]

theorem decides_children (elements : List ObjectPropListElement) (storage parent : UInt32) :
    Decides (childrenFromPropList elements storage parent) (Systemic elements storage parent)
      (Incomplete elements storage parent)
      ((childHandles elements parent).map (described elements storage)) := by
  have elsewhere : ((childrenOf elements parent).any fun child =>
        child.required &&& requiredBit .parentObject != 0 && child.info.parent != parent) = true ↔
      ∃ handle ∈ childHandles elements parent,
        (lastAccepted elements handle .parentObject).isSome = true ∧
          (described elements storage handle).parent ≠ parent := by
    rw [List.any_eq_true, childrenOf]
    simp only [List.mem_map, exists_exists_and_eq_and, Bool.and_eq_true, bne_iff_ne]
    apply exists_congr
    intro handle
    have carries := childOf_carries (ofObject elements handle) handle
      (by decide : ObjectPropertyCode.parentObject ∈ propListRequired)
    have parent : (described elements storage handle).parent =
        (childOf (ofObject elements handle) handle).info.parent := by
      rw [← childOf_finish]
      unfold Child.finish
      split <;> rfl
    rw [parent, lastAccepted, ← carries, Child.Carries]
  have everywhere : (∃ property ∈ propListRequired, MissingEverywhere (childrenOf elements parent)
        (Child.Needs · property) (¬ Child.Carries · property)) ↔
      ∃ property ∈ propListRequired, MissingEverywhere (childHandles elements parent)
        (fun handle => Needed (described elements storage handle) property)
        fun handle => lastAccepted elements handle property = none := by
    apply exists_congr
    intro property
    apply and_congr_right
    intro required
    exact (missing_iff elements storage parent required).1
  have somewhere : (∃ property ∈ propListRequired, MissingSomewhere (childrenOf elements parent)
        (Child.Needs · property) (¬ Child.Carries · property)) ↔
      Incomplete elements storage parent := by
    apply exists_congr
    intro property
    apply and_congr_right
    intro required
    exact (missing_iff elements storage parent required).2
  have finished : (childrenOf elements parent).map (fun child => child.finish storage) =
      (childHandles elements parent).map (described elements storage) := by
    rw [childrenOf, List.map_map]
    apply List.map_congr_left
    intro handle _
    exact childOf_finish elements storage handle
  unfold childrenFromPropList
  rw [childrenOf_eq]
  dsimp only
  rw [finished]
  by_cases other : ((childrenOf elements parent).any fun child =>
      child.required &&& requiredBit .parentObject != 0 && child.info.parent != parent) = true
  · rw [if_pos other]
    have systemic : Systemic elements storage parent := Or.inl (elsewhere.mp other)
    exact Decides.of (fun _ => rfl) (fun none => absurd systemic none)
      fun none => absurd systemic none
  · rw [if_neg other]
    have served : Systemic elements storage parent → ∃ property ∈ propListRequired,
        MissingEverywhere (childrenOf elements parent) (Child.Needs · property)
          (¬ Child.Carries · property) := by
      intro systemic
      rw [everywhere]
      exact systemic.resolve_left (mt elsewhere.mpr other)
    apply Decides.of
    · intro systemic
      rw [requiredVerdict_systemic (served systemic)]
      rfl
    · intro none incomplete
      have kept := @requiredVerdict_kept _ _ (.ok ())
        fun missing => none (Or.inr (everywhere.mp missing))
      rw [kept.1 (somewhere.mpr incomplete)]
      rfl
    · intro none complete
      have kept := @requiredVerdict_kept _ _ (.ok ())
        fun missing => none (Or.inr (everywhere.mp missing))
      rw [kept.2 (mt somewhere.mp complete)]
      rfl

variable {one other : List ObjectPropListElement}

theorem Interleaved.lastAccepted_eq (interleaved : Interleaved one other) (handle : UInt32) :
    lastAccepted one handle = lastAccepted other handle := by
  rw [lastAccepted, lastAccepted, interleaved handle]

theorem Interleaved.described_eq (interleaved : Interleaved one other) (storage handle : UInt32) :
    described one storage handle = described other storage handle := by
  rw [described, described, interleaved.lastAccepted_eq]

theorem Interleaved.mem_iff (interleaved : Interleaved one other) :
    handle ∈ childHandles one parent ↔ handle ∈ childHandles other parent := by
  have given : ∀ elements : List ObjectPropListElement,
      (∃ element ∈ elements, element.handle = handle) ↔ ofObject elements handle ≠ [] := by
    intro elements
    simp [ofObject, List.filter_eq_nil_iff]
  rw [mem_childHandles, mem_childHandles, given, given, interleaved handle]

theorem Interleaved.perm (interleaved : Interleaved one other) (parent : UInt32) :
    (childHandles one parent).Perm (childHandles other parent) :=
  (List.perm_ext_iff_of_nodup (nodup_eraseDups _) (nodup_eraseDups _)).mpr fun _ =>
    interleaved.mem_iff

theorem Interleaved.systemic_iff (interleaved : Interleaved one other) :
    Systemic one storage parent ↔ Systemic other storage parent := by
  simp only [Systemic, MissingEverywhere, interleaved.mem_iff, interleaved.lastAccepted_eq,
    interleaved.described_eq]

theorem Interleaved.incomplete_iff (interleaved : Interleaved one other) :
    Incomplete one storage parent ↔ Incomplete other storage parent := by
  simp only [Incomplete, MissingSomewhere, interleaved.mem_iff, interleaved.lastAccepted_eq,
    interleaved.described_eq]

theorem Decides.same {result again : Except Unusable (List ObjectDataset)}
    {systemic incomplete : Prop} {value values : List ObjectDataset}
    (first : Decides result systemic incomplete value)
    (second : Decides again systemic incomplete values) (perm : value.Perm values) :
    SameVerdict result again := by
  by_cases s : systemic
  · rw [first.refusesForGood.mpr s, second.refusesForGood.mpr s]
    rfl
  · by_cases i : incomplete
    · rw [first.refusesNow.mpr ⟨s, i⟩, second.refusesNow.mpr ⟨s, i⟩]
      rfl
    · rw [(first.accepts value).mpr ⟨s, i, rfl⟩, (second.accepts values).mpr ⟨s, i, rfl⟩]
      exact perm

end

/-- The verdict on the answers of a folder, by the last accepted values of each object, does not
depend on how the elements of different objects are interleaved. -/
theorem children_decided (elements : List ObjectPropListElement) (storage parent : UInt32) :
    Decides (childrenFromPropList elements storage parent) (Systemic elements storage parent)
      (Incomplete elements storage parent)
      ((childHandles elements parent).map (described elements storage)) ∧
    ∀ other, Interleaved elements other →
      SameVerdict (childrenFromPropList elements storage parent)
        (childrenFromPropList other storage parent) := by
  refine ⟨decides_children elements storage parent, ?_⟩
  intro other interleaved
  have again := decides_children other storage parent
  rw [← interleaved.systemic_iff, ← interleaved.incomplete_iff] at again
  apply (decides_children elements storage parent).same again
  have same : described elements storage = described other storage :=
    funext (interleaved.described_eq storage)
  rw [same]
  exact (interleaved.perm parent).map _

def namedElement (handle : UInt32) (name : String) : ObjectPropListElement where
  handle := handle
  property := .objectFileName
  value := some (.string name)

/-- Two objects in either order. -/
theorem children_decided_swapped :
    SameVerdict (childrenFromPropList [namedElement 5 "a", namedElement 6 "b"] 1 0)
      (childrenFromPropList [namedElement 6 "b", namedElement 5 "a"] 1 0) := by
  apply (children_decided _ 1 0).2
  intro handle
  by_cases five : handle = 5
  · rw [five]
    rfl
  · by_cases six : handle = 6
    · rw [six]
      rfl
    · simp [ofObject, namedElement, Ne.symm five, Ne.symm six]

end Mtp
