import Mathlib.Data.List.ProdSigma
import MtpRs.Mtp.Folding
import MtpRs.Mtp.PropertyGrammar
import MtpRs.VirtualDevice.Descriptions
import MtpRs.VirtualDevice.PropList

set_option autoImplicit false

/- What the elements of a property list are read as. -/
namespace Ptp

open Readers (Reader Writes many)

namespace ObjectPropListElement

variable {usizeBits : Nat} {typeCode : UInt16} {property : ObjectPropertyCode} {bytes : Bytes}
  {value : Option PropertyValue}

/-- An element is read from its handle, its property, its data type and its value. -/
theorem writes_readElement {handle : UInt32} {code : UInt16}
    (decode : ∀ rest, decodeValue usizeBits typeCode (bytes ++ rest) = .ok (value, bytes.length)) :
    Writes (readElement usizeBits) (packU32 handle ++ packU16 code ++ packU16 typeCode ++ bytes)
      ⟨⟨handle, .ofCode code, value⟩, .ofCode typeCode⟩ := by
  rw [List.append_assoc, List.append_assoc]
  exact (writes_u32 handle).bind ((writes_u16 code).bind ((writes_u16 typeCode).bind
    (writes_readValue decode).return))

/-- A data type and a value are decoded, whatever follows, to what a dataset has for a property. -/
structure Told (usizeBits : Nat) (info : ObjectDataset) (property : ObjectPropertyCode)
    (sent : UInt16 × Bytes) (value : Option PropertyValue) : Prop where
  decoded : ∀ rest, decodeValue usizeBits sent.1 (sent.2 ++ rest) = .ok (value, sent.2.length)
  tells : ∀ v, value = some v → Tells info property v
  given : property ∈ settable → value.isSome = true

variable {info : ObjectDataset}

theorem told_scalar {number : PropertyValue} (packed : number.toBytes = .ok bytes)
    (noString : ∀ s, number ≠ .string s) (tells : Tells info property number) :
    Told usizeBits info property (number.dataType.toCode, bytes) (some number) where
  decoded := decodeValue_scalar packed fun s same => absurd same (noString s)
  tells v same := by
    rw [← Option.some.inj same]
    exact tells
  given _ := rfl

theorem told_string {s : String}
    (writes : Writes (unpackString : Reader UInt8 PtpError String) bytes s)
    (tells : Tells info property (.string s)) :
    Told usizeBits info property (0xFFFF, bytes) (some (.string s)) where
  decoded rest := by
    have read : PropertyValue.fromBytes .string (bytes ++ rest) = .ok (.string s, bytes.length) :=
      writes.return rest
    change (PropertyValue.fromBytes .string (bytes ++ rest)).map _ = _
    rw [read]
    rfl
  tells v same := by
    rw [← Option.some.inj same]
    exact tells
  given _ := rfl

theorem told_nothing {sent : UInt16 × Bytes} (unsettable : property ∉ settable)
    (decoded : ∀ rest, decodeValue usizeBits sent.1 (sent.2 ++ rest) = .ok (none, sent.2.length)) :
    Told usizeBits info property sent none where
  decoded := decoded
  tells v same := by cases same
  given settable := absurd settable unsettable

/-- A list is taken with any count, and nothing of it left over unless the count has gone round. -/
theorem read_counted {α : Type} {write : α → Bytes} {element : α → DecodedElement}
    (reads : ∀ item, Writes (readElement usizeBits) (write item) (element item))
    (visible : ∀ item, write item ≠ []) (items : List α) :
    ∃ taken, readList usizeBits (packU32 (UInt32.ofNat items.length) ++ items.flatMap write) =
        .ok ((items.take (items.length % 2 ^ 32)).map element, taken) ∧
      (taken = (packU32 (UInt32.ofNat items.length) ++ items.flatMap write).length ↔
        items.length < 2 ^ 32) := by
  have count : (UInt32.ofNat items.length).toNat = (items.take (items.length % 2 ^ 32)).length := by
    rw [UInt32.toNat_ofNat', List.length_take]
    omega
  have several : Writes (many (readElement usizeBits) (UInt32.ofNat items.length).toNat)
      ((items.take (items.length % 2 ^ 32)).flatMap write)
      ((items.take (items.length % 2 ^ 32)).map element) := by
    rw [count]
    exact .many fun item _ => reads item
  have whole : Writes (readList usizeBits) (packU32 (UInt32.ofNat items.length) ++
      (items.take (items.length % 2 ^ 32)).flatMap write)
      ((items.take (items.length % 2 ^ 32)).map element) :=
    (writes_u32 (UInt32.ofNat items.length)).bind several
  have split : items.flatMap write = (items.take (items.length % 2 ^ 32)).flatMap write ++
      (items.drop (items.length % 2 ^ 32)).flatMap write := by
    rw [← List.flatMap_append, List.take_append_drop]
  have read := whole ((items.drop (items.length % 2 ^ 32)).flatMap write)
  rw [List.append_assoc, ← split] at read
  refine ⟨_, read, ?_⟩
  have rest : ((items.drop (items.length % 2 ^ 32)).flatMap write).length = 0 ↔
      items.length < 2 ^ 32 := by
    rw [List.length_eq_zero_iff, List.flatMap_eq_nil_iff]
    constructor
    · intro nothing
      have none : items.drop (items.length % 2 ^ 32) = [] :=
        List.eq_nil_iff_forall_not_mem.mpr fun item mem => visible item (nothing item mem)
      rw [List.drop_eq_nil_iff] at none
      omega
    · intro few item mem
      rw [Nat.mod_eq_of_lt few, List.drop_length] at mem
      cases mem
  rw [← rest, split]
  simp only [List.length_append]
  omega

end ObjectPropListElement

theorem writes_unpackDatetime {bytes : Bytes} {s : String}
    (writes : Writes (unpackString : Reader UInt8 PtpError String) bytes s) :
    Writes (unpackDatetime : Reader UInt8 PtpError (Option DateTime)) bytes (DateTime.parse s) := by
  rw [unpackDatetime_eq]
  exact writes.return

end Ptp

namespace VirtualDevice

open Ptp (Bytes DateTime DecodedElement ObjectDataset ObjectFormatCode ObjectPropListElement
  ObjectPropertyCode PropertyValue PtpError Tells packU16 packU32 packU64 receivedText settable
  unpackString writes_unpackDatetime)
open Ptp.ObjectPropListElement (Told decodeValue readElement readList read_counted told_nothing
  told_scalar told_string writes_readElement)
open Readers (Reader Writes)

namespace VirtualDeviceState

variable (self : VirtualDeviceState)

def factsDataset (facts : ObjectFacts) : ObjectDataset :=
  { (self.describe facts).received.toObjectDataset with size := facts.size.toNat }

section

variable {self} {usizeBits : Nat} {handle : UInt32} {property : UInt16} {facts : ObjectFacts}

/-- The text of a file time is parsed to the date of it. -/
theorem writes_fileTime (self : VirtualDeviceState) (time : Option Int) : ∃ s,
    Writes (unpackString : Reader UInt8 PtpError String) (self.packFileTime time) s ∧
      DateTime.parse s = self.fileDate time := by
  have text := writes_packDeviceString (((self.fileDate time).bind DateTime.format).getD "")
  rw [← packFileTime_eq] at text
  refine ⟨_, text, ?_⟩
  have date := (@writes_packFileTime self time).result
  rw [(writes_unpackDatetime text).result, Except.ok.injEq, Prod.mk.injEq] at date
  exact date.1

/-- What is sent of a property is what the facts say. -/
theorem elementValue_told (handle : UInt32) (property : UInt16) (facts : ObjectFacts) :
    ∃ value, Told usizeBits (self.factsDataset facts) (.ofCode property)
      (self.elementValue handle property facts) value := by
  unfold elementValue
  split
  · next persistent =>
      refine ⟨none, told_nothing ?_ fun rest => rfl⟩
      rw [persistent]
      decide
  · split
    · next shown =>
        refine ⟨_, told_string (writes_packDeviceString _) ?_⟩
        rw [shown]
        exact .other (by decide)
    · split
      · next added =>
          obtain ⟨s, text, -⟩ := self.writes_fileTime facts.modified
          refine ⟨_, told_string text ?_⟩
          rw [added]
          exact .other (by decide)
      · cases ObjectPropertyCode.ofCode property with
        | storageId => exact ⟨some (.uint32 facts.storageId), told_scalar rfl (by simp) .storageId⟩
        | objectFormat =>
            refine ⟨some (.uint16 facts.format), told_scalar rfl (by simp) (.objectFormat ?_)⟩
            exact congrArg ObjectFormatCode.ofCode
              (ObjectFormatCode.toCode_ofCode facts.format).symm
        | protectionStatus =>
            exact ⟨some (.uint16 0), told_scalar rfl (by simp) (.protectionStatus rfl)⟩
        | objectSize =>
            exact ⟨some (.uint64 facts.size), told_scalar rfl (by simp) (.objectSize rfl)⟩
        | objectFileName =>
            exact ⟨_, told_string (writes_packDeviceString _) .objectFileName⟩
        | name => exact ⟨_, told_string (writes_packDeviceString _) (.other (by decide))⟩
        | dateCreated =>
            obtain ⟨s, text, date⟩ := self.writes_fileTime facts.created
            exact ⟨_, told_string text (.dateCreated date)⟩
        | dateModified =>
            obtain ⟨s, text, date⟩ := self.writes_fileTime facts.modified
            exact ⟨_, told_string text (.dateModified date)⟩
        | parentObject =>
            exact ⟨some (.uint32 facts.parent), told_scalar rfl (by simp) .parentObject⟩
        | unknown code => exact ⟨none, told_nothing (by simp [settable]) fun rest => rfl⟩

/-- An element is read as one of its object and its property, and tells of it what the facts say. -/
structure Truthful (state : VirtualDeviceState) (item : (UInt32 × ObjectFacts) × UInt16)
    (element : DecodedElement) : Prop where
  handle : element.handle = item.1.1
  property : element.property = .ofCode item.2
  tells : ∀ v, element.value = some v → Tells (state.factsDataset item.1.2) element.property v
  given : element.property ∈ settable → element.value.isSome = true

theorem writes_pushElement (usizeBits : Nat) (self : VirtualDeviceState)
    (item : (UInt32 × ObjectFacts) × UInt16) :
    ∃ element, Writes (readElement usizeBits) (self.pushElement item.1.1 item.2 item.1.2) element ∧
      self.Truthful item element := by
  obtain ⟨value, told⟩ := @elementValue_told self usizeBits item.1.1 item.2 item.1.2
  exact ⟨_, writes_readElement told.decoded, rfl, rfl, told.tells, told.given⟩

theorem pushElement_ne_nil : self.pushElement handle property facts ≠ [] := by
  unfold pushElement packU32
  simp

/-- An answer goes through its objects, and for each of them through the properties. -/
theorem propListDataset_eq (objects : List (UInt32 × ObjectFacts)) (properties : List UInt16) :
    self.propListDataset objects properties =
      packU32 (UInt32.ofNat (objects ×ˢ properties).length) ++
        (objects ×ˢ properties).flatMap fun item => self.pushElement item.1.1 item.2 item.1.2 := by
  have pairs : objects ×ˢ properties =
      objects.flatMap fun object => properties.map fun property => (object, property) := rfl
  rw [propListDataset, List.length_product, pairs, List.flatMap_assoc]
  simp only [List.flatMap_map]

/-- The parser takes any answer, and as many elements of it as its count has room for. -/
theorem read_propListDataset (usizeBits : Nat) (self : VirtualDeviceState) :
    ∃ element, (∀ item, self.Truthful item (element item)) ∧ ∀ objects properties, ∃ taken,
      readList usizeBits (self.propListDataset objects properties) =
          .ok (((objects ×ˢ properties).take
            ((objects.length * properties.length) % 2 ^ 32)).map element, taken) ∧
        (taken = (self.propListDataset objects properties).length ↔
          objects.length * properties.length < 2 ^ 32) := by
  choose element reads truthful using writes_pushElement usizeBits self
  refine ⟨element, truthful, ?_⟩
  intro objects properties
  rw [propListDataset_eq, ← List.length_product]
  exact read_counted reads (fun _ => pushElement_ne_nil) (objects ×ˢ properties)

variable {host : Host} {state after : VirtualDeviceState} {params : List UInt32} {payload : Bytes}
  {answered : List DecodedElement}

theorem answer_ok
    (answered : state.answer host params = some (.ok payload, after)) :
    ∃ handle depth properties handles objects,
      state.checkPropList params = .ok (handle, depth, properties) ∧
      state.requestedObjects host handle depth = some (.ok handles, after) ∧
      after.describedObjects (param params 1) handles = .ok objects ∧
      payload = after.propListDataset objects properties := by
  unfold answer at answered
  split at answered
  · cases answered
  · next handle depth properties checked =>
      split at answered
      · cases answered
      · cases answered
      · next handles reached requested =>
          split at answered
          · cases answered
          · next objects described =>
              cases answered
              exact ⟨handle, depth, properties, handles, objects, checked, requested, described,
                rfl⟩

theorem describedObjects_facts {format : UInt32} {handles : List UInt32}
    {objects : List (UInt32 × ObjectFacts)}
    (described : state.describedObjects format handles = .ok objects) :
    ∀ object ∈ objects, state.objectFacts object.1 = some object.2 := by
  induction handles generalizing objects with
  | nil =>
      cases described
      exact List.forall_mem_nil _
  | cons handle rest ih =>
      rw [describedObjects] at described
      split at described
      · cases described
      · split at described
        · exact ih described
        · next facts known =>
            obtain ⟨others, later, same⟩ := Readers.map_eq_ok.mp described
            intro object mem
            rw [← same] at mem
            split at mem
            · rcases List.mem_cons.mp mem with own | other
              · rw [own]
                exact known
              · exact ih later object other
            · exact ih later object mem

theorem mem_describedObjects {handles : List UInt32} {objects : List (UInt32 × ObjectFacts)}
    {facts : ObjectFacts} (described : state.describedObjects 0 handles = .ok objects)
    (listed : handle ∈ handles) (known : state.objectFacts handle = some facts) :
    (handle, facts) ∈ objects := by
  induction handles generalizing objects with
  | nil => cases listed
  | cons first rest ih =>
      rw [describedObjects] at described
      split at described
      · cases described
      · split at described
        · next unknown =>
            rcases List.mem_cons.mp listed with own | other
            · rw [own, unknown] at known
              cases known
            · exact ih described other
        · next found here =>
            obtain ⟨others, later, same⟩ := Readers.map_eq_ok.mp described
            rw [← same, if_pos (Or.inl rfl)]
            rcases List.mem_cons.mp listed with own | other
            · rw [own, here] at known
              rw [own, Option.some.inj known]
              exact List.mem_cons_self
            · exact List.mem_cons_of_mem _ (ih later other)

/-- Any answer is read, and nothing of it is left over unless it has too many elements to count. -/
theorem answer_read (usizeBits : Nat)
    (answered : state.answer host params = some (.ok payload, after)) :
    ∃ objects properties, payload = after.propListDataset objects properties ∧
      ∃ elements taken, readList usizeBits payload = .ok (elements, taken) ∧
        (taken = payload.length ↔ objects.length * properties.length < 2 ^ 32) := by
  obtain ⟨handle, depth, properties, handles, objects, -, -, -, same⟩ := answer_ok answered
  obtain ⟨element, -, reads⟩ := after.read_propListDataset usizeBits
  obtain ⟨taken, read, whole⟩ := reads objects properties
  rw [← same] at read whole
  exact ⟨objects, properties, same, _, taken, read, whole⟩

/-- The elements of an answer read whole are those of its objects, each truthful. -/
theorem answer_elements (answer : state.answer host params = some (.ok payload, after))
    (read : readList usizeBits payload = .ok (answered, payload.length)) :
    ∃ handle depth properties handles objects,
      state.checkPropList params = .ok (handle, depth, properties) ∧
      state.requestedObjects host handle depth = some (.ok handles, after) ∧
      after.describedObjects (param params 1) handles = .ok objects ∧
      (∀ element ∈ answered, ∃ item ∈ objects ×ˢ properties, after.Truthful item element) ∧
      ∀ item ∈ objects ×ˢ properties, ∃ element ∈ answered, after.Truthful item element := by
  obtain ⟨handle, depth, properties, handles, objects, checked, requested, described, same⟩ :=
    answer_ok answer
  obtain ⟨element, truthful, reads⟩ := after.read_propListDataset usizeBits
  obtain ⟨taken, again, whole⟩ := reads objects properties
  rw [← same] at again whole
  rw [read, Except.ok.injEq, Prod.mk.injEq] at again
  have few := whole.mp again.2.symm
  have elements : answered = (objects ×ˢ properties).map element := by
    rw [again.1, Nat.mod_eq_of_lt few, ← List.length_product, List.take_length]
  refine ⟨handle, depth, properties, handles, objects, checked, requested, described, ?_, ?_⟩
  · intro own mem
    rw [elements] at mem
    obtain ⟨item, inside, same⟩ := List.mem_map.mp mem
    exact ⟨item, inside, same ▸ truthful item⟩
  · intro item mem
    rw [elements]
    exact ⟨element item, List.mem_map_of_mem mem, truthful item⟩

/-- An answer that is read whole gives each property of each object that it covers. -/
theorem answer_covers {depth folder : UInt32} {properties : List UInt16} {code : UInt16}
    {facts : ObjectFacts}
    (answer : state.answer host params = some (.ok payload, after))
    (read : readList usizeBits payload = .ok (answered, payload.length))
    (checked : state.checkPropList params = .ok (folder, depth, properties))
    (anyFormat : param params 1 = 0) (asked : code ∈ properties)
    (covers : ∀ handles, state.requestedObjects host folder depth = some (.ok handles, after) →
      handle ∈ handles)
    (known : after.objectFacts handle = some facts) :
    ∃ element ∈ answered, element.handle = handle ∧ element.property = .ofCode code := by
  obtain ⟨_, _, _, handles, objects, again, requested, described, -, all⟩ :=
    answer_elements answer read
  rw [checked, Except.ok.injEq, Prod.mk.injEq, Prod.mk.injEq] at again
  obtain ⟨rfl, rfl, rfl⟩ := again
  rw [anyFormat] at described
  have mem := mem_describedObjects described (covers handles requested) known
  obtain ⟨element, inside, truthful⟩ := all ((handle, facts), code)
    (List.mem_product.mpr ⟨mem, asked⟩)
  exact ⟨element, inside, truthful.handle, truthful.property⟩

end

end VirtualDeviceState

end VirtualDevice
