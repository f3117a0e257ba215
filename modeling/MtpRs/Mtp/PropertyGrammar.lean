import MtpRs.Mtp.PropertyBytes

set_option autoImplicit false

/- The grammar of property lists: a count, then for each element its handle, its property code, its
data type and its value, and the parser that steps over what it does not decode. -/
namespace Ptp

open Readers (Delimited Reader Refuses Writes field many map_eq_ok)

/-- A string is short enough to be sent and has no NUL. -/
def PropertyValue.Sendable (self : PropertyValue) : Prop :=
  ∀ s, self = string s → (encodeUtf16 s).length ≤ maxStringUnits ∧ '\x00' ∉ s.toList

inductive WireValue where
  | undefined
  | scalar (value : PropertyValue) (sendable : value.Sendable)
  | wide (signed : Bool) (bytes : Bytes) (size : bytes.length = 16)
  | array (base : PropertyDataType) (size : Nat) (sized : base.byteSize = some size)
      (elements : List Bytes) (uniform : ∀ element ∈ elements, element.length = size)
      (countable : elements.length < 2 ^ 32)

namespace WireValue

def typeCode : WireValue → UInt16
  | undefined => 0x0000
  | scalar value _ => value.dataType.toCode
  | wide signed _ _ => if signed then 0x0009 else 0x000A
  | array base _ _ _ _ _ => 0x4000 + base.toCode

def toBytes : WireValue → Bytes
  | undefined => []
  | scalar value _ =>
      match value.toBytes with
      | .ok bytes => bytes
      | .error _ => []
  | wide _ bytes _ => bytes
  | array _ _ _ elements _ _ => packU32 (UInt32.ofNat elements.length) ++ elements.flatten

/-- What is decoded of it: nothing of an array or a 128-bit integer. -/
def decoded : WireValue → Option PropertyValue
  | undefined => none
  | scalar value _ => some value
  | wide _ _ _ => none
  | array _ _ _ _ _ _ => none

end WireValue

namespace PropertyValue

theorem Sendable.toBytes {value : PropertyValue} (sendable : value.Sendable) :
    value.toBytes = .ok (WireValue.scalar value sendable).toBytes := by
  cases value with
  | string s =>
      obtain ⟨bytes, packed⟩ := packString_ok (sendable s rfl).1
      rw [WireValue.toBytes, PropertyValue.toBytes, packed]
  | _ => rfl

end PropertyValue

/-- An element as a device writes it, its property in the form its code decodes to. -/
structure WireElement where
  handle : UInt32
  property : ObjectPropertyCode
  canonical : ObjectPropertyCode.ofCode property.toCode = property
  value : WireValue

namespace WireElement

def toBytes (self : WireElement) : Bytes :=
  packU32 self.handle ++ (packU16 self.property.toCode ++ (packU16 self.value.typeCode ++
    self.value.toBytes))

def decoded (self : WireElement) : DecodedElement :=
  ⟨⟨self.handle, self.property, self.value.decoded⟩, .ofCode self.value.typeCode⟩

/-- MTP 1.1 E.2.1.1. -/
def listToBytes (elements : List WireElement) : Bytes :=
  packU32 (UInt32.ofNat elements.length) ++ elements.flatMap toBytes

end WireElement

/-- A pointer reaches all of the bytes, as in any slice. 64 bits count every array of a list. -/
def Addressable (usizeBits : Nat) (bytes : Bytes) : Prop :=
  64 ≤ usizeBits ∨ bytes.length < 2 ^ usizeBits

theorem Addressable.mono {usizeBits : Nat} {bytes whole : Bytes}
    (addressable : Addressable usizeBits whole) (shorter : bytes.length ≤ whole.length) :
    Addressable usizeBits bytes :=
  addressable.imp_right (Nat.lt_of_le_of_lt shorter)

/-- A data type whose values the parser can step over. -/
def Sizable (typeCode : UInt16) : Prop :=
  0x4001 ≤ typeCode ∧ typeCode ≤ 0x400A ∨
    ∀ code, PropertyDataType.ofCode typeCode ≠ .unknown code

namespace ObjectPropListElement

section

variable {usizeBits : Nat} {typeCode : UInt16} {property : ObjectPropertyCode}

theorem decodeValue_scalar {value : PropertyValue} {bytes : Bytes}
    (packed : value.toBytes = .ok bytes) (sendable : value.Sendable) (rest : Bytes) :
    decodeValue usizeBits value.dataType.toCode (bytes ++ rest) =
      .ok (some value, bytes.length) := by
  have read := PropertyValue.writes packed (fun s same => (sendable s same).2) rest
  unfold decodeValue
  cases value <;> exact congrArg (Except.map fun result : PropertyValue × Nat =>
    (some result.1, result.2)) read

theorem flatten_length {size : Nat} {elements : List Bytes}
    (uniform : ∀ element ∈ elements, element.length = size) :
    elements.flatten.length = elements.length * size := by
  induction elements with
  | nil => simp
  | cons element rest ih =>
      rw [List.flatten_cons, List.length_append, uniform element (by simp),
        ih fun other mem => uniform other (by simp [mem]), List.length_cons, Nat.succ_mul]
      omega

theorem array_addressable {base : PropertyDataType} {size count : Nat} {bytes : Bytes}
    (sized : base.byteSize = some size) (countable : count < 2 ^ 32)
    (length : count * size + 4 ≤ bytes.length) (addressable : Addressable usizeBits bytes) :
    count * size + 4 < 2 ^ usizeBits := by
  rcases addressable with wide | short
  · have small : size ≤ 16 := by cases base <;> cases sized <;> decide
    have product : count * size ≤ 2 ^ 32 * 16 := Nat.mul_le_mul (Nat.le_of_lt countable) small
    have reach : 2 ^ 64 ≤ 2 ^ usizeBits := Nat.pow_le_pow_right (by decide) wide
    omega
  · exact Nat.lt_of_le_of_lt length short

theorem decodeValue_array {base : PropertyDataType} {size : Nat} {elements : List Bytes}
    (sized : base.byteSize = some size) (uniform : ∀ element ∈ elements, element.length = size)
    (countable : elements.length < 2 ^ 32)
    (addressable : elements.length * size + 4 < 2 ^ usizeBits) (rest : Bytes) :
    decodeValue usizeBits (0x4000 + base.toCode)
        (packU32 (UInt32.ofNat elements.length) ++ elements.flatten ++ rest) =
      .ok (none, (packU32 (UInt32.ofNat elements.length) ++ elements.flatten).length) := by
  have array : 0x4001 ≤ 0x4000 + base.toCode ∧ 0x4000 + base.toCode ≤ 0x400A := by
    cases base <;> first | decide | cases sized
  have masked : (PropertyDataType.ofCode ((0x4000 + base.toCode) &&& 0x00FF)).byteSize =
      some size := by
    cases base <;> first | exact sized | cases sized
  have count : (UInt32.ofNat elements.length).toNat = elements.length := by
    rw [UInt32.toNat_ofNat']
    exact Nat.mod_eq_of_lt countable
  rw [decodeValue, if_pos array, masked, List.append_assoc]
  simp only [unpackU32_packU32, bind, Except.bind, count]
  rw [if_pos addressable, List.length_append, packU32_length, flatten_length uniform,
    Nat.add_comm 4]

theorem writes_readValue {bytes : Bytes} {value : Option PropertyValue}
    (decode : ∀ rest, decodeValue usizeBits typeCode (bytes ++ rest) = .ok (value, bytes.length)) :
    Writes (readValue usizeBits typeCode property) bytes value := by
  intro rest
  rw [readValue, decode]
  simp only [bind, Except.bind]
  rw [if_neg]
  rw [List.length_append]
  omega

theorem writes_value (value : WireValue) (addressable : Addressable usizeBits value.toBytes) :
    Writes (readValue usizeBits value.typeCode property) value.toBytes value.decoded := by
  apply writes_readValue
  intro rest
  cases value with
  | undefined => rfl
  | scalar value sendable => exact decodeValue_scalar sendable.toBytes sendable rest
  | wide signed bytes size =>
      cases signed <;> exact congrArg (fun n : Nat => Except.ok ((none : Option PropertyValue), n))
        size.symm
  | array base size sized elements uniform countable =>
      apply decodeValue_array sized uniform countable
      apply array_addressable sized countable _ addressable
      rw [WireValue.toBytes, List.length_append, packU32_length, flatten_length uniform]
      omega

theorem writes_element (element : WireElement)
    (addressable : Addressable usizeBits element.toBytes) :
    Writes (readElement usizeBits) element.toBytes element.decoded := by
  have value : Addressable usizeBits element.value.toBytes := by
    apply addressable.mono
    simp only [WireElement.toBytes, List.length_append]
    omega
  have decoded : element.decoded = ⟨⟨element.handle, .ofCode element.property.toCode,
      element.value.decoded⟩, .ofCode element.value.typeCode⟩ := by
    rw [element.canonical]
    rfl
  rw [decoded]
  unfold readElement WireElement.toBytes
  exact (writes_u32 element.handle).bind ((writes_u16 element.property.toCode).bind
    ((writes_u16 element.value.typeCode).bind (writes_value element.value value).return))

theorem unpackU32_front : ∀ {input : Bytes} {value : UInt32}, unpackU32 input = .ok value →
    ∀ (size : Nat) (more : Bytes), unpackU32 (input.take (size + 4) ++ more) = .ok value
  | _ :: _ :: _ :: _ :: _, _, read, _, _ => read

theorem decodeValue_front {input : Bytes} {value : Option PropertyValue} {taken : Nat}
    (decode : decodeValue usizeBits typeCode input = .ok (value, taken)) (more : Bytes) :
    decodeValue usizeBits typeCode (input.take taken ++ more) = .ok (value, taken) := by
  unfold decodeValue at decode ⊢
  by_cases array : 0x4001 ≤ typeCode ∧ typeCode ≤ 0x400A
  · rw [if_pos array] at decode ⊢
    split at decode
    · cases decode
    · next size sized =>
        cases read : unpackU32 input with
        | error e =>
            rw [read] at decode
            cases decode
        | ok count =>
            rw [read] at decode
            simp only [bind, Except.bind] at decode
            by_cases addressable : count.toNat * size + 4 < 2 ^ usizeBits
            · rw [if_pos addressable] at decode
              cases decode
              simp only [unpackU32_front read, bind, Except.bind]
              rw [if_pos addressable]
            · rw [if_neg addressable] at decode
              cases decode
  · rw [if_neg array] at decode ⊢
    cases dataType : PropertyDataType.ofCode typeCode with
    | int128 | uint128 | undefined =>
        rw [dataType] at decode
        cases decode
        rfl
    | int8 | uint8 | int16 | uint16 | int32 | uint32 | int64 | uint64 | string | unknown code =>
        rw [dataType] at decode
        dsimp only at decode ⊢
        obtain ⟨result, read, same⟩ := map_eq_ok.mp decode
        cases same
        exact map_eq_ok.mpr ⟨_, (PropertyValue.delimited _).stable read more, rfl⟩

theorem readValue_ok {input : Bytes} {value : Option PropertyValue} {taken : Nat} :
    readValue usizeBits typeCode property input = .ok (value, taken) ↔
      decodeValue usizeBits typeCode input = .ok (value, taken) ∧ taken ≤ input.length := by
  unfold readValue
  cases decode : decodeValue usizeBits typeCode input with
  | error e => simp [bind, Except.bind]
  | ok result =>
      simp only [bind, Except.bind, Except.ok.injEq]
      by_cases short : input.length < result.2
      · rw [if_pos short]
        simp only [reduceCtorEq, false_iff, not_and]
        intro same
        rw [same] at short
        exact Nat.not_le_of_lt short
      · rw [if_neg short, Except.ok.injEq]
        refine ⟨fun same => ⟨same, ?_⟩, fun both => both.1⟩
        have total : result.2 = taken := congrArg Prod.snd same
        rw [← total]
        exact Nat.le_of_not_lt short

/-- Stepping over a value lands on what follows it. -/
theorem delimited_value : Delimited (readValue usizeBits typeCode property) where
  within read := (readValue_ok.mp read).2
  stable {input value taken} read more := by
    obtain ⟨decode, within⟩ := readValue_ok.mp read
    apply readValue_ok.mpr ⟨decodeValue_front decode more, _⟩
    rw [List.length_append, List.length_take_of_le within]
    omega

theorem delimited_element : Delimited (readElement usizeBits) :=
  delimited_u32.bind fun _ => delimited_u16.bind fun _ => delimited_u16.bind fun _ =>
    delimited_value.bind fun _ => .pure _

theorem delimited_list : Delimited (readList usizeBits) :=
  delimited_u32.bind fun count => delimited_element.many count.toNat

theorem writes_elements {elements : List WireElement}
    (addressable : ∀ element ∈ elements, Addressable usizeBits element.toBytes) :
    Writes (many (readElement usizeBits) elements.length) (elements.flatMap WireElement.toBytes)
      (elements.map WireElement.decoded) :=
  .many fun element mem => writes_element element (addressable element mem)

theorem decodeValue_unsizable (unsizable : ¬ Sizable typeCode) (rest : Bytes) :
    ∃ e, decodeValue usizeBits typeCode rest = .error e := by
  rw [Sizable, not_or, not_forall] at unsizable
  obtain ⟨scalar, code, unknown⟩ := unsizable
  rw [not_not] at unknown
  rw [decodeValue, if_neg scalar, unknown]
  exact ⟨_, rfl⟩

/-- A data type that cannot be sized stops the parser. -/
theorem refuses_unsizable (unsizable : ¬ Sizable typeCode) (handle : UInt32) (code : UInt16) :
    Refuses (readElement usizeBits) (packU32 handle ++ (packU16 code ++ packU16 typeCode)) := by
  have value : ∀ property, Refuses (readValue usizeBits typeCode property) [] := by
    intro property rest
    obtain ⟨e, refused⟩ : ∃ e, decodeValue usizeBits typeCode rest = .error e :=
      decodeValue_unsizable unsizable rest
    refine ⟨e, ?_⟩
    rw [List.nil_append, readValue, refused]
    rfl
  unfold readElement
  apply (writes_u32 handle).refuses
  apply (writes_u16 code).refuses
  rw [← List.append_nil (packU16 typeCode)]
  apply (writes_u16 typeCode).refuses
  exact (value (.ofCode code)).front

end

end ObjectPropListElement

open ObjectPropListElement

section

variable {usizeBits : Nat} {elements : List WireElement}

theorem element_addressable
    (addressable : Addressable usizeBits (WireElement.listToBytes elements)) :
    ∀ element ∈ elements, Addressable usizeBits element.toBytes := by
  intro element mem
  obtain ⟨before, later, rfl⟩ := List.append_of_mem mem
  apply addressable.mono
  simp only [WireElement.listToBytes, List.flatMap_append, List.flatMap_cons, List.length_append]
  omega

theorem writes_list (few : elements.length < 2 ^ 32)
    (addressable : Addressable usizeBits (WireElement.listToBytes elements)) :
    Writes (readList usizeBits) (WireElement.listToBytes elements)
      (elements.map WireElement.decoded) := by
  have count : (UInt32.ofNat elements.length).toNat = elements.length := by
    rw [UInt32.toNat_ofNat']
    exact Nat.mod_eq_of_lt few
  apply (writes_u32 (UInt32.ofNat elements.length)).bind
  rw [count]
  exact writes_elements (element_addressable addressable)

end

/-- A property list is parsed to the elements it was written from, whatever follows it. Cut short it
is refused, and so is a data type that cannot be sized, after any elements. -/
theorem property_list_grammar (usizeBits : Nat) (elements : List WireElement)
    (few : elements.length < 2 ^ 32)
    (addressable : Addressable usizeBits (WireElement.listToBytes elements)) :
    (∀ rest, listFromBytes usizeBits (WireElement.listToBytes elements ++ rest) =
        .ok (elements.map WireElement.decoded)) ∧
      (∀ front, front <+: WireElement.listToBytes elements →
        front ≠ WireElement.listToBytes elements →
        ∃ e, listFromBytes usizeBits front = .error e) ∧
      ∀ (count : UInt32) (handle : UInt32) (property typeCode : UInt16) (rest : Bytes),
        elements.length < count.toNat → ¬ Sizable typeCode →
        ∃ e, listFromBytes usizeBits (packU32 count ++ (elements.flatMap WireElement.toBytes ++
          (packU32 handle ++ (packU16 property ++ packU16 typeCode))) ++ rest) = .error e := by
  have writes := writes_list few addressable
  refine ⟨?_, ?_, ?_⟩
  · intro rest
    rw [listFromBytes, writes rest]
    rfl
  · intro front short cut
    obtain ⟨e, refused⟩ := delimited_list.refuses_front writes short cut
    exact ⟨e, by rw [listFromBytes, refused]; rfl⟩
  · intro count handle property typeCode rest more unsizable
    have each : ∀ element ∈ elements, Writes (readElement usizeBits) element.toBytes
        element.decoded := fun element mem =>
      writes_element element (element_addressable addressable element mem)
    have refuses : Refuses (readList usizeBits) (packU32 count ++
        (elements.flatMap WireElement.toBytes ++
          (packU32 handle ++ (packU16 property ++ packU16 typeCode)))) := by
      apply (writes_u32 count).refuses
      exact (refuses_unsizable unsizable handle property).many each more
    obtain ⟨e, refused⟩ := refuses rest
    exact ⟨e, by rw [listFromBytes, refused]; rfl⟩

/-- A file's name, size and two of its tags. -/
def describedPhoto : List WireElement :=
  [⟨7, .objectFileName, rfl, .scalar (.string "a.jpg") fun s same => by
      cases same
      decide⟩,
    ⟨7, .objectSize, rfl, .scalar (.uint64 5) (by intro s same; cases same)⟩,
    ⟨7, .unknown 0xDC50, rfl, .array .uint16 2 rfl [[1, 0], [2, 0]] (by simp) (by decide)⟩,
    ⟨7, .unknown 0xDC41, rfl, .wide false (List.replicate 16 0) rfl⟩]

theorem property_list_grammar_photo :
    (∀ rest, listFromBytes 32 (WireElement.listToBytes describedPhoto ++ rest) =
        .ok (describedPhoto.map WireElement.decoded)) ∧
      (∀ front, front <+: WireElement.listToBytes describedPhoto →
        front ≠ WireElement.listToBytes describedPhoto →
        ∃ e, listFromBytes 32 front = .error e) ∧
      ∀ (count : UInt32) (handle : UInt32) (property typeCode : UInt16) (rest : Bytes),
        describedPhoto.length < count.toNat → ¬ Sizable typeCode →
        ∃ e, listFromBytes 32 (packU32 count ++ (describedPhoto.flatMap WireElement.toBytes ++
          (packU32 handle ++ (packU16 property ++ packU16 typeCode))) ++ rest) = .error e :=
  property_list_grammar 32 describedPhoto (by decide) (Or.inr (by decide))

end Ptp
