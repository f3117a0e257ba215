import MtpRs.Ptp.Arrays

set_option autoImplicit false

/- The USB container format: a twelve-byte header, then parameters or payload. -/
namespace Ptp

def headerSize : Nat := 12

inductive ContainerType where
  | command
  | data
  | response
  | event
deriving DecidableEq, Repr

namespace ContainerType

def ofCode (code : UInt16) : Option ContainerType :=
  match code with
  | 1 => some command
  | 2 => some data
  | 3 => some response
  | 4 => some event
  | _ => none

def toCode : ContainerType → UInt16
  | command => 1
  | data => 2
  | response => 3
  | event => 4

/-- The name `{:?}` prints. -/
def name : ContainerType → String
  | command => "Command"
  | data => "Data"
  | response => "Response"
  | event => "Event"

@[simp] theorem ofCode_toCode (type : ContainerType) : ofCode type.toCode = some type := by
  cases type <;> rfl

theorem toCode_of_ofCode {code : UInt16} {type : ContainerType} (read : ofCode code = some type) :
    type.toCode = code := by
  unfold ofCode at read
  split at read <;> cases read <;> rfl

end ContainerType

/-- The four fields every container starts with. -/
structure ContainerHeader where
  length : UInt32
  typeCode : UInt16
  code : UInt16
  transactionId : UInt32
deriving DecidableEq, Repr

def packHeader (header : ContainerHeader) : Bytes :=
  packU32 header.length ++ packU16 header.typeCode ++ packU16 header.code ++
    packU32 header.transactionId

/-- The reads `buf[0..4]`, `buf[4..6]`, `buf[6..8]` and `buf[8..12]`. -/
def unpackHeader (buf : Bytes) : Except PtpError ContainerHeader := do
  let length ← unpackU32 (buf.take 4)
  let typeCode ← unpackU16 ((buf.take 6).drop 4)
  let code ← unpackU16 ((buf.take 8).drop 6)
  let transactionId ← unpackU32 ((buf.take 12).drop 8)
  return ⟨length, typeCode, code, transactionId⟩

@[simp] theorem packHeader_length (header : ContainerHeader) :
    (packHeader header).length = headerSize := rfl

/-- Only the first twelve bytes decide the header. -/
theorem unpackHeader_append {front : Bytes} (long : headerSize ≤ front.length) (rest : Bytes) :
    unpackHeader (front ++ rest) = unpackHeader front := by
  unfold headerSize at long
  unfold unpackHeader
  rw [List.take_append_of_le_length (show 4 ≤ front.length by omega),
    List.take_append_of_le_length (show 6 ≤ front.length by omega),
    List.take_append_of_le_length (show 8 ≤ front.length by omega),
    List.take_append_of_le_length (show 12 ≤ front.length by omega)]

/-- A buffer of at least twelve bytes is a packed header and the rest. -/
theorem exists_header {buf : Bytes} (long : headerSize ≤ buf.length) :
    ∃ header, unpackHeader buf = .ok header := by
  unfold headerSize at long
  obtain ⟨length, readLength⟩ := unpackU32_of_length (show 4 ≤ (buf.take 4).length by
    rw [List.length_take]; omega)
  obtain ⟨typeCode, readType⟩ := unpackU16_of_length (show 2 ≤ ((buf.take 6).drop 4).length by
    rw [List.length_drop, List.length_take]; omega)
  obtain ⟨code, readCode⟩ := unpackU16_of_length (show 2 ≤ ((buf.take 8).drop 6).length by
    rw [List.length_drop, List.length_take]; omega)
  obtain ⟨transactionId, readId⟩ := unpackU32_of_length (show 4 ≤ ((buf.take 12).drop 8).length by
    rw [List.length_drop, List.length_take]; omega)
  refine ⟨⟨length, typeCode, code, transactionId⟩, ?_⟩
  simp only [unpackHeader, readLength, readType, readCode, readId]
  rfl

/-- The fields `unpack_u32` and `unpack_u16` read by themselves. -/
theorem unpackHeader_fields {buf : Bytes} {header : ContainerHeader}
    (read : unpackHeader buf = .ok header) :
    unpackU32 (buf.take 4) = .ok header.length ∧
      unpackU16 ((buf.take 6).drop 4) = .ok header.typeCode := by
  unfold unpackHeader at read
  cases length : unpackU32 (buf.take 4) with
  | error e => rw [length] at read; cases read
  | ok length =>
      cases typeCode : unpackU16 ((buf.take 6).drop 4) with
      | error e => rw [length, typeCode] at read; cases read
      | ok typeCode =>
          cases code : unpackU16 ((buf.take 8).drop 6) with
          | error e => rw [length, typeCode, code] at read; cases read
          | ok code =>
              cases txId : unpackU32 ((buf.take 12).drop 8) with
              | error e => rw [length, typeCode, code, txId] at read; cases read
              | ok transactionId =>
                  rw [length, typeCode, code, txId] at read
                  cases read
                  exact ⟨rfl, rfl⟩

@[simp] theorem unpackHeader_packHeader (header : ContainerHeader) (rest : Bytes) :
    unpackHeader (packHeader header ++ rest) = .ok header := by
  rw [unpackHeader_append (show headerSize ≤ (packHeader header).length from Nat.le_refl _)]
  have length : unpackU32 ((packHeader header).take 4) = .ok header.length :=
    unpackU32_packU32 header.length []
  have typeCode : unpackU16 (((packHeader header).take 6).drop 4) = .ok header.typeCode :=
    unpackU16_packU16 header.typeCode []
  have code : unpackU16 (((packHeader header).take 8).drop 6) = .ok header.code :=
    unpackU16_packU16 header.code []
  have transactionId :
      unpackU32 (((packHeader header).take 12).drop 8) = .ok header.transactionId :=
    unpackU32_packU32 header.transactionId []
  simp only [unpackHeader, length, typeCode, code, transactionId]
  rfl

def containerType (buf : Bytes) : Except PtpError ContainerType :=
  if buf.length < headerSize then
    .error (.invalidData ("container too small: need at least " ++ toString headerSize ++
      " bytes, have " ++ toString buf.length))
  else do
    let typeCode ← unpackU16 ((buf.take 6).drop 4)
    match ContainerType.ofCode typeCode with
    | some type => .ok type
    | none => .error (.invalidData ("invalid container type: " ++ toString typeCode))

theorem length_of_containerType {buf : Bytes} {type : ContainerType}
    (read : containerType buf = .ok type) : headerSize ≤ buf.length := by
  unfold containerType at read
  split at read
  · cases read
  · omega

theorem unpackHeader_failsInvalid (buf : Bytes) : FailsInvalid (unpackHeader buf) :=
  .bind (unpackU32_failsInvalid _) fun _ => .bind (unpackU16_failsInvalid _) fun _ =>
    .bind (unpackU16_failsInvalid _) fun _ => .bind (unpackU32_failsInvalid _) fun _ => .ok _

theorem containerType_failsInvalid (buf : Bytes) : FailsInvalid (containerType buf) := by
  unfold containerType
  split
  · exact .invalidData _
  · apply FailsInvalid.bind (unpackU16_failsInvalid _)
    intro typeCode
    split
    · exact .ok _
    · exact .invalidData _

/-- The type is read off the header's type field. -/
theorem containerType_of_header {buf : Bytes} {header : ContainerHeader} {type : ContainerType}
    (long : headerSize ≤ buf.length) (read : unpackHeader buf = .ok header)
    (known : ContainerType.ofCode header.typeCode = some type) :
    containerType buf = .ok type := by
  have short : ¬ buf.length < headerSize := by omega
  unfold containerType
  simp only [short, ↓reduceIte, (unpackHeader_fields read).2]
  change (match ContainerType.ofCode header.typeCode with
    | some type => Except.ok type
    | none => _) = _
  rw [known]

theorem header_of_containerType {buf : Bytes} {type : ContainerType}
    (found : containerType buf = .ok type) :
    ∃ header, unpackHeader buf = .ok header ∧ header.typeCode = type.toCode := by
  unfold containerType at found
  split at found
  · cases found
  · rename_i long
    obtain ⟨header, read⟩ := exists_header (Nat.le_of_not_lt long)
    refine ⟨header, read, ?_⟩
    rw [(unpackHeader_fields read).2] at found
    simp only [bind, Except.bind] at found
    split at found
    · rename_i known
      cases found
      exact (ContainerType.toCode_of_ofCode known).symm
    · cases found

structure CommandContainer where
  code : OperationCode
  transactionId : UInt32
  params : List UInt32
deriving DecidableEq, Repr

def CommandContainer.toBytes (self : CommandContainer) : Bytes :=
  packHeader ⟨UInt32.ofNat (headerSize + self.params.length * 4), ContainerType.command.toCode,
    self.code.toCode, self.transactionId⟩ ++ self.params.flatMap packU32

structure DataContainer where
  code : OperationCode
  transactionId : UInt32
  payload : Bytes
deriving DecidableEq, Repr

namespace DataContainer

/-- The header of `toBytes`, with the length field `total_len as u32`. -/
def header (self : DataContainer) : ContainerHeader :=
  ⟨UInt32.ofNat (headerSize + self.payload.length), ContainerType.data.toCode, self.code.toCode,
    self.transactionId⟩

def toBytes (self : DataContainer) : Bytes :=
  packHeader self.header ++ self.payload

def fromBytes (buf : Bytes) : Except PtpError DataContainer :=
  if buf.length < headerSize then
    .error (.invalidData ("data container too small: need at least " ++ toString headerSize ++
      " bytes, have " ++ toString buf.length))
  else do
    let header ← unpackHeader buf
    let length := header.length.toNat
    if header.typeCode ≠ ContainerType.data.toCode then
      .error (.invalidData ("expected Data container type (" ++
        toString ContainerType.data.toCode ++ "), got " ++ toString header.typeCode))
    else if length < headerSize then
      .error (.invalidData ("data container length too small: " ++ toString length ++
        " < header size " ++ toString headerSize))
    else if buf.length < length then
      .error (.invalidData ("data container length mismatch: header says " ++ toString length ++
        ", have " ++ toString buf.length))
    else
      .ok ⟨OperationCode.ofCode header.code, header.transactionId,
        (buf.take length).drop headerSize⟩

theorem fromBytes_failsInvalid (buf : Bytes) : FailsInvalid (fromBytes buf) := by
  unfold fromBytes
  split
  · exact .invalidData _
  · apply FailsInvalid.bind (unpackHeader_failsInvalid buf)
    intro header
    dsimp only
    split
    · exact .invalidData _
    · split
      · exact .invalidData _
      · split
        · exact .invalidData _
        · exact .ok _

/-- What a buffer that parses as a data container looks like. -/
structure Parsed (buf : Bytes) (container : DataContainer) (header : ContainerHeader) : Prop where
  long : headerSize ≤ buf.length
  read : unpackHeader buf = .ok header
  type : header.typeCode = ContainerType.data.toCode
  least : headerSize ≤ header.length.toNat
  inside : header.length.toNat ≤ buf.length
  transactionId : container.transactionId = header.transactionId
  payload : container.payload = (buf.take header.length.toNat).drop headerSize

theorem parsed_of_fromBytes {buf : Bytes} {container : DataContainer}
    (parsed : fromBytes buf = .ok container) : ∃ header, Parsed buf container header := by
  unfold fromBytes at parsed
  split at parsed
  · cases parsed
  · rename_i long
    obtain ⟨header, read⟩ := exists_header (Nat.le_of_not_lt long)
    rw [read] at parsed
    simp only [bind, Except.bind] at parsed
    split at parsed
    · cases parsed
    · rename_i type
      split at parsed
      · cases parsed
      · rename_i least
        split at parsed
        · cases parsed
        · rename_i inside
          cases parsed
          exact ⟨header, Nat.le_of_not_lt long, read, Decidable.not_not.mp type,
            Nat.le_of_not_lt least, Nat.le_of_not_lt inside, rfl, rfl⟩

end DataContainer

/-- Response container from the device. -/
structure ResponseContainer where
  code : ResponseCode
  transactionId : UInt32
  params : List UInt32
deriving DecidableEq, Repr

namespace ResponseContainer

def fromBytes (buf : Bytes) : Except PtpError ResponseContainer :=
  if buf.length < headerSize then
    .error (.invalidData ("response container too small: need at least " ++ toString headerSize ++
      " bytes, have " ++ toString buf.length))
  else do
    let header ← unpackHeader buf
    let length := header.length.toNat
    if header.typeCode ≠ ContainerType.response.toCode then
      .error (.invalidData ("expected Response container type (" ++
        toString ContainerType.response.toCode ++ "), got " ++ toString header.typeCode))
    else if length < headerSize then
      .error (.invalidData ("response container length too small: " ++ toString length ++
        " < header size " ++ toString headerSize))
    else if buf.length < length then
      .error (.invalidData ("response container length mismatch: header says " ++
        toString length ++ ", have " ++ toString buf.length))
    else if (length - headerSize) % 4 ≠ 0 then
      .error (.invalidData ("response parameter bytes not aligned: " ++
        toString (length - headerSize) ++ " bytes"))
    else do
      let params ← (List.range ((length - headerSize) / 4)).mapM
        fun i => unpackU32 (buf.drop (headerSize + i * 4))
      return ⟨ResponseCode.ofCode header.code, header.transactionId, params⟩

theorem fromBytes_failsInvalid (buf : Bytes) : FailsInvalid (fromBytes buf) := by
  unfold fromBytes
  split
  · exact .invalidData _
  · apply FailsInvalid.bind (unpackHeader_failsInvalid buf)
    intro header
    dsimp only
    split
    · exact .invalidData _
    · split
      · exact .invalidData _
      · split
        · exact .invalidData _
        · split
          · exact .invalidData _
          · apply FailsInvalid.bind (.mapM (fun _ => unpackU32_failsInvalid _) _)
            intro params
            exact .ok _

/-- What a buffer that parses as a response looks like. -/
structure Parsed (buf : Bytes) (response : ResponseContainer) (header : ContainerHeader) :
    Prop where
  long : headerSize ≤ buf.length
  read : unpackHeader buf = .ok header
  type : header.typeCode = ContainerType.response.toCode
  least : headerSize ≤ header.length.toNat
  inside : header.length.toNat ≤ buf.length
  transactionId : response.transactionId = header.transactionId
  code : response.code = ResponseCode.ofCode header.code

theorem parsed_of_fromBytes {buf : Bytes} {response : ResponseContainer}
    (parsed : fromBytes buf = .ok response) : ∃ header, Parsed buf response header := by
  unfold fromBytes at parsed
  split at parsed
  · cases parsed
  · rename_i long
    obtain ⟨header, read⟩ := exists_header (Nat.le_of_not_lt long)
    rw [read] at parsed
    simp only [bind, Except.bind] at parsed
    split at parsed
    · cases parsed
    · rename_i type
      split at parsed
      · cases parsed
      · rename_i least
        split at parsed
        · cases parsed
        · rename_i inside
          split at parsed
          · cases parsed
          · split at parsed
            · cases parsed
            · cases parsed
              exact ⟨header, Nat.le_of_not_lt long, read, Decidable.not_not.mp type,
                Nat.le_of_not_lt least, Nat.le_of_not_lt inside, rfl, rfl⟩

/-- A buffer that parses as a response is of response type. -/
theorem containerType_of_fromBytes {buf : Bytes} {response : ResponseContainer}
    (parsed : fromBytes buf = .ok response) : containerType buf = .ok .response := by
  obtain ⟨header, view⟩ := parsed_of_fromBytes parsed
  exact containerType_of_header view.long view.read (by rw [view.type]; rfl)

/-- A response is read from its own bytes alone. -/
theorem Parsed.fromBytes_take {buf : Bytes} {response : ResponseContainer}
    {header : ContainerHeader} (view : Parsed buf response header)
    (parsed : fromBytes buf = .ok response) :
    fromBytes (buf.take header.length.toNat) = .ok response := by
  have least := view.least
  have inside := view.inside
  obtain ⟨rest, split⟩ := List.take_prefix header.length.toNat buf
  have length : (buf.take header.length.toNat).length = header.length.toNat := by
    rw [List.length_take, Nat.min_eq_left inside]
  generalize buf.take header.length.toNat = front at split length ⊢
  subst split
  have read : unpackHeader front = .ok header := by
    rw [← unpackHeader_append (by omega) rest, view.read]
  have long : ¬ front.length < headerSize := by omega
  have long' : ¬ (front ++ rest).length < headerSize := by
    rw [List.length_append]
    omega
  unfold fromBytes at parsed ⊢
  rw [if_neg long', view.read] at parsed
  rw [if_neg long, read]
  simp only [bind, Except.bind, view.type, ne_eq, not_true_eq_false, ↓reduceIte,
    Nat.not_lt.mpr least, Nat.not_lt.mpr inside, length, Nat.lt_irrefl] at parsed ⊢
  split at parsed
  · cases parsed
  · rename_i aligned
    rw [if_neg aligned]
    cases mapped : (List.range ((header.length.toNat - headerSize) / 4)).mapM
        fun i => unpackU32 ((front ++ rest).drop (headerSize + i * 4)) with
    | error e =>
        rw [mapped] at parsed
        cases parsed
    | ok params =>
        rw [mapped] at parsed
        have same : (List.range ((header.length.toNat - headerSize) / 4)).mapM
            (fun i => unpackU32 (front.drop (headerSize + i * 4))) = .ok params := by
          refine mapM_congr (fun i within value unpacked => ?_) mapped
          have bound := List.mem_range.mp within
          rw [List.drop_append_of_le_length (by omega),
            unpackU32_append (by rw [List.length_drop]; omega)] at unpacked
          exact unpacked
        rw [same]
        exact parsed

/-- The bytes are this response and nothing else. -/
def Fills (response : ResponseContainer) (bytes : Bytes) : Prop :=
  fromBytes bytes = .ok response ∧
    ∃ header, unpackHeader bytes = .ok header ∧ header.length.toNat = bytes.length

theorem Parsed.fills {buf : Bytes} {response : ResponseContainer} {header : ContainerHeader}
    (view : Parsed buf response header) (parsed : fromBytes buf = .ok response) :
    response.Fills (buf.take header.length.toNat) := by
  have least := view.least
  have inside := view.inside
  have length : (buf.take header.length.toNat).length = header.length.toNat := by
    rw [List.length_take, Nat.min_eq_left inside]
  refine ⟨view.fromBytes_take parsed, header, ?_, length.symm⟩
  rw [← unpackHeader_append (by omega) (buf.drop header.length.toNat), List.take_append_drop]
  exact view.read

theorem Fills.long {response : ResponseContainer} {bytes : Bytes} (fills : response.Fills bytes) :
    headerSize ≤ bytes.length := by
  obtain ⟨header, view⟩ := parsed_of_fromBytes fills.1
  exact view.long

/-- A buffer that parses as a response starts with the bytes of it. -/
theorem exists_fills {buf : Bytes} {response : ResponseContainer}
    (parsed : fromBytes buf = .ok response) :
    ∃ bytes rest, buf = bytes ++ rest ∧ response.Fills bytes := by
  obtain ⟨header, view⟩ := parsed_of_fromBytes parsed
  exact ⟨_, _, (List.take_append_drop header.length.toNat buf).symm, view.fills parsed⟩

end ResponseContainer

namespace DataContainer

variable (self : DataContainer)

@[simp] theorem toBytes_length : self.toBytes.length = headerSize + self.payload.length := by
  simp only [toBytes, List.length_append, packHeader_length]

@[simp] theorem drop_toBytes : self.toBytes.drop headerSize = self.payload :=
  List.drop_left' (packHeader_length self.header)

theorem header_length (fits : headerSize + self.payload.length < 2 ^ 32) :
    self.header.length.toNat = headerSize + self.payload.length := by
  simp only [header, UInt32.toNat_ofNat', Nat.mod_eq_of_lt fits]

theorem containerType_toBytes (rest : Bytes) :
    containerType (self.toBytes ++ rest) = .ok .data := by
  have long : headerSize ≤ (self.toBytes ++ rest).length := by
    simp only [List.length_append, toBytes_length]
    omega
  have read : unpackHeader (self.toBytes ++ rest) = .ok self.header := by
    rw [toBytes, List.append_assoc]
    exact unpackHeader_packHeader self.header _
  exact containerType_of_header long read rfl

/-- A long enough front of a container holds its header. -/
theorem header_of_front {piece more rest : Bytes} (front : piece ++ more = self.toBytes ++ rest)
    (long : headerSize ≤ piece.length) : unpackHeader piece = .ok self.header := by
  rw [← unpackHeader_append long more, front, toBytes, List.append_assoc]
  exact unpackHeader_packHeader self.header _

theorem length_of_front {piece more rest : Bytes} (front : piece ++ more = self.toBytes ++ rest)
    (long : headerSize ≤ piece.length) : unpackU32 (piece.take 4) = .ok self.header.length := by
  have taken := congrArg (List.take 4) front
  rw [List.take_append_of_le_length (Nat.le_trans (by decide) long)] at taken
  rw [taken]
  exact unpackU32_packU32 self.header.length []

/-- A container is read back from the front of any buffer that holds it whole. -/
theorem fromBytes_toBytes (fits : headerSize + self.payload.length < 2 ^ 32) (rest : Bytes) :
    fromBytes (self.toBytes ++ rest) =
      .ok ⟨OperationCode.ofCode self.code.toCode, self.transactionId, self.payload⟩ := by
  have total := self.header_length fits
  have long : ¬ (self.toBytes ++ rest).length < headerSize := by
    simp only [List.length_append, toBytes_length]
    omega
  have inside : ¬ (self.toBytes ++ rest).length < self.header.length.toNat := by
    rw [total]
    simp only [List.length_append, toBytes_length]
    omega
  have least : ¬ self.header.length.toNat < headerSize := by omega
  have read : unpackHeader (self.toBytes ++ rest) = .ok self.header := by
    rw [toBytes, List.append_assoc]
    exact unpackHeader_packHeader self.header _
  unfold fromBytes
  simp only [long, ↓reduceIte, read, bind, Except.bind, inside, least]
  rw [total, List.take_left' (self.toBytes_length), toBytes, List.drop_left' (packHeader_length _)]
  rfl

end DataContainer

end Ptp
