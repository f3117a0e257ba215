import MtpRs.Ptp.Container

set_option autoImplicit false

/- Event containers, and which buffers each reader takes for a container. -/
namespace Ptp

/-- Event container from the device. -/
structure EventContainer where
  code : EventCode
  transactionId : UInt32
  params : Vector UInt32 3
deriving DecidableEq, Repr

namespace EventContainer

def maxEventSize : Nat := headerSize + 12

def paramOr0 (present : Bool) (bytes : Bytes) : Except PtpError UInt32 :=
  if present then unpackU32 bytes else .ok 0

def fromBytes (buf : Bytes) : Except PtpError EventContainer :=
  if buf.length < headerSize then
    .error (.invalidData ("event container too small: need at least " ++ toString headerSize ++
      " bytes, have " ++ toString buf.length))
  else do
    let header ← unpackHeader buf
    let length := header.length.toNat
    if header.typeCode ≠ ContainerType.event.toCode then
      .error (.invalidData ("expected Event container type (" ++
        toString ContainerType.event.toCode ++ "), got " ++ toString header.typeCode))
    else if ¬ (headerSize ≤ length ∧ length ≤ maxEventSize) then
      .error (.invalidData ("event container invalid size: expected 12-24, got " ++
        toString length))
    else if (length - headerSize) % 4 ≠ 0 then
      .error (.invalidData ("event parameter bytes not aligned: " ++
        toString (length - headerSize) ++ " bytes"))
    else if buf.length < length then
      .error (.invalidData ("event container buffer too small: need " ++ toString length ++
        ", have " ++ toString buf.length))
    else do
      let paramCount := (length - headerSize) / 4
      let param1 ← paramOr0 (1 ≤ paramCount) ((buf.take 16).drop 12)
      let param2 ← paramOr0 (2 ≤ paramCount) ((buf.take 20).drop 16)
      let param3 ← paramOr0 (3 ≤ paramCount) ((buf.take 24).drop 20)
      return ⟨EventCode.ofCode header.code, header.transactionId, #v[param1, param2, param3]⟩

def firstThree (params : List UInt32) : Vector UInt32 3 :=
  #v[params[0]?.getD 0, params[1]?.getD 0, params[2]?.getD 0]

end EventContainer

/-- A container of a type at the front of a buffer, with what follows its header of a size that
fits. -/
structure Accepted (type : ContainerType) (fits : Nat → Prop) (buf : Bytes)
    (header : ContainerHeader) : Prop where
  long : headerSize ≤ buf.length
  read : unpackHeader buf = .ok header
  type : header.typeCode = type.toCode
  least : headerSize ≤ header.length.toNat
  inside : header.length.toNat ≤ buf.length
  fits : fits (header.length.toNat - headerSize)

def body (header : ContainerHeader) (buf : Bytes) : Bytes :=
  (buf.take header.length.toNat).drop headerSize

section

variable {type : ContainerType} {fits : Nat → Prop} {buf : Bytes} {header : ContainerHeader}

/-- Only as many bytes as the length field says matter. -/
theorem Accepted.front (accepted : Accepted type fits buf header) (more : Bytes) :
    Accepted type fits (buf.take header.length.toNat ++ more) header ∧
      body header (buf.take header.length.toNat ++ more) = body header buf := by
  have taken : (buf.take header.length.toNat).length = header.length.toNat :=
    List.length_take_of_le accepted.inside
  have long : headerSize ≤ (buf.take header.length.toNat).length := by
    rw [taken]
    exact accepted.least
  have least := accepted.least
  have read := accepted.read
  rw [← List.take_append_drop header.length.toNat buf, unpackHeader_append long] at read
  refine ⟨⟨?_, ?_, accepted.type, accepted.least, ?_, accepted.fits⟩, ?_⟩
  · rw [List.length_append, taken]
    omega
  · rw [unpackHeader_append long]
    exact read
  · rw [List.length_append, taken]
    omega
  · rw [body, body, List.take_left' taken]

/-- Four bytes are a word, packed. -/
theorem exists_packU32 {bytes : Bytes} (four : bytes.length = 4) :
    ∃ value, packU32 value = bytes := by
  match bytes, four with
  | [b0, b1, b2, b3], _ =>
      have h0 := b0.toNat_lt
      have h1 := b1.toNat_lt
      have h2 := b2.toNat_lt
      have h3 := b3.toNat_lt
      refine ⟨UInt32.ofNat (b0.toNat + 2 ^ 8 * b1.toNat + 2 ^ 16 * b2.toNat + 2 ^ 24 * b3.toNat),
        ?_⟩
      unfold packU32
      rw [UInt32.toNat_ofNat', Nat.mod_eq_of_lt (by omega)]
      have first : UInt8.ofNat
          (b0.toNat + 2 ^ 8 * b1.toNat + 2 ^ 16 * b2.toNat + 2 ^ 24 * b3.toNat) = b0 := by
        apply UInt8.toNat_inj.mp
        rw [UInt8.toNat_ofNat']
        omega
      have second : UInt8.ofNat ((b0.toNat + 2 ^ 8 * b1.toNat + 2 ^ 16 * b2.toNat +
          2 ^ 24 * b3.toNat) / 2 ^ 8) = b1 := by
        apply UInt8.toNat_inj.mp
        rw [UInt8.toNat_ofNat']
        omega
      have third : UInt8.ofNat ((b0.toNat + 2 ^ 8 * b1.toNat + 2 ^ 16 * b2.toNat +
          2 ^ 24 * b3.toNat) / 2 ^ 16) = b2 := by
        apply UInt8.toNat_inj.mp
        rw [UInt8.toNat_ofNat']
        omega
      have fourth : UInt8.ofNat ((b0.toNat + 2 ^ 8 * b1.toNat + 2 ^ 16 * b2.toNat +
          2 ^ 24 * b3.toNat) / 2 ^ 24) = b3 := by
        apply UInt8.toNat_inj.mp
        rw [UInt8.toNat_ofNat']
        omega
      rw [first, second, third, fourth]

theorem flatMap_packU32_length (params : List UInt32) :
    (params.flatMap packU32).length = params.length * 4 := by
  induction params with
  | nil => rfl
  | cons param params ih =>
      rw [List.flatMap_cons, List.length_append, ih, packU32_length, List.length_cons]
      omega

/-- Bytes in whole words are parameters, packed. -/
theorem exists_params (bytes : Bytes) (aligned : bytes.length % 4 = 0) :
    ∃ params : List UInt32, params.flatMap packU32 = bytes := by
  induction count : bytes.length / 4 generalizing bytes with
  | zero =>
      have empty : bytes = [] := List.length_eq_zero_iff.mp (by omega)
      exact ⟨[], empty.symm⟩
  | succ count ih =>
      have front : (bytes.take 4).length = 4 := by
        rw [List.length_take]
        omega
      have rest : (bytes.drop 4).length = bytes.length - 4 := List.length_drop ..
      obtain ⟨param, packed⟩ := exists_packU32 front
      obtain ⟨params, others⟩ := ih (bytes.drop 4) (by omega) (by omega)
      refine ⟨param :: params, ?_⟩
      rw [List.flatMap_cons, packed, others, List.take_append_drop]

theorem drop_params {params : List UInt32} {param : UInt32} {i : Nat}
    (there : params[i]? = some param) (rest : Bytes) :
    ∃ more, (params.flatMap packU32 ++ rest).drop (i * 4) = packU32 param ++ more := by
  induction params generalizing i with
  | nil => cases there
  | cons first params ih =>
      cases i with
      | zero =>
          cases there
          refine ⟨params.flatMap packU32 ++ rest, ?_⟩
          rw [Nat.zero_mul, List.drop_zero, List.flatMap_cons, List.append_assoc]
      | succ i =>
          have skipped : (i + 1) * 4 = 4 + i * 4 := by omega
          rw [List.flatMap_cons, List.append_assoc, skipped, ← List.drop_drop,
            List.drop_left' (packU32_length first)]
          exact ih there

/-- Parameters are unpacked in turn. -/
theorem mapM_params (params : List UInt32) (rest : Bytes) (count : Nat)
    (counted : count ≤ params.length) :
    (List.range count).mapM (fun i => unpackU32 ((params.flatMap packU32 ++ rest).drop (i * 4))) =
      .ok (params.take count) := by
  induction count with
  | zero => rfl
  | succ count ih =>
      obtain ⟨more, there⟩ := drop_params (List.getElem?_eq_getElem counted) rest
      have one : [count].mapM
          (fun i => unpackU32 ((params.flatMap packU32 ++ rest).drop (i * 4))) =
            .ok [params[count]] := by
        rw [List.mapM_cons, there, unpackU32_packU32]
        rfl
      rw [List.range_succ, List.mapM_append, ih (by omega), one,
        ← List.take_append_getElem counted]
      rfl

theorem body_length (accepted : Accepted type fits buf header) :
    (body header buf).length = header.length.toNat - headerSize := by
  rw [body, List.length_drop, List.length_take_of_le accepted.inside]

/-- What follows the header of a container, and what follows the container. -/
theorem drop_header (accepted : Accepted type fits buf header) :
    buf.drop headerSize = body header buf ++ buf.drop header.length.toNat := by
  have split := List.take_append_drop (header.length.toNat - headerSize) (buf.drop headerSize)
  rw [List.drop_drop, Nat.add_sub_of_le accepted.least] at split
  rw [body, List.drop_take]
  exact split.symm

/-- Parameters that are all that follows the header. -/
theorem params_length (accepted : Accepted type fits buf header) {params : List UInt32}
    (packed : params.flatMap packU32 = body header buf) :
    params.length = (header.length.toNat - headerSize) / 4 := by
  have counted := flatMap_packU32_length params
  rw [packed, body_length accepted] at counted
  omega

end

namespace DataContainer

/-- What a data container is read from. -/
theorem fromBytes_iff {buf : Bytes} {container : DataContainer} :
    fromBytes buf = .ok container ↔
      ∃ header, Accepted .data (fun _ => True) buf header ∧
        container = ⟨OperationCode.ofCode header.code, header.transactionId, body header buf⟩ := by
  unfold fromBytes
  by_cases short : buf.length < headerSize
  · rw [if_pos short]
    refine iff_of_false nofun ?_
    intro ⟨header, accepted, _⟩
    exact absurd accepted.long (Nat.not_le_of_lt short)
  · obtain ⟨header, read⟩ := exists_header (Nat.le_of_not_lt short)
    rw [if_neg short, read]
    simp only [bind, Except.bind]
    constructor
    · intro parsed
      split at parsed
      · cases parsed
      · next type =>
          split at parsed
          · cases parsed
          · next least =>
              split at parsed
              · cases parsed
              · next inside =>
                  cases parsed
                  exact ⟨header, ⟨Nat.le_of_not_lt short, read, Decidable.not_not.mp type,
                    Nat.le_of_not_lt least, Nat.le_of_not_lt inside, trivial⟩, rfl⟩
    · intro ⟨header', accepted, same⟩
      have is : header = header' := Except.ok.inj (read.symm.trans accepted.read)
      subst is
      rw [if_neg (not_not.mpr accepted.type), if_neg (Nat.not_lt.mpr accepted.least),
        if_neg (Nat.not_lt.mpr accepted.inside), same]
      rfl

theorem accepts_iff {buf : Bytes} : (∃ container, fromBytes buf = .ok container) ↔
    ∃ header, Accepted .data (fun _ => True) buf header := by
  constructor
  · intro ⟨container, parsed⟩
    obtain ⟨header, accepted, _⟩ := fromBytes_iff.mp parsed
    exact ⟨header, accepted⟩
  · intro ⟨header, accepted⟩
    exact ⟨_, fromBytes_iff.mpr ⟨header, accepted, rfl⟩⟩

end DataContainer

namespace ResponseContainer

variable {buf : Bytes} {header : ContainerHeader}

theorem readParams_eq {fits : Nat → Prop} (accepted : Accepted .response fits buf header)
    {params : List UInt32} (packed : params.flatMap packU32 = body header buf) :
    (List.range ((header.length.toNat - headerSize) / 4)).mapM
      (fun i => unpackU32 (buf.drop (headerSize + i * 4))) = .ok params := by
  have places : (fun i => unpackU32 (buf.drop (headerSize + i * 4))) = fun i =>
      unpackU32 ((params.flatMap packU32 ++ buf.drop header.length.toNat).drop (i * 4)) := by
    funext i
    rw [packed, ← drop_header accepted, List.drop_drop]
  rw [places, mapM_params params _ _ (Nat.le_of_eq (params_length accepted packed).symm),
    ← params_length accepted packed, List.take_length]

theorem fromBytes_iff {container : ResponseContainer} :
    fromBytes buf = .ok container ↔
      ∃ header, Accepted .response (· % 4 = 0) buf header ∧
        container.code = ResponseCode.ofCode header.code ∧
        container.transactionId = header.transactionId ∧
        container.params.flatMap packU32 = body header buf := by
  unfold fromBytes
  by_cases short : buf.length < headerSize
  · rw [if_pos short]
    refine iff_of_false nofun ?_
    intro ⟨header, accepted, _⟩
    exact absurd accepted.long (Nat.not_le_of_lt short)
  · obtain ⟨header, read⟩ := exists_header (Nat.le_of_not_lt short)
    rw [if_neg short, read]
    simp only [bind, Except.bind]
    constructor
    · intro parsed
      split at parsed
      · cases parsed
      · next type =>
          split at parsed
          · cases parsed
          · next least =>
              split at parsed
              · cases parsed
              · next inside =>
                  split at parsed
                  · cases parsed
                  · next aligned =>
                      have accepted : Accepted .response (· % 4 = 0) buf header :=
                        ⟨Nat.le_of_not_lt short, read, Decidable.not_not.mp type,
                          Nat.le_of_not_lt least, Nat.le_of_not_lt inside,
                          Decidable.not_not.mp aligned⟩
                      obtain ⟨params, packed⟩ := exists_params (body header buf) (by
                        rw [body_length accepted]
                        exact accepted.fits)
                      rw [readParams_eq accepted packed] at parsed
                      cases parsed
                      exact ⟨header, accepted, rfl, rfl, packed⟩
    · intro ⟨header', accepted, code, txId, packed⟩
      have is : header = header' := Except.ok.inj (read.symm.trans accepted.read)
      subst is
      rw [if_neg (not_not.mpr accepted.type), if_neg (Nat.not_lt.mpr accepted.least),
        if_neg (Nat.not_lt.mpr accepted.inside), if_neg (not_not.mpr accepted.fits),
        readParams_eq accepted packed, ← code, ← txId]
      rfl

theorem accepts_iff : (∃ container, fromBytes buf = .ok container) ↔
    ∃ header, Accepted .response (· % 4 = 0) buf header := by
  constructor
  · intro ⟨container, parsed⟩
    obtain ⟨header, accepted, _⟩ := fromBytes_iff.mp parsed
    exact ⟨header, accepted⟩
  · intro ⟨header, accepted⟩
    obtain ⟨params, packed⟩ := exists_params (body header buf) (by
      rw [body_length accepted]
      exact accepted.fits)
    exact ⟨⟨_, _, params⟩, fromBytes_iff.mpr ⟨header, accepted, rfl, rfl, packed⟩⟩

end ResponseContainer

namespace EventContainer

variable {buf : Bytes} {header : ContainerHeader} {params : List UInt32}

/-- How much may follow the header of an event. -/
def Fits (size : Nat) : Prop := size ≤ 12 ∧ size % 4 = 0

/-- A parameter that is there is read, and one that is missing is zero. -/
theorem paramOr0_eq (accepted : Accepted .event Fits buf header)
    (packed : params.flatMap packU32 = body header buf) (i : Nat) :
    paramOr0 (i + 1 ≤ (header.length.toNat - headerSize) / 4)
      ((buf.take (headerSize + i * 4 + 4)).drop (headerSize + i * 4)) =
        .ok (params[i]?.getD 0) := by
  have counted := params_length accepted packed
  unfold paramOr0
  by_cases there : i + 1 ≤ params.length
  · obtain ⟨more, place⟩ :=
      drop_params (List.getElem?_eq_getElem there) (buf.drop header.length.toNat)
    rw [packed, ← drop_header accepted, List.drop_drop] at place
    have taken : (buf.take (headerSize + i * 4 + 4)).drop (headerSize + i * 4) =
        packU32 params[i] ++ [] := by
      rw [List.drop_take, place, Nat.add_sub_cancel_left, List.take_left' (packU32_length _),
        List.append_nil]
    rw [← counted, if_pos (decide_eq_true there), taken, unpackU32_packU32,
      List.getElem?_eq_getElem there, Option.getD_some]
  · rw [← counted, if_neg (mt of_decide_eq_true there),
      List.getElem?_eq_none (Nat.le_of_not_lt there), Option.getD_none]

theorem fromBytes_iff {container : EventContainer} :
    fromBytes buf = .ok container ↔
      ∃ header, Accepted .event Fits buf header ∧ ∃ params : List UInt32,
        params.flatMap packU32 = body header buf ∧
        container = ⟨EventCode.ofCode header.code, header.transactionId, firstThree params⟩ := by
  unfold fromBytes
  by_cases short : buf.length < headerSize
  · rw [if_pos short]
    refine iff_of_false nofun ?_
    intro ⟨header, accepted, _⟩
    exact absurd accepted.long (Nat.not_le_of_lt short)
  · obtain ⟨header, read⟩ := exists_header (Nat.le_of_not_lt short)
    rw [if_neg short, read]
    simp only [bind, Except.bind]
    have values : ∀ params : List UInt32, Accepted .event Fits buf header →
        params.flatMap packU32 = body header buf →
          paramOr0 (1 ≤ (header.length.toNat - headerSize) / 4) ((buf.take 16).drop 12) =
              .ok (params[0]?.getD 0) ∧
            paramOr0 (2 ≤ (header.length.toNat - headerSize) / 4) ((buf.take 20).drop 16) =
              .ok (params[1]?.getD 0) ∧
            paramOr0 (3 ≤ (header.length.toNat - headerSize) / 4) ((buf.take 24).drop 20) =
              .ok (params[2]?.getD 0) := by
      intro params accepted packed
      exact ⟨paramOr0_eq accepted packed 0, paramOr0_eq accepted packed 1,
        paramOr0_eq accepted packed 2⟩
    constructor
    · intro parsed
      split at parsed
      · cases parsed
      · next type =>
          split at parsed
          · cases parsed
          · next size =>
              split at parsed
              · cases parsed
              · next aligned =>
                  split at parsed
                  · cases parsed
                  · next inside =>
                      obtain ⟨least, most⟩ := Decidable.not_not.mp size
                      have fits : Fits (header.length.toNat - headerSize) :=
                        ⟨Nat.sub_le_iff_le_add'.mpr most, Decidable.not_not.mp aligned⟩
                      have accepted : Accepted .event Fits buf header :=
                        ⟨Nat.le_of_not_lt short, read, Decidable.not_not.mp type, least,
                          Nat.le_of_not_lt inside, fits⟩
                      obtain ⟨params, packed⟩ := exists_params (body header buf) (by
                        rw [body_length accepted]
                        exact fits.2)
                      obtain ⟨first, second, third⟩ := values params accepted packed
                      rw [first, second, third] at parsed
                      cases parsed
                      exact ⟨header, accepted, params, packed, rfl⟩
    · intro ⟨header', accepted, params, packed, same⟩
      have is : header = header' := Except.ok.inj (read.symm.trans accepted.read)
      subst is
      have size : headerSize ≤ header.length.toNat ∧ header.length.toNat ≤ maxEventSize :=
        ⟨accepted.least, Nat.sub_le_iff_le_add'.mp accepted.fits.1⟩
      obtain ⟨first, second, third⟩ := values params accepted packed
      rw [if_neg (not_not.mpr accepted.type), if_neg (not_not.mpr size),
        if_neg (not_not.mpr accepted.fits.2), if_neg (Nat.not_lt.mpr accepted.inside), first,
        second, third, same]
      rfl

theorem accepts_iff : (∃ container, fromBytes buf = .ok container) ↔
    ∃ header, Accepted .event Fits buf header := by
  constructor
  · intro ⟨container, parsed⟩
    obtain ⟨header, accepted, _⟩ := fromBytes_iff.mp parsed
    exact ⟨header, accepted⟩
  · intro ⟨header, accepted⟩
    obtain ⟨params, packed⟩ := exists_params (body header buf) (by
      rw [body_length accepted]
      exact accepted.fits.2)
    exact ⟨_, fromBytes_iff.mpr ⟨header, accepted, params, packed, rfl⟩⟩

end EventContainer

end Ptp
