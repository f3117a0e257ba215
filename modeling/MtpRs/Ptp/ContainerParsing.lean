import MtpRs.Ptp.Accepted
import MtpRs.Ptp.FieldParsing

set_option autoImplicit false

/- Parsing of containers, with every index, slice, sum and preallocation that can go wrong. -/
namespace Ptp

open Cursors (Parses)
open Panics (orReturn reserve slice subtract)

section

variable {α : Type}

def partPanicking (unpack : Bytes → Option (Except PtpError α)) (low high : Nat) (buf : Bytes) :
    Option (Except PtpError α) := do
  let part ← slice buf low high
  unpack part

def unpackHeaderPanicking (buf : Bytes) : Option (Except PtpError ContainerHeader) :=
  orReturn (partPanicking unpackU32Panicking 0 4 buf) fun length =>
    orReturn (partPanicking unpackU16Panicking 4 6 buf) fun typeCode =>
      orReturn (partPanicking unpackU16Panicking 6 8 buf) fun code =>
        orReturn (partPanicking unpackU32Panicking 8 12 buf) fun transactionId =>
          some (.ok ⟨length, typeCode, code, transactionId⟩)

def containerTypePanicking (buf : Bytes) : Option (Except PtpError ContainerType) :=
  if buf.length < headerSize then
    some (.error (.invalidData ("container too small: need at least " ++ toString headerSize ++
      " bytes, have " ++ toString buf.length)))
  else
    orReturn (partPanicking unpackU16Panicking 4 6 buf) fun typeCode =>
      match ContainerType.ofCode typeCode with
      | some type => some (.ok type)
      | none => some (.error (.invalidData ("invalid container type: " ++ toString typeCode)))

def DataContainer.fromBytesPanicking (buf : Bytes) : Option (Except PtpError DataContainer) :=
  if buf.length < headerSize then
    some (.error (.invalidData ("data container too small: need at least " ++
      toString headerSize ++ " bytes, have " ++ toString buf.length)))
  else
    orReturn (unpackHeaderPanicking buf) fun header =>
      let length := header.length.toNat
      if header.typeCode ≠ ContainerType.data.toCode then
        some (.error (.invalidData ("expected Data container type (" ++
          toString ContainerType.data.toCode ++ "), got " ++ toString header.typeCode)))
      else if length < headerSize then
        some (.error (.invalidData ("data container length too small: " ++ toString length ++
          " < header size " ++ toString headerSize)))
      else if buf.length < length then
        some (.error (.invalidData ("data container length mismatch: header says " ++
          toString length ++ ", have " ++ toString buf.length)))
      else do
        let payload ← slice buf headerSize length
        some (.ok ⟨OperationCode.ofCode header.code, header.transactionId, payload⟩)

def ResponseContainer.fromBytesPanicking (bits : Nat) (buf : Bytes) :
    Option (Except PtpError ResponseContainer) :=
  if buf.length < headerSize then
    some (.error (.invalidData ("response container too small: need at least " ++
      toString headerSize ++ " bytes, have " ++ toString buf.length)))
  else
    orReturn (unpackHeaderPanicking buf) fun header =>
      let length := header.length.toNat
      if header.typeCode ≠ ContainerType.response.toCode then
        some (.error (.invalidData ("expected Response container type (" ++
          toString ContainerType.response.toCode ++ "), got " ++ toString header.typeCode)))
      else if length < headerSize then
        some (.error (.invalidData ("response container length too small: " ++ toString length ++
          " < header size " ++ toString headerSize)))
      else if buf.length < length then
        some (.error (.invalidData ("response container length mismatch: header says " ++
          toString length ++ ", have " ++ toString buf.length)))
      else do
        let paramBytes ← subtract length headerSize
        if paramBytes % 4 ≠ 0 then
          some (.error (.invalidData ("response parameter bytes not aligned: " ++
            toString paramBytes ++ " bytes")))
        else do
          reserve (buf.length - headerSize) (paramBytes / 4)
          orReturn (elementsPanicking bits headerSize 4 unpackU32Panicking buf (paramBytes / 4) 0)
            fun params =>
              some (.ok ⟨ResponseCode.ofCode header.code, header.transactionId, params⟩)

namespace EventContainer

def paramPanicking (present : Bool) (low high : Nat) (buf : Bytes) :
    Option (Except PtpError UInt32) :=
  if present then partPanicking unpackU32Panicking low high buf else some (.ok 0)

def fromBytesPanicking (buf : Bytes) : Option (Except PtpError EventContainer) :=
  if buf.length < headerSize then
    some (.error (.invalidData ("event container too small: need at least " ++
      toString headerSize ++ " bytes, have " ++ toString buf.length)))
  else
    orReturn (unpackHeaderPanicking buf) fun header =>
      let length := header.length.toNat
      if header.typeCode ≠ ContainerType.event.toCode then
        some (.error (.invalidData ("expected Event container type (" ++
          toString ContainerType.event.toCode ++ "), got " ++ toString header.typeCode)))
      else if ¬ (headerSize ≤ length ∧ length ≤ maxEventSize) then
        some (.error (.invalidData ("event container invalid size: expected 12-24, got " ++
          toString length)))
      else do
        let paramBytes ← subtract length headerSize
        if paramBytes % 4 ≠ 0 then
          some (.error (.invalidData ("event parameter bytes not aligned: " ++
            toString paramBytes ++ " bytes")))
        else if buf.length < length then
          some (.error (.invalidData ("event container buffer too small: need " ++
            toString length ++ ", have " ++ toString buf.length)))
        else
          let paramCount := paramBytes / 4
          orReturn (paramPanicking (1 ≤ paramCount) 12 16 buf) fun param1 =>
            orReturn (paramPanicking (2 ≤ paramCount) 16 20 buf) fun param2 =>
              orReturn (paramPanicking (3 ≤ paramCount) 20 24 buf) fun param3 =>
                some (.ok ⟨EventCode.ofCode header.code, header.transactionId,
                  firstThree [param1, param2, param3]⟩)

end EventContainer

variable {bits low high : Nat} {buf : Bytes} {unpack : Bytes → Option (Except PtpError α)}
  {plain : Bytes → Except PtpError α}

theorem partPanicking_eq (same : ∀ buf, unpack buf = some (plain buf)) (ordered : low ≤ high)
    (inside : high ≤ buf.length) :
    partPanicking unpack low high buf = some (plain ((buf.take high).drop low)) := by
  rw [partPanicking, Panics.slice_eq ordered inside, Option.bind_eq_bind, Option.bind_some, same,
    List.drop_take]

theorem unpackHeaderPanicking_eq (long : headerSize ≤ buf.length) :
    unpackHeaderPanicking buf = some (unpackHeader buf) := by
  unfold headerSize at long
  rw [unpackHeaderPanicking, partPanicking_eq unpackU32Panicking_eq (by decide) (by omega)]
  apply Panics.orReturn_eq
  intro length _
  rw [partPanicking_eq unpackU16Panicking_eq (by decide) (by omega)]
  apply Panics.orReturn_eq
  intro typeCode _
  rw [partPanicking_eq unpackU16Panicking_eq (by decide) (by omega)]
  apply Panics.orReturn_eq
  intro code _
  rw [partPanicking_eq unpackU32Panicking_eq (by decide) (by omega)]
  apply Panics.orReturn_eq
  intro transactionId _
  rfl

theorem parses_containerType :
    Parses (sliceLimit bits) containerTypePanicking containerType fun _ => True := by
  apply Parses.total
  intro buf _
  unfold containerTypePanicking containerType
  by_cases short : buf.length < headerSize
  · rw [if_pos short, if_pos short]
  · have long := Nat.le_of_not_lt short
    unfold headerSize at long
    rw [if_neg short, if_neg short, partPanicking_eq unpackU16Panicking_eq (by decide) (by omega)]
    apply Panics.orReturn_eq
    intro typeCode _
    cases ContainerType.ofCode typeCode with
    | none => rfl
    | some type => rfl

theorem parses_data :
    Parses (sliceLimit bits) DataContainer.fromBytesPanicking DataContainer.fromBytes
      fun _ => True := by
  apply Parses.total
  intro buf _
  unfold DataContainer.fromBytesPanicking DataContainer.fromBytes
  by_cases short : buf.length < headerSize
  · rw [if_pos short, if_pos short]
  · rw [if_neg short, if_neg short, unpackHeaderPanicking_eq (Nat.le_of_not_lt short)]
    apply Panics.orReturn_eq
    intro header _
    dsimp only
    by_cases type : header.typeCode ≠ ContainerType.data.toCode
    · rw [if_pos type, if_pos type]
    · by_cases least : header.length.toNat < headerSize
      · rw [if_neg type, if_neg type, if_pos least, if_pos least]
      · by_cases missing : buf.length < header.length.toNat
        · rw [if_neg type, if_neg type, if_neg least, if_neg least, if_pos missing, if_pos missing]
        · rw [if_neg type, if_neg type, if_neg least, if_neg least, if_neg missing,
            if_neg missing, Panics.slice_eq (Nat.le_of_not_lt least) (Nat.le_of_not_lt missing),
            List.drop_take]
          rfl

theorem parses_response :
    Parses (sliceLimit bits) (ResponseContainer.fromBytesPanicking bits)
      ResponseContainer.fromBytes fun _ => True := by
  apply Parses.total
  intro buf small
  have limit := slice_fits small
  unfold ResponseContainer.fromBytesPanicking ResponseContainer.fromBytes
  by_cases short : buf.length < headerSize
  · rw [if_pos short, if_pos short]
  · rw [if_neg short, if_neg short, unpackHeaderPanicking_eq (Nat.le_of_not_lt short)]
    apply Panics.orReturn_eq
    intro header _
    dsimp only
    by_cases type : header.typeCode ≠ ContainerType.response.toCode
    · rw [if_pos type, if_pos type]
    · by_cases least : header.length.toNat < headerSize
      · rw [if_neg type, if_neg type, if_pos least, if_pos least]
      · by_cases missing : buf.length < header.length.toNat
        · rw [if_neg type, if_neg type, if_neg least, if_neg least, if_pos missing, if_pos missing]
        · rw [if_neg type, if_neg type, if_neg least, if_neg least, if_neg missing,
            if_neg missing, Panics.subtract_eq (Nat.le_of_not_lt least)]
          simp only [Option.bind_eq_bind, Option.bind_some]
          by_cases unaligned : (header.length.toNat - headerSize) % 4 ≠ 0
          · rw [if_pos unaligned, if_pos unaligned]
          · have inside : headerSize + (0 + (header.length.toNat - headerSize) / 4) * 4 ≤
                buf.length := by omega
            rw [if_neg unaligned, if_neg unaligned, Panics.reserve_eq (by omega)]
            simp only [Option.bind_some]
            rw [elementsPanicking_eq unpackU32Panicking_eq limit inside, ← List.range_eq_range']
            apply Panics.orReturn_eq
            intro params _
            rfl

namespace EventContainer

theorem paramPanicking_eq {present : Bool} (ordered : low ≤ high)
    (inside : present = true → high ≤ buf.length) :
    paramPanicking present low high buf = some (paramOr0 present ((buf.take high).drop low)) := by
  cases present with
  | false => rfl
  | true => exact partPanicking_eq unpackU32Panicking_eq ordered (inside rfl)

end EventContainer

theorem parses_event :
    Parses (sliceLimit bits) EventContainer.fromBytesPanicking EventContainer.fromBytes
      fun _ => True := by
  apply Parses.total
  intro buf _
  unfold EventContainer.fromBytesPanicking EventContainer.fromBytes
  by_cases short : buf.length < headerSize
  · rw [if_pos short, if_pos short]
  · rw [if_neg short, if_neg short, unpackHeaderPanicking_eq (Nat.le_of_not_lt short)]
    apply Panics.orReturn_eq
    intro header _
    dsimp only
    by_cases type : header.typeCode ≠ ContainerType.event.toCode
    · rw [if_pos type, if_pos type]
    · by_cases size : headerSize ≤ header.length.toNat ∧
          header.length.toNat ≤ EventContainer.maxEventSize
      · rw [if_neg type, if_neg type, if_neg (not_not.mpr size), if_neg (not_not.mpr size),
          Panics.subtract_eq size.1]
        simp only [Option.bind_eq_bind, Option.bind_some]
        by_cases unaligned : (header.length.toNat - headerSize) % 4 ≠ 0
        · rw [if_pos unaligned, if_pos unaligned]
        · by_cases missing : buf.length < header.length.toNat
          · rw [if_neg unaligned, if_neg unaligned, if_pos missing, if_pos missing]
          · rw [if_neg unaligned, if_neg unaligned, if_neg missing, if_neg missing]
            have least := size.1
            unfold headerSize at least ⊢
            rw [EventContainer.paramPanicking_eq (by decide)
              (fun present => by simp only [decide_eq_true_eq] at present; omega)]
            apply Panics.orReturn_eq
            intro param1 _
            rw [EventContainer.paramPanicking_eq (by decide)
              (fun present => by simp only [decide_eq_true_eq] at present; omega)]
            apply Panics.orReturn_eq
            intro param2 _
            rw [EventContainer.paramPanicking_eq (by decide)
              (fun present => by simp only [decide_eq_true_eq] at present; omega)]
            apply Panics.orReturn_eq
            intro param3 _
            rfl
      · rw [if_neg type, if_neg type, if_pos size, if_pos size]

end

end Ptp
