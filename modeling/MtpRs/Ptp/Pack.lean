import MtpRs.Ptp.Error

set_option autoImplicit false

/- Little-endian packing of the wire's integers. -/
namespace Ptp

abbrev Bytes := List UInt8

def packU16 (value : UInt16) : Bytes :=
  [UInt8.ofNat value.toNat, UInt8.ofNat (value.toNat / 2 ^ 8)]

def packU32 (value : UInt32) : Bytes :=
  [UInt8.ofNat value.toNat, UInt8.ofNat (value.toNat / 2 ^ 8),
    UInt8.ofNat (value.toNat / 2 ^ 16), UInt8.ofNat (value.toNat / 2 ^ 24)]

def packU64 (value : UInt64) : Bytes :=
  [UInt8.ofNat value.toNat, UInt8.ofNat (value.toNat / 2 ^ 8),
    UInt8.ofNat (value.toNat / 2 ^ 16), UInt8.ofNat (value.toNat / 2 ^ 24),
    UInt8.ofNat (value.toNat / 2 ^ 32), UInt8.ofNat (value.toNat / 2 ^ 40),
    UInt8.ofNat (value.toNat / 2 ^ 48), UInt8.ofNat (value.toNat / 2 ^ 56)]

def unpackU16 : Bytes → Except PtpError UInt16
  | b0 :: b1 :: _ => .ok (UInt16.ofNat (b0.toNat + 2 ^ 8 * b1.toNat))
  | buf => .error (.invalidData
      ("insufficient bytes for u16: need 2, have " ++ toString buf.length))

def unpackU32 : Bytes → Except PtpError UInt32
  | b0 :: b1 :: b2 :: b3 :: _ => .ok (UInt32.ofNat
      (b0.toNat + 2 ^ 8 * b1.toNat + 2 ^ 16 * b2.toNat + 2 ^ 24 * b3.toNat))
  | buf => .error (.invalidData
      ("insufficient bytes for u32: need 4, have " ++ toString buf.length))

def unpackU64 : Bytes → Except PtpError UInt64
  | b0 :: b1 :: b2 :: b3 :: b4 :: b5 :: b6 :: b7 :: _ => .ok (UInt64.ofNat
      (b0.toNat + 2 ^ 8 * b1.toNat + 2 ^ 16 * b2.toNat + 2 ^ 24 * b3.toNat +
        2 ^ 32 * b4.toNat + 2 ^ 40 * b5.toNat + 2 ^ 48 * b6.toNat + 2 ^ 56 * b7.toNat))
  | buf => .error (.invalidData
      ("insufficient bytes for u64: need 8, have " ++ toString buf.length))

def unpackU8 : Bytes → Except PtpError UInt8
  | byte :: _ => .ok byte
  | [] => .error (.invalidData "insufficient bytes for u8: need 1, have 0")

def unpackI8 : Bytes → Except PtpError Int8
  | byte :: _ => .ok byte.toInt8
  | [] => .error (.invalidData "insufficient bytes for i8: need 1, have 0")

def unpackI16 : Bytes → Except PtpError Int16
  | b0 :: b1 :: _ => .ok (UInt16.ofNat (b0.toNat + 2 ^ 8 * b1.toNat)).toInt16
  | buf => .error (.invalidData
      ("insufficient bytes for i16: need 2, have " ++ toString buf.length))

def unpackI32 : Bytes → Except PtpError Int32
  | b0 :: b1 :: b2 :: b3 :: _ => .ok (UInt32.ofNat
      (b0.toNat + 2 ^ 8 * b1.toNat + 2 ^ 16 * b2.toNat + 2 ^ 24 * b3.toNat)).toInt32
  | buf => .error (.invalidData
      ("insufficient bytes for i32: need 4, have " ++ toString buf.length))

def unpackI64 : Bytes → Except PtpError Int64
  | b0 :: b1 :: b2 :: b3 :: b4 :: b5 :: b6 :: b7 :: _ => .ok (UInt64.ofNat
      (b0.toNat + 2 ^ 8 * b1.toNat + 2 ^ 16 * b2.toNat + 2 ^ 24 * b3.toNat +
        2 ^ 32 * b4.toNat + 2 ^ 40 * b5.toNat + 2 ^ 48 * b6.toNat + 2 ^ 56 * b7.toNat)).toInt64
  | buf => .error (.invalidData
      ("insufficient bytes for i64: need 8, have " ++ toString buf.length))

theorem unpackU16_failsInvalid (buf : Bytes) : FailsInvalid (unpackU16 buf) := by
  unfold unpackU16
  split
  · exact .ok _
  · exact .invalidData _

theorem unpackU32_failsInvalid (buf : Bytes) : FailsInvalid (unpackU32 buf) := by
  unfold unpackU32
  split
  · exact .ok _
  · exact .invalidData _

@[simp] theorem packU16_length (value : UInt16) : (packU16 value).length = 2 := rfl

@[simp] theorem packU32_length (value : UInt32) : (packU32 value).length = 4 := rfl

@[simp] theorem packU64_length (value : UInt64) : (packU64 value).length = 8 := rfl

@[simp] theorem unpackU16_packU16 (value : UInt16) (rest : Bytes) :
    unpackU16 (packU16 value ++ rest) = .ok value := by
  have bound := value.toNat_lt
  simp only [packU16, List.cons_append, List.nil_append, unpackU16, UInt8.toNat_ofNat']
  congr 1
  apply UInt16.toNat_inj.mp
  rw [UInt16.toNat_ofNat']
  omega

@[simp] theorem unpackU32_packU32 (value : UInt32) (rest : Bytes) :
    unpackU32 (packU32 value ++ rest) = .ok value := by
  have bound := value.toNat_lt
  simp only [packU32, List.cons_append, List.nil_append, unpackU32, UInt8.toNat_ofNat']
  congr 1
  apply UInt32.toNat_inj.mp
  rw [UInt32.toNat_ofNat']
  omega

@[simp] theorem unpackU64_packU64 (value : UInt64) (rest : Bytes) :
    unpackU64 (packU64 value ++ rest) = .ok value := by
  have bound := value.toNat_lt
  simp only [packU64, List.cons_append, List.nil_append, unpackU64, UInt8.toNat_ofNat']
  congr 1
  apply UInt64.toNat_inj.mp
  rw [UInt64.toNat_ofNat']
  omega

/-- Four bytes are enough, and only those four are read. -/
theorem unpackU32_of_length {buf : Bytes} (enough : 4 ≤ buf.length) :
    ∃ value, unpackU32 buf = .ok value := by
  match buf, enough with
  | _ :: _ :: _ :: _ :: _, _ => exact ⟨_, rfl⟩

/-- A number is read from its own four bytes alone. -/
theorem unpackU32_append {front : Bytes} (enough : 4 ≤ front.length) (rest : Bytes) :
    unpackU32 (front ++ rest) = unpackU32 front := by
  match front, enough with
  | _ :: _ :: _ :: _ :: _, _ => rfl

theorem unpackU16_of_length {buf : Bytes} (enough : 2 ≤ buf.length) :
    ∃ value, unpackU16 buf = .ok value := by
  match buf, enough with
  | _ :: _ :: _, _ => exact ⟨_, rfl⟩

end Ptp
