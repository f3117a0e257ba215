import MtpRs.Lib.Readers
import MtpRs.Ptp.Strings

set_option autoImplicit false

/- The fields datasets are made of, as readers. -/
namespace Ptp

open Readers (Delimited Reader Writes field)

def packU8 (value : UInt8) : Bytes := [value]

def packI8 (value : Int8) : Bytes := [value.toUInt8]

def packI16 (value : Int16) : Bytes := packU16 value.toUInt16

def packI32 (value : Int32) : Bytes := packU32 value.toUInt32

def packI64 (value : Int64) : Bytes := packU64 value.toUInt64

section

variable {buf : Bytes}

theorem unpackI16_eq : ∀ {buf : Bytes} {value : UInt16}, unpackU16 buf = .ok value →
    unpackI16 buf = .ok value.toInt16
  | _ :: _ :: _, _, read => by
      cases read
      rfl

theorem unpackI32_eq : ∀ {buf : Bytes} {value : UInt32}, unpackU32 buf = .ok value →
    unpackI32 buf = .ok value.toInt32
  | _ :: _ :: _ :: _ :: _, _, read => by
      cases read
      rfl

theorem unpackI64_eq : ∀ {buf : Bytes} {value : UInt64}, unpackU64 buf = .ok value →
    unpackI64 buf = .ok value.toInt64
  | _ :: _ :: _ :: _ :: _ :: _ :: _ :: _ :: _, _, read => by
      cases read
      rfl

theorem writes_u8 (value : UInt8) : Writes (field 1 unpackU8) (packU8 value) value :=
  .field (fun _ => rfl) rfl

theorem writes_u16 (value : UInt16) : Writes (field 2 unpackU16) (packU16 value) value :=
  .field (unpackU16_packU16 value) rfl

theorem writes_u32 (value : UInt32) : Writes (field 4 unpackU32) (packU32 value) value :=
  .field (unpackU32_packU32 value) rfl

theorem writes_u64 (value : UInt64) : Writes (field 8 unpackU64) (packU64 value) value :=
  .field (unpackU64_packU64 value) rfl

theorem writes_i8 (value : Int8) : Writes (field 1 unpackI8) (packI8 value) value := by
  refine Writes.field (fun rest => ?_) rfl
  rw [packI8, List.singleton_append, unpackI8, Int8.toInt8_toUInt8]

theorem writes_i16 (value : Int16) : Writes (field 2 unpackI16) (packI16 value) value := by
  refine Writes.field (fun rest => ?_) rfl
  rw [packI16, unpackI16_eq (unpackU16_packU16 value.toUInt16 rest), Int16.toInt16_toUInt16]

theorem writes_i32 (value : Int32) : Writes (field 4 unpackI32) (packI32 value) value := by
  refine Writes.field (fun rest => ?_) rfl
  rw [packI32, unpackI32_eq (unpackU32_packU32 value.toUInt32 rest), Int32.toInt32_toUInt32]

theorem writes_i64 (value : Int64) : Writes (field 8 unpackI64) (packI64 value) value := by
  refine Writes.field (fun rest => ?_) rfl
  rw [packI64, unpackI64_eq (unpackU64_packU64 value.toUInt64 rest), Int64.toInt64_toUInt64]

theorem delimited_u8 : Delimited (field 1 unpackU8) := by
  apply Delimited.field
  · intro input value read
    match input, read with
    | _ :: _, _ => simp
  · intro input value read more
    match input, read with
    | _ :: _, read => exact read

theorem delimited_u16 : Delimited (field 2 unpackU16) := by
  apply Delimited.field
  · intro input value read
    match input, read with
    | _ :: _ :: _, _ => simp
  · intro input value read more
    match input, read with
    | _ :: _ :: _, read => exact read

theorem delimited_u32 : Delimited (field 4 unpackU32) := by
  apply Delimited.field
  · intro input value read
    match input, read with
    | _ :: _ :: _ :: _ :: _, _ => simp
  · intro input value read more
    match input, read with
    | _ :: _ :: _ :: _ :: _, read => exact read

theorem delimited_u64 : Delimited (field 8 unpackU64) := by
  apply Delimited.field
  · intro input value read
    match input, read with
    | _ :: _ :: _ :: _ :: _ :: _ :: _ :: _ :: _, _ => simp
  · intro input value read more
    match input, read with
    | _ :: _ :: _ :: _ :: _ :: _ :: _ :: _ :: _, read => exact read

theorem delimited_i8 : Delimited (field 1 unpackI8) := by
  apply Delimited.field
  · intro input value read
    match input, read with
    | _ :: _, _ => simp
  · intro input value read more
    match input, read with
    | _ :: _, read => exact read

theorem delimited_i16 : Delimited (field 2 unpackI16) := by
  apply Delimited.field
  · intro input value read
    match input, read with
    | _ :: _ :: _, _ => simp
  · intro input value read more
    match input, read with
    | _ :: _ :: _, read => exact read

theorem delimited_i32 : Delimited (field 4 unpackI32) := by
  apply Delimited.field
  · intro input value read
    match input, read with
    | _ :: _ :: _ :: _ :: _, _ => simp
  · intro input value read more
    match input, read with
    | _ :: _ :: _ :: _ :: _, read => exact read

theorem delimited_i64 : Delimited (field 8 unpackI64) := by
  apply Delimited.field
  · intro input value read
    match input, read with
    | _ :: _ :: _ :: _ :: _ :: _ :: _ :: _ :: _, _ => simp
  · intro input value read more
    match input, read with
    | _ :: _ :: _ :: _ :: _ :: _ :: _ :: _ :: _, read => exact read

/-- A string's length byte decides what it takes. -/
theorem delimited_string : Delimited unpackString where
  within {input text taken} read := by
    cases input with
    | nil => cases read
    | cons length units =>
        rw [unpackString] at read
        by_cases empty : length = 0
        · simp only [if_pos empty, Except.ok.injEq, Prod.mk.injEq] at read
          rw [List.length_cons]
          omega
        · by_cases short : (length :: units).length < 1 + length.toNat * 2
          · simp only [if_neg empty, if_pos short, reduceCtorEq] at read
          · simp only [if_neg empty, if_neg short, Except.ok.injEq, Prod.mk.injEq] at read
            omega
  stable {input text taken} read more := by
    cases input with
    | nil => cases read
    | cons length units =>
        rw [unpackString] at read
        by_cases empty : length = 0
        · simp only [if_pos empty, Except.ok.injEq, Prod.mk.injEq] at read
          rw [← read.2, ← read.1, empty]
          rfl
        · by_cases short : (length :: units).length < 1 + length.toNat * 2
          · simp only [if_neg empty, if_pos short, reduceCtorEq] at read
          · simp only [if_neg empty, if_neg short, Except.ok.injEq, Prod.mk.injEq] at read
            have enough : (units.take (length.toNat * 2)).length = length.toNat * 2 := by
              rw [List.length_cons] at short
              apply List.length_take_of_le
              omega
            rw [← read.2, ← read.1, Nat.add_comm 1, List.take_succ_cons, List.cons_append,
              unpackString, if_neg empty, if_neg, List.take_left' enough, Nat.add_comm 1]
            rw [List.length_cons, List.length_append, enough]
            omega

end

end Ptp
