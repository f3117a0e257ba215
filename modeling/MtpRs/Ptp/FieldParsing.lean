import MtpRs.Lib.Cursors
import MtpRs.Ptp.Arrays

set_option autoImplicit false

/- Parsing of the fields of datasets, with every index, slice, sum and preallocation that can go
wrong. -/
namespace Ptp

open Cursors (Follows Parses SafeWhen)
open Panics (add index multiply orReturn reserve sliceFrom)
open Readers (Delimited Reader)

section

variable {α : Type}

def fromLeBytes (bytes : Bytes) : Nat := bytes.foldr (fun byte rest => byte.toNat + 2 ^ 8 * rest) 0

/-- A number of a fixed size: the length is checked, and each byte taken by its index. -/
def numberPanicking (size : Nat) (short : String) (decode : Nat → α) (buf : Bytes) :
    Option (Except PtpError α) :=
  if buf.length < size then some (.error (.invalidData (short ++ toString buf.length)))
  else do
    let bytes ← (List.range size).mapM (index buf)
    some (.ok (decode (fromLeBytes bytes)))

def unpackU8Panicking : Bytes → Option (Except PtpError UInt8) :=
  numberPanicking 1 "insufficient bytes for u8: need 1, have " UInt8.ofNat

def unpackU16Panicking : Bytes → Option (Except PtpError UInt16) :=
  numberPanicking 2 "insufficient bytes for u16: need 2, have " UInt16.ofNat

def unpackU32Panicking : Bytes → Option (Except PtpError UInt32) :=
  numberPanicking 4 "insufficient bytes for u32: need 4, have " UInt32.ofNat

def unpackU64Panicking : Bytes → Option (Except PtpError UInt64) :=
  numberPanicking 8 "insufficient bytes for u64: need 8, have " UInt64.ofNat

def unpackI8Panicking : Bytes → Option (Except PtpError Int8) :=
  numberPanicking 1 "insufficient bytes for i8: need 1, have " fun n => (UInt8.ofNat n).toInt8

def unpackI16Panicking : Bytes → Option (Except PtpError Int16) :=
  numberPanicking 2 "insufficient bytes for i16: need 2, have " fun n => (UInt16.ofNat n).toInt16

def unpackI32Panicking : Bytes → Option (Except PtpError Int32) :=
  numberPanicking 4 "insufficient bytes for i32: need 4, have " fun n => (UInt32.ofNat n).toInt32

def unpackI64Panicking : Bytes → Option (Except PtpError Int64) :=
  numberPanicking 8 "insufficient bytes for i64: need 8, have " fun n => (UInt64.ofNat n).toInt64

/-- The code units from the one at an index on, up to the first NUL. -/
def unitsPanicking (bits : Nat) (buf : Bytes) : Nat → Nat → Option (List UInt16)
  | 0, _ => some []
  | left + 1, i => do
      let before ← multiply bits i 2
      let offset ← add bits 1 before
      let low ← index buf offset
      let next ← add bits offset 1
      let high ← index buf next
      let unit := UInt16.ofNat (fromLeBytes [low, high])
      if unit = 0 then some []
      else do
        let others ← unitsPanicking bits buf left (i + 1)
        some (unit :: others)

def unpackStringPanicking (bits : Nat) (buf : Bytes) : Option (Except PtpError (String × Nat)) :=
  if buf = [] then some (.error (.invalidData "insufficient bytes for string length"))
  else do
    let length ← index buf 0
    if length = 0 then some (.ok ("", 1))
    else do
      let size ← multiply bits length.toNat 2
      let required ← add bits 1 size
      if buf.length < required then
        some (.error (.invalidData ("insufficient bytes for string: need " ++ toString required ++
          ", have " ++ toString buf.length)))
      else do
        reserve (buf.length - 1) length.toNat
        let units ← unitsPanicking bits buf length.toNat 0
        some (.ok (String.ofList (decodeUtf16Lossy units), required))

/-- The elements of an array from the one at an index on, the first of which lies at `base`. -/
def elementsPanicking (bits base size : Nat) (unpack : Bytes → Option (Except PtpError α))
    (buf : Bytes) : Nat → Nat → Option (Except PtpError (List α))
  | 0, _ => some (.ok [])
  | left + 1, i => do
      let before ← multiply bits i size
      let offset ← add bits base before
      let rest ← sliceFrom buf offset
      orReturn (unpack rest) fun x =>
        orReturn (elementsPanicking bits base size unpack buf left (i + 1)) fun others =>
          some (.ok (x :: others))

def unpackArrayPanicking (bits size : Nat) (type : String)
    (unpack : Bytes → Option (Except PtpError α)) (buf : Bytes) :
    Option (Except PtpError (List α × Nat)) :=
  if buf.length < 4 then
    some (.error (.invalidData
      ("insufficient bytes for array count: need 4, have " ++ toString buf.length)))
  else
    orReturn (unpackU32Panicking buf) fun count => do
      let elements ← multiply bits count.toNat size
      let required ← add bits 4 elements
      if buf.length < required then
        some (.error (.invalidData ("insufficient bytes for " ++ type ++ " array: need " ++
          toString required ++ ", have " ++ toString buf.length)))
      else do
        reserve (buf.length - 4) count.toNat
        orReturn (elementsPanicking bits 4 size unpack buf count.toNat 0) fun elements =>
          some (.ok (elements, required))

end

def unpackU16ArrayPanicking (bits : Nat) : Bytes → Option (Except PtpError (List UInt16 × Nat)) :=
  unpackArrayPanicking bits 2 "u16" unpackU16Panicking

def unpackU32ArrayPanicking (bits : Nat) : Bytes → Option (Except PtpError (List UInt32 × Nat)) :=
  unpackArrayPanicking bits 4 "u32" unpackU32Panicking

/-- The first length that no slice has: one holds `isize::MAX` bytes at most. -/
def sliceLimit (bits : Nat) : Nat := 2 ^ (bits - 1)

/-- The size of an array in bytes can be computed from the count in front of it. -/
def CountFits (bits size : Nat) (buf : Bytes) : Prop :=
  ∀ count, unpackU32 buf = .ok count → 4 + count.toNat * size < 2 ^ bits

section

variable {α : Type} {size : Nat} {short : String} {decode : Nat → α} {buf : Bytes}

theorem numberPanicking_short (missing : buf.length < size) :
    numberPanicking size short decode buf =
      some (.error (.invalidData (short ++ toString buf.length))) :=
  if_pos missing

theorem numberPanicking_ok (enough : size ≤ buf.length) :
    numberPanicking size short decode buf = some (.ok (decode (fromLeBytes (buf.take size)))) := by
  rw [numberPanicking, if_neg (Nat.not_lt.mpr enough), Panics.mapM_index enough]
  rfl

theorem fromLeBytes_two (b0 b1 : UInt8) : fromLeBytes [b0, b1] = b0.toNat + 2 ^ 8 * b1.toNat := rfl

theorem fromLeBytes_four (b0 b1 b2 b3 : UInt8) : fromLeBytes [b0, b1, b2, b3] =
    b0.toNat + 2 ^ 8 * b1.toNat + 2 ^ 16 * b2.toNat + 2 ^ 24 * b3.toNat := by
  simp only [fromLeBytes, List.foldr_cons, List.foldr_nil]
  omega

theorem fromLeBytes_eight (b0 b1 b2 b3 b4 b5 b6 b7 : UInt8) :
    fromLeBytes [b0, b1, b2, b3, b4, b5, b6, b7] =
      b0.toNat + 2 ^ 8 * b1.toNat + 2 ^ 16 * b2.toNat + 2 ^ 24 * b3.toNat + 2 ^ 32 * b4.toNat +
        2 ^ 40 * b5.toNat + 2 ^ 48 * b6.toNat + 2 ^ 56 * b7.toNat := by
  simp only [fromLeBytes, List.foldr_cons, List.foldr_nil]
  omega

theorem unpackU8Panicking_eq (buf : Bytes) : unpackU8Panicking buf = some (unpackU8 buf) := by
  match buf with
  | [] => exact numberPanicking_short (by simp)
  | byte :: rest =>
      refine (numberPanicking_ok (by simp)).trans ?_
      rw [fromLeBytes, List.take_succ_cons, List.take_zero, List.foldr_cons, List.foldr_nil,
        Nat.mul_zero, Nat.add_zero, UInt8.ofNat_toNat, unpackU8]

theorem unpackI8Panicking_eq (buf : Bytes) : unpackI8Panicking buf = some (unpackI8 buf) := by
  match buf with
  | [] => exact numberPanicking_short (by simp)
  | byte :: rest =>
      refine (numberPanicking_ok (by simp)).trans ?_
      rw [fromLeBytes, List.take_succ_cons, List.take_zero, List.foldr_cons, List.foldr_nil,
        Nat.mul_zero, Nat.add_zero, UInt8.ofNat_toNat, unpackI8]

theorem unpackU16Panicking_eq (buf : Bytes) : unpackU16Panicking buf = some (unpackU16 buf) := by
  match buf with
  | [] | [_] => exact numberPanicking_short (by simp)
  | b0 :: b1 :: rest => exact numberPanicking_ok (by simp)

theorem unpackI16Panicking_eq (buf : Bytes) : unpackI16Panicking buf = some (unpackI16 buf) := by
  match buf with
  | [] | [_] => exact numberPanicking_short (by simp)
  | b0 :: b1 :: rest => exact numberPanicking_ok (by simp)

theorem unpackU32Panicking_eq (buf : Bytes) : unpackU32Panicking buf = some (unpackU32 buf) := by
  match buf with
  | [] | [_] | [_, _] | [_, _, _] => exact numberPanicking_short (by simp)
  | b0 :: b1 :: b2 :: b3 :: rest =>
      refine (numberPanicking_ok (by simp)).trans ?_
      rw [show (b0 :: b1 :: b2 :: b3 :: rest).take 4 = [b0, b1, b2, b3] from rfl,
        fromLeBytes_four, unpackU32]

theorem unpackI32Panicking_eq (buf : Bytes) : unpackI32Panicking buf = some (unpackI32 buf) := by
  match buf with
  | [] | [_] | [_, _] | [_, _, _] => exact numberPanicking_short (by simp)
  | b0 :: b1 :: b2 :: b3 :: rest =>
      refine (numberPanicking_ok (by simp)).trans ?_
      rw [show (b0 :: b1 :: b2 :: b3 :: rest).take 4 = [b0, b1, b2, b3] from rfl,
        fromLeBytes_four, unpackI32]

theorem unpackU64Panicking_eq (buf : Bytes) : unpackU64Panicking buf = some (unpackU64 buf) := by
  match buf with
  | [] | [_] | [_, _] | [_, _, _] | [_, _, _, _] | [_, _, _, _, _] | [_, _, _, _, _, _]
  | [_, _, _, _, _, _, _] => exact numberPanicking_short (by simp)
  | b0 :: b1 :: b2 :: b3 :: b4 :: b5 :: b6 :: b7 :: rest =>
      refine (numberPanicking_ok (by simp)).trans ?_
      rw [show (b0 :: b1 :: b2 :: b3 :: b4 :: b5 :: b6 :: b7 :: rest).take 8 =
        [b0, b1, b2, b3, b4, b5, b6, b7] from rfl, fromLeBytes_eight, unpackU64]

theorem unpackI64Panicking_eq (buf : Bytes) : unpackI64Panicking buf = some (unpackI64 buf) := by
  match buf with
  | [] | [_] | [_, _] | [_, _, _] | [_, _, _, _] | [_, _, _, _, _] | [_, _, _, _, _, _]
  | [_, _, _, _, _, _, _] => exact numberPanicking_short (by simp)
  | b0 :: b1 :: b2 :: b3 :: b4 :: b5 :: b6 :: b7 :: rest =>
      refine (numberPanicking_ok (by simp)).trans ?_
      rw [show (b0 :: b1 :: b2 :: b3 :: b4 :: b5 :: b6 :: b7 :: rest).take 8 =
        [b0, b1, b2, b3, b4, b5, b6, b7] from rfl, fromLeBytes_eight, unpackI64]

end

section

variable {α : Type} {bits : Nat} {buf : Bytes}

theorem sliceLimit_le : sliceLimit bits ≤ 2 ^ bits :=
  Nat.pow_le_pow_right (by decide) (Nat.sub_le _ _)

theorem slice_fits (small : buf.length < sliceLimit bits) : buf.length < 2 ^ bits :=
  Nat.lt_of_lt_of_le small sliceLimit_le

theorem wide_fits (wide : 32 ≤ bits) {n : Nat} (small : n < 2 ^ 32) : n < 2 ^ bits :=
  Nat.lt_of_lt_of_le small (Nat.pow_le_pow_right (by decide) wide)

/-- The units that lie in the buffer are there. -/
theorem unitsPanicking_eq (small : buf.length < 2 ^ bits) {left i : Nat}
    (inside : 1 + (i + left) * 2 ≤ buf.length) :
    unitsPanicking bits buf left i =
      some (unpackUnits ((buf.drop (1 + i * 2)).take (left * 2))) := by
  induction left generalizing i with
  | zero => rfl
  | succ left ih =>
      have low : 1 + i * 2 < buf.length := by omega
      have high : 1 + i * 2 + 1 < buf.length := by omega
      have units : (buf.drop (1 + i * 2)).take ((left + 1) * 2) =
          buf[1 + i * 2] :: buf[1 + i * 2 + 1] ::
            (buf.drop (1 + (i + 1) * 2)).take (left * 2) := by
        rw [List.drop_eq_getElem_cons low, List.drop_eq_getElem_cons high,
          show (left + 1) * 2 = left * 2 + 1 + 1 by omega, List.take_succ_cons,
          List.take_succ_cons, show 1 + (i + 1) * 2 = 1 + i * 2 + 1 + 1 by omega]
      rw [unitsPanicking, Panics.multiply_eq (by omega)]
      simp only [Option.bind_eq_bind, Option.bind_some]
      rw [Panics.add_eq (by omega)]
      simp only [Option.bind_some]
      rw [index, List.getElem?_eq_getElem low]
      simp only [Option.bind_some]
      rw [Panics.add_eq (by omega)]
      simp only [Option.bind_some]
      rw [index, List.getElem?_eq_getElem high]
      simp only [Option.bind_some]
      rw [ih (by omega), units, unpackUnits, fromLeBytes_two]
      simp only [Option.bind_some]
      split <;> rfl

theorem parses_string (wide : 32 ≤ bits) :
    Parses (sliceLimit bits) (unpackStringPanicking bits) unpackString fun _ => True := by
  apply Parses.total
  intro buf small
  have fits := slice_fits small
  cases buf with
  | nil => rfl
  | cons length units =>
      have byte := length.toNat_lt
      rw [unpackStringPanicking, if_neg (List.cons_ne_nil _ _), unpackString]
      simp only [index, List.getElem?_cons_zero, Option.bind_eq_bind, Option.bind_some]
      by_cases empty : length = 0
      · rw [if_pos empty, if_pos empty]
      · rw [if_neg empty, if_neg empty, Panics.multiply_eq (wide_fits wide (by omega))]
        simp only [Option.bind_some]
        rw [Panics.add_eq (wide_fits wide (by omega))]
        simp only [Option.bind_some]
        by_cases short : (length :: units).length < 1 + length.toNat * 2
        · rw [if_pos short, if_pos short]
        · rw [if_neg short, if_neg short, Panics.reserve_eq (by omega)]
          simp only [Option.bind_some]
          rw [unitsPanicking_eq fits (by omega)]
          rfl

variable {unpack : Bytes → Option (Except PtpError α)} {plain : Bytes → Except PtpError α}
  {base size left i : Nat} {type : String}

/-- The elements that lie in the buffer are parsed in turn. -/
theorem elementsPanicking_eq (same : ∀ buf, unpack buf = some (plain buf))
    (small : buf.length < 2 ^ bits) (inside : base + (i + left) * size ≤ buf.length) :
    elementsPanicking bits base size unpack buf left i =
      some ((List.range' i left).mapM fun i => plain (buf.drop (base + i * size))) := by
  induction left generalizing i with
  | zero => rfl
  | succ left ih =>
      have before : i * size ≤ (i + (left + 1)) * size := Nat.mul_le_mul_right size (by omega)
      have later := ih (i := i + 1) (by rwa [Nat.add_assoc, Nat.add_comm 1])
      rw [elementsPanicking, Panics.multiply_eq (by omega)]
      simp only [Option.bind_eq_bind, Option.bind_some]
      rw [Panics.add_eq (by omega)]
      simp only [Option.bind_some]
      rw [Panics.sliceFrom_eq (by omega)]
      simp only [Option.bind_some]
      rw [same, later, List.range'_succ, List.mapM_cons]
      cases plain (buf.drop (base + i * size)) with
      | error e => rfl
      | ok x =>
          cases (List.range' (i + 1) left).mapM fun i => plain (buf.drop (base + i * size)) with
          | error e => rfl
          | ok others => rfl

/-- Whether the size of an array can be computed. -/
theorem countFits_iff {count : UInt32} (counted : unpackU32 buf = .ok count) :
    CountFits bits size buf ↔ 4 + count.toNat * size < 2 ^ bits := by
  constructor
  · intro fits
    exact fits count counted
  · intro fits count' counted'
    rw [counted] at counted'
    cases counted'
    exact fits

theorem size_panics {count : Nat} (large : ¬ 4 + count * size < 2 ^ bits) {β : Type}
    (next : Nat → Option β) :
    (do
      let elements ← multiply bits count size
      let required ← add bits 4 elements
      next required) = none := by
  by_cases fits : count * size < 2 ^ bits
  · rw [Panics.multiply_eq fits]
    simp only [Option.bind_eq_bind, Option.bind_some]
    rw [add, if_neg large, Option.bind_none]
  · rw [multiply, if_neg fits, Option.bind_eq_bind, Option.bind_none]

/-- An array is parsed where its size can be computed, and panics where it cannot. -/
theorem parses_array (same : ∀ buf, unpack buf = some (plain buf)) (wide : 0 < size) :
    Parses (sliceLimit bits) (unpackArrayPanicking bits size type unpack)
      (unpackArray size type plain) (CountFits bits size) := by
  intro buf small
  have limit := slice_fits small
  by_cases short : buf.length < 4
  · rw [unpackArrayPanicking, unpackArray, if_pos short, if_pos short]
    refine (SafeWhen.some _).congr ⟨fun _ count counted => ?_, fun _ => trivial⟩
    have long := delimited_u32.within (Readers.map_eq_ok.mpr ⟨count, counted, rfl⟩)
    omega
  · obtain ⟨count, counted⟩ := unpackU32_of_length (Nat.le_of_not_lt short)
    rw [unpackArrayPanicking, unpackArray, if_neg short, if_neg short, unpackU32Panicking_eq,
      counted]
    constructor
    · intro countFits
      have fits := (countFits_iff counted).mp countFits
      simp only [orReturn]
      rw [Panics.multiply_eq (by omega)]
      simp only [Option.bind_eq_bind, Option.bind_some]
      rw [Panics.add_eq fits]
      simp only [Option.bind_some, bind, Except.bind]
      by_cases missing : buf.length < 4 + count.toNat * size
      · rw [if_pos missing, if_pos missing]
      · have enough : count.toNat ≤ count.toNat * size := Nat.le_mul_of_pos_right _ wide
        have inside : 4 + (0 + count.toNat) * size ≤ buf.length := by
          rw [Nat.zero_add]
          omega
        rw [if_neg missing, if_neg missing, Panics.reserve_eq (by omega),
          elementsPanicking_eq same limit inside, ← List.range_eq_range']
        simp only [Option.bind_some]
        cases (List.range count.toNat).mapM fun i => plain (buf.drop (4 + i * size)) with
        | error e => rfl
        | ok elements => rfl
    · intro fails
      exact size_panics (mt (countFits_iff counted).mpr fails) _

theorem parses_u16Array :
    Parses (sliceLimit bits) (unpackU16ArrayPanicking bits) unpackU16Array (CountFits bits 2) :=
  parses_array unpackU16Panicking_eq (by decide)

theorem parses_u32Array :
    Parses (sliceLimit bits) (unpackU32ArrayPanicking bits) unpackU32Array (CountFits bits 4) :=
  parses_array unpackU32Panicking_eq (by decide)

/-- A size of 64 bits holds the size of any array. -/
theorem countFits_wide (wide : 36 ≤ bits) (small : size ≤ 8) : CountFits bits size buf := by
  intro count counted
  have below := count.toNat_lt
  have bound := Nat.mul_le_mul_left count.toNat small
  have room : 2 ^ 36 ≤ 2 ^ bits := Nat.pow_le_pow_right (by decide) wide
  omega

end

end Ptp
