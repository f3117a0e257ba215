import Mathlib.Algebra.Group.Nat.Defs
import Mathlib.Data.List.Induction

set_option autoImplicit false

/- Text as the bytes of its UTF-8, and numbers in decimal digits of a fixed width. -/
namespace Ascii

def bytes (s : String) : List UInt8 := s.toUTF8.data.toList

def byte (c : Char) : UInt8 := UInt8.ofNat c.toNat

def char (b : UInt8) : Char := Char.ofNat b.toNat

/-- `0` to `9`. -/
def IsDigit (b : UInt8) : Prop := 0x30 ≤ b.toNat ∧ b.toNat ≤ 0x39

/-- The number decimal digits stand for. -/
def value (digits : List UInt8) : Nat :=
  digits.foldl (fun acc b => acc * 10 + (b.toNat - 0x30)) 0

/-- The last digits of a number, as many as the width. -/
def digits : Nat → Nat → List UInt8
  | 0, _ => []
  | width + 1, n => digits width (n / 10) ++ [UInt8.ofNat (0x30 + n % 10)]

section

variable {s t : String} {width n : Nat} {b : UInt8} {bs : List UInt8}

theorem bytes_inj : bytes s = bytes t ↔ s = t := by
  rw [bytes, bytes, Array.toList_inj, ← String.toByteArray_inj, ByteArray.ext_iff,
    String.toUTF8_eq_toByteArray, String.toUTF8_eq_toByteArray]

@[simp] theorem bytes_append : bytes (s ++ t) = bytes s ++ bytes t := by
  rw [bytes, String.toUTF8_eq_toByteArray, String.toByteArray_append, ByteArray.data_append,
    Array.toList_append]
  rfl

/-- ASCII characters are one byte each. -/
theorem bytes_ofList {chars : List Char} (ascii : ∀ c ∈ chars, c.toNat < 0x80) :
    bytes (String.ofList chars) = chars.map byte := by
  rw [bytes, String.toUTF8_eq_toByteArray, String.toByteArray_ofList]
  induction chars with
  | nil => rfl
  | cons c rest ih =>
      have one : c.utf8Size = 1 := Char.utf8Size_eq_one_iff.mpr (by
        have small := ascii c (List.mem_cons_self ..)
        rw [UInt32.le_iff_toNat_le]
        exact Nat.le_of_lt_succ small)
      have other := ih fun other mem => ascii other (List.mem_cons_of_mem _ mem)
      rw [List.utf8Encode_cons, List.utf8Encode_singleton, String.utf8EncodeChar_eq_singleton one,
        ByteArray.data_append, Array.toList_append, other]
      rfl

@[simp] theorem length_digits : (digits width n).length = width := by
  induction width generalizing n with
  | zero => rfl
  | succ width ih => rw [digits, List.length_append, ih, List.length_singleton]

theorem drop_digits {i : Nat} (past : width ≤ i) : (digits width n).drop i = [] :=
  List.drop_of_length_le (by rwa [length_digits])

theorem value_concat : value (bs ++ [b]) = value bs * 10 + (b.toNat - 0x30) := by
  rw [value, List.foldl_append]
  rfl

theorem digit_toNat : (UInt8.ofNat (0x30 + n % 10)).toNat = 0x30 + n % 10 := by
  rw [UInt8.toNat_ofNat']
  omega

theorem value_digits (small : n < 10 ^ width) : value (digits width n) = n := by
  induction width generalizing n with
  | zero =>
      rw [Nat.pow_zero] at small
      rw [Nat.lt_one_iff.mp small]
      rfl
  | succ width ih =>
      rw [Nat.pow_succ] at small
      rw [digits, value_concat, ih (by omega), digit_toNat]
      omega

theorem isDigit_of_mem_digits (mem : b ∈ digits width n) : IsDigit b := by
  induction width generalizing n with
  | zero => cases mem
  | succ width ih =>
      rw [digits, List.mem_append, List.mem_singleton] at mem
      rcases mem with early | last
      · exact ih early
      · rw [last, IsDigit, digit_toNat]
        omega

theorem value_lt (all : ∀ b ∈ bs, IsDigit b) : value bs < 10 ^ bs.length := by
  induction bs using List.reverseRecOn with
  | nil => exact Nat.one_pos
  | append_singleton bs b ih =>
      have early := ih fun other mem => all other (List.mem_append_left _ mem)
      have last := all b (List.mem_append_right _ (List.mem_singleton_self b))
      rw [IsDigit] at last
      rw [value_concat, List.length_append, List.length_singleton, Nat.pow_succ]
      omega

/-- Digits are those of the number they stand for. -/
theorem digits_value (all : ∀ b ∈ bs, IsDigit b) : digits bs.length (value bs) = bs := by
  induction bs using List.reverseRecOn with
  | nil => rfl
  | append_singleton bs b ih =>
      have early := ih fun other mem => all other (List.mem_append_left _ mem)
      have last := all b (List.mem_append_right _ (List.mem_singleton_self b))
      rw [IsDigit] at last
      have front : (value bs * 10 + (b.toNat - 0x30)) / 10 = value bs := by omega
      have back : UInt8.ofNat (0x30 + (value bs * 10 + (b.toNat - 0x30)) % 10) = b := by
        apply UInt8.toNat_inj.mp
        rw [digit_toNat]
        omega
      rw [value_concat, List.length_append, List.length_singleton, digits, front, back, early]

theorem byte_digitChar (small : n < 10) : byte (Nat.digitChar n) = UInt8.ofNat (0x30 + n % 10) := by
  rw [byte, Nat.toNat_digitChar_of_lt_ten small, Nat.mod_eq_of_lt small, Nat.add_comm]

theorem digits_zero : digits width 0 = List.replicate width 0x30 := by
  induction width with
  | zero => rfl
  | succ width ih =>
      rw [digits, Nat.zero_div, ih, List.replicate_succ']
      rfl

/-- A number's shortest decimal form, filled up with zeros in front. -/
theorem fill_toDigits (wide : 0 < width) (small : n < 10 ^ width) :
    (Nat.toDigits 10 n).length ≤ width ∧
      List.replicate (width - (Nat.toDigits 10 n).length) 0x30 ++ (Nat.toDigits 10 n).map byte =
        digits width n := by
  induction width generalizing n with
  | zero => cases wide
  | succ width ih =>
      by_cases one : n < 10
      · rw [Nat.toDigits_of_lt_base one, digits, Nat.div_eq_of_lt one, digits_zero,
          List.map_singleton, byte_digitChar one]
        refine ⟨by simp, by simp⟩
      · have several : 10 ≤ n := Nat.le_of_not_lt one
        rw [Nat.pow_succ] at small
        have wider : 0 < width := by
          rcases Nat.eq_zero_or_pos width with zero | positive
          · rw [zero, Nat.pow_zero] at small
            omega
          · exact positive
        obtain ⟨length, filled⟩ := ih wider (n := n / 10) (by omega)
        rw [Nat.toDigits_of_base_le (by decide) several, List.length_append, List.map_append,
          List.map_singleton, byte_digitChar (Nat.mod_lt n (by decide)), Nat.mod_mod, digits,
          ← filled, List.length_singleton, Nat.add_sub_add_right, List.append_assoc]
        exact ⟨by omega, rfl⟩

end

end Ascii
