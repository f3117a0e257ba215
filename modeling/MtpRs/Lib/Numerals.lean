import Mathlib.Data.Nat.Digits.Defs

set_option autoImplicit false

/- Unsigned numbers as text: how they are written in a base, and how `from_str_radix` reads them,
whatever base they were written in. -/
namespace Numerals

/-- `char::to_digit`. -/
def toDigit (radix : Nat) (c : Char) : Option Nat :=
  let value :=
    if '0' ≤ c ∧ c ≤ '9' then some (c.toNat - '0'.toNat)
    else if 'a' ≤ c ∧ c ≤ 'z' then some (c.toNat - 'a'.toNat + 10)
    else if 'A' ≤ c ∧ c ≤ 'Z' then some (c.toNat - 'A'.toNat + 10)
    else none
  value.filter fun digit => digit < radix

/-- One more digit, unless the number gets too large for its type. -/
def addDigit (radix max acc : Nat) (c : Char) : Option Nat :=
  (toDigit radix c).bind fun digit =>
    if acc * radix + digit ≤ max then some (acc * radix + digit) else none

def readDigits (radix max : Nat) (text : List Char) : Option Nat :=
  text.foldlM (addDigit radix max) 0

/-- `from_str_radix` of the unsigned type whose largest value is `max`: a `+` may stand in front of
the digits. -/
def fromStrRadix (radix max : Nat) (text : List Char) : Option Nat :=
  match text with
  | [] => none
  | ['+'] => none
  | '+' :: digits => readDigits radix max digits
  | digits => readDigits radix max digits

/-- Digit values, the lowest place first, as text. -/
def spell (digits : List Nat) : List Char := (digits.map Nat.digitChar).reverse

/-- A text that stands for a number in a base: its digits behind any number of zeros. -/
structure Spells (base n : Nat) (text : List Char) : Prop where
  digits : ∃ zeros, text = spell (Nat.digits base n ++ List.replicate zeros 0)
  nonempty : text ≠ []

section

variable {base radix max n acc : Nat} {digits : List Nat} {text : List Char}

@[simp] theorem spell_cons {digit : Nat} :
    spell (digit :: digits) = spell digits ++ [digit.digitChar] := by
  rw [spell, List.map_cons, List.reverse_cons, ← spell]

theorem spell_append {others : List Nat} :
    spell (digits ++ others) = spell others ++ spell digits := by
  rw [spell, List.map_append, List.reverse_append, ← spell, ← spell]

theorem spell_replicate {zeros : Nat} :
    spell (List.replicate zeros 0) = List.replicate zeros '0' := by
  simp [spell]

theorem toDigit_digitChar {digit : Nat} (hexadecimal : digit < 16) :
    toDigit radix digit.digitChar = if digit < radix then some digit else none := by
  have value : ∀ digit < 16, toDigit 16 (Nat.digitChar digit) = some digit := by decide
  have known := value digit hexadecimal
  rw [toDigit, Option.filter_eq_some_iff] at known
  rw [toDigit, known.1, Option.filter_some]
  simp only [decide_eq_true_eq]

/-- Digits are read to the number they stand for, if that is not too large. -/
theorem readDigits_spell (positive : 0 < radix) (hexadecimal : ∀ digit ∈ digits, digit < 16)
    (small : ∀ digit ∈ digits, digit < radix) :
    readDigits radix max (spell digits) =
      if Nat.ofDigits radix digits ≤ max then some (Nat.ofDigits radix digits) else none := by
  induction digits with
  | nil => simp [readDigits, spell]
  | cons digit rest ih =>
      have earlier := ih (fun other mem => hexadecimal other (List.mem_cons_of_mem _ mem))
        fun other mem => small other (List.mem_cons_of_mem _ mem)
      have read : toDigit radix digit.digitChar = some digit := by
        rw [toDigit_digitChar (hexadecimal digit List.mem_cons_self),
          if_pos (small digit List.mem_cons_self)]
      have grows := Nat.le_mul_of_pos_left (Nat.ofDigits radix rest) positive
      have value : Nat.ofDigits radix (digit :: rest) = Nat.ofDigits radix rest * radix +
        digit := by
        rw [Nat.ofDigits_cons, Nat.mul_comm, Nat.add_comm]
      rw [spell_cons, readDigits, List.foldlM_append, ← readDigits, earlier, value]
      rw [Nat.mul_comm] at grows
      by_cases fits : Nat.ofDigits radix rest ≤ max
      · simp [fits, addDigit, read]
      · have large : ¬ Nat.ofDigits radix rest * radix + digit ≤ max := by omega
        simp [fits, large]

theorem foldlM_addDigit_none {c : Char} (mem : c ∈ text) (strange : toDigit radix c = none) :
    text.foldlM (addDigit radix max) acc = none := by
  induction text generalizing acc with
  | nil => cases mem
  | cons first rest ih =>
      rw [List.foldlM_cons]
      cases List.mem_cons.mp mem with
      | inl own => simp [addDigit, ← own, strange]
      | inr later =>
          cases addDigit radix max acc first with
          | none => rfl
          | some next => exact ih later

theorem fromStrRadix_eq (nonempty : text ≠ []) (unsigned : '+' ∉ text) :
    fromStrRadix radix max text = readDigits radix max text := by
  unfold fromStrRadix
  split
  · exact absurd rfl nonempty
  · exact absurd (List.mem_singleton.mpr rfl) unsigned
  · exact absurd List.mem_cons_self unsigned
  · rfl

namespace Spells

variable (spells : Spells base n text)

include spells

theorem digit_of_mem (hexadecimal : base ≤ 16) (several : 1 < base) {c : Char} (mem : c ∈ text) :
    ∃ digit < 16, c = digit.digitChar ∧ (digit = 0 ∨ digit ∈ Nat.digits base n) := by
  obtain ⟨zeros, text⟩ := spells.digits
  rw [text, spell, List.mem_reverse, List.mem_map] at mem
  obtain ⟨digit, mem, same⟩ := mem
  rw [List.mem_append] at mem
  cases mem with
  | inl own =>
      have below := Nat.digits_lt_base several own
      exact ⟨digit, by omega, same.symm, Or.inr own⟩
  | inr zero =>
      have zero := List.eq_of_mem_replicate zero
      exact ⟨digit, by omega, same.symm, Or.inl zero⟩

theorem digit_mem {digit : Nat} (mem : digit ∈ Nat.digits base n) : digit.digitChar ∈ text := by
  obtain ⟨zeros, text⟩ := spells.digits
  rw [text, spell, List.mem_reverse]
  exact List.mem_map_of_mem (List.mem_append_left _ mem)

theorem unsigned (hexadecimal : base ≤ 16) (several : 1 < base) : '+' ∉ text := by
  intro mem
  obtain ⟨digit, below, same, _⟩ := spells.digit_of_mem hexadecimal several mem
  have none : ∀ digit < 16, '+' ≠ Nat.digitChar digit := by decide
  exact none digit below same

/-- A digit that the other base does not have. -/
theorem read_none (hexadecimal : base ≤ 16) (several : 1 < base) {digit : Nat}
    (mem : digit ∈ Nat.digits base n) (large : radix ≤ digit) :
    fromStrRadix radix max text = none := by
  have below := Nat.digits_lt_base several mem
  have strange : toDigit radix digit.digitChar = none := by
    rw [toDigit_digitChar (by omega), if_neg (by omega)]
  rw [fromStrRadix_eq spells.nonempty (spells.unsigned hexadecimal several)]
  exact foldlM_addDigit_none (spells.digit_mem mem) strange

/-- In whatever base the digits are read: they are the digits of that text. -/
theorem read (hexadecimal : base ≤ 16) (several : 1 < base) (positive : 0 < radix)
    (small : ∀ digit ∈ Nat.digits base n, digit < radix) :
    fromStrRadix radix max text =
      if Nat.ofDigits radix (Nat.digits base n) ≤ max
      then some (Nat.ofDigits radix (Nat.digits base n)) else none := by
  obtain ⟨zeros, same⟩ := spells.digits
  have small : ∀ digit ∈ Nat.digits base n ++ List.replicate zeros 0, digit < 16 ∧
    digit < radix := by
    intro digit mem
    rw [List.mem_append] at mem
    cases mem with
    | inl own =>
        have below := Nat.digits_lt_base several own
        exact ⟨by omega, small digit own⟩
    | inr zero =>
        have zero := List.eq_of_mem_replicate zero
        omega
  rw [fromStrRadix_eq spells.nonempty (spells.unsigned hexadecimal several), same,
    readDigits_spell positive (fun digit mem => (small digit mem).1)
      (fun digit mem => (small digit mem).2), Nat.ofDigits_append_replicate_zero]

theorem read_own (hexadecimal : base ≤ 16) (several : 1 < base) (fits : n ≤ max) :
    fromStrRadix base max text = some n := by
  rw [spells.read hexadecimal several (by omega) fun digit mem => Nat.digits_lt_base several mem,
    Nat.ofDigits_digits, if_pos fits]

theorem leftpad (width : Nat) : Spells base n (List.leftpad width '0' text) := by
  obtain ⟨zeros, same⟩ := spells.digits
  constructor
  · refine ⟨zeros + (width - text.length), ?_⟩
    rw [List.leftpad, ← List.replicate_append_replicate, ← List.append_assoc, spell_append,
      spell_replicate, ← same]
  · intro empty
    rw [List.leftpad, List.append_eq_nil_iff] at empty
    exact spells.nonempty empty.2

end Spells

theorem spells_toDigits (several : 1 < base) : Spells base n (Nat.toDigits base n) where
  nonempty := Nat.toDigits_ne_nil
  digits := by
    induction n using Nat.strongRecOn with
    | ind n ih =>
        by_cases zero : n = 0
        · refine ⟨1, ?_⟩
          rw [zero, Nat.toDigits_zero, Nat.digits_zero]
          rfl
        · by_cases one : n < base
          · refine ⟨0, ?_⟩
            rw [Nat.toDigits_of_lt_base one, Nat.digits_of_lt base n zero one]
            rfl
          · have base_le : base ≤ n := Nat.le_of_not_lt one
            have less : n / base < n := Nat.div_lt_self (by omega) several
            obtain ⟨zeros, earlier⟩ := ih (n / base) less
            refine ⟨zeros, ?_⟩
            rw [Nat.toDigits_of_base_le several base_le, earlier,
              Nat.digits_def' several (by omega : 0 < n), List.cons_append, spell_cons]

end

end Numerals
