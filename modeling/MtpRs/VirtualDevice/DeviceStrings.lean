import MtpRs.Lib.Panics
import MtpRs.VirtualDevice.Descriptions

set_option autoImplicit false

/- Where the device cuts a string that PTP cannot carry, character by character and byte by byte. -/
namespace VirtualDevice

open Ptp (Bytes charUnits decodeUtf16Lossy encodeUtf16 maxStringUnits packString packU16
  receivedText unpackString)

/-- `char_indices`: every character with the byte it starts at. -/
def charIndices : Nat → List Char → List (Nat × Char)
  | _, [] => []
  | start, c :: rest => (start, c) :: charIndices (start + c.utf8Size) rest

/-- `find` with the closure that counts code units: the first character that does not fit. The count
is a `usize`, of 32 bits at least. -/
def findUnfit : Nat → List (Nat × Char) → Option (Option (Nat × Char))
  | _, [] => some none
  | units, (i, c) :: rest => do
      let units ← Panics.add 32 units (charUnits c).length
      if maxStringUnits < units then some (some (i, c)) else findUnfit units rest

/-- `&s[..length]`, which panics anywhere but at a character's boundary. -/
def sliceTo : Nat → List Char → Option (List Char)
  | 0, _ => some []
  | _ + 1, [] => none
  | length + 1, c :: rest =>
      if c.utf8Size ≤ length + 1 then
        (sliceTo (length + 1 - c.utf8Size) rest).map fun front => c :: front
      else none

def packDeviceStringPanicking (s : String) : Option Bytes := do
  let found ← findUnfit 0 (charIndices 0 s.toList)
  let length := match found with
    | some (i, _) => i
    | none => s.utf8ByteSize
  let front ← sliceTo length s.toList
  -- `expect`
  match packString (String.ofList front) with
  | .ok bytes => some bytes
  | .error _ => none

/-- Behind the length byte: two bytes a code unit. -/
def codeUnits : Bytes → List UInt16
  | low :: high :: rest => UInt16.ofNat (low.toNat + 2 ^ 8 * high.toNat) :: codeUnits rest
  | _ => []

/-- Every surrogate stands in a pair, a high one before a low one. -/
inductive Paired : List UInt16 → Prop where
  | nil : Paired []
  | single {unit : UInt16} {rest : List UInt16}
      (plain : unit.toNat < 0xD800 ∨ 0xE000 ≤ unit.toNat) (others : Paired rest) :
      Paired (unit :: rest)
  | pair {high low : UInt16} {rest : List UInt16}
      (first : 0xD800 ≤ high.toNat ∧ high.toNat < 0xDC00)
      (second : 0xDC00 ≤ low.toNat ∧ low.toNat < 0xE000) (others : Paired rest) :
      Paired (high :: low :: rest)

/-- The longest part of a string, from its front and of whole characters, that PTP can carry. -/
structure LongestFitting (s front : String) : Prop where
  whole : front.toList <+: s.toList
  fits : (encodeUtf16 front).length ≤ maxStringUnits
  longest : ∀ other : String, other.toList <+: s.toList →
    (encodeUtf16 other).length ≤ maxStringUnits → other.toList <+: front.toList

section

variable {s : String} {units : Nat} {chars : List Char}

theorem fittingChars_front : fittingChars units chars <+: chars := by
  induction chars generalizing units with
  | nil => exact List.prefix_refl _
  | cons c rest ih =>
      rw [fittingChars]
      by_cases full : maxStringUnits < units + (charUnits c).length
      · rw [if_pos full]
        exact List.nil_prefix
      · rw [if_neg full, List.prefix_cons_inj]
        exact ih

/-- Whatever fits is no longer. -/
theorem fittingChars_longest {other : List Char} (front : other <+: chars)
    (fits : units + (other.flatMap charUnits).length ≤ maxStringUnits) :
    other <+: fittingChars units chars := by
  induction chars generalizing units other with
  | nil => exact front
  | cons c rest ih =>
      cases other with
      | nil => exact List.nil_prefix
      | cons c' others =>
          rw [List.cons_prefix_cons] at front
          obtain ⟨same, front⟩ := front
          subst same
          rw [List.flatMap_cons, List.length_append] at fits
          have here : ¬ maxStringUnits < units + (charUnits c').length := by omega
          rw [fittingChars, if_neg here, List.prefix_cons_inj]
          exact ih front (by omega)

theorem longestFitting (s : String) : LongestFitting s (fittingPart s) where
  whole := by
    rw [fittingPart, String.toList_ofList]
    exact fittingChars_front
  fits := by
    have length := fittingChars_length 0 s.toList (Nat.zero_le _)
    rw [encodeUtf16, fittingPart, String.toList_ofList]
    omega
  longest other front fits := by
    rw [fittingPart, String.toList_ofList]
    exact fittingChars_longest front (by rw [Nat.zero_add]; exact fits)

/-- The bytes of a string's characters. -/
def utf8Length (chars : List Char) : Nat := (chars.map Char.utf8Size).sum

theorem utf8ByteSize_ofList (chars : List Char) :
    (String.ofList chars).utf8ByteSize = utf8Length chars := by
  induction chars with
  | nil => rfl
  | cons c rest ih =>
      have split : String.ofList (c :: rest) = String.singleton c ++ String.ofList rest := by
        apply String.toList_inj.mp
        simp
      rw [split, String.utf8ByteSize_append, String.utf8ByteSize_singleton, ih]
      rfl

/-- The character found starts where the characters that fit end. -/
theorem sliceTo_findUnfit (start : Nat) (room : units ≤ maxStringUnits) :
    ∃ found length, findUnfit units (charIndices start chars) = some found ∧
      (match found with
        | some (i, _) => i
        | none => start + utf8Length chars) = start + length ∧
      sliceTo length chars = some (fittingChars units chars) := by
  induction chars generalizing units start with
  | nil => exact ⟨none, 0, rfl, rfl, rfl⟩
  | cons c rest ih =>
      have wide := Ptp.charUnits_length_le c
      unfold maxStringUnits at room
      rw [charIndices, findUnfit, Panics.add_eq (by omega), fittingChars]
      simp only [Option.bind_eq_bind, Option.bind_some]
      by_cases full : maxStringUnits < units + (charUnits c).length
      · rw [if_pos full, if_pos full]
        exact ⟨some (start, c), 0, rfl, rfl, rfl⟩
      · rw [if_neg full, if_neg full]
        obtain ⟨found, length, searched, ends, sliced⟩ :=
          ih (start + c.utf8Size) (Nat.le_of_not_lt full)
        refine ⟨found, c.utf8Size + length, searched, ?_, ?_⟩
        · have split : utf8Length (c :: rest) = c.utf8Size + utf8Length rest := List.sum_cons
          cases found with
          | none =>
              dsimp only at ends ⊢
              omega
          | some unfit =>
              dsimp only at ends ⊢
              omega
        · have wide := c.utf8Size_pos
          cases total : c.utf8Size + length with
          | zero => omega
          | succ before =>
              have left : before + 1 - c.utf8Size = length := by omega
              rw [sliceTo, if_pos (by omega), left, sliced]
              rfl

theorem packDeviceStringPanicking_eq (s : String) :
    packDeviceStringPanicking s = some (packDeviceString s) := by
  obtain ⟨found, length, searched, ends, sliced⟩ :=
    @sliceTo_findUnfit 0 s.toList 0 (Nat.zero_le _)
  have size : s.utf8ByteSize = utf8Length s.toList := by
    rw [← utf8ByteSize_ofList, String.ofList_toList]
  rw [Nat.zero_add, Nat.zero_add, ← size] at ends
  rw [packDeviceStringPanicking, searched]
  simp only [Option.bind_eq_bind, Option.bind_some]
  rw [ends, sliced]
  simp only [Option.bind_some]
  change (match packString (fittingPart s) with
    | .ok bytes => some bytes
    | .error _ => none) = _
  rw [packString_fittingPart]

theorem paired_charUnits (c : Char) {rest : List UInt16} (others : Paired rest) :
    Paired (charUnits c ++ rest) := by
  have valid := Ptp.char_toNat c
  unfold charUnits
  by_cases small : c.toNat < 0x10000
  · have unit : (UInt16.ofNat c.toNat).toNat = c.toNat := by
      rw [UInt16.toNat_ofNat']
      omega
    rw [if_pos small]
    exact .single (by omega) others
  · have high : (UInt16.ofNat (0xD800 + (c.toNat - 0x10000) / 0x400)).toNat =
        0xD800 + (c.toNat - 0x10000) / 0x400 := by
      rw [UInt16.toNat_ofNat']
      omega
    have low : (UInt16.ofNat (0xDC00 + (c.toNat - 0x10000) % 0x400)).toNat =
        0xDC00 + (c.toNat - 0x10000) % 0x400 := by
      rw [UInt16.toNat_ofNat']
      omega
    rw [if_neg small]
    exact .pair (by omega) (by omega) others

theorem paired_flatMap (chars : List Char) {rest : List UInt16} (others : Paired rest) :
    Paired (chars.flatMap charUnits ++ rest) := by
  induction chars with
  | nil => exact others
  | cons c chars ih =>
      rw [List.flatMap_cons, List.append_assoc]
      exact paired_charUnits c ih

theorem codeUnits_flatMap (units : List UInt16) :
    codeUnits (units.flatMap packU16 ++ [0, 0]) = units ++ [0] := by
  induction units with
  | nil => rfl
  | cons unit rest ih =>
      have same := Except.ok.inj (Ptp.unpackU16_packU16 unit [])
      rw [List.flatMap_cons, packU16, List.append_assoc, List.cons_append, List.cons_append,
        List.nil_append, codeUnits, ih, same, List.cons_append]

theorem paired_packString {bytes : Bytes} (packed : packString s = .ok bytes) :
    Paired (codeUnits bytes.tail) := by
  unfold packString at packed
  by_cases empty : s = ""
  · rw [if_pos empty] at packed
    cases packed
    exact .nil
  · rw [if_neg empty] at packed
    by_cases long : maxStringUnits < (encodeUtf16 s).length
    · simp only [if_pos long, reduceCtorEq] at packed
    · simp only [if_neg long, Except.ok.injEq] at packed
      rw [← packed, List.cons_append, List.tail_cons, codeUnits_flatMap]
      exact paired_flatMap s.toList (.single (by decide) .nil)

end

/-- A string goes out as its longest part that fits, of whole characters, and is read back up to its
first NUL. -/
theorem pack_device_string_cuts (s : String) : ∃ front bytes, LongestFitting s front ∧
    packDeviceStringPanicking s = some bytes ∧
    (∀ rest, unpackString (bytes ++ rest) = .ok (receivedText front, bytes.length)) ∧
    ((encodeUtf16 s).length ≤ maxStringUnits → packString s = .ok bytes) ∧
    Paired (codeUnits bytes.tail) := by
  refine ⟨fittingPart s, packDeviceString s, longestFitting s, packDeviceStringPanicking_eq s,
    writes_packDeviceString s, ?_, paired_packString (packString_fittingPart s)⟩
  intro fits
  have packed := packString_fittingPart s
  rw [fittingPart_eq fits] at packed
  exact packed

end VirtualDevice
