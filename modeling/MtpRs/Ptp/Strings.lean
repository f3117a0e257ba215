import Mathlib.Data.List.TakeWhile
import MtpRs.Ptp.Pack

set_option autoImplicit false

/- Strings of the wire, in UTF-16 after a length byte, and arrays of integers. -/
namespace Ptp

/-- The longest string PTP can carry, in UTF-16 code units, without the terminator. -/
def maxStringUnits : Nat := 254

/-- A character's code units: one, or a surrogate pair. -/
def charUnits (c : Char) : List UInt16 :=
  if c.toNat < 0x10000 then [UInt16.ofNat c.toNat]
  else
    [UInt16.ofNat (0xD800 + (c.toNat - 0x10000) / 0x400),
      UInt16.ofNat (0xDC00 + (c.toNat - 0x10000) % 0x400)]

def encodeUtf16 (s : String) : List UInt16 := s.toList.flatMap charUnits

/-- `String::from_utf16_lossy`: a lone surrogate becomes U+FFFD. -/
def decodeUtf16Lossy : List UInt16 → List Char
  | [] => []
  | [unit] => [if 0xD800 ≤ unit.toNat ∧ unit.toNat < 0xE000 then '\uFFFD' else .ofNat unit.toNat]
  | first :: second :: rest =>
      if 0xD800 ≤ first.toNat ∧ first.toNat < 0xDC00 then
        if 0xDC00 ≤ second.toNat ∧ second.toNat < 0xE000 then
          .ofNat (0x10000 + (first.toNat - 0xD800) * 0x400 + (second.toNat - 0xDC00)) ::
            decodeUtf16Lossy rest
        else '\uFFFD' :: decodeUtf16Lossy (second :: rest)
      else if 0xDC00 ≤ first.toNat ∧ first.toNat < 0xE000 then
        '\uFFFD' :: decodeUtf16Lossy (second :: rest)
      else .ofNat first.toNat :: decodeUtf16Lossy (second :: rest)

def packString (s : String) : Except PtpError Bytes :=
  if s = "" then .ok [0]
  else
    let utf16 := encodeUtf16 s
    if maxStringUnits < utf16.length then .error (.stringTooLong utf16.length)
    else .ok (UInt8.ofNat (utf16.length + 1) :: utf16.flatMap packU16 ++ [0, 0])

/-- The code units before the first NUL. -/
def unpackUnits : Bytes → List UInt16
  | low :: high :: rest =>
      let unit := UInt16.ofNat (low.toNat + 2 ^ 8 * high.toNat)
      if unit = 0 then [] else unit :: unpackUnits rest
  | _ => []

def unpackString (buf : Bytes) : Except PtpError (String × Nat) :=
  match buf with
  | [] => .error (.invalidData "insufficient bytes for string length")
  | length :: units =>
      let required := 1 + length.toNat * 2
      if length = 0 then .ok ("", 1)
      else if buf.length < required then
        .error (.invalidData ("insufficient bytes for string: need " ++ toString required ++
          ", have " ++ toString buf.length))
      else
        .ok (String.ofList (decodeUtf16Lossy (unpackUnits (units.take (length.toNat * 2)))),
          required)

def packU16Array (array : List UInt16) : Bytes :=
  packU32 (UInt32.ofNat array.length) ++ array.flatMap packU16

def packU32Array (array : List UInt32) : Bytes :=
  packU32 (UInt32.ofNat array.length) ++ array.flatMap packU32

theorem packString_ok {s : String} (fits : (encodeUtf16 s).length ≤ maxStringUnits) :
    ∃ bytes, packString s = .ok bytes := by
  unfold packString
  by_cases empty : s = ""
  · rw [if_pos empty]
    exact ⟨_, rfl⟩
  · rw [if_neg empty, if_neg (Nat.not_lt.mpr fits)]
    exact ⟨_, rfl⟩

theorem unpackUnits_flatMap (units : List UInt16) :
    unpackUnits (units.flatMap packU16 ++ [0, 0]) = units.takeWhile fun unit => unit ≠ 0 := by
  induction units with
  | nil => rfl
  | cons unit rest ih =>
      have bound := unit.toNat_lt
      have same : UInt16.ofNat ((UInt8.ofNat unit.toNat).toNat +
          2 ^ 8 * (UInt8.ofNat (unit.toNat / 2 ^ 8)).toNat) = unit := by
        apply UInt16.toNat_inj.mp
        rw [UInt16.toNat_ofNat', UInt8.toNat_ofNat', UInt8.toNat_ofNat']
        omega
      simp only [List.flatMap_cons, packU16, List.cons_append, List.nil_append, unpackUnits, same]
      by_cases zero : unit = 0
      · simp [zero]
      · simp [zero, ih]

theorem flatMap_packU16_length (units : List UInt16) :
    (units.flatMap packU16).length = 2 * units.length := by
  induction units with
  | nil => rfl
  | cons unit rest ih =>
      rw [List.flatMap_cons, List.length_append, ih, packU16_length, List.length_cons]
      omega

/-- A character's code point, and those a code point cannot be. -/
theorem char_toNat (c : Char) :
    c.toNat < 0xD800 ∨ 0xDFFF < c.toNat ∧ c.toNat < 0x110000 := c.valid

theorem decodeUtf16Lossy_charUnits (c : Char) (rest : List UInt16) :
    decodeUtf16Lossy (charUnits c ++ rest) = c :: decodeUtf16Lossy rest := by
  have valid := char_toNat c
  unfold charUnits
  by_cases small : c.toNat < 0x10000
  · have unit : (UInt16.ofNat c.toNat).toNat = c.toNat := by
      rw [UInt16.toNat_ofNat']
      omega
    rw [if_pos small, List.cons_append, List.nil_append]
    cases rest with
    | nil =>
        simp only [decodeUtf16Lossy, unit, Char.ofNat_toNat]
        rw [if_neg (by omega)]
    | cons second rest =>
        rw [decodeUtf16Lossy, unit, if_neg (by omega), if_neg (by omega), Char.ofNat_toNat]
  · have high : (UInt16.ofNat (0xD800 + (c.toNat - 0x10000) / 0x400)).toNat =
        0xD800 + (c.toNat - 0x10000) / 0x400 := by
      rw [UInt16.toNat_ofNat']
      omega
    have low : (UInt16.ofNat (0xDC00 + (c.toNat - 0x10000) % 0x400)).toNat =
        0xDC00 + (c.toNat - 0x10000) % 0x400 := by
      rw [UInt16.toNat_ofNat']
      omega
    have joined : 0x10000 + (0xD800 + (c.toNat - 0x10000) / 0x400 - 0xD800) * 0x400 +
        (0xDC00 + (c.toNat - 0x10000) % 0x400 - 0xDC00) = c.toNat := by omega
    rw [if_neg small, List.cons_append, List.cons_append, List.nil_append, decodeUtf16Lossy, high,
      low, if_pos (by omega), if_pos (by omega), joined, Char.ofNat_toNat]

theorem decodeUtf16Lossy_flatMap (chars : List Char) :
    decodeUtf16Lossy (chars.flatMap charUnits) = chars := by
  induction chars with
  | nil => rfl
  | cons c rest ih => rw [List.flatMap_cons, decodeUtf16Lossy_charUnits, ih]

/-- Only NUL has a code unit of zero. -/
theorem zero_mem_charUnits {c : Char} : 0 ∈ charUnits c ↔ c = '\x00' := by
  have valid := char_toNat c
  unfold charUnits
  by_cases small : c.toNat < 0x10000
  · rw [if_pos small, List.mem_singleton, ← UInt16.toNat_inj, UInt16.toNat_ofNat', ← Char.toNat_inj]
    change 0 = _ ↔ _ = 0
    omega
  · have astral : c ≠ '\x00' := by
      intro nul
      rw [nul] at small
      exact small (by decide)
    rw [if_neg small]
    simp only [List.mem_cons, List.not_mem_nil, or_false, ← UInt16.toNat_inj, UInt16.toNat_ofNat',
      astral, iff_false]
    change ¬ (0 = _ ∨ 0 = _)
    omega

theorem takeWhile_flatMap_charUnits (chars : List Char) :
    (chars.flatMap charUnits).takeWhile (fun unit => unit ≠ 0) =
      (chars.takeWhile fun c => c ≠ '\x00').flatMap charUnits := by
  induction chars with
  | nil => rfl
  | cons c rest ih =>
      rw [List.flatMap_cons]
      by_cases nul : c = '\x00'
      · subst nul
        rfl
      · have units : ∀ unit ∈ charUnits c, unit ≠ 0 := by
          intro unit mem zero
          rw [zero] at mem
          exact nul (zero_mem_charUnits.mp mem)
        rw [List.takeWhile_append_of_pos (by simpa using units), ih,
          List.takeWhile_cons_of_pos (by simpa using nul), List.flatMap_cons]

/-- The text a packed string is read back as: what stands before a NUL. -/
def receivedText (s : String) : String :=
  String.ofList (s.toList.takeWhile fun c => c ≠ '\x00')

/-- A packed string is read back whatever follows it. -/
theorem unpackString_packString {s : String} {bytes : Bytes} (packed : packString s = .ok bytes)
    (rest : Bytes) : unpackString (bytes ++ rest) = .ok (receivedText s, bytes.length) := by
  unfold packString at packed
  by_cases empty : s = ""
  · rw [if_pos empty] at packed
    cases packed
    rw [empty]
    rfl
  · rw [if_neg empty] at packed
    by_cases long : maxStringUnits < (encodeUtf16 s).length
    · simp only [if_pos long, reduceCtorEq] at packed
    · simp only [if_neg long, Except.ok.injEq] at packed
      have fits : (encodeUtf16 s).length ≤ 254 := Nat.le_of_not_lt long
      have count : (UInt8.ofNat ((encodeUtf16 s).length + 1)).toNat = (encodeUtf16 s).length +
        1 := by
        rw [UInt8.toNat_ofNat']
        omega
      have some : ¬ UInt8.ofNat ((encodeUtf16 s).length + 1) = 0 := by
        intro zero
        rw [zero] at count
        cases count
      have units : ((encodeUtf16 s).flatMap packU16 ++ [0, 0]).length =
          ((encodeUtf16 s).length + 1) * 2 := by
        rw [List.length_append, flatMap_packU16_length]
        simp only [List.length_cons, List.length_nil]
        omega
      subst packed
      rw [List.cons_append, List.cons_append, unpackString, if_neg some, count, if_neg,
        List.take_left' units, unpackUnits_flatMap, encodeUtf16, takeWhile_flatMap_charUnits,
        decodeUtf16Lossy_flatMap, receivedText]
      · congr 2
        rw [List.length_cons, ← encodeUtf16, units]
        omega
      · rw [List.length_cons, List.length_append, units]
        omega

theorem receivedText_eq_iff {s : String} : receivedText s = s ↔ '\x00' ∉ s.toList := by
  rw [receivedText, ← String.toList_inj, String.toList_ofList, List.takeWhile_eq_self_iff]
  simp only [ne_eq, decide_not, Bool.not_eq_eq_eq_not, Bool.not_true, decide_eq_false_iff_not]
  constructor
  · intro all mem
    exact all _ mem rfl
  · intro free c mem nul
    rw [nul] at mem
    exact free mem

/-- Packing fails for a string that is too long, and for no other. -/
theorem packString_error_iff {s : String} :
    (∃ e, packString s = .error e) ↔ maxStringUnits < (encodeUtf16 s).length := by
  constructor
  · intro ⟨e, failed⟩
    by_contra fits
    obtain ⟨bytes, packed⟩ := packString_ok (Nat.le_of_not_lt fits)
    rw [packed] at failed
    cases failed
  · intro long
    have filled : s ≠ "" := by
      intro empty
      rw [empty] at long
      exact absurd long (by decide)
    exact ⟨.stringTooLong (encodeUtf16 s).length, by rw [packString, if_neg filled, if_pos long]⟩

example : unpackString [3, 0x61, 0, 0xE9, 0, 0, 0, 7] = .ok ("aé", 7) := by decide

end Ptp
