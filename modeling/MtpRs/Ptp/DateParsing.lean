import MtpRs.Lib.Panics
import MtpRs.Ptp.DateStrings

set_option autoImplicit false

/- Parsing of dates, with every index, slice and sum of the code that could panic. -/
namespace Ptp

open Ascii (IsDigit bytes digits value)
open Panics (add attempt index multiply signed slice sliceFrom subtract)

/-- One step of the fold over the digits. -/
def accumulate (acc : Nat) (byte : UInt8) : Option Nat := do
  let tens ← multiply 16 acc 10
  let digit ← subtract byte.toNat 0x30
  add 16 tens digit

def parseDigitsPanicking (n : Nat) (bytes : List UInt8) : Option (Option Nat) :=
  if bytes.length ≠ n || !bytes.all isAsciiDigit then some none
  else (bytes.foldlM accumulate 0).map some

def offsetPanicking (sign : UInt8) (hours minutes : Nat) : Option (Option (Option UtcOffset)) := do
  let product ← multiply 16 hours 60
  let total ← add 16 product minutes
  -- `as i16`
  let total := (Int16.ofNat total).toInt
  let total ← if sign = 0x2D then signed 16 (-total) else some total
  some ((UtcOffset.fromMinutes total).map some)

def parseZonePanicking : List UInt8 → Option (Option (Option UtcOffset))
  | [] => some (some none)
  | [0x5A] => some (some (some .utc))
  | sign :: hhmm =>
      if sign = 0x2B ∨ sign = 0x2D then
        -- `get(..2)?` and `get(2..)?`
        if hhmm.length < 2 then some none
        else
          attempt (parseDigitsPanicking 2 (hhmm.take 2)) fun hours =>
            attempt (parseDigitsPanicking 2 (hhmm.drop 2)) fun minutes =>
              if 23 < hours ∨ 59 < minutes then some none
              else offsetPanicking sign hours minutes
      else some none

def parseSuffixPanicking : List UInt8 → Option (Option (Option UtcOffset))
  | 0x2E :: rest => do
      let digits := (rest.takeWhile isAsciiDigit).length
      if digits = 0 then some none
      else
        let tail ← sliceFrom rest digits
        parseZonePanicking tail
  | tail => parseZonePanicking tail

/-- `u8::try_from(v).ok()`. -/
def narrow (v : Nat) : Option Nat := if v < 256 then some v else none

/-- A field of the stamp in `size` digits, narrowed to `u8`. -/
def fieldPanicking (b : List UInt8) (low high : Nat) : Option (Option Nat) := do
  let part ← slice b low high
  attempt (parseDigitsPanicking (high - low) part) fun v => some (narrow v)

def DateTime.parsePanicking (s : String) : Option (Option DateTime) :=
  let b := bytes s
  if b.length < 15 then some none
  else do
    let mark ← index b 8
    if mark ≠ 0x54 then some none
    else do
      let front ← slice b 0 4
      attempt (parseDigitsPanicking 4 front) fun year =>
        attempt (fieldPanicking b 4 6) fun month =>
          attempt (fieldPanicking b 6 8) fun day =>
            attempt (fieldPanicking b 9 11) fun hour =>
              attempt (fieldPanicking b 11 13) fun minute =>
                attempt (fieldPanicking b 13 15) fun second =>
                  attempt (some (DateTime.new year month day hour minute second)) fun dt => do
                    let tail ← sliceFrom b 15
                    attempt (parseSuffixPanicking tail) fun offset =>
                      some (some { dt with offset := offset })

section

variable {width : Nat} {b : List UInt8}

theorem foldlM_accumulate (all : ∀ byte ∈ b, IsDigit byte) (short : b.length ≤ 4) :
    b.foldlM accumulate 0 = some (value b) := by
  induction b using List.reverseRecOn with
  | nil => rfl
  | append_singleton front byte ih =>
      have early : ∀ other ∈ front, IsDigit other := fun other mem =>
        all other (List.mem_append_left _ mem)
      have last := all byte (List.mem_append_right _ (List.mem_singleton_self byte))
      rw [List.length_append, List.length_singleton] at short
      have small : value front < 10 ^ 3 :=
        Nat.lt_of_lt_of_le (Ascii.value_lt early) (Nat.pow_le_pow_right (by decide) (by omega))
      obtain ⟨low, high⟩ := last
      rw [List.foldlM_append, ih early (by omega)]
      simp only [bind, Option.bind, List.foldlM_cons, List.foldlM_nil, pure]
      rw [accumulate, Panics.multiply_eq (by omega), Panics.subtract_eq low]
      simp only [bind, Option.bind]
      rw [Panics.add_eq (by omega), Ascii.value_concat]

theorem parseDigitsPanicking_eq (narrow : width ≤ 4) :
    parseDigitsPanicking width b = some (parseDigits width b) := by
  unfold parseDigitsPanicking parseDigits
  by_cases refused : (decide (b.length ≠ width) || !b.all isAsciiDigit) = true
  · rw [if_pos refused, if_pos refused]
  · rw [if_neg refused, if_neg refused]
    simp only [Bool.or_eq_true, decide_eq_true_eq, Bool.not_eq_true', not_or, not_not,
      Bool.not_eq_false, List.all_eq_true, isAsciiDigit_iff] at refused
    rw [foldlM_accumulate refused.2 (by omega)]
    rfl

theorem offsetPanicking_eq {sign : UInt8} {hours minutes : Nat} (day : hours ≤ 23)
    (hour : minutes ≤ 59) : offsetPanicking sign hours minutes =
      some ((UtcOffset.fromMinutes (if sign = 0x2D then -((hours : Int) * 60 + minutes)
        else (hours : Int) * 60 + minutes)).map some) := by
  have total : (Int16.ofNat (hours * 60 + minutes)).toInt = (hours : Int) * 60 + minutes := by
    rw [Int16.toInt_ofNat_of_lt (by omega)]
    omega
  rw [offsetPanicking, Panics.multiply_eq (by omega)]
  simp only [bind, Option.bind]
  rw [Panics.add_eq (by omega)]
  dsimp only
  rw [total]
  by_cases west : sign = 0x2D
  · rw [if_pos west, if_pos west, Panics.signed_eq (by omega) (by omega)]
  · rw [if_neg west, if_neg west]

theorem parseZonePanicking_eq (tail : List UInt8) :
    parseZonePanicking tail = some (parseZone tail) := by
  unfold parseZonePanicking
  split
  · rfl
  · rfl
  · next sign hhmm other =>
      rw [parseZone.eq_3 sign hhmm other]
      by_cases marked : sign = 0x2B ∨ sign = 0x2D
      · rw [if_pos marked, if_pos marked]
        by_cases short : hhmm.length < 2
        · rw [if_pos short, if_pos short]
        · rw [if_neg short, if_neg short]
          apply Panics.attempt_eq (parseDigitsPanicking_eq (by decide))
          intro hours _
          apply Panics.attempt_eq (parseDigitsPanicking_eq (by decide))
          intro minutes _
          by_cases large : 23 < hours ∨ 59 < minutes
          · rw [if_pos large, if_pos large]
          · rw [if_neg large, if_neg large]
            exact offsetPanicking_eq (by omega) (by omega)
      · rw [if_neg marked, if_neg marked]

theorem parseSuffixPanicking_eq (tail : List UInt8) :
    parseSuffixPanicking tail = some (parseSuffix tail) := by
  unfold parseSuffixPanicking
  split
  · next rest =>
      rw [parseSuffix_point]
      by_cases none : (rest.takeWhile isAsciiDigit).length = 0
      · simp only [if_pos none]
      · simp only [if_neg none]
        rw [Panics.sliceFrom_eq (List.takeWhile_prefix _).length_le]
        exact parseZonePanicking_eq _
  · next other =>
      rw [parseSuffix.eq_2 _ other]
      exact parseZonePanicking_eq _

theorem fieldPanicking_eq {low high : Nat} (size : high - low ≤ 2) (ordered : low ≤ high)
    (within : high ≤ b.length) : fieldPanicking b low high =
      some (parseDigits (high - low) ((b.drop low).take (high - low))) := by
  rw [fieldPanicking, Panics.slice_eq ordered within]
  simp only [bind, Option.bind]
  rw [← Option.bind_fun_some (parseDigits (high - low) _)]
  apply Panics.attempt_eq (parseDigitsPanicking_eq (by omega))
  intro v parsed
  have small := (parseDigits_iff.mp parsed).1
  have bound : v < 256 := Nat.lt_of_lt_of_le small
    (Nat.le_trans (Nat.pow_le_pow_right (by decide) size) (by decide))
  rw [narrow, if_pos bound]

/-- No index, slice or sum of the parser is out of range, whatever the string. -/
theorem parsePanicking_eq (s : String) :
    DateTime.parsePanicking s = some (DateTime.parse s) := by
  unfold DateTime.parsePanicking DateTime.parse
  change _ = some (if _ then _ else _)
  dsimp only
  rw [show s.toUTF8.data.toList = bytes s from rfl]
  by_cases short : (bytes s).length < 15
  · rw [if_pos short, if_pos (by simp [short])]
  · have length : 15 ≤ (bytes s).length := Nat.le_of_not_lt short
    obtain ⟨t, there⟩ : ∃ t, (bytes s)[8]? = some t := ⟨_, List.getElem?_eq_getElem (by omega)⟩
    rw [if_neg short, index, there]
    simp only [bind, Option.bind]
    by_cases mark : t = 0x54
    · rw [if_neg (not_not.mpr mark), if_neg (by simp [short, mark]), Panics.slice_eq (by decide)
        (by omega)]
      dsimp only
      apply Panics.attempt_eq (parseDigitsPanicking_eq (by decide))
      intro year _
      apply Panics.attempt_eq (fieldPanicking_eq (by decide) (by decide) (by omega))
      intro month _
      apply Panics.attempt_eq (fieldPanicking_eq (by decide) (by decide) (by omega))
      intro day _
      apply Panics.attempt_eq (fieldPanicking_eq (by decide) (by decide) (by omega))
      intro hour _
      apply Panics.attempt_eq (fieldPanicking_eq (by decide) (by decide) (by omega))
      intro minute _
      apply Panics.attempt_eq (fieldPanicking_eq (by decide) (by decide) (by omega))
      intro second _
      apply Panics.attempt_eq rfl
      intro dt _
      rw [Panics.sliceFrom_eq length]
      apply Panics.attempt_eq (parseSuffixPanicking_eq _)
      intro offset _
      rfl
    · rw [if_pos mark, if_pos (by simp [mark])]

end

/-- A string is parsed to a date exactly when it is the date's stamp, a fraction or none and an
offset or none; a real date is read back from the string it is written as, and a string that was
parsed is written again, with no fraction and no signed zero offset; no string panics the parser. -/
theorem date_strings (s : String) (d : DateTime) :
    (DateTime.parse s = some d ↔ ∃ fraction zone, Fraction fraction ∧ Zone zone d.offset ∧
        d.Real ∧ s = d.stamp ++ fraction ++ zone) ∧
      (d.Real → ∃ text, d.format = some text ∧ DateTime.parse text = some d) ∧
      (DateTime.parse s = some d → '.' ∉ s.toList → ¬ "+0000".toList <:+ s.toList →
        ¬ "-0000".toList <:+ s.toList → d.format = some s) ∧
      DateTime.parsePanicking s = some (DateTime.parse s) := by
  refine ⟨parse_iff, ?_, format_parse, parsePanicking_eq s⟩
  intro real
  have written := format_eq real
  have read := parse_format real
  rw [written, Option.bind_some] at read
  exact ⟨_, written, read⟩

end Ptp
