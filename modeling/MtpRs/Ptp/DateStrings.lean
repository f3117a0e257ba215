import Mathlib.Data.List.TakeWhile
import Mathlib.Tactic.IntervalCases
import MtpRs.Lib.Ascii
import MtpRs.Ptp.Calendar

set_option autoImplicit false

/- The strings that are dates, and the ones dates are written as. -/
namespace Ptp

open Ascii (IsDigit bytes bytes_append bytes_inj bytes_ofList digits value)

/-- A month's length in the proleptic Gregorian calendar. -/
def monthLength (year month : Nat) : Nat :=
  if month = 2 then if 4 ∣ year ∧ ¬ 100 ∣ year ∨ 400 ∣ year then 29 else 28
  else if month = 4 ∨ month = 6 ∨ month = 9 ∨ month = 11 then 30
  else 31

/-- A real date and time of day, in a year of four digits. -/
structure DateTime.Real (d : DateTime) : Prop where
  year : d.year ≤ 9999
  month : 1 ≤ d.month ∧ d.month ≤ 12
  day : 1 ≤ d.day ∧ d.day ≤ monthLength d.year d.month
  hour : d.hour ≤ 23
  minute : d.minute ≤ 59
  second : d.second ≤ 59

/-- `YYYYMMDDThhmmss`. -/
def DateTime.stamp (self : DateTime) : String :=
  padded 4 self.year ++ padded 2 self.month ++ padded 2 self.day ++ "T" ++ padded 2 self.hour ++
    padded 2 self.minute ++ padded 2 self.second

/-- A point and digits, or nothing. -/
def Fraction (text : String) : Prop :=
  text = "" ∨ ∃ chars : List Char, chars ≠ [] ∧ (∀ c ∈ chars, c.isDigit) ∧
    text = "." ++ String.ofList chars

/-- An offset as it may be written: nothing, `Z`, or a sign, hours and minutes. -/
inductive Zone : String → Option UtcOffset → Prop
  | none : Zone "" none
  | utc : Zone "Z" (some .utc)
  | east (hours minutes : Nat) (offset : UtcOffset) (day : hours ≤ 23) (hour : minutes ≤ 59)
      (same : offset.minutes = hours * 60 + minutes) :
      Zone ("+" ++ padded 2 hours ++ padded 2 minutes) (some offset)
  | west (hours minutes : Nat) (offset : UtcOffset) (day : hours ≤ 23) (hour : minutes ≤ 59)
      (same : offset.minutes = -(hours * 60 + minutes)) :
      Zone ("-" ++ padded 2 hours ++ padded 2 minutes) (some offset)

def zoneText : Option UtcOffset → String
  | none => ""
  | some offset =>
      if offset.minutes = 0 then "Z"
      else (if offset.minutes < 0 then "-" else "+") ++ padded 2 (offset.minutes.natAbs / 60) ++
        padded 2 (offset.minutes.natAbs % 60)

section

variable {width n : Nat} {b : List UInt8} {d : DateTime}

theorem isLeapYear_iff {year : Nat} :
    isLeapYear year = true ↔ 4 ∣ year ∧ ¬ 100 ∣ year ∨ 400 ∣ year := by
  simp only [isLeapYear, Bool.or_eq_true, Bool.and_eq_true, beq_iff_eq, Bool.not_eq_true',
    beq_eq_false_iff_ne, ne_eq, Nat.dvd_iff_mod_eq_zero]

theorem daysInMonth_eq {year month : Nat} (real : 1 ≤ month ∧ month ≤ 12) :
    daysInMonth year month = monthLength year month := by
  have leap : isLeapYear year = true ↔ _ := isLeapYear_iff
  obtain ⟨low, high⟩ := real
  interval_cases month <;> first | rfl | skip
  unfold daysInMonth monthLength
  by_cases long : isLeapYear year = true
  · simp only [long, if_pos (leap.mp long), if_true]
  · simp only [long, if_neg (mt leap.mpr long), if_true]
    rfl

theorem daysInMonth_none {year month : Nat} (unreal : ¬ (1 ≤ month ∧ month ≤ 12)) :
    daysInMonth year month = 0 := by
  unfold daysInMonth
  split <;> first | rfl | omega

theorem isValid_iff : d.isValid = true ↔ d.Real := by
  unfold DateTime.isValid
  simp only [Bool.and_eq_true, decide_eq_true_eq]
  constructor
  · rintro ⟨⟨⟨⟨year, day⟩, hour⟩, minute⟩, second⟩
    by_cases month : 1 ≤ d.month ∧ d.month ≤ 12
    · rw [daysInMonth_eq month] at day
      exact ⟨year, month, day, hour, minute, second⟩
    · rw [daysInMonth_none month] at day
      omega
  · intro real
    rw [daysInMonth_eq real.month]
    exact ⟨⟨⟨⟨real.year, real.day⟩, real.hour⟩, real.minute⟩, real.second⟩

theorem isAsciiDigit_iff {byte : UInt8} : isAsciiDigit byte = true ↔ IsDigit byte := by
  simp only [isAsciiDigit, Bool.and_eq_true, decide_eq_true_eq, IsDigit, UInt8.le_iff_toNat_le]
  rfl

/-- Digits are parsed to the number they stand for, and nothing else is. -/
theorem parseDigits_iff : parseDigits width b = some n ↔ n < 10 ^ width ∧ b = digits width n := by
  unfold parseDigits
  by_cases shape : b.length = width ∧ ∀ byte ∈ b, IsDigit byte
  · obtain ⟨length, all⟩ := shape
    have taken : ¬ (decide (b.length ≠ width) || !b.all isAsciiDigit) = true := by
      simpa [length, isAsciiDigit_iff] using all
    rw [if_neg taken, Option.some.injEq]
    change value b = n ↔ _
    constructor
    · rintro rfl
      rw [← length]
      exact ⟨Ascii.value_lt all, (Ascii.digits_value all).symm⟩
    · intro ⟨small, same⟩
      rw [same, Ascii.value_digits small]
  · have refused : (decide (b.length ≠ width) || !b.all isAsciiDigit) = true := by
      by_contra taken
      apply shape
      simpa [isAsciiDigit_iff] using taken
    rw [if_pos refused]
    simp only [reduceCtorEq, false_iff, not_and]
    intro small same
    apply shape
    rw [same]
    exact ⟨Ascii.length_digits, fun byte mem => Ascii.isDigit_of_mem_digits mem⟩

theorem bytes_padded (wide : 0 < width) (small : n < 10 ^ width) :
    bytes (padded width n) = digits width n := by
  obtain ⟨length, filled⟩ := Ascii.fill_toDigits wide small
  have ascii : ∀ c ∈ Nat.toDigits 10 n, c.toNat < 0x80 := by
    intro c mem
    have digit := Nat.isDigit_of_mem_toDigits (by decide) (by decide) mem
    rw [Char.isDigit_iff_toNat] at digit
    exact Nat.lt_of_le_of_lt digit.2 (by decide)
  have zeros : ∀ c ∈ List.replicate (width - (Nat.toDigits 10 n).length) '0', c.toNat < 0x80 := by
    intro c mem
    rw [List.eq_of_mem_replicate mem]
    decide
  have text : toString n = String.ofList (Nat.toDigits 10 n) := rfl
  rw [← filled, padded, text, String.length_ofList, bytes_append, bytes_ofList zeros,
    bytes_ofList ascii, List.map_replicate]
  rfl

theorem bytes_sign_zone {sign : String} {hours minutes : Nat} (mark : UInt8)
    (marked : bytes sign = [mark]) (day : hours ≤ 23) (hour : minutes ≤ 59) :
    bytes (sign ++ padded 2 hours ++ padded 2 minutes) =
      mark :: (digits 2 hours ++ digits 2 minutes) := by
  rw [bytes_append, bytes_append, marked, bytes_padded (by decide) (by omega),
    bytes_padded (by decide) (by omega)]
  rfl

theorem fromMinutes_iff {total : Int} {offset : UtcOffset} :
    UtcOffset.fromMinutes total = some offset ↔ offset.minutes = total := by
  unfold UtcOffset.fromMinutes
  by_cases inRange : -(24 * 60) < total ∧ total < 24 * 60
  · rw [dif_pos inRange, Option.some.injEq]
    constructor
    · rintro rfl
      rfl
    · rintro rfl
      rfl
  · rw [dif_neg inRange]
    simp only [reduceCtorEq, false_iff]
    rintro rfl
    exact inRange offset.inRange

theorem hoursMinutes_iff {hhmm : List UInt8} {hours minutes : Nat} :
    ¬ hhmm.length < 2 ∧ parseDigits 2 (hhmm.take 2) = some hours ∧
        parseDigits 2 (hhmm.drop 2) = some minutes ∧ ¬ (23 < hours ∨ 59 < minutes) ↔
      hours ≤ 23 ∧ minutes ≤ 59 ∧ hhmm = digits 2 hours ++ digits 2 minutes := by
  rw [parseDigits_iff, parseDigits_iff]
  constructor
  · intro ⟨_, ⟨_, front⟩, ⟨_, back⟩, small⟩
    refine ⟨by omega, by omega, ?_⟩
    rw [← front, ← back, List.take_append_drop]
  · rintro ⟨day, hour, rfl⟩
    refine ⟨by simp, ⟨by omega, ?_⟩, ⟨by omega, ?_⟩, by omega⟩
    · exact List.take_left' Ascii.length_digits
    · exact List.drop_left' Ascii.length_digits

theorem parseZone_signed {sign : UInt8} {hhmm : List UInt8} {offset : Option UtcOffset}
    (marked : sign = 0x2B ∨ sign = 0x2D) :
    parseZone (sign :: hhmm) = some offset ↔ ∃ (hours minutes : Nat) (o : UtcOffset),
      hours ≤ 23 ∧ minutes ≤ 59 ∧ hhmm = digits 2 hours ++ digits 2 minutes ∧ offset = some o ∧
        o.minutes = if sign = 0x2D then -((hours : Int) * 60 + minutes)
          else (hours : Int) * 60 + minutes := by
  have other : sign ≠ 0x5A := by
    rintro rfl
    exact absurd marked (by decide)
  unfold parseZone
  split
  · contradiction
  · next same => exact absurd (List.cons.inj same).1 other
  · next sign' hhmm' _ same =>
      obtain ⟨rfl, rfl⟩ := List.cons.inj same
      rw [if_pos marked]
      constructor
      · intro parsed
        by_cases short : hhmm.length < 2
        · rw [if_pos short] at parsed
          cases parsed
        · rw [if_neg short] at parsed
          obtain ⟨hours, front, parsed⟩ := Option.bind_eq_some_iff.mp parsed
          obtain ⟨minutes, back, parsed⟩ := Option.bind_eq_some_iff.mp parsed
          by_cases large : 23 < hours ∨ 59 < minutes
          · rw [if_pos large] at parsed
            cases parsed
          · rw [if_neg large] at parsed
            obtain ⟨o, made, rfl⟩ := Option.map_eq_some_iff.mp parsed
            obtain ⟨day, hour, same⟩ := hoursMinutes_iff.mp ⟨short, front, back, large⟩
            exact ⟨hours, minutes, o, day, hour, same, rfl, fromMinutes_iff.mp made⟩
      · rintro ⟨hours, minutes, o, day, hour, same, rfl, total⟩
        obtain ⟨short, front, back, small⟩ := hoursMinutes_iff.mpr ⟨day, hour, same⟩
        rw [if_neg short, front, back]
        simp only [bind, Option.bind]
        rw [if_neg small, fromMinutes_iff.mpr total]
        rfl

theorem parseZone_iff {tail : List UInt8} {offset : Option UtcOffset} :
    parseZone tail = some offset ↔ ∃ zone, Zone zone offset ∧ tail = bytes zone := by
  constructor
  · intro parsed
    match tail, parsed with
    | [], parsed =>
        cases parsed
        exact ⟨"", .none, rfl⟩
    | sign :: hhmm, parsed =>
        by_cases marked : sign = 0x2B ∨ sign = 0x2D
        · obtain ⟨hours, minutes, o, day, hour, rfl, rfl, total⟩ :=
            (parseZone_signed marked).mp parsed
          rcases marked with rfl | rfl
          · exact ⟨_, .east hours minutes o day hour total,
              (bytes_sign_zone _ rfl day hour).symm⟩
          · exact ⟨_, .west hours minutes o day hour total,
              (bytes_sign_zone _ rfl day hour).symm⟩
        · unfold parseZone at parsed
          split at parsed
          · contradiction
          · next same =>
              cases same
              cases parsed
              exact ⟨"Z", .utc, rfl⟩
          · next sign' hhmm' _ same =>
              obtain ⟨rfl, rfl⟩ := List.cons.inj same
              rw [if_neg marked] at parsed
              cases parsed
  · rintro ⟨zone, zoned, rfl⟩
    cases zoned with
    | none => rfl
    | utc => rfl
    | east hours minutes o day hour total =>
        rw [bytes_sign_zone 0x2B rfl day hour]
        exact (parseZone_signed (Or.inl rfl)).mpr ⟨hours, minutes, o, day, hour, rfl, rfl, total⟩
    | west hours minutes o day hour total =>
        rw [bytes_sign_zone 0x2D rfl day hour]
        exact (parseZone_signed (Or.inr rfl)).mpr ⟨hours, minutes, o, day, hour, rfl, rfl, total⟩

/-- A zone starts with no point and no digit. -/
theorem Zone.head {zone : String} {offset : Option UtcOffset} (zoned : Zone zone offset) :
    ∀ mark ∈ (bytes zone).head?, mark ≠ 0x2E ∧ isAsciiDigit mark = false := by
  cases zoned with
  | none =>
      rw [show bytes "" = [] from rfl]
      rintro mark ⟨⟩
  | utc =>
      rw [show bytes "Z" = [0x5A] from rfl]
      rintro mark ⟨⟩
      decide
  | east hours minutes o day hour total =>
      rw [bytes_sign_zone 0x2B rfl day hour]
      rintro mark ⟨⟩
      decide
  | west hours minutes o day hour total =>
      rw [bytes_sign_zone 0x2D rfl day hour]
      rintro mark ⟨⟩
      decide

theorem isAsciiDigit_byte {c : Char} (digit : c.isDigit = true) :
    isAsciiDigit (Ascii.byte c) = true := by
  rw [Char.isDigit_iff_toNat] at digit
  have low : 48 ≤ c.toNat := digit.1
  have high : c.toNat ≤ 57 := digit.2
  rw [isAsciiDigit_iff, IsDigit, Ascii.byte, UInt8.toNat_ofNat']
  omega

theorem isDigit_char {byte : UInt8} (digit : isAsciiDigit byte = true) :
    (Ascii.char byte).isDigit = true ∧ Ascii.byte (Ascii.char byte) = byte := by
  rw [isAsciiDigit_iff, IsDigit] at digit
  have valid : (Char.ofNat byte.toNat).toNat = byte.toNat := by
    rw [Char.ofNat, dif_pos (Or.inl (by omega))]
    rfl
  constructor
  · rw [Ascii.char, Char.isDigit_iff_toNat, valid]
    exact digit
  · rw [Ascii.byte, Ascii.char, valid, UInt8.ofNat_toNat]

theorem bytes_digits {chars : List Char} (all : ∀ c ∈ chars, c.isDigit = true) :
    bytes ("." ++ String.ofList chars) = 0x2E :: chars.map Ascii.byte := by
  have ascii : ∀ c ∈ chars, c.toNat < 0x80 := by
    intro c mem
    have digit := all c mem
    rw [Char.isDigit_iff_toNat] at digit
    exact Nat.lt_of_le_of_lt digit.2 (by decide)
  rw [bytes_append, bytes_ofList ascii]
  rfl

theorem parseSuffix_plain {tail : List UInt8} (plain : ∀ mark ∈ tail.head?, mark ≠ 0x2E) :
    parseSuffix tail = parseZone tail := by
  unfold parseSuffix
  split
  · exact absurd rfl (plain 0x2E rfl)
  · rfl

theorem parseSuffix_point (rest : List UInt8) : parseSuffix (0x2E :: rest) =
    if (rest.takeWhile isAsciiDigit).length = 0 then none
    else parseZone (rest.drop (rest.takeWhile isAsciiDigit).length) := rfl

theorem takeWhile_nil_of_head {p : UInt8 → Bool} {tail : List UInt8}
    (stops : ∀ mark ∈ tail.head?, p mark = false) : tail.takeWhile p = [] := by
  cases tail with
  | nil => rfl
  | cons mark rest => rw [List.takeWhile_cons_of_neg (by simp [stops mark rfl])]

theorem parseSuffix_iff {tail : List UInt8} {offset : Option UtcOffset} :
    parseSuffix tail = some offset ↔ ∃ fraction zone, Fraction fraction ∧ Zone zone offset ∧
      tail = bytes fraction ++ bytes zone := by
  constructor
  · intro parsed
    by_cases point : ∃ rest, tail = 0x2E :: rest
    · obtain ⟨rest, rfl⟩ := point
      rw [parseSuffix_point] at parsed
      by_cases none : (rest.takeWhile isAsciiDigit).length = 0
      · rw [if_pos none] at parsed
        cases parsed
      · rw [if_neg none] at parsed
        obtain ⟨zone, zoned, tail⟩ := parseZone_iff.mp parsed
        have all : ∀ byte ∈ rest.takeWhile isAsciiDigit, isAsciiDigit byte = true :=
          fun byte mem => List.mem_takeWhile_imp mem
        have chars : ∀ c ∈ (rest.takeWhile isAsciiDigit).map Ascii.char, c.isDigit = true := by
          intro c mem
          obtain ⟨byte, byteMem, rfl⟩ := List.mem_map.mp mem
          exact (isDigit_char (all byte byteMem)).1
        have back : ((rest.takeWhile isAsciiDigit).map Ascii.char).map Ascii.byte =
            rest.takeWhile isAsciiDigit := by
          rw [List.map_map]
          apply List.map_congr_left (g := id)
            (fun byte mem => (isDigit_char (all byte mem)).2) |>.trans
          exact List.map_id _
        refine ⟨_, zone, Or.inr ⟨_, ?_, chars, rfl⟩, zoned, ?_⟩
        · intro empty
          rw [List.map_eq_nil_iff] at empty
          exact none (by rw [empty]; rfl)
        · rw [bytes_digits chars, back, ← tail, List.cons_append,
            List.prefix_iff_eq_append.mp (List.takeWhile_prefix _)]
    · have plain : ∀ mark ∈ tail.head?, mark ≠ 0x2E := by
        rintro mark head rfl
        exact point ⟨tail.tail, (List.cons_head?_tail head).symm⟩
      rw [parseSuffix_plain plain] at parsed
      obtain ⟨zone, zoned, same⟩ := parseZone_iff.mp parsed
      exact ⟨"", zone, Or.inl rfl, zoned, same⟩
  · rintro ⟨fraction, zone, fractional, zoned, rfl⟩
    have parsed := parseZone_iff.mpr ⟨zone, zoned, rfl⟩
    rcases fractional with rfl | ⟨chars, filled, all, rfl⟩
    · rw [show bytes "" = [] from rfl, List.nil_append,
        parseSuffix_plain fun mark head => (zoned.head mark head).1]
      exact parsed
    · have taken : (chars.map Ascii.byte ++ bytes zone).takeWhile isAsciiDigit =
          chars.map Ascii.byte := by
        rw [List.takeWhile_append_of_pos, takeWhile_nil_of_head fun mark head =>
          (zoned.head mark head).2, List.append_nil]
        intro byte mem
        obtain ⟨c, charMem, rfl⟩ := List.mem_map.mp mem
        exact isAsciiDigit_byte (all c charMem)
      rw [bytes_digits all, List.cons_append, parseSuffix_point, taken, if_neg,
        List.drop_left' rfl]
      · exact parsed
      · simpa using filled

def DateTime.stampBytes (self : DateTime) : List UInt8 :=
  digits 4 self.year ++ (digits 2 self.month ++ (digits 2 self.day ++ (0x54 ::
    (digits 2 self.hour ++ (digits 2 self.minute ++ digits 2 self.second)))))

theorem monthLength_le (year month : Nat) : monthLength year month ≤ 31 := by
  unfold monthLength
  split
  · split <;> omega
  · split <;> omega

theorem DateTime.Real.day_le (real : d.Real) : d.day ≤ 31 :=
  Nat.le_trans real.day.2 (monthLength_le d.year d.month)

theorem bytes_stamp (real : d.Real) : bytes d.stamp = d.stampBytes := by
  have year := real.year
  have month := real.month
  have day := real.day_le
  have hour := real.hour
  have minute := real.minute
  have second := real.second
  simp only [DateTime.stamp, bytes_append]
  rw [bytes_padded (by decide) (by omega), bytes_padded (by decide) (by omega),
    bytes_padded (by decide) (by omega), bytes_padded (by decide) (by omega),
    bytes_padded (by decide) (by omega), bytes_padded (by decide) (by omega)]
  simp only [DateTime.stampBytes, List.append_assoc]
  rfl

theorem new_iff {year month day hour minute second : Nat} :
    DateTime.new year month day hour minute second = some d ↔
      d.Real ∧ d = ⟨year, month, day, hour, minute, second, none⟩ := by
  unfold DateTime.new
  dsimp only
  by_cases valid : (⟨year, month, day, hour, minute, second, none⟩ : DateTime).isValid = true
  · rw [if_pos valid, Option.some.injEq]
    constructor
    · rintro rfl
      exact ⟨isValid_iff.mp valid, rfl⟩
    · intro both
      exact both.2.symm
  · rw [if_neg valid]
    simp only [reduceCtorEq, false_iff, not_and]
    rintro real rfl
    exact valid (isValid_iff.mpr real)

/-- The offset is no part of what makes a date real. -/
theorem real_offset (offset : Option UtcOffset) : ({ d with offset := offset } : DateTime).Real ↔
    d.Real :=
  ⟨fun ⟨year, month, day, hour, minute, second⟩ => ⟨year, month, day, hour, minute, second⟩,
    fun ⟨year, month, day, hour, minute, second⟩ => ⟨year, month, day, hour, minute, second⟩⟩

theorem drop_split (b : List UInt8) (i size : Nat) :
    b.drop i = (b.drop i).take size ++ b.drop (i + size) := by
  rw [← List.drop_drop, List.take_append_drop]

/-- Fields at fixed places make a stamp. -/
theorem stamp_of_fields {year month day hour minute second : Nat}
    (t : b[8]? = some 0x54) (y : b.take 4 = digits 4 year)
    (mo : (b.drop 4).take 2 = digits 2 month) (da : (b.drop 6).take 2 = digits 2 day)
    (h : (b.drop 9).take 2 = digits 2 hour) (mi : (b.drop 11).take 2 = digits 2 minute)
    (se : (b.drop 13).take 2 = digits 2 second) (offset : Option UtcOffset) :
    b = (⟨year, month, day, hour, minute, second, offset⟩ : DateTime).stampBytes ++ b.drop 15 := by
  obtain ⟨within, mark⟩ := List.getElem?_eq_some_iff.mp t
  have marked : b.drop 8 = 0x54 :: b.drop 9 := by rw [List.drop_eq_getElem_cons within, mark]
  have front : b = digits 4 year ++ b.drop 4 := by rw [← y, List.take_append_drop]
  have months := drop_split b 4 2
  have days := drop_split b 6 2
  have hours := drop_split b 9 2
  have minutes := drop_split b 11 2
  have seconds := drop_split b 13 2
  rw [mo] at months
  rw [da] at days
  rw [h] at hours
  rw [mi] at minutes
  rw [se] at seconds
  conv_lhs => rw [front, months, days, marked, hours, minutes, seconds]
  simp only [DateTime.stampBytes, List.append_assoc, List.cons_append]

/-- The fields of a stamp stand at fixed places. -/
theorem fields_of_stamp (d : DateTime) (tail : List UInt8)
    (stamped : b = d.stampBytes ++ tail) :
    ¬ (decide (b.length < 15) || decide (b[8]? ≠ some 0x54)) = true ∧
      b.take 4 = digits 4 d.year ∧ (b.drop 4).take 2 = digits 2 d.month ∧
      (b.drop 6).take 2 = digits 2 d.day ∧ (b.drop 9).take 2 = digits 2 d.hour ∧
      (b.drop 11).take 2 = digits 2 d.minute ∧ (b.drop 13).take 2 = digits 2 d.second ∧
      b.drop 15 = tail := by
  subst stamped
  refine ⟨?_, ?_, ?_, ?_, ?_, ?_, ?_, ?_⟩
  · simp [DateTime.stampBytes, List.getElem?_append]
    omega
  all_goals
    simp [DateTime.stampBytes, List.drop_append, Ascii.drop_digits]

/-- A date is parsed from its stamp and a suffix. -/
theorem parse_iff_bytes {s : String} : DateTime.parse s = some d ↔
    ∃ tail, bytes s = d.stampBytes ++ tail ∧ d.Real ∧ parseSuffix tail = some d.offset := by
  unfold DateTime.parse
  change (if _ then _ else _) = _ ↔ _
  generalize same : bytes s = b
  rw [show s.toUTF8.data.toList = b from same]
  constructor
  · intro parsed
    by_cases short : (decide (b.length < 15) || decide (b[8]? ≠ some 0x54)) = true
    · rw [if_pos short] at parsed
      cases parsed
    · rw [if_neg short] at parsed
      obtain ⟨year, y, parsed⟩ := Option.bind_eq_some_iff.mp parsed
      obtain ⟨month, mo, parsed⟩ := Option.bind_eq_some_iff.mp parsed
      obtain ⟨day, da, parsed⟩ := Option.bind_eq_some_iff.mp parsed
      obtain ⟨hour, h, parsed⟩ := Option.bind_eq_some_iff.mp parsed
      obtain ⟨minute, mi, parsed⟩ := Option.bind_eq_some_iff.mp parsed
      obtain ⟨second, se, parsed⟩ := Option.bind_eq_some_iff.mp parsed
      obtain ⟨dt, made, parsed⟩ := Option.bind_eq_some_iff.mp parsed
      obtain ⟨offset, suffix, rest⟩ := Option.bind_eq_some_iff.mp parsed
      obtain ⟨real, rfl⟩ := new_iff.mp made
      cases rest
      have t : b[8]? = some 0x54 := by
        simp only [Bool.or_eq_true, decide_eq_true_eq, not_or, not_not] at short
        exact short.2
      exact ⟨b.drop 15, stamp_of_fields t (parseDigits_iff.mp y).2 (parseDigits_iff.mp mo).2
        (parseDigits_iff.mp da).2 (parseDigits_iff.mp h).2 (parseDigits_iff.mp mi).2
        (parseDigits_iff.mp se).2 offset, (real_offset offset).mpr real, suffix⟩
  · rintro ⟨tail, stamped, real, suffix⟩
    obtain ⟨long, y, mo, da, h, mi, se, rest⟩ := fields_of_stamp d tail stamped
    have year := real.year
    have month := real.month
    have day := real.day_le
    have hour := real.hour
    have minute := real.minute
    have second := real.second
    have made := new_iff.mpr ⟨(real_offset none).mpr real, rfl⟩
    rw [if_neg long, parseDigits_iff.mpr ⟨by omega, y⟩, parseDigits_iff.mpr ⟨by omega, mo⟩,
      parseDigits_iff.mpr ⟨by omega, da⟩, parseDigits_iff.mpr ⟨by omega, h⟩,
      parseDigits_iff.mpr ⟨by omega, mi⟩, parseDigits_iff.mpr ⟨by omega, se⟩, rest, suffix]
    simp only [bind, Option.bind, made]

theorem parse_iff {s : String} : DateTime.parse s = some d ↔
    ∃ fraction zone, Fraction fraction ∧ Zone zone d.offset ∧ d.Real ∧
      s = d.stamp ++ fraction ++ zone := by
  rw [parse_iff_bytes]
  constructor
  · rintro ⟨tail, stamped, real, suffix⟩
    obtain ⟨fraction, zone, fractional, zoned, rfl⟩ := parseSuffix_iff.mp suffix
    refine ⟨fraction, zone, fractional, zoned, real, ?_⟩
    rw [← bytes_inj, bytes_append, bytes_append, bytes_stamp real, List.append_assoc]
    exact stamped
  · rintro ⟨fraction, zone, fractional, zoned, real, rfl⟩
    refine ⟨bytes fraction ++ bytes zone, ?_, real, ?_⟩
    · rw [bytes_append, bytes_append, bytes_stamp real, List.append_assoc]
    · exact parseSuffix_iff.mpr ⟨fraction, zone, fractional, zoned, rfl⟩

theorem format_eq (real : d.Real) : d.format = some (d.stamp ++ zoneText d.offset) := by
  unfold DateTime.format
  rw [if_pos (isValid_iff.mpr real)]
  change (match d.offset with
    | none => some d.stamp
    | some offset =>
        if offset.minutes = 0 then some (d.stamp ++ "Z")
        else some (d.stamp ++ (if offset.minutes < 0 then "-" else "+") ++
          padded 2 (offset.minutes.natAbs / 60) ++ padded 2 (offset.minutes.natAbs % 60))) = _
  cases d.offset with
  | none => simp [zoneText]
  | some offset =>
      by_cases utc : offset.minutes = 0
      · simp only [zoneText, if_pos utc]
      · simp only [zoneText, if_neg utc, String.append_assoc]

theorem zoneText_zone (offset : Option UtcOffset) : Zone (zoneText offset) offset := by
  cases offset with
  | none => exact .none
  | some offset =>
      have inRange := offset.inRange
      by_cases zero : offset.minutes = 0
      · have utc : offset = .utc := by
          obtain ⟨minutes, _⟩ := offset
          cases zero
          rfl
        rw [utc]
        exact .utc
      · rw [zoneText, if_neg zero]
        by_cases negative : offset.minutes < 0
        · rw [if_pos negative]
          exact .west _ _ offset (by omega) (by omega) (by omega)
        · rw [if_neg negative]
          exact .east _ _ offset (by omega) (by omega) (by omega)

/-- An offset is written one way only, zero as `Z`. -/
theorem zone_eq {zone : String} {offset : Option UtcOffset} (zoned : Zone zone offset)
    (plus : zone ≠ "+0000") (minus : zone ≠ "-0000") : zone = zoneText offset := by
  cases zoned with
  | none => rfl
  | utc => rfl
  | east hours minutes o day hour same =>
      have zero : o.minutes ≠ 0 := by
        intro zero
        have hours0 : hours = 0 := by omega
        have minutes0 : minutes = 0 := by omega
        subst hours0 minutes0
        exact plus (by decide)
      have positive : ¬ o.minutes < 0 := by omega
      have front : o.minutes.natAbs / 60 = hours := by omega
      have back : o.minutes.natAbs % 60 = minutes := by omega
      rw [zoneText, if_neg zero, if_neg positive, front, back]
  | west hours minutes o day hour same =>
      have zero : o.minutes ≠ 0 := by
        intro zero
        have hours0 : hours = 0 := by omega
        have minutes0 : minutes = 0 := by omega
        subst hours0 minutes0
        exact minus (by decide)
      have negative : o.minutes < 0 := by omega
      have front : o.minutes.natAbs / 60 = hours := by omega
      have back : o.minutes.natAbs % 60 = minutes := by omega
      rw [zoneText, if_neg zero, if_pos negative, front, back]

theorem parse_format (real : d.Real) : d.format.bind DateTime.parse = some d := by
  rw [format_eq real, Option.bind_some, parse_iff]
  refine ⟨"", zoneText d.offset, Or.inl rfl, zoneText_zone d.offset, real, ?_⟩
  rw [String.append_empty]

/-- A date is written as it was, unless it had a fraction or a signed zero offset. -/
theorem format_parse {s : String} (parsed : DateTime.parse s = some d) (plain : '.' ∉ s.toList)
    (plus : ¬ "+0000".toList <:+ s.toList) (minus : ¬ "-0000".toList <:+ s.toList) :
    d.format = some s := by
  obtain ⟨fraction, zone, fractional, zoned, real, rfl⟩ := parse_iff.mp parsed
  have none : fraction = "" := by
    rcases fractional with empty | ⟨chars, -, -, rfl⟩
    · exact empty
    · exact absurd (by simp) plain
  have ends : zone.toList <:+ (d.stamp ++ fraction ++ zone).toList := by
    rw [String.toList_append]
    exact List.suffix_append _ _
  have written : zone = zoneText d.offset := by
    apply zone_eq zoned
    · rintro rfl
      exact plus ends
    · rintro rfl
      exact minus ends
  rw [format_eq real, ← written, none, String.append_empty]

end

end Ptp
