import Mathlib.Data.List.Lex
import MtpRs.Lib.Panics
import MtpRs.Ptp.CivilDays

set_option autoImplicit false

/- Instants and the dates they are at an offset. -/
namespace Ptp

open Panics (castUnsigned castUnsigned_eq signed signed_eq)

/-- A signed 64-bit result; one that does not fit would panic. -/
def i64 (result : Int) : Option Int := signed 64 result

def marchYearPanicking (year month : Int) : Option Int :=
  if month ≤ 2 then i64 (year - 1) else some year

/-- The days of a year before a month, both from March. -/
def daysBeforePanicking (mp : Int) : Option Int := do
  let fifths ← i64 (153 * mp)
  let fifths ← i64 (fifths + 2)
  some (fifths.tdiv 5)

def daysOfYearsPanicking (yoe : Int) : Option Int := do
  let days ← i64 (yoe * 365)
  let days ← i64 (days + yoe.tdiv 4)
  i64 (days - yoe.tdiv 100)

/-- `days_from_civil` in signed 64-bit arithmetic. -/
def daysFromCivilPanicking (year month day : Int) : Option Int := do
  let y ← marchYearPanicking year month
  let era := y / 400
  let years ← i64 (era * 400)
  let yoe ← i64 (y - years)
  let shifted ← i64 (month + 9)
  let before ← daysBeforePanicking (shifted.tmod 12)
  let doy ← i64 (before + day)
  let doy ← i64 (doy - 1)
  let doe ← daysOfYearsPanicking yoe
  let doe ← i64 (doe + doy)
  let days ← i64 (era * 146097)
  let days ← i64 (days + doe)
  i64 (days - 719468)

def yearOfEraPanicking (doe : Int) : Option Int := do
  let days ← i64 (doe - doe.tdiv 1460)
  let days ← i64 (days + doe.tdiv 36524)
  let days ← i64 (days - doe.tdiv 146096)
  some (days.tdiv 365)

def marchMonthPanicking (doy : Int) : Option Int := do
  let scaled ← i64 (5 * doy)
  let scaled ← i64 (scaled + 2)
  some (scaled.tdiv 153)

def civilMonthPanicking (mp : Int) : Option Int :=
  if mp < 10 then i64 (mp + 3) else i64 (mp - 9)

/-- `civil_from_days` in signed 64-bit arithmetic. -/
def civilFromDaysPanicking (days : Int) : Option (Int × Int × Int) := do
  let z ← i64 (days + 719468)
  let era := z / 146097
  let eras ← i64 (era * 146097)
  let doe ← i64 (z - eras)
  let yoe ← yearOfEraPanicking doe
  let years ← daysOfYearsPanicking yoe
  let doy ← i64 (doe - years)
  let mp ← marchMonthPanicking doy
  let before ← daysBeforePanicking mp
  let day ← i64 (doy - before)
  let day ← i64 (day + 1)
  let month ← civilMonthPanicking mp
  let years ← i64 (era * 400)
  let year ← i64 (yoe + years)
  let year ← i64 (year + if month ≤ 2 then 1 else 0)
  some (year, month, day)

namespace DateTime

/-- `from_unix_seconds` in signed 64-bit arithmetic, with casts that must lose nothing. -/
def fromUnixSecondsPanicking (secs : Int) (offset : UtcOffset) : Option (Option DateTime) := do
  let seconds ← i64 (offset.minutes * 60)
  -- `checked_add`
  match i64 (secs + seconds) with
  | none => some none
  | some shifted =>
      if minUnixSeconds ≤ shifted ∧ shifted ≤ maxUnixSeconds then do
        let (year, month, day) ← civilFromDaysPanicking (shifted / secondsPerDay)
        let time := shifted % secondsPerDay
        let year ← castUnsigned 16 year
        let month ← castUnsigned 8 month
        let day ← castUnsigned 8 day
        let hour ← castUnsigned 8 (time.tdiv 3600)
        let minute ← castUnsigned 8 ((time.tdiv 60).tmod 60)
        let second ← castUnsigned 8 (time.tmod 60)
        some (some ⟨year, month, day, hour, minute, second, some offset⟩)
      else some none

/-- `to_unix_seconds_with_fallback` in signed 64-bit arithmetic. -/
def toUnixSecondsWithFallbackPanicking (self : DateTime) (fallback : UtcOffset) :
    Option (Option Int) :=
  if self.isValid then do
    let days ← daysFromCivilPanicking self.year self.month self.day
    let hours ← i64 (self.hour * 3600)
    let minutes ← i64 (self.minute * 60)
    let time ← i64 (hours + minutes)
    let time ← i64 (time + self.second)
    let days ← i64 (days * secondsPerDay)
    let secs ← i64 (days + time)
    let seconds ← i64 ((self.offset.getD fallback).minutes * 60)
    let secs ← i64 (secs - seconds)
    some (some secs)
  else some none

/-- `to_unix_seconds` in signed 64-bit arithmetic. -/
def toUnixSecondsPanicking (self : DateTime) : Option (Option Int) :=
  match self.offset with
  | none => some none
  | some offset => self.toUnixSecondsWithFallbackPanicking offset

def clock (self : DateTime) : List Nat :=
  [self.year, self.month, self.day, self.hour, self.minute, self.second]

/-- The seconds between the epoch and what the clock shows, as if it were at no offset. -/
def wallSeconds (self : DateTime) : Int :=
  daysFromCivil self.year self.month self.day * secondsPerDay +
    (self.hour * 3600 + self.minute * 60 + self.second)

end DateTime

theorem i64_eq {result : Int} (low : -9223372036854775808 ≤ result)
    (high : result ≤ 9223372036854775807) : i64 result = some result :=
  signed_eq (by simpa using low) (by simp; omega)

section

variable {d d' : DateTime} {o : UtcOffset} {secs : Int}

theorem marchYearPanicking_eq {year month : Int} (years : 0 ≤ year ∧ year ≤ 9999) :
    marchYearPanicking year month = some (if month ≤ 2 then year - 1 else year) := by
  unfold marchYearPanicking
  split
  · exact i64_eq (by omega) (by omega)
  · rfl

theorem daysBeforePanicking_eq {mp : Int} (months : 0 ≤ mp ∧ mp ≤ 11) :
    daysBeforePanicking mp = some ((153 * mp + 2) / 5) := by
  unfold daysBeforePanicking
  simp (disch := omega) only [Option.bind_eq_bind, Option.bind_some, i64_eq,
    Int.tdiv_eq_ediv_of_nonneg]

theorem daysOfYearsPanicking_eq {yoe : Int} (years : 0 ≤ yoe ∧ yoe ≤ 399) :
    daysOfYearsPanicking yoe = some (yoe * 365 + yoe / 4 - yoe / 100) := by
  unfold daysOfYearsPanicking
  simp (disch := omega) only [Option.bind_eq_bind, Option.bind_some, i64_eq,
    Int.tdiv_eq_ediv_of_nonneg]

theorem daysFromCivilPanicking_eq {year month day : Nat} (years : year ≤ 9999)
    (months : 1 ≤ month ∧ month ≤ 12) (days : day ≤ 31) :
    daysFromCivilPanicking year month day = some (daysFromCivil year month day) := by
  unfold daysFromCivilPanicking daysFromCivil
  rw [marchYearPanicking_eq (by omega), Option.bind_eq_bind, Option.bind_some]
  generalize same : (if (month : Int) ≤ 2 then (year : Int) - 1 else year) = y
  have range : -1 ≤ y ∧ y ≤ 9999 := by
    split at same <;> omega
  have era : -1 ≤ y / 400 ∧ y / 400 ≤ 24 := by omega
  have yoe : 0 ≤ y - y / 400 * 400 ∧ y - y / 400 * 400 ≤ 399 := by omega
  dsimp only
  generalize y / 400 = eras at era yoe ⊢
  rw [i64_eq (by omega) (by omega), Option.bind_some, i64_eq (by omega) (by omega),
    Option.bind_some, i64_eq (by omega) (by omega), Option.bind_some,
    Int.tmod_eq_emod_of_nonneg (by omega), daysBeforePanicking_eq (by omega), Option.bind_some]
  generalize y - eras * 400 = yoes at yoe ⊢
  generalize before : (153 * (((month : Int) + 9) % 12) + 2) / 5 = first
  have first_le : 0 ≤ first ∧ first ≤ 337 := by omega
  clear before
  rw [i64_eq (by omega) (by omega), Option.bind_some, i64_eq (by omega) (by omega),
    Option.bind_some, daysOfYearsPanicking_eq yoe, Option.bind_some]
  generalize spent : yoes * 365 + yoes / 4 - yoes / 100 = gone
  have gone_le : 0 ≤ gone ∧ gone ≤ 146000 := by omega
  clear spent
  rw [i64_eq (by omega) (by omega), Option.bind_some, i64_eq (by omega) (by omega),
    Option.bind_some, i64_eq (by omega) (by omega), Option.bind_some,
    i64_eq (by omega) (by omega)]

theorem yearOfEraPanicking_eq {doe : Int} (days : 0 ≤ doe ∧ doe < 146097) :
    yearOfEraPanicking doe =
      some ((doe - doe / 1460 + doe / 36524 - doe / 146096) / 365) := by
  unfold yearOfEraPanicking
  simp (disch := omega) only [Option.bind_eq_bind, Option.bind_some, i64_eq,
    Int.tdiv_eq_ediv_of_nonneg]

theorem marchMonthPanicking_eq {doy : Int} (days : 0 ≤ doy ∧ doy ≤ 365) :
    marchMonthPanicking doy = some ((5 * doy + 2) / 153) := by
  unfold marchMonthPanicking
  simp (disch := omega) only [Option.bind_eq_bind, Option.bind_some, i64_eq,
    Int.tdiv_eq_ediv_of_nonneg]

theorem civilMonthPanicking_eq {mp : Int} (months : 0 ≤ mp ∧ mp ≤ 11) :
    civilMonthPanicking mp = some (if mp < 10 then mp + 3 else mp - 9) := by
  unfold civilMonthPanicking
  split
  · exact i64_eq (by omega) (by omega)
  · exact i64_eq (by omega) (by omega)

theorem civilFromDaysPanicking_eq {days : Int} (low : -719528 ≤ days) (high : days ≤ 2932896) :
    civilFromDaysPanicking days = some (civilFromDays days) := by
  unfold civilFromDaysPanicking civilFromDays
  rw [i64_eq (by omega) (by omega), Option.bind_eq_bind, Option.bind_some]
  dsimp only
  generalize eras : (days + 719468) / 146097 = era
  rw [i64_eq (by omega) (by omega), Option.bind_some, i64_eq (by omega) (by omega),
    Option.bind_some]
  generalize does : days + 719468 - era * 146097 = doe
  have first : 0 ≤ doe := by omega
  have last : doe < 146097 := by omega
  rw [yearOfEraPanicking_eq ⟨first, last⟩, Option.bind_some]
  generalize yoes : (doe - doe / 1460 + doe / 36524 - doe / 146096) / 365 = yoe
  obtain ⟨start, stop, before, after⟩ := yearOfEra_bounds first last yoes.symm
  clear yoes
  rw [daysOfYearsPanicking_eq ⟨start, stop⟩, Option.bind_some, Int.mul_comm yoe 365,
    i64_eq (by omega) (by omega), Option.bind_some]
  generalize doys : doe - (365 * yoe + yoe / 4 - yoe / 100) = doy
  have year : 0 ≤ doy ∧ doy ≤ 365 := by omega
  clear before after doys
  rw [marchMonthPanicking_eq year, Option.bind_some]
  generalize mps : (5 * doy + 2) / 153 = mp
  have months : 0 ≤ mp ∧ mp ≤ 11 := by omega
  rw [daysBeforePanicking_eq months, Option.bind_some, i64_eq (by omega) (by omega),
    Option.bind_some, i64_eq (by omega) (by omega), Option.bind_some,
    civilMonthPanicking_eq months, Option.bind_some, i64_eq (by omega) (by omega),
    Option.bind_some, i64_eq (by omega) (by omega), Option.bind_some]
  generalize (if mp < 10 then mp + 3 else mp - 9) = month
  have turn : (0 : Int) ≤ (if month ≤ 2 then 1 else 0) ∧
      (if month ≤ 2 then 1 else 0) ≤ (1 : Int) := by
    split <;> decide
  rw [i64_eq (by omega) (by omega), Option.bind_some]

theorem civil_of_day (day : Int) (low : -719528 ≤ day) (high : day ≤ 2932896) :
    ∃ y m d : Nat, civilFromDays day = (↑y, ↑m, ↑d) ∧ daysFromCivil y m d = day ∧ y ≤ 9999 ∧
      (1 ≤ m ∧ m ≤ 12) ∧ 1 ≤ d ∧ d ≤ monthLength y m := by
  cases found : civilFromDays day with
  | mk y rest =>
      cases rest with
      | mk m d =>
          have years := civilFromDays_years found low high
          obtain ⟨first, last, -, start, -⟩ := civilFromDays_month found
          have natural : (y, m, d) = ((y.toNat : Int), (m.toNat : Int), (d.toNat : Int)) := by
            simp only [Prod.mk.injEq]
            omega
          rw [natural] at found
          obtain ⟨days, months, within⟩ := daysFromCivil_civilFromDays found
          exact ⟨y.toNat, m.toNat, d.toNat, natural, days, by omega, months, within⟩

/-- What comes of an instant in the years 0 to 9999 of an offset. -/
theorem fromUnixSeconds_within (low : minUnixSeconds ≤ secs + o.seconds)
    (high : secs + o.seconds ≤ maxUnixSeconds) :
    ∃ d : DateTime, DateTime.fromUnixSeconds secs o = some d ∧ d.Real ∧ d.offset = some o ∧
      d.wallSeconds = secs + o.seconds := by
  unfold minUnixSeconds at low
  unfold maxUnixSeconds at high
  obtain ⟨y, m, d, found, days, years, months, within⟩ :=
    civil_of_day ((secs + o.seconds) / secondsPerDay)
      (by unfold secondsPerDay; omega) (by unfold secondsPerDay; omega)
  unfold DateTime.fromUnixSeconds
  dsimp only
  rw [if_pos ⟨low, high⟩, found]
  dsimp only [Int.toNat_natCast]
  unfold secondsPerDay at days ⊢
  generalize secs + o.seconds = shifted at days ⊢
  refine ⟨_, rfl, ⟨years, months, within, ?_, ?_, ?_⟩, rfl, ?_⟩
  · dsimp only
    omega
  · dsimp only
    omega
  · dsimp only
    omega
  · unfold DateTime.wallSeconds secondsPerDay
    dsimp only
    rw [days]
    omega

theorem fromUnixSeconds_iff :
    (∃ d, DateTime.fromUnixSeconds secs o = some d) ↔
      minUnixSeconds ≤ secs + o.seconds ∧ secs + o.seconds ≤ maxUnixSeconds := by
  constructor
  · intro ⟨d, made⟩
    unfold DateTime.fromUnixSeconds at made
    dsimp only at made
    by_cases within : minUnixSeconds ≤ secs + o.seconds ∧ secs + o.seconds ≤ maxUnixSeconds
    · exact within
    · rw [if_neg within] at made
      cases made
  · intro ⟨low, high⟩
    obtain ⟨d, made, -⟩ := fromUnixSeconds_within low high
    exact ⟨d, made⟩

theorem fromUnixSeconds_some (made : DateTime.fromUnixSeconds secs o = some d) :
    d.Real ∧ d.offset = some o ∧ d.wallSeconds = secs + o.seconds := by
  obtain ⟨low, high⟩ := fromUnixSeconds_iff.mp ⟨d, made⟩
  obtain ⟨d', same, facts⟩ := fromUnixSeconds_within low high
  rw [made, Option.some.injEq] at same
  rw [same]
  exact facts

theorem fromUnixSecondsPanicking_eq :
    DateTime.fromUnixSecondsPanicking secs o = some (DateTime.fromUnixSeconds secs o) := by
  have offsets := o.inRange
  have seconds : o.seconds = o.minutes * 60 := rfl
  unfold DateTime.fromUnixSecondsPanicking
  rw [i64_eq (by omega) (by omega), Option.bind_eq_bind, Option.bind_some, ← seconds]
  by_cases within : minUnixSeconds ≤ secs + o.seconds ∧ secs + o.seconds ≤ maxUnixSeconds
  · have range := within
    unfold minUnixSeconds maxUnixSeconds at range
    obtain ⟨y, m, d, found, days, years, months, day⟩ :=
      civil_of_day ((secs + o.seconds) / secondsPerDay)
        (by unfold secondsPerDay; omega) (by unfold secondsPerDay; omega)
    have short : d ≤ 31 := Nat.le_trans day.2 (monthLength_le y m)
    have hours : 0 ≤ (secs + o.seconds) % secondsPerDay ∧
        (secs + o.seconds) % secondsPerDay < 86400 := by
      unfold secondsPerDay
      omega
    unfold DateTime.fromUnixSeconds
    rw [i64_eq (by omega) (by omega)]
    dsimp only
    rw [if_pos within, if_pos within,
      civilFromDaysPanicking_eq (by unfold secondsPerDay; omega) (by unfold secondsPerDay; omega),
      found, Option.bind_eq_bind, Option.bind_some]
    dsimp only
    generalize (secs + o.seconds) % secondsPerDay = time at hours ⊢
    rw [castUnsigned_eq (by omega) (by omega), Option.bind_eq_bind, Option.bind_some,
      castUnsigned_eq (by omega) (by omega), Option.bind_some,
      castUnsigned_eq (by omega) (by omega), Option.bind_some,
      Int.tdiv_eq_ediv_of_nonneg hours.1, Int.tdiv_eq_ediv_of_nonneg hours.1,
      Int.tmod_eq_emod_of_nonneg hours.1, Int.tmod_eq_emod_of_nonneg (by omega),
      castUnsigned_eq (by omega) (by omega), Option.bind_some,
      castUnsigned_eq (by omega) (by omega), Option.bind_some,
      castUnsigned_eq (by omega) (by omega), Option.bind_some]
  · unfold DateTime.fromUnixSeconds
    dsimp only
    rw [if_neg within]
    by_cases fits : -9223372036854775808 ≤ secs + o.seconds ∧
        secs + o.seconds ≤ 9223372036854775807
    · rw [i64_eq fits.1 fits.2]
      dsimp only
      rw [if_neg within]
    · rw [i64, signed, if_neg]
      simp
      omega

theorem DateTime.Real.days (real : d.Real) :
    -719528 ≤ daysFromCivil d.year d.month d.day ∧
      daysFromCivil d.year d.month d.day ≤ 2932896 := by
  obtain ⟨start, stop⟩ := daysFromCivil_within real.month real.day
  have january : monthStart (-2) = -60 := by decide
  have december : monthStart 119998 = 3652365 := by decide
  have year := real.year
  have month := real.month
  have first : -2 ≤ monthIndex d.year d.month := by
    unfold monthIndex
    omega
  have last : monthIndex d.year d.month + 1 ≤ 119998 := by
    unfold monthIndex
    omega
  have low := monthStart_strictMono.monotone first
  have high := monthStart_strictMono.monotone last
  omega

theorem DateTime.Real.wall (real : d.Real) :
    minUnixSeconds ≤ d.wallSeconds ∧ d.wallSeconds ≤ maxUnixSeconds := by
  have days := real.days
  have hour := real.hour
  have minute := real.minute
  have second := real.second
  unfold minUnixSeconds maxUnixSeconds DateTime.wallSeconds secondsPerDay
  omega

theorem toUnixSecondsWithFallback_eq (real : d.Real) :
    d.toUnixSecondsWithFallback o = some (d.wallSeconds - (d.offset.getD o).seconds) :=
  if_pos (isValid_iff.mpr real)

theorem toUnixSeconds_eq (real : d.Real) (carried : d.offset = some o) :
    d.toUnixSeconds = some (d.wallSeconds - o.seconds) := by
  rw [DateTime.toUnixSeconds, carried, Option.bind_some, toUnixSecondsWithFallback_eq real,
    carried, Option.getD_some]

/-- A date comes back from its instant. -/
theorem fromUnixSeconds_wall (real : d.Real) (carried : d.offset = some o) :
    DateTime.fromUnixSeconds (d.wallSeconds - o.seconds) o = some d := by
  have within := real.wall
  have hour := real.hour
  have minute := real.minute
  have second := real.second
  unfold DateTime.fromUnixSeconds
  dsimp only
  rw [Int.sub_add_cancel, if_pos within]
  have days : d.wallSeconds / secondsPerDay = daysFromCivil d.year d.month d.day := by
    unfold DateTime.wallSeconds secondsPerDay
    omega
  have time : d.wallSeconds % secondsPerDay = d.hour * 3600 + d.minute * 60 + d.second := by
    unfold DateTime.wallSeconds secondsPerDay
    omega
  have hours : ((d.hour * 3600 + d.minute * 60 + d.second : Int) / 3600).toNat = d.hour := by omega
  have minutes : ((d.hour * 3600 + d.minute * 60 + d.second : Int) / 60 % 60).toNat =
      d.minute := by omega
  have seconds : ((d.hour * 3600 + d.minute * 60 + d.second : Int) % 60).toNat = d.second := by
    omega
  rw [days, civilFromDays_daysFromCivil real.month real.day, time]
  dsimp only [Int.toNat_natCast]
  rw [hours, minutes, seconds, ← carried]

/-- A clock that shows more shows a later time. -/
theorem wallSeconds_lt (real : d.Real) (real' : d'.Real) (before : d.clock < d'.clock) :
    d.wallSeconds < d'.wallSeconds := by
  have hour := real.hour
  have minute := real.minute
  have second := real.second
  unfold DateTime.clock at before
  simp only [List.cons_lt_cons_iff, List.not_lt_nil, and_false, or_false] at before
  unfold DateTime.wallSeconds secondsPerDay
  by_cases same : d.year = d'.year ∧ d.month = d'.month ∧ d.day = d'.day
  · obtain ⟨year, month, day⟩ := same
    rw [year, month, day] at before ⊢
    simp only [Nat.lt_irrefl, false_or, true_and] at before
    omega
  · have earlier : d.year < d'.year ∨ d.year = d'.year ∧
        (d.month < d'.month ∨ d.month = d'.month ∧ d.day < d'.day) := by omega
    have days := daysFromCivil_lt real.month real.day real'.month real'.day earlier
    omega

theorem clock_lt_of_wallSeconds_lt (real : d.Real) (real' : d'.Real)
    (before : d.wallSeconds < d'.wallSeconds) : d.clock < d'.clock := by
  rcases lt_trichotomy d.clock d'.clock with less | same | more
  · exact less
  · simp only [DateTime.clock, List.cons.injEq, and_true] at same
    obtain ⟨year, month, day, hour, minute, second⟩ := same
    unfold DateTime.wallSeconds at before
    rw [year, month, day, hour, minute, second] at before
    omega
  · have later := wallSeconds_lt real' real more
    omega

/-- Clocks as far from the epoch show the same. -/
theorem clock_eq_of_wallSeconds_eq (real : d.Real) (real' : d'.Real)
    (same : d.wallSeconds = d'.wallSeconds) : d.clock = d'.clock := by
  rcases lt_trichotomy d.clock d'.clock with less | equal | more
  · have before := wallSeconds_lt real real' less
    omega
  · exact equal
  · have after := wallSeconds_lt real' real more
    omega

theorem toUnixSecondsWithFallbackPanicking_eq :
    d.toUnixSecondsWithFallbackPanicking o = some (d.toUnixSecondsWithFallback o) := by
  unfold DateTime.toUnixSecondsWithFallbackPanicking
  by_cases valid : d.isValid = true
  · have real := isValid_iff.mp valid
    have days := real.days
    have hour := real.hour
    have minute := real.minute
    have second := real.second
    have offsets := (d.offset.getD o).inRange
    rw [toUnixSecondsWithFallback_eq real, if_pos valid,
      daysFromCivilPanicking_eq real.year real.month real.day_le]
    unfold DateTime.wallSeconds secondsPerDay UtcOffset.seconds
    generalize daysFromCivil d.year d.month d.day = day at days ⊢
    generalize (d.offset.getD o).minutes = minutes at offsets ⊢
    rw [Option.bind_eq_bind, Option.bind_some, i64_eq (by omega) (by omega), Option.bind_some,
      i64_eq (by omega) (by omega), Option.bind_some, i64_eq (by omega) (by omega),
      Option.bind_some, i64_eq (by omega) (by omega), Option.bind_some,
      i64_eq (by omega) (by omega), Option.bind_some, i64_eq (by omega) (by omega),
      Option.bind_some, i64_eq (by omega) (by omega), Option.bind_some,
      i64_eq (by omega) (by omega), Option.bind_some]
  · rw [if_neg valid, DateTime.toUnixSecondsWithFallback, if_neg valid]

theorem toUnixSecondsPanicking_eq : d.toUnixSecondsPanicking = some d.toUnixSeconds := by
  unfold DateTime.toUnixSecondsPanicking DateTime.toUnixSeconds
  cases d.offset with
  | none => rfl
  | some offset => exact toUnixSecondsWithFallbackPanicking_eq

end

/-- Instants and dates at an offset are one to one, in order, and no conversion overflows. -/
theorem unix_time (o : UtcOffset) :
    DateTime.toUnixSeconds ⟨0, 1, 1, 0, 0, 0, some .utc⟩ = some minUnixSeconds ∧
      DateTime.toUnixSeconds ⟨9999, 12, 31, 23, 59, 59, some .utc⟩ = some maxUnixSeconds ∧
      (∀ s : Int64,
        DateTime.fromUnixSecondsPanicking s.toInt o =
            some (DateTime.fromUnixSeconds s.toInt o) ∧
          ((∃ d, DateTime.fromUnixSeconds s.toInt o = some d) ↔
            minUnixSeconds ≤ s.toInt + o.seconds ∧ s.toInt + o.seconds ≤ maxUnixSeconds) ∧
          ∀ d, DateTime.fromUnixSeconds s.toInt o = some d →
            d.isValid = true ∧ d.offset = some o ∧ d.toUnixSeconds = some s.toInt) ∧
      (∀ d : DateTime, d.isValid = true → d.offset = some o →
        ∃ s : Int64, d.toUnixSeconds = some s.toInt ∧
          DateTime.fromUnixSeconds s.toInt o = some d) ∧
      (∀ (s s' : Int64) (d d' : DateTime), DateTime.fromUnixSeconds s.toInt o = some d →
        DateTime.fromUnixSeconds s'.toInt o = some d' → (s < s' ↔ d.clock < d'.clock)) ∧
      ∀ d : DateTime, d.toUnixSecondsPanicking = some d.toUnixSeconds ∧
        d.toUnixSecondsWithFallbackPanicking o = some (d.toUnixSecondsWithFallback o) := by
  refine ⟨by decide, by decide, ?_, ?_, ?_, ?_⟩
  · intro s
    refine ⟨fromUnixSecondsPanicking_eq, fromUnixSeconds_iff, ?_⟩
    intro d made
    obtain ⟨real, carried, wall⟩ := fromUnixSeconds_some made
    refine ⟨isValid_iff.mpr real, carried, ?_⟩
    rw [toUnixSeconds_eq real carried, wall, Int.add_sub_cancel]
  · intro d valid carried
    have real := isValid_iff.mp valid
    have wall := real.wall
    have offsets := o.inRange
    have seconds : o.seconds = o.minutes * 60 := rfl
    unfold minUnixSeconds maxUnixSeconds at wall
    refine ⟨Int64.ofInt (d.wallSeconds - o.seconds), ?_, ?_⟩
    · rw [Int64.toInt_ofInt_of_le (by omega) (by omega)]
      exact toUnixSeconds_eq real carried
    · rw [Int64.toInt_ofInt_of_le (by omega) (by omega)]
      exact fromUnixSeconds_wall real carried
  · intro s s' d d' made made'
    obtain ⟨real, -, wall⟩ := fromUnixSeconds_some made
    obtain ⟨real', -, wall'⟩ := fromUnixSeconds_some made'
    rw [Int64.lt_iff_toInt_lt]
    constructor
    · intro before
      exact clock_lt_of_wallSeconds_lt real real' (by omega)
    · intro before
      have later := wallSeconds_lt real real' before
      omega
  · intro d
    exact ⟨toUnixSecondsPanicking_eq, toUnixSecondsWithFallbackPanicking_eq⟩

def halfPastFive : UtcOffset := ⟨330, by decide⟩

/-- The second before the epoch, and the epoch, in the east. -/
theorem unix_time_epoch :
    (DateTime.toUnixSeconds ⟨1970, 1, 1, 5, 29, 59, some halfPastFive⟩ = some (-1) ∧
        ∃ s : Int64, DateTime.toUnixSeconds ⟨1970, 1, 1, 5, 29, 59, some halfPastFive⟩ =
          some s.toInt ∧ DateTime.fromUnixSeconds s.toInt halfPastFive =
          some ⟨1970, 1, 1, 5, 29, 59, some halfPastFive⟩) ∧
      ((-1 : Int64) < 0 ↔
        DateTime.clock ⟨1970, 1, 1, 5, 29, 59, some halfPastFive⟩ <
          DateTime.clock ⟨1970, 1, 1, 5, 30, 0, some halfPastFive⟩) :=
  ⟨⟨(((unix_time halfPastFive).2.2.1 (-1)).2.2 _ (by decide)).2.2,
    (unix_time halfPastFive).2.2.2.1 _ (by decide) rfl⟩,
    (unix_time halfPastFive).2.2.2.2.1 (-1) 0 _ _ (by decide) (by decide)⟩

end Ptp
