import Mathlib.Data.Int.ConditionallyCompleteOrder
import MtpRs.Ptp.DateStrings

set_option autoImplicit false

/- Days counted from the Unix epoch, and the dates they are. -/
namespace Ptp

/-- Days from 0000-03-01 to the first of a month, the months counted from that March. -/
def monthStart (index : Int) : Int :=
  365 * (index / 12) + index / 12 / 4 - index / 12 / 100 + index / 12 / 400 +
    (153 * (index % 12) + 2) / 5

/-- A month's place among the months from March of the year 0. -/
def monthIndex (year month : Int) : Int := 12 * year + month - 3

theorem monthStart_lt_succ (index : Int) : monthStart index < monthStart (index + 1) := by
  unfold monthStart
  by_cases last : index % 12 = 11
  · have year : (index + 1) / 12 = index / 12 + 1 := by omega
    have month : (index + 1) % 12 = 0 := by omega
    rw [year, month, last]
    omega
  · have year : (index + 1) / 12 = index / 12 := by omega
    have month : (index + 1) % 12 = index % 12 + 1 := by omega
    rw [year, month]
    omega

theorem monthStart_strictMono : StrictMono monthStart :=
  strictMono_int_of_lt_succ monthStart_lt_succ

/-- A month starts as many days after the one before it as that one is long. -/
theorem monthStart_succ {year month : Nat} (real : 1 ≤ month ∧ month ≤ 12) :
    monthStart (monthIndex year month + 1) =
      monthStart (monthIndex year month) + monthLength year month := by
  unfold monthStart monthIndex
  by_cases february : month = 2
  · subst february
    have before : (12 * (year : Int) + (2 : Nat) - 3) / 12 = year - 1 := by omega
    have after : (12 * (year : Int) + (2 : Nat) - 3 + 1) / 12 = year := by omega
    rw [before, after, monthLength, if_pos rfl]
    split <;> omega
  · have same : (12 * (year : Int) + month - 3 + 1) / 12 =
        (12 * (year : Int) + month - 3) / 12 := by
      omega
    rw [same, monthLength, if_neg february]
    obtain ⟨low, high⟩ := real
    interval_cases month <;> first | omega | simp <;> omega

theorem daysFromCivil_eq {year month day : Int} (real : 1 ≤ month ∧ month ≤ 12) :
    daysFromCivil year month day = monthStart (monthIndex year month) + day - 1 - 719468 := by
  unfold daysFromCivil monthStart monthIndex
  dsimp only
  by_cases early : month ≤ 2
  · have years : (12 * year + month - 3) / 12 = year - 1 := by omega
    have months : (12 * year + month - 3) % 12 = (month + 9) % 12 := by omega
    rw [if_pos early, years, months]
    omega
  · have years : (12 * year + month - 3) / 12 = year := by omega
    have months : (12 * year + month - 3) % 12 = (month + 9) % 12 := by omega
    rw [if_neg early, years, months]
    omega

theorem yearOfEra_bounds {doe yoe : Int} (low : 0 ≤ doe) (high : doe < 146097)
    (same : yoe = (doe - doe / 1460 + doe / 36524 - doe / 146096) / 365) :
    0 ≤ yoe ∧ yoe ≤ 399 ∧ 365 * yoe + yoe / 4 - yoe / 100 ≤ doe ∧
      doe < 365 * (yoe + 1) + (yoe + 1) / 4 - (yoe + 1) / 100 + (yoe + 1) / 400 := by
  by_cases last : doe = 146096
  · subst last
    omega
  · have era : doe / 146096 = 0 := by omega
    have century : yoe / 100 = doe / 36524 := by omega
    -- A leap day comes every 1461 days, and is counted every 1460.
    have below : yoe ≤ 4 * (doe / 1460) + 3 := by omega
    have above : 4 * (doe / 1460) ≤ yoe + 1 := by omega
    by_cases ends : yoe % 100 = 99
    · omega
    · have within : (yoe + 1) / 100 = yoe / 100 := by omega
      have leaps : doe / 1460 ≤ (yoe + 1) / 4 := by omega
      have eras : 0 ≤ (yoe + 1) / 400 := by omega
      clear above below
      omega

theorem leapDays_era (year era : Int) :
    (year + era * 400) / 4 - (year + era * 400) / 100 + (year + era * 400) / 400 =
      year / 4 - year / 100 + year / 400 + 97 * era := by
  omega

/-- The first of a month of an era, months and years counted from March. -/
theorem monthStart_era {yoe era mp : Int} (real : 0 ≤ mp ∧ mp ≤ 11) :
    monthStart (12 * (yoe + era * 400) + mp) =
      era * 146097 + (365 * yoe + yoe / 4 - yoe / 100 + yoe / 400) + (153 * mp + 2) / 5 := by
  have year : (12 * (yoe + era * 400) + mp) / 12 = yoe + era * 400 := by omega
  have month : (12 * (yoe + era * 400) + mp) % 12 = mp := by omega
  have leaps := leapDays_era yoe era
  rw [monthStart, year, month]
  generalize (153 * mp + 2) / 5 = days
  omega

/-- The month in which a day of a year falls, both counted from March. -/
theorem dayOfYear_month {doy mp : Int} (low : 0 ≤ doy) (high : doy ≤ 365)
    (same : mp = (5 * doy + 2) / 153) :
    0 ≤ mp ∧ mp ≤ 11 ∧ (153 * mp + 2) / 5 ≤ doy ∧
      (mp < 11 → doy < (153 * (mp + 1) + 2) / 5) := by
  omega

/-- A day lies in the month it is found in, so many days after its first. -/
theorem civilFromDays_month {days year month day : Int}
    (found : civilFromDays days = (year, month, day)) :
    1 ≤ month ∧ month ≤ 12 ∧ day = days + 719468 - monthStart (monthIndex year month) + 1 ∧
      1 ≤ day ∧ days + 719468 < monthStart (monthIndex year month + 1) := by
  unfold civilFromDays at found
  dsimp only at found
  generalize eras : (days + 719468) / 146097 = era at found
  generalize does : days + 719468 - era * 146097 = doe at found
  have low : 0 ≤ doe := by omega
  have high : doe < 146097 := by omega
  generalize yoes : (doe - doe / 1460 + doe / 36524 - doe / 146096) / 365 = yoe at found
  obtain ⟨first, last, start, stop⟩ := yearOfEra_bounds low high yoes.symm
  clear yoes
  have century : yoe / 400 = 0 := by omega
  generalize doys : doe - (365 * yoe + yoe / 4 - yoe / 100) = doy at found
  have whole : doy ≤ 365 := by omega
  generalize mps : (5 * doy + 2) / 153 = mp at found
  obtain ⟨march, february, from_first, to_next⟩ := dayOfYear_month (by omega) whole mps.symm
  clear mps
  simp only [Prod.mk.injEq] at found
  obtain ⟨years, months, daily⟩ := found
  have real : 1 ≤ month ∧ month ≤ 12 := by
    split at months <;> omega
  have index : monthIndex year month = 12 * (yoe + era * 400) + mp := by
    unfold monthIndex
    split at months <;> split at years <;> omega
  have started : monthStart (monthIndex year month) = days + 719468 - doy + (153 * mp + 2) / 5 := by
    rw [index, monthStart_era ⟨march, february⟩]
    omega
  refine ⟨real.1, real.2, by omega, by omega, ?_⟩
  by_cases ends : mp = 11
  · have next : monthIndex year month + 1 = 12 * (yoe + 1 + era * 400) + 0 := by omega
    rw [next, monthStart_era (by omega)]
    omega
  · have next : monthIndex year month + 1 = 12 * (yoe + era * 400) + (mp + 1) := by omega
    have later := to_next (by omega)
    rw [next, monthStart_era (by omega)]
    omega

/-- A day lies in one month only. -/
theorem monthIndex_unique {index index' days : Int} (start : monthStart index ≤ days)
    (stop : days < monthStart (index + 1)) (start' : monthStart index' ≤ days)
    (stop' : days < monthStart (index' + 1)) : index = index' := by
  have below := monthStart_strictMono.lt_iff_lt.mp (Int.lt_of_le_of_lt start stop')
  have above := monthStart_strictMono.lt_iff_lt.mp (Int.lt_of_le_of_lt start' stop)
  omega

section

variable {year month day : Nat}

/-- The days of a real date lie in its month. -/
theorem daysFromCivil_within (months : 1 ≤ month ∧ month ≤ 12)
    (within : 1 ≤ day ∧ day ≤ monthLength year month) :
    monthStart (monthIndex year month) ≤ daysFromCivil year month day + 719468 ∧
      daysFromCivil year month day + 719468 < monthStart (monthIndex year month + 1) := by
  rw [daysFromCivil_eq (by omega), monthStart_succ months]
  omega

/-- A real date is the date of its days. -/
theorem civilFromDays_daysFromCivil (months : 1 ≤ month ∧ month ≤ 12)
    (within : 1 ≤ day ∧ day ≤ monthLength year month) :
    civilFromDays (daysFromCivil year month day) = (↑year, ↑month, ↑day) := by
  obtain ⟨start', stop'⟩ := daysFromCivil_within months within
  cases found : civilFromDays (daysFromCivil year month day) with
  | mk y rest =>
      obtain ⟨m, d⟩ := rest
      obtain ⟨low, high, days, first, stop⟩ := civilFromDays_month found
      have same := monthIndex_unique (by omega) stop start' stop'
      have equation : daysFromCivil year month day = _ := daysFromCivil_eq (by omega)
      rw [same] at days
      unfold monthIndex at same
      simp only [Prod.mk.injEq]
      omega

/-- The days of a date that was found for them. -/
theorem daysFromCivil_civilFromDays {days : Int}
    (found : civilFromDays days = (↑year, ↑month, ↑day)) :
    daysFromCivil year month day = days ∧ (1 ≤ month ∧ month ≤ 12) ∧
      1 ≤ day ∧ day ≤ monthLength year month := by
  obtain ⟨low, high, same, first, stop⟩ := civilFromDays_month found
  have months : 1 ≤ month ∧ month ≤ 12 := by omega
  rw [monthStart_succ months] at stop
  refine ⟨?_, months, by omega, by omega⟩
  rw [daysFromCivil_eq (by omega)]
  omega

theorem civilFromDays_years {days y m d : Int} (found : civilFromDays days = (y, m, d))
    (low : -719528 ≤ days) (high : days ≤ 2932896) : 0 ≤ y ∧ y ≤ 9999 := by
  obtain ⟨first, last, same, positive, stop⟩ := civilFromDays_month found
  have january : monthStart (-2) = -60 := by decide
  have december : monthStart 119998 = 3652365 := by decide
  have after : monthStart (-2) < monthStart (monthIndex y m + 1) := by omega
  have before : monthStart (monthIndex y m) < monthStart 119998 := by omega
  have lower := monthStart_strictMono.lt_iff_lt.mp after
  have upper := monthStart_strictMono.lt_iff_lt.mp before
  unfold monthIndex at lower upper
  omega

/-- Later months, or later days of a month, are later. -/
theorem daysFromCivil_lt {year' month' day' : Nat} (months : 1 ≤ month ∧ month ≤ 12)
    (within : 1 ≤ day ∧ day ≤ monthLength year month) (months' : 1 ≤ month' ∧ month' ≤ 12)
    (within' : 1 ≤ day' ∧ day' ≤ monthLength year' month')
    (before : year < year' ∨ year = year' ∧ (month < month' ∨ month = month' ∧ day < day')) :
    daysFromCivil year month day < daysFromCivil year' month' day' := by
  by_cases same : year = year' ∧ month = month'
  · obtain ⟨rfl, rfl⟩ := same
    rw [daysFromCivil_eq (by omega), daysFromCivil_eq (by omega)]
    omega
  · have later : monthIndex year month + 1 ≤ monthIndex year' month' := by
      unfold monthIndex
      omega
    have starts := monthStart_strictMono.monotone later
    have stop := (daysFromCivil_within months within).2
    have start := (daysFromCivil_within months' within').1
    omega

end

end Ptp
