import MtpRs.Ptp.DateTime

set_option autoImplicit false

/- Dates as instants: seconds since the Unix epoch, and the string a date is written as. -/
namespace Ptp

def UtcOffset.seconds (self : UtcOffset) : Int := self.minutes * 60

/-- 0000-01-01T00:00:00Z, the earliest instant MTP can write. -/
def minUnixSeconds : Int := -62167219200

/-- 9999-12-31T23:59:59Z, the latest instant MTP can write. -/
def maxUnixSeconds : Int := 253402300799

def secondsPerDay : Int := 86400

/-- Days from 1970-01-01 to a date of the proleptic Gregorian calendar. -/
def daysFromCivil (year month day : Int) : Int :=
  let y := if month ≤ 2 then year - 1 else year
  let era := y / 400
  let yoe := y - era * 400
  -- March is 0.
  let mp := (month + 9) % 12
  let doy := (153 * mp + 2) / 5 + day - 1
  let doe := yoe * 365 + yoe / 4 - yoe / 100 + doy
  era * 146097 + doe - 719468

/-- The date of a day counted from 1970-01-01: year, month, day. -/
def civilFromDays (days : Int) : Int × Int × Int :=
  let z := days + 719468
  let era := z / 146097
  let doe := z - era * 146097
  let yoe := (doe - doe / 1460 + doe / 36524 - doe / 146096) / 365
  let doy := doe - (365 * yoe + yoe / 4 - yoe / 100)
  let mp := (5 * doy + 2) / 153
  let day := doy - (153 * mp + 2) / 5 + 1
  let month := if mp < 10 then mp + 3 else mp - 9
  let year := yoe + era * 400 + if month ≤ 2 then 1 else 0
  (year, month, day)

/-- A number in decimal, with zeros in front up to a width. -/
def padded (width n : Nat) : String :=
  let digits := toString n
  String.ofList (List.replicate (width - digits.length) '0') ++ digits

namespace DateTime

/-- Wall-clock time at an offset, which the result carries. -/
def fromUnixSeconds (secs : Int) (offset : UtcOffset) : Option DateTime :=
  let shifted := secs + offset.seconds
  if minUnixSeconds ≤ shifted ∧ shifted ≤ maxUnixSeconds then
    let (year, month, day) := civilFromDays (shifted / secondsPerDay)
    let time := shifted % secondsPerDay
    some ⟨year.toNat, month.toNat, day.toNat, (time / 3600).toNat, (time / 60 % 60).toNat,
      (time % 60).toNat, some offset⟩
  else none

/-- A zoneless value is read as wall-clock time at the fallback. -/
def toUnixSecondsWithFallback (self : DateTime) (fallback : UtcOffset) : Option Int :=
  if self.isValid then
    let days := daysFromCivil self.year self.month self.day
    let time : Int := self.hour * 3600 + self.minute * 60 + self.second
    some (days * secondsPerDay + time - (self.offset.getD fallback).seconds)
  else none

/-- An instant, of a value that carries an offset. -/
def toUnixSeconds (self : DateTime) : Option Int :=
  self.offset.bind self.toUnixSecondsWithFallback

def format (self : DateTime) : Option String :=
  if self.isValid then
    let date := padded 4 self.year ++ padded 2 self.month ++ padded 2 self.day ++ "T" ++
      padded 2 self.hour ++ padded 2 self.minute ++ padded 2 self.second
    match self.offset with
    | none => some date
    | some offset =>
        if offset.minutes = 0 then some (date ++ "Z")
        else
          let sign := if offset.minutes < 0 then "-" else "+"
          let distance := offset.minutes.natAbs
          some (date ++ sign ++ padded 2 (distance / 60) ++ padded 2 (distance % 60))
  else none

example : (fromUnixSeconds 1710513022 .utc).bind format = some "20240315T143022Z" := by decide

end DateTime

end Ptp
