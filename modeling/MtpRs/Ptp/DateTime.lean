import MtpRs.Ptp.Error

set_option autoImplicit false

/- Date strings of the wire, as far as a listing reads them. -/
namespace Ptp

/-- An offset from UTC in whole minutes east of it, within what `±hhmm` can express. -/
structure UtcOffset where
  minutes : Int
  inRange : -(24 * 60) < minutes ∧ minutes < 24 * 60
deriving DecidableEq, Repr

namespace UtcOffset

def utc : UtcOffset := ⟨0, by decide⟩

def fromMinutes (minutes : Int) : Option UtcOffset :=
  if inRange : -(24 * 60) < minutes ∧ minutes < 24 * 60 then some ⟨minutes, inRange⟩ else none

end UtcOffset

/-- Date and time. With no offset it is wall-clock time in the device's zone. -/
structure DateTime where
  year : Nat
  month : Nat
  day : Nat
  hour : Nat
  minute : Nat
  second : Nat
  offset : Option UtcOffset
deriving DecidableEq, Repr

def isLeapYear (year : Nat) : Bool :=
  (year % 4 == 0 && !(year % 100 == 0)) || year % 400 == 0

/-- The month's length in days, or 0 for a month outside 1-12. -/
def daysInMonth (year month : Nat) : Nat :=
  match month with
  | 1 | 3 | 5 | 7 | 8 | 10 | 12 => 31
  | 4 | 6 | 9 | 11 => 30
  | 2 => if isLeapYear year then 29 else 28
  | _ => 0

def isAsciiDigit (byte : UInt8) : Bool := 0x30 ≤ byte && byte ≤ 0x39

/-- Exactly `n` ASCII digits. -/
def parseDigits (n : Nat) (bytes : List UInt8) : Option Nat :=
  if bytes.length ≠ n || !bytes.all isAsciiDigit then none
  else some (bytes.foldl (fun acc byte => acc * 10 + (byte.toNat - 0x30)) 0)

/-- The `Z` or `±hhmm` that may end a date string. -/
def parseZone : List UInt8 → Option (Option UtcOffset)
  | [] => some none
  | [0x5A] => some (some .utc)
  | sign :: hhmm =>
      if sign = 0x2B ∨ sign = 0x2D then
        if hhmm.length < 2 then none
        else do
          let hours ← parseDigits 2 (hhmm.take 2)
          let minutes ← parseDigits 2 (hhmm.drop 2)
          if 23 < hours ∨ 59 < minutes then none
          else
            let total : Int := hours * 60 + minutes
            (UtcOffset.fromMinutes (if sign = 0x2D then -total else total)).map some
      else none

/-- The optional `[.s][Z|±hhmm]` suffix: the tenths are dropped, however many. -/
def parseSuffix : List UInt8 → Option (Option UtcOffset)
  | 0x2E :: rest =>
      let digits := (rest.takeWhile isAsciiDigit).length
      if digits = 0 then none else parseZone (rest.drop digits)
  | tail => parseZone tail

namespace DateTime

def isValid (self : DateTime) : Bool :=
  self.year ≤ 9999 && (1 ≤ self.day && self.day ≤ daysInMonth self.year self.month) &&
    self.hour ≤ 23 && self.minute ≤ 59 && self.second ≤ 59

def new (year month day hour minute second : Nat) : Option DateTime :=
  let dt : DateTime := ⟨year, month, day, hour, minute, second, none⟩
  if dt.isValid then some dt else none

/-- `YYYYMMDDThhmmss` and its suffix. -/
def parse (s : String) : Option DateTime := do
  let b := s.toUTF8.data.toList
  if b.length < 15 || b[8]? ≠ some 0x54 then none
  else
    let year ← parseDigits 4 (b.take 4)
    let month ← parseDigits 2 ((b.drop 4).take 2)
    let day ← parseDigits 2 ((b.drop 6).take 2)
    let hour ← parseDigits 2 ((b.drop 9).take 2)
    let minute ← parseDigits 2 ((b.drop 11).take 2)
    let second ← parseDigits 2 ((b.drop 13).take 2)
    let dt ← new year month day hour minute second
    let offset ← parseSuffix (b.drop 15)
    some { dt with offset := offset }

end DateTime

end Ptp
