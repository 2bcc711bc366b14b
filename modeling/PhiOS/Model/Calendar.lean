import PhiOS.Library.DecimalText
import PhiOS.Model.Value

/-!
# Dates and times of day

The part of `datetime` that schedules use, with the proleptic Gregorian calendar. A date is its number
of days since the first of January of the year 1, a time without a zone and an instant are
microseconds since the midnight before that day. What leaves the years 1 to 9999 raises an
`OverflowError`.
-/

set_option autoImplicit false

namespace PhiOS

open DecimalText

namespace Calendar

/-! ## Dates -/

/-- The number of the last day of the year 9999. -/
def maxDay : ℤ := 3652058

/-- The microseconds of a day. -/
def dayMicros : ℤ := 86400000000

/-- `OverflowError("date value out of range")`. -/
def overflowError : PyError := ⟨.exception "OverflowError", "date value out of range", []⟩

/-- A date, or an overflow. -/
def date (day : ℤ) : Except PyError ℤ :=
  if 0 ≤ day ∧ day ≤ maxDay then .ok day else .error overflowError

/-- A time on a date, or an overflow. -/
def datetime (t : ℤ) : Except PyError ℤ :=
  if 0 ≤ t ∧ t < (maxDay + 1) * dayMicros then .ok t else .error overflowError

/-- The date of a time. -/
def dayOf (t : ℤ) : ℤ := t / dayMicros

/-- `date.isoweekday()`, the first day of the calendar being a Monday. -/
def isoweekday (day : ℤ) : ℤ := day % 7 + 1

def isLeap (year : ℕ) : Bool := year % 4 = 0 && (year % 100 ≠ 0 || year % 400 = 0)

def daysBeforeYear (year : ℕ) : ℕ :=
  (year - 1) * 365 + (year - 1) / 4 - (year - 1) / 100 + (year - 1) / 400

def daysBeforeMonth (leap : Bool) (month : ℕ) : ℕ :=
  [0, 0, 31, 59, 90, 120, 151, 181, 212, 243, 273, 304, 334].getD month 0 +
    if 2 < month ∧ leap then 1 else 0

def daysInMonth (leap : Bool) (month : ℕ) : ℕ :=
  [0, 31, 28, 31, 30, 31, 30, 31, 31, 30, 31, 30, 31].getD month 0 +
    if month = 2 ∧ leap then 1 else 0

/-- The year of a day, and the number of the day in it. -/
def yearAndDay (day : ℕ) : ℕ × ℕ :=
  let n400 := day / 146097
  let n100 := day % 146097 / 36524
  let n4 := day % 146097 % 36524 / 1461
  let n1 := day % 146097 % 36524 % 1461 / 365
  let year := n400 * 400 + n100 * 100 + n4 * 4 + n1 + 1
  if n1 = 4 ∨ n100 = 4 then (year - 1, 365)
  else (year, day % 146097 % 36524 % 1461 % 365)

/-- The month and the day of the month of a day of a year: an estimate of the month that is one too
many at most. -/
def monthAndDay (leap : Bool) (n : ℕ) : ℕ × ℕ :=
  let month := (n + 50) / 32
  let month := if n < daysBeforeMonth leap month then month - 1 else month
  (month, n - daysBeforeMonth leap month + 1)

/-- The year, the month and the day of a date. -/
def ymd (day : ℕ) : ℕ × ℕ × ℕ :=
  let (year, n) := yearAndDay day
  (year, monthAndDay (isLeap year) n)

/-! ## Texts -/

/-- The value of a text of decimal digits. -/
def readDigits (digits : List Char) : Option ℕ :=
  digits.foldl (fun value c => value.bind fun n =>
    if 48 ≤ c.toNat ∧ c.toNat ≤ 57 then some (n * 10 + (c.toNat - 48)) else none) (some 0)

/-- `date.fromisoformat` of a text in the form YYYY-MM-DD. -/
def dateFromIso (text : List Char) : Option ℤ :=
  match text with
  | [y₁, y₂, y₃, y₄, '-', m₁, m₂, '-', d₁, d₂] =>
      match readDigits [y₁, y₂, y₃, y₄], readDigits [m₁, m₂], readDigits [d₁, d₂] with
      | some year, some month, some day =>
          if 1 ≤ year ∧ 1 ≤ month ∧ month ≤ 12 ∧ 1 ≤ day ∧
              day ≤ daysInMonth (isLeap year) month then
            some (daysBeforeYear year + daysBeforeMonth (isLeap year) month + day - 1 : ℕ)
          else none
      | _, _, _ => none
  | _ => none

/-- `time.fromisoformat` of a text in the form HH:MM:SS, in microseconds. -/
def timeFromIso (text : List Char) : Option ℤ :=
  match text with
  | [h₁, h₂, ':', m₁, m₂, ':', s₁, s₂] =>
      match readDigits [h₁, h₂], readDigits [m₁, m₂], readDigits [s₁, s₂] with
      | some hour, some minute, some second =>
          if hour < 24 ∧ minute < 60 ∧ second < 60 then
            some (((hour * 60 + minute) * 60 + second : ℕ) * 1000000)
          else none
      | _, _, _ => none
  | _ => none

/-- The text of seconds and microseconds; microseconds are only printed where there are any. -/
def isoMicros (micros : ℕ) (rest : List Char) : List Char :=
  if micros = 0 then rest else '.' :: (numeral 6 micros ++ rest)

/-- `isoformat()` of a time without a zone, and what comes after it. -/
def isoNaive (t : ℤ) (rest : List Char) : List Char :=
  let (year, month, day) := ymd (dayOf t).toNat
  let micros := (t % dayMicros).toNat
  let second := micros / 1000000
  numeral 4 year ++ '-' :: (numeral 2 month ++ '-' :: (numeral 2 day ++ 'T' ::
    (numeral 2 (second / 3600) ++ ':' :: (numeral 2 (second / 60 % 60) ++ ':' ::
      (numeral 2 (second % 60) ++ isoMicros (micros % 1000000) rest)))))

/-- The text of an offset. -/
def isoOffset (offset : ℤ) : List Char :=
  let micros := offset.natAbs
  let second := micros / 1000000
  let seconds := if second % 60 = 0 ∧ micros % 1000000 = 0 then [] else
    ':' :: (numeral 2 (second % 60) ++ isoMicros (micros % 1000000) [])
  (if offset < 0 then '-' else '+') :: (numeral 2 (second / 3600) ++ ':' ::
    (numeral 2 (second / 60 % 60) ++ seconds))

/-- `isoformat()` of a time in a zone. -/
def isoAware (naive offset : ℤ) : String := String.ofList (isoNaive naive (isoOffset offset))

/-- `value.isoformat().replace("+00:00", "Z")` of an instant in UTC, whose offset is the only part
that is replaced. -/
def utcIso (t : ℤ) : String := String.ofList (isoNaive t ['Z'])

example : utcIso (63871286400 * 1000000) = "2025-01-01T00:00:00Z" := by decide +kernel

end Calendar

/-! ## Zones -/

/-- `ZoneInfo`: the offset that a local time without a zone has, in its first or second reading, and
the offset that an instant has. -/
structure ZoneInfo where
  utcoffset : ℤ → Bool → ℤ
  offsetAt : ℤ → ℤ
  /-- Offsets are strictly between minus one day and one day. -/
  utcoffset_lt : ∀ naive fold, |utcoffset naive fold| < Calendar.dayMicros
  offsetAt_lt : ∀ t, |offsetAt t| < Calendar.dayMicros

end PhiOS
