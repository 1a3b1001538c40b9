/-! Moments in universal time on the proleptic Gregorian calendar, with nanoseconds. A leap
second counts as a nanosecond part of one second or more on top of the second before it. -/
namespace Storefront

/-- `day` counts from 1970-01-01 and `second` from midnight. -/
structure Moment where
  day : Int
  second : Nat
  nano : Nat
  deriving DecidableEq, Repr

structure Date where
  year : Int
  month : Nat
  day : Nat
  deriving DecidableEq, Repr

namespace Date

def isLeap (year : Int) : Bool := year % 4 = 0 && (year % 100 ≠ 0 || year % 400 = 0)

def monthLength (year : Int) (month : Nat) : Nat :=
  if month = 2 then (if isLeap year then 29 else 28)
  else if month = 4 ∨ month = 6 ∨ month = 9 ∨ month = 11 then 30
  else 31

/-- Days from 1970-01-01. Years are counted from March, so that the leap day comes last. -/
def toDays (d : Date) : Int :=
  let y := if d.month ≤ 2 then d.year - 1 else d.year
  let era := y / 400
  let yearOfEra := y % 400
  let monthFromMarch : Int := (((d.month + 9) % 12 : Nat) : Int)
  let dayOfYear := (153 * monthFromMarch + 2) / 5 + (d.day : Int) - 1
  let dayOfEra := yearOfEra * 365 + yearOfEra / 4 - yearOfEra / 100 + dayOfYear
  era * 146097 + dayOfEra - 719468

def ofDays (days : Int) : Date :=
  let z := days + 719468
  let era := z / 146097
  let dayOfEra := z % 146097
  let yearOfEra := (dayOfEra - dayOfEra / 1460 + dayOfEra / 36524 - dayOfEra / 146096) / 365
  let dayOfYear := dayOfEra - (365 * yearOfEra + yearOfEra / 4 - yearOfEra / 100)
  let monthFromMarch := (5 * dayOfYear + 2) / 153
  let day := dayOfYear - (153 * monthFromMarch + 2) / 5 + 1
  let month := if monthFromMarch < 10 then monthFromMarch + 3 else monthFromMarch - 9
  let year := yearOfEra + era * 400 + (if month ≤ 2 then 1 else 0)
  ⟨year, month.toNat, day.toNat⟩

def earliestYear : Int := -262143

def latestYear : Int := 262142

def isValid (d : Date) : Bool :=
  earliestYear ≤ d.year && d.year ≤ latestYear && 1 ≤ d.month && d.month ≤ 12 &&
  1 ≤ d.day && d.day ≤ monthLength d.year d.month

end Date

namespace Moment

def padded (width n : Nat) : String :=
  let digits := Nat.toDigits 10 n
  String.ofList (List.replicate (width - digits.length) '0' ++ digits)

/-- Years of four digits stand plain; any other year has its sign. -/
def yearText (y : Int) : String :=
  if 0 ≤ y ∧ y ≤ 9999 then padded 4 y.toNat
  else (if y < 0 then "-" else "+") ++ padded 4 y.natAbs

/-- Three, six or nine digits, the fewest that are exact, and none for a whole second. -/
def fractionText (nano : Nat) : String :=
  if nano = 0 then ""
  else if nano % 1000000 = 0 then "." ++ padded 3 (nano / 1000000)
  else if nano % 1000 = 0 then "." ++ padded 6 (nano / 1000)
  else "." ++ padded 9 nano

def text (m : Moment) (mark : String) : String :=
  let d := Date.ofDays m.day
  let leap := 1000000000 ≤ m.nano
  let second := m.second % 60 + (if leap then 1 else 0)
  let nano := if leap then m.nano - 1000000000 else m.nano
  yearText d.year ++ "-" ++ padded 2 d.month ++ "-" ++ padded 2 d.day ++ "T" ++
    padded 2 (m.second / 3600) ++ ":" ++ padded 2 (m.second / 60 % 60) ++ ":" ++
    padded 2 second ++ fractionText nano ++ mark

end Moment

end Storefront
