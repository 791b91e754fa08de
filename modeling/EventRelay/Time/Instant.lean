set_option autoImplicit false

/-!
Instants of the UTC calendar. Days count from the first of January 1970; an instant within a leap
second has a second's worth of nanoseconds more.
-/
namespace EventRelay

/-- An instant: whole seconds since the start of 1970 and nanoseconds, less than two seconds of
them. -/
structure Instant where
  seconds : Int
  nanos : Nat
deriving DecidableEq, Repr, Inhabited

structure Date where
  year : Int
  month : Nat
  day : Nat
deriving DecidableEq, Repr

namespace Date

/-- Whether a year has a 29th of February. -/
def isLeap (year : Int) : Bool := year % 4 == 0 && (year % 100 != 0 || year % 400 == 0)

def daysInMonth (year : Int) (month : Nat) : Nat :=
  if month = 2 then (if isLeap year then 29 else 28)
  else if month = 4 ∨ month = 6 ∨ month = 9 ∨ month = 11 then 30 else 31

/-- The first and the last year that are told apart. -/
def minYear : Int := -262143

def maxYear : Int := 262142

def of? (year : Int) (month day : Nat) : Option Date :=
  if minYear ≤ year ∧ year ≤ maxYear ∧ 1 ≤ month ∧ month ≤ 12
      ∧ 1 ≤ day ∧ day ≤ daysInMonth year month
  then some ⟨year, month, day⟩ else none

/-- Days since the start of 1970. Years are taken to begin in March, so that a leap day ends one. -/
def dayNumber (d : Date) : Int :=
  let year := if d.month ≤ 2 then d.year - 1 else d.year
  let era := Int.fdiv year 400
  let yearOfEra := year - era * 400
  let monthFromMarch : Int := Int.ofNat ((d.month + 9) % 12)
  let dayOfYear := (153 * monthFromMarch + 2) / 5 + d.day - 1
  let dayOfEra := yearOfEra * 365 + yearOfEra / 4 - yearOfEra / 100 + dayOfYear
  era * 146097 + dayOfEra - 719468

/-- The day of a number of days since the start of 1970. -/
def ofDayNumber (n : Int) : Date :=
  let shifted := n + 719468
  let era := Int.fdiv shifted 146097
  let dayOfEra := shifted - era * 146097
  let yearOfEra := (dayOfEra - dayOfEra / 1460 + dayOfEra / 36524 - dayOfEra / 146096) / 365
  let dayOfYear := dayOfEra - (365 * yearOfEra + yearOfEra / 4 - yearOfEra / 100)
  let monthFromMarch := (5 * dayOfYear + 2) / 153
  let day := dayOfYear - (153 * monthFromMarch + 2) / 5 + 1
  let month := if monthFromMarch < 10 then monthFromMarch + 3 else monthFromMarch - 9
  let year := yearOfEra + era * 400
  ⟨if month ≤ 2 then year + 1 else year, month.toNat, day.toNat⟩

end Date

/-- A time of day; the 60th second is a leap second. -/
structure TimeOfDay where
  hour : Nat
  minute : Nat
  second : Nat
  nanos : Nat
deriving DecidableEq, Repr

def TimeOfDay.isValid (t : TimeOfDay) : Bool :=
  t.hour < 24 && t.minute < 60 && t.second ≤ 60 && t.nanos < 1000000000

namespace Instant

/-- The instant at which clocks that are `offset` seconds ahead show a date and a time. -/
def ofLocal? (date : Date) (time : TimeOfDay) (offset : Int) : Option Instant :=
  if ¬ time.isValid ∨ 86400 ≤ offset.natAbs then none
  else
    let leap := time.second = 60
    let second : Nat := if leap then 59 else time.second
    let seconds := date.dayNumber * 86400 + time.hour * 3600 + time.minute * 60 + second - offset
    let utc := Date.ofDayNumber (Int.fdiv seconds 86400)
    if utc.year < Date.minYear ∨ Date.maxYear < utc.year then none
    else some ⟨seconds, time.nanos + if leap then 1000000000 else 0⟩

def date (i : Instant) : Date := Date.ofDayNumber (Int.fdiv i.seconds 86400)

def timeOfDay (i : Instant) : TimeOfDay :=
  let rest := (Int.fmod i.seconds 86400).toNat
  let leap := 1000000000 ≤ i.nanos
  ⟨rest / 3600, rest / 60 % 60, rest % 60 + if leap then 1 else 0,
    if leap then i.nanos - 1000000000 else i.nanos⟩

end Instant
end EventRelay
