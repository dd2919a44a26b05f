/-! # The calendar

Dates of the proleptic Gregorian calendar, counted in days from 1 January 1970.
A year is taken to start in March, so that the leap day is its last day.
-/

namespace JournalSink

structure Date where
  year : Int
  month : Nat
  day : Nat
deriving DecidableEq, Repr

namespace Date

/-- Days from 1 March of year 0 to 1 January 1970. -/
def epochOffset : Int :=
  719468

/-- The date on a day counted from 1 January 1970. -/
def ofDays (days : Int) : Date :=
  let z := days + epochOffset
  let era := z / 146097
  let dayOfEra := (z % 146097).toNat
  let yearOfEra := (dayOfEra - dayOfEra / 1460 + dayOfEra / 36524 - dayOfEra / 146096) / 365
  let dayOfYear := dayOfEra - (365 * yearOfEra + yearOfEra / 4 - yearOfEra / 100)
  let m := (5 * dayOfYear + 2) / 153
  let month := if m < 10 then m + 3 else m - 9
  { year := yearOfEra + era * 400 + (if month ≤ 2 then 1 else 0)
    month := month
    day := dayOfYear - (153 * m + 2) / 5 + 1 }

end Date

end JournalSink
