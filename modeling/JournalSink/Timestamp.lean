import JournalSink.Calendar

/-! # Timestamps

An instant in whole seconds from the epoch and the nanoseconds behind them. Its
text is the date and time of day in UTC, cut off after the microsecond.
-/

namespace JournalSink

structure Timestamp where
  seconds : Int
  nanos : Fin 1000000000
deriving DecidableEq, Repr

namespace Timestamp

def epoch : Timestamp :=
  ⟨0, 0⟩

/-- Instants whose date can be written. -/
def isWritable (t : Timestamp) : Bool :=
  -8334601228800 ≤ t.seconds && t.seconds ≤ 8210266876799

def date (t : Timestamp) : Date :=
  .ofDays (t.seconds / 86400)

def secondOfDay (t : Timestamp) : Nat :=
  (t.seconds % 86400).toNat

/-- Decimal digits, filled up with zeros to `width`. -/
def padded (width n : Nat) : List Char :=
  let digits := Nat.toDigits 10 n
  List.replicate (width - digits.length) '0' ++ digits

/-- Years of four digits stand by themselves, others carry a sign. -/
def yearText (year : Int) : List Char :=
  if 0 ≤ year ∧ year ≤ 9999 then padded 4 year.toNat
  else (if year < 0 then '-' else '+') :: padded 4 year.natAbs

def text (t : Timestamp) : String :=
  let d := t.date
  let s := t.secondOfDay
  String.ofList <|
    yearText d.year ++ '-' :: padded 2 d.month ++ '-' :: padded 2 d.day ++
    'T' :: padded 2 (s / 3600) ++ ':' :: padded 2 (s / 60 % 60) ++ ':' :: padded 2 (s % 60) ++
    '.' :: padded 6 (t.nanos / 1000) ++ ['Z']

def text? (t : Timestamp) : Option String :=
  if t.isWritable then some t.text else none

end Timestamp

end JournalSink
