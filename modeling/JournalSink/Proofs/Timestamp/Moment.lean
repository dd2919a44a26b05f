import Mathlib.Data.List.TakeWhile
import JournalSink.Proofs.Calendar.Days
import JournalSink.Timestamp

/-! # What the text of a timestamp says

A date and a time of day are read from a text by the format alone, and stand for the
microseconds from 1 January 1970 that the calendar gives them. The text of a timestamp is
read back, and says the timestamp rounded down to a whole microsecond.
-/

namespace JournalSink

structure Moment where
  date : Date
  hour : Nat
  minute : Nat
  second : Nat
  micro : Nat
deriving DecidableEq, Repr

namespace Moment

structure IsValid (m : Moment) : Prop where
  date : m.date.IsValid
  hour : m.hour < 24
  minute : m.minute < 60
  second : m.second < 60
  micro : m.micro < 1000000

/-- The microseconds from the start of 1 January 1970. -/
def toMicros (m : Moment) : Int :=
  (((m.date.toDays * 24 + m.hour) * 60 + m.minute) * 60 + m.second) * 1000000 + m.micro

/-- The digits before a mark, and what is behind it. -/
def digits? (mark : Char) (cs : List Char) : Option (List Char × List Char) :=
  match cs.dropWhile Char.isDigit with
  | [] => none
  | c :: rest => if c = mark then some (cs.takeWhile Char.isDigit, rest) else none

/-- A number of `width` digits before a mark. -/
def number? (width : Nat) (mark : Char) (cs : List Char) : Option (Nat × List Char) := do
  let (digits, rest) ← digits? mark cs
  if digits.length = width then some (Nat.ofDigitChars 10 digits 0, rest) else none

/-- The number of a year behind its sign, of four digits or more. -/
def signed? (cs : List Char) : Option (Nat × List Char) := do
  let (digits, rest) ← digits? '-' cs
  if 4 ≤ digits.length then some (Nat.ofDigitChars 10 digits 0, rest) else none

def year? (cs : List Char) : Option (Int × List Char) :=
  if cs.head? = some '-' then (signed? cs.tail).map fun (n, rest) => (-n, rest)
  else if cs.head? = some '+' then (signed? cs.tail).map fun (n, rest) => (n, rest)
  else (number? 4 '-' cs).map fun (n, rest) => (n, rest)

/-- Reads a date and a time of day in UTC, with six digits for the fraction of the second. -/
def read? (cs : List Char) : Option Moment := do
  let (year, cs) ← year? cs
  let (month, cs) ← number? 2 '-' cs
  let (day, cs) ← number? 2 'T' cs
  let (hour, cs) ← number? 2 ':' cs
  let (minute, cs) ← number? 2 ':' cs
  let (second, cs) ← number? 2 '.' cs
  let (micro, cs) ← number? 6 'Z' cs
  if cs = [] then some ⟨⟨year, month, day⟩, hour, minute, second, micro⟩ else none

end Moment

namespace Timestamp

open Moment (digits? number? signed? year?)

variable {mark : Char} {width n : Nat} {cs rest : List Char}

/-! ## Padded numbers -/

theorem isDigit_of_mem_padded : ∀ c ∈ padded width n, c.isDigit = true := by
  intro c hc
  rcases List.mem_append.1 hc with h | h
  · rw [(List.mem_replicate.1 h).2]
    rfl
  · exact Nat.isDigit_of_mem_toDigits (by decide) (by decide) h

theorem length_padded (hw : 0 < width) (hn : n < 10 ^ width) : (padded width n).length = width := by
  have hle := (Nat.length_toDigits_le_iff (b := 10) (by decide) hw).2 hn
  rw [padded, List.length_append, List.length_replicate, Nat.sub_add_cancel hle]

theorem le_length_padded : width ≤ (padded width n).length := by
  rw [padded, List.length_append, List.length_replicate]
  omega

theorem ofDigitChars_padded (width n : Nat) : Nat.ofDigitChars 10 (padded width n) 0 = n := by
  rw [padded, Nat.ofDigitChars_append, Nat.ofDigitChars_replicate_zero, Nat.mul_zero,
    Nat.ofDigitChars_toDigits (by decide) (by decide)]

theorem head?_padded_append (width n : Nat) (rest : List Char) :
    ∃ c, (padded width n ++ rest).head? = some c ∧ c.isDigit = true := by
  obtain ⟨c, cs, hcs⟩ := List.exists_cons_of_ne_nil (l := padded width n)
    (List.append_ne_nil_of_right_ne_nil _ Nat.toDigits_ne_nil)
  exact ⟨c, by rw [hcs]; rfl, isDigit_of_mem_padded c (hcs ▸ List.mem_cons_self)⟩

/-! ## Reading -/

theorem digits?_append (hcs : ∀ c ∈ cs, c.isDigit = true) (hm : mark.isDigit = false) :
    digits? mark (cs ++ mark :: rest) = some (cs, rest) := by
  have hdrop : (cs ++ mark :: rest).dropWhile Char.isDigit = mark :: rest := by
    rw [List.dropWhile_append_of_pos hcs, List.dropWhile_cons_of_neg (by simp [hm])]
  have htake : (cs ++ mark :: rest).takeWhile Char.isDigit = cs := by
    rw [List.takeWhile_append_of_pos hcs, List.takeWhile_cons_of_neg (by simp [hm]),
      List.append_nil]
  rw [digits?, hdrop, htake]
  exact if_pos rfl

theorem number?_padded (hw : 0 < width) (hn : n < 10 ^ width) (hm : mark.isDigit = false) :
    number? width mark (padded width n ++ mark :: rest) = some (n, rest) := by
  rw [number?, digits?_append isDigit_of_mem_padded hm]
  simp [length_padded hw hn, ofDigitChars_padded]

theorem signed?_padded : signed? (padded 4 n ++ '-' :: rest) = some (n, rest) := by
  rw [signed?, digits?_append isDigit_of_mem_padded rfl]
  simp [le_length_padded, ofDigitChars_padded]

theorem year?_yearText (year : Int) (rest : List Char) :
    year? (yearText year ++ '-' :: rest) = some (year, rest) := by
  unfold yearText
  split_ifs with hfour hneg
  · obtain ⟨c, hc, hdigit⟩ := head?_padded_append 4 year.toNat ('-' :: rest)
    have hminus : c ≠ '-' := by
      rintro rfl
      cases hdigit
    have hplus : c ≠ '+' := by
      rintro rfl
      cases hdigit
    rw [year?, hc, if_neg (by simpa using hminus), if_neg (by simpa using hplus),
      number?_padded (by decide) (by omega) rfl]
    simp [hfour.1]
  · have habs : -(year.natAbs : Int) = year := by omega
    rw [year?, List.cons_append, List.head?_cons, if_pos rfl, List.tail_cons, signed?_padded]
    exact congrArg (fun y => some (y, rest)) habs
  · have habs : (year.natAbs : Int) = year := by omega
    rw [year?, List.cons_append, List.head?_cons, if_neg (by decide), if_pos rfl, List.tail_cons,
      signed?_padded]
    exact congrArg (fun y => some (y, rest)) habs

/-! ## Timestamps -/

/-- The date and the time of day of a timestamp. -/
def moment (t : Timestamp) : Moment where
  date := t.date
  hour := t.secondOfDay / 3600
  minute := t.secondOfDay / 60 % 60
  second := t.secondOfDay % 60
  micro := t.nanos / 1000

/-- A timestamp in microseconds, rounded down. -/
def micros (t : Timestamp) : Int :=
  (t.seconds * 1000000000 + (t.nanos : Nat)) / 1000

theorem secondOfDay_lt (t : Timestamp) : t.secondOfDay < 86400 := by
  unfold secondOfDay
  omega

theorem isValid_moment (t : Timestamp) : t.moment.IsValid := by
  have hs := t.secondOfDay_lt
  have hn := t.nanos.isLt
  exact ⟨(Date.ofDays_spec _).1, by simp only [moment]; omega, by simp only [moment]; omega,
    by simp only [moment]; omega, by simp only [moment]; omega⟩

theorem toMicros_moment (t : Timestamp) : t.moment.toMicros = t.micros := by
  have hdays : t.date.toDays = t.seconds / 86400 := (Date.ofDays_spec _).2
  have hs : (t.secondOfDay : Int) = t.seconds % 86400 := by
    unfold secondOfDay
    omega
  simp only [Moment.toMicros, moment, micros, hdays]
  omega

theorem month_lt (t : Timestamp) : t.date.month < 100 := by
  have := t.isValid_moment.date.month.2
  exact Nat.lt_of_le_of_lt this (by decide)

theorem day_lt (t : Timestamp) : t.date.day < 100 := by
  have hle : Date.monthLength t.date.year t.date.month ≤ 31 := by
    unfold Date.monthLength
    split_ifs <;> decide
  exact Nat.lt_of_le_of_lt (Nat.le_trans t.isValid_moment.date.day.2 hle) (by decide)

/-- The text of a timestamp says its date and its time of day. -/
theorem read?_text (t : Timestamp) : Moment.read? t.text.toList = some t.moment := by
  have hvalid := t.isValid_moment
  have hhour := hvalid.hour
  have hminute := hvalid.minute
  have hsecond := hvalid.second
  have hmicro := hvalid.micro
  simp only [moment] at hhour hminute hsecond hmicro
  simp only [text, String.toList_ofList, List.append_assoc, List.cons_append, Moment.read?,
    year?_yearText, Option.bind_eq_bind, Option.bind_some]
  rw [number?_padded (by decide) t.month_lt rfl, Option.bind_some,
    number?_padded (by decide) t.day_lt rfl, Option.bind_some,
    number?_padded (by decide) (by omega) rfl, Option.bind_some,
    number?_padded (by decide) (by omega) rfl, Option.bind_some,
    number?_padded (by decide) (by omega) rfl, Option.bind_some,
    number?_padded (by decide) (by omega) rfl, Option.bind_some]
  rfl

end Timestamp

end JournalSink
