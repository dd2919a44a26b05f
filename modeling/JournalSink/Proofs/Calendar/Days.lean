import Mathlib.Data.Int.Init
import Mathlib.Order.Basic
import Mathlib.Tactic.IntervalCases
import JournalSink.Calendar

/-! # Days of the calendar

By the leap years and the lengths of the months alone, a date stands for a number of
days from 1 January 1970. The date computed for a day is a date of the calendar and
stands for that day; of two dates the one that comes first stands for fewer days.
-/

namespace JournalSink.Date

variable {year year' : Int} {month month' day n dayOfYear dayOfEra : Nat} {d d' : Date}

/-- Every fourth year, but of those that end a century only every fourth. -/
def IsLeap (year : Int) : Prop :=
  4 ∣ year ∧ (¬ 100 ∣ year ∨ 400 ∣ year)

instance (year : Int) : Decidable (IsLeap year) :=
  inferInstanceAs (Decidable (_ ∧ _))

def yearLength (year : Int) : Nat :=
  if IsLeap year then 366 else 365

def monthLength (year : Int) (month : Nat) : Nat :=
  if month = 2 then if IsLeap year then 29 else 28
  else if month ∈ [4, 6, 9, 11] then 30 else 31

/-- The days of `n` years, from the given year on. -/
def daysOfYears (year : Int) (n : Nat) : Nat :=
  ((List.range n).map fun k : Nat => yearLength (year + k)).sum

/-- The days from 1 January 1970 to the first day of a year. -/
def yearStart (year : Int) : Int :=
  daysOfYears 1970 (year - 1970).toNat - daysOfYears year (1970 - year).toNat

/-- The days of a year before a month. -/
def monthStart (year : Int) (month : Nat) : Nat :=
  ((List.range' 1 (month - 1)).map (monthLength year)).sum

structure IsValid (d : Date) : Prop where
  month : 1 ≤ d.month ∧ d.month ≤ 12
  day : 1 ≤ d.day ∧ d.day ≤ monthLength d.year d.month

/-- The days from 1 January 1970 to a date. -/
def toDays (d : Date) : Int :=
  yearStart d.year + monthStart d.year d.month + (d.day - 1)

/-! ## Years -/

theorem daysOfYears_succ (year : Int) (n : Nat) :
    daysOfYears year (n + 1) = daysOfYears year n + yearLength (year + n) := by
  simp [daysOfYears, List.range_succ]

theorem daysOfYears_succ_left (year : Int) (n : Nat) :
    daysOfYears year (n + 1) = yearLength year + daysOfYears (year + 1) n := by
  have hyear (k : Nat) : year + (k + 1 : Nat) = year + 1 + k := by omega
  simp only [daysOfYears, List.range_succ_eq_map, List.map_cons, List.map_map, List.sum_cons,
    Function.comp_def, hyear]
  simp

theorem yearStart_succ (year : Int) : yearStart (year + 1) = yearStart year + yearLength year := by
  rcases lt_or_ge year 1970 with h | h
  · obtain ⟨n, hn⟩ : ∃ n, (1970 - year).toNat = n + 1 := ⟨(1969 - year).toNat, by omega⟩
    have hnone : (year - 1970).toNat = 0 ∧ (year + 1 - 1970).toNat = 0 := by omega
    have hfirst : (1970 - (year + 1)).toNat = n := by omega
    rw [yearStart, yearStart, hnone.1, hnone.2, hfirst, hn, daysOfYears_succ_left]
    omega
  · obtain ⟨n, rfl⟩ : ∃ n : Nat, year = 1970 + n := ⟨(year - 1970).toNat, by omega⟩
    have hnone : (1970 - (1970 + n : Int)).toNat = 0 ∧ (1970 - (1970 + n + 1 : Int)).toNat = 0 := by
      omega
    have hlast : (1970 + n + 1 - 1970 : Int).toNat = n + 1 ∧ (1970 + n - 1970 : Int).toNat = n := by
      omega
    rw [yearStart, yearStart, hnone.1, hnone.2, hlast.1, hlast.2, daysOfYears_succ, Nat.cast_add,
      add_sub_right_comm]
    rfl

/-- Leap days counted in closed form. -/
theorem yearStart_eq (year : Int) : yearStart year =
    365 * (year - 1970) + ((year - 1) / 4 - (year - 1) / 100 + (year - 1) / 400) - 477 := by
  have hstep (y : Int) : (yearLength y : Int) =
      365 + ((y / 4 - y / 100 + y / 400) - ((y - 1) / 4 - (y - 1) / 100 + (y - 1) / 400)) := by
    by_cases h : IsLeap y
    · rw [yearLength, if_pos h]
      unfold IsLeap at h
      omega
    · rw [yearLength, if_neg h]
      unfold IsLeap at h
      omega
  induction year using Int.inductionOn' (b := 1970) with
  | zero => rfl
  | succ y _ ih =>
    have := hstep y
    rw [yearStart_succ, ih, add_sub_cancel_right]
    omega
  | pred y _ ih =>
    have := hstep (y - 1)
    have hsucc := yearStart_succ (y - 1)
    rw [sub_add_cancel, ih] at hsucc
    omega

theorem yearStart_add_le (h : year < year') :
    yearStart year + yearLength year ≤ yearStart year' := by
  rw [← yearStart_succ, yearStart_eq, yearStart_eq]
  omega

/-! ## Months -/

theorem monthStart_succ (h : 1 ≤ month) :
    monthStart year (month + 1) = monthStart year month + monthLength year month := by
  obtain ⟨m, rfl⟩ := Nat.exists_eq_add_of_le h
  simp [monthStart, Nat.add_comm 1 m, List.range'_concat]

theorem monthStart_add_le (year : Int) (h : 1 ≤ month) (hlt : month < month') :
    monthStart year month + monthLength year month ≤ monthStart year month' := by
  rw [← monthStart_succ h]
  induction hlt with
  | refl => exact Nat.le_refl _
  | @step m hle ih =>
    rw [monthStart_succ (Nat.le_trans (Nat.le_succ_of_le h) hle)]
    exact Nat.le_add_right_of_le ih

theorem monthStart_thirteen (year : Int) : monthStart year 13 = yearLength year := by
  by_cases h : IsLeap year <;> simp [monthStart, List.range', monthLength, yearLength, h]

/-- From March on the months have, in turn, 153 days in every five. -/
theorem monthStart_of_march (year : Int) (h : 3 ≤ month) (h' : month ≤ 12) :
    monthStart year month + 306 = yearLength year + (153 * (month - 3) + 2) / 5 := by
  interval_cases month <;> by_cases h : IsLeap year <;>
    simp [monthStart, List.range', monthLength, yearLength, h]

/-! ## The order of dates -/

/-- The year counts before the month, and the month before the day. -/
def Precedes (d d' : Date) : Prop :=
  d.year < d'.year ∨ d.year = d'.year ∧ (d.month < d'.month ∨ d.month = d'.month ∧ d.day < d'.day)

theorem Precedes.toDays_lt (h : d.Precedes d') (hd : d.IsValid) (hd' : d'.IsValid) :
    d.toDays < d'.toDays := by
  have hday := hd.day
  have hday' := hd'.day
  have hmonth := monthStart_add_le d.year hd.month.1 (Nat.lt_succ_of_le hd.month.2)
  rw [monthStart_thirteen] at hmonth
  unfold toDays
  rcases h with h | ⟨hyear, h | ⟨hm, h⟩⟩
  · have hyear := yearStart_add_le h
    omega
  · have hmonth' := monthStart_add_le d.year hd.month.1 h
    rw [← hyear]
    omega
  · rw [← hyear, ← hm]
    omega

theorem precedes_of_toDays_lt (h : d.toDays < d'.toDays) (hd : d.IsValid) (hd' : d'.IsValid) :
    d.Precedes d' := by
  by_contra hn
  have hcases : d' = d ∨ d'.Precedes d := by
    rw [Date.mk.injEq]
    unfold Precedes at hn ⊢
    omega
  rcases hcases with rfl | hlt
  · exact lt_irrefl _ h
  · exact lt_asymm h (hlt.toDays_lt hd' hd)

/-! ## Years that start in March -/

/-- A day of the year that starts in March. -/
def ofMarch (year : Int) (dayOfYear : Nat) : Date :=
  let m := (5 * dayOfYear + 2) / 153
  let month := if m < 10 then m + 3 else m - 9
  { year := year + (if month ≤ 2 then 1 else 0)
    month := month
    day := dayOfYear - (153 * m + 2) / 5 + 1 }

theorem monthLength_of_march (year : Int) {m : Nat} (h : m < 10) :
    (153 * m + 2) / 5 + monthLength year (m + 3) = (153 * (m + 1) + 2) / 5 := by
  interval_cases m <;> rfl

/-- The last of the days is there if it comes before a leap year's March. -/
theorem ofMarch_spec (h : dayOfYear < yearLength (year + 1)) :
    (ofMarch year dayOfYear).IsValid ∧
      (ofMarch year dayOfYear).toDays = yearStart (year + 1) + dayOfYear - 306 := by
  have hle : yearLength (year + 1) ≤ 366 := by
    unfold yearLength
    split_ifs <;> decide
  generalize hm : (5 * dayOfYear + 2) / 153 = m
  rcases Nat.lt_or_ge m 10 with hlt | hge
  · -- March to December, in the same year
    have hdate : ofMarch year dayOfYear = ⟨year, m + 3, dayOfYear - (153 * m + 2) / 5 + 1⟩ := by
      simp [ofMarch, hm, hlt]
    have hlength := monthLength_of_march year hlt
    have hstart := monthStart_of_march year (show 3 ≤ m + 3 by omega) (by omega)
    rw [hdate]
    refine ⟨⟨⟨by simp, by dsimp only; omega⟩, ⟨by simp, by dsimp only; omega⟩⟩, ?_⟩
    rw [toDays, yearStart_succ]
    dsimp only
    rw [Nat.add_sub_cancel] at hstart
    omega
  · -- January and February, in the next year
    have hdate : ofMarch year dayOfYear = ⟨year + 1, m - 9, dayOfYear - (153 * m + 2) / 5 + 1⟩ := by
      simp [ofMarch, hm, show ¬ m < 10 by omega, show m ≤ 11 by omega]
    have hm' : m = 10 ∨ m = 11 := by omega
    rw [hdate]
    rcases hm' with rfl | rfl
    · refine ⟨⟨⟨by simp, by simp⟩, ⟨by simp, ?_⟩⟩, ?_⟩
      · simp [monthLength]
        omega
      · have hstart : monthStart (year + 1) 1 = 0 := rfl
        simp only [toDays, hstart]
        omega
    · refine ⟨⟨⟨by simp, by simp⟩, ⟨by simp, ?_⟩⟩, ?_⟩
      · unfold yearLength at h
        simp only [monthLength]
        split_ifs at h ⊢ <;> omega
      · have hstart : monthStart (year + 1) 2 = 31 := rfl
        simp only [toDays, hstart]
        omega

/-! ## Eras -/

/-- The years of an era, counted from its day. -/
def yearOfEra (dayOfEra : Nat) : Nat :=
  (dayOfEra - dayOfEra / 1460 + dayOfEra / 36524 - dayOfEra / 146096) / 365

/-- A day in the centuries of an era, in their four-year cycles. -/
theorem yearOfEra_eq {century cycle day : Nat} (hc : century < 4) (hy : cycle < 25)
    (hd : day < 1461) (hlt : 1461 * cycle + day < 36524) :
    yearOfEra (36524 * century + (1461 * cycle + day)) =
      100 * century + 4 * cycle + min (day / 365) 3 := by
  generalize he : 36524 * century + (1461 * cycle + day) = e
  have hlast : e / 146096 = 0 := by omega
  have hcentury : e / 36524 = century := by omega
  have hfour : e / 1460 =
      25 * century + cycle + if 1460 ≤ cycle + day + 24 * century then 1 else 0 := by
    split_ifs <;> omega
  rw [yearOfEra, hlast, hcentury, hfour]
  split_ifs <;> omega

/-- The days of an era before a year. -/
def yearStartOfEra (year : Nat) : Nat :=
  365 * year + year / 4 - year / 100

theorem yearOfEra_spec (era : Int) (h : dayOfEra < 146097) :
    yearOfEra dayOfEra < 400 ∧ yearStartOfEra (yearOfEra dayOfEra) ≤ dayOfEra ∧
      dayOfEra - yearStartOfEra (yearOfEra dayOfEra) <
        yearLength (yearOfEra dayOfEra + era * 400 + 1) := by
  have hlength (y : Int) : yearLength y = if IsLeap y then 366 else 365 := rfl
  rcases Nat.lt_or_ge dayOfEra 146096 with hlt | hge
  · obtain ⟨century, cycle, day, hc, hy, hd, hrest, rfl⟩ : ∃ century cycle day, century < 4 ∧
        cycle < 25 ∧ day < 1461 ∧ 1461 * cycle + day < 36524 ∧
        36524 * century + (1461 * cycle + day) = dayOfEra :=
      ⟨dayOfEra / 36524, dayOfEra % 36524 / 1461, dayOfEra % 36524 % 1461, by omega⟩
    rw [yearOfEra_eq hc hy hd hrest]
    generalize hk : min (day / 365) 3 = k
    have hstart : yearStartOfEra (100 * century + 4 * cycle + k) =
        36524 * century + 1461 * cycle + 365 * k := by
      have hfour : (100 * century + 4 * cycle + k) / 4 = 25 * century + cycle := by omega
      have hcentury : (100 * century + 4 * cycle + k) / 100 = century := by omega
      rw [yearStartOfEra, hfour, hcentury]
      omega
    rw [hstart, hlength]
    refine ⟨by omega, by omega, ?_⟩
    split_ifs with hleap
    · omega
    · unfold IsLeap at hleap
      omega
  · obtain rfl : dayOfEra = 146096 := by omega
    have hleap : IsLeap (399 + era * 400 + 1) := by
      unfold IsLeap
      omega
    rw [show yearOfEra 146096 = 399 from rfl, hlength]
    refine ⟨by decide, by decide, ?_⟩
    exact (if_pos hleap).symm ▸ by decide

/-! ## The date computed -/

theorem ofDays_eq (days : Int) :
    let era := (days + epochOffset) / 146097
    let dayOfEra := ((days + epochOffset) % 146097).toNat
    ofDays days = ofMarch (yearOfEra dayOfEra + era * 400)
      (dayOfEra - yearStartOfEra (yearOfEra dayOfEra)) :=
  rfl

/-- The date computed for a day is a date of the calendar, and stands for that day. -/
theorem ofDays_spec (days : Int) : (ofDays days).IsValid ∧ (ofDays days).toDays = days := by
  rw [ofDays_eq]
  generalize hera : (days + epochOffset) / 146097 = era
  generalize hday : ((days + epochOffset) % 146097).toNat = dayOfEra
  obtain ⟨hlt, hle, hlength⟩ := yearOfEra_spec era (show dayOfEra < 146097 by omega)
  obtain ⟨hvalid, hdays⟩ := ofMarch_spec hlength
  refine ⟨hvalid, ?_⟩
  generalize yearOfEra dayOfEra = y at hlt hle hdays ⊢
  -- An era is made of whole cycles of four years, and of whole centuries.
  have hfour : ((y : Int) + era * 400) / 4 = y / 4 + era * 100 := by omega
  have hcentury : ((y : Int) + era * 400) / 100 = y / 100 + era * 4 := by omega
  have hera' : ((y : Int) + era * 400) / 400 = era := by omega
  rw [hdays, yearStart_eq, add_sub_cancel_right, hfour, hcentury, hera']
  unfold yearStartOfEra at hle ⊢
  unfold epochOffset at hera hday
  omega

end JournalSink.Date
