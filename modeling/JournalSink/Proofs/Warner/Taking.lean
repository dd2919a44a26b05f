import Mathlib.Data.Nat.ModEq
import JournalSink.Warner

/-! # What a report takes

A report takes all that is pending and is never of nothing, so what was passed on
and what is still held stay the same together. The interval begins with a report
and with nothing else.
-/

namespace JournalSink.Warner

variable {w : Warner}

/-- The interval of the last report comes to its end. -/
def elapse (w : Warner) : Warner :=
  { w with hasWarned := false }

/-- What all of these counts are together. -/
def total (counts : List UInt64) : Nat :=
  (counts.map UInt64.toNat).sum

theorem total_append (r s : List UInt64) : total (r ++ s) = total r + total s := by
  rw [total, List.map_append, List.sum_append, total, total]

structure Takes (w : Warner) (taken : Option UInt64 × Warner) : Prop where
  total : total taken.1.toList + taken.2.pending.toNat = w.pending.toNat
  positive : 0 ∉ taken.1.toList
  interval : taken.2.interval = w.interval
  hasWarned : taken.2.hasWarned = (w.hasWarned || taken.1.isSome)

theorem takes_none (w : Warner) : w.Takes (none, w) where
  total := Nat.zero_add _
  positive := List.not_mem_nil
  interval := rfl
  hasWarned := (Bool.or_false _).symm

theorem take_of_pending (h : w.pending ≠ 0) :
    w.take = (some w.pending, { w with dropped := 0, hasWarned := true }) :=
  if_neg h

theorem take_of_not_pending (h : w.pending = 0) : w.take = (none, w) :=
  if_pos h

theorem takes_take (w : Warner) : w.Takes w.take := by
  by_cases h : w.pending = 0
  · rw [take_of_not_pending h]
    exact takes_none w
  · rw [take_of_pending h]
    constructor
    · simp [Warner.total, pending]
    · simpa using Ne.symm h
    · rfl
    · exact (Bool.or_true _).symm

theorem pending_take (w : Warner) : w.take.2.pending = 0 := by
  by_cases h : w.pending = 0
  · rw [take_of_not_pending h, h]
  · rw [take_of_pending h, pending]

theorem warnIfDue_of_isWaiting (h : w.isWaiting = true) : w.warnIfDue = (none, w) :=
  if_pos h

theorem warnIfDue_of_not_isWaiting (h : w.isWaiting = false) : w.warnIfDue = w.take :=
  if_neg (Bool.eq_false_iff.1 h)

theorem takes_warnIfDue (w : Warner) : w.Takes w.warnIfDue := by
  cases h : w.isWaiting with
  | true =>
    rw [warnIfDue_of_isWaiting h]
    exact takes_none w
  | false =>
    rw [warnIfDue_of_not_isWaiting h]
    exact takes_take w

theorem isWaiting_of_interval (h : w.interval = 0) : w.isWaiting = false := by
  simp [isWaiting, h]

theorem isWaiting_of_hasWarned (hw : w.hasWarned = true) (hi : w.interval ≠ 0) :
    w.isWaiting = true := by
  simp [isWaiting, hw, hi]

/-- The counter goes round at its width. -/
theorem pending_recordDrop (w : Warner) :
    w.recordDrop.pending.toNat ≡ w.pending.toNat + 1 [MOD UInt64.size] := by
  rw [recordDrop, pending, UInt64.toNat_add]
  exact Nat.mod_modEq ..

theorem pending_recordDrop_of_lt (h : w.pending.toNat + 1 < UInt64.size) :
    w.recordDrop.pending.toNat = w.pending.toNat + 1 :=
  (pending_recordDrop w).eq_of_lt_of_lt (UInt64.toNat_lt _) h

/-- With an empty interval a single drop is reported at once. -/
theorem warnIfDue_recordDrop_of_interval (hi : w.interval = 0) (hp : w.pending = 0) :
    w.recordDrop.warnIfDue.1 = some 1 := by
  have hone : w.recordDrop.pending = 1 := by
    rw [recordDrop, pending, show w.dropped = 0 from hp, UInt64.zero_add]
  have hwait : w.recordDrop.isWaiting = false := isWaiting_of_interval hi
  rw [warnIfDue_of_not_isWaiting hwait, take_of_pending (hone ▸ by decide), hone]

theorem warnIfDue_recordDrop_of_hasWarned (hi : w.interval ≠ 0) (hw : w.hasWarned = true) :
    w.recordDrop.warnIfDue.1 = none := by
  have hwait : w.recordDrop.isWaiting = true := isWaiting_of_hasWarned hw hi
  rw [warnIfDue_of_isWaiting hwait]

end JournalSink.Warner
