import JournalSink.Proofs.Warner.Points

/-! # The limit on warnings

A flush reports whenever something is pending. A warning besides has to be the first
report of its interval, and every report counts as one, also that of a receiver which
is still at work. What is not reported stays pending, and uses nothing up.
-/

namespace JournalSink.Warner

open Relation (ReflTransGen)
open Point (Move Next)

variable {w : Warner} {taken : Option UInt64 × Warner} {inside rest : List Step} {p q : Point}
  {interval : Nat} {earlier : List UInt64}

namespace Point

/-- The point behind a report of all that is pending, where its receiver is to begin. -/
def callBack (p : Point) (inside rest : List Step) : Point where
  warner := { p.warner with dropped := 0, hasWarned := true }
  todo := inside ++ rest
  drops := p.drops
  received := p.received ++ [p.warner.pending]

/-- The point behind a step that did nothing. -/
def skip (p : Point) (rest : List Step) : Point :=
  { p with todo := rest }

theorem pass_none (p : Point) (inside rest : List Step) :
    p.pass (none, p.warner) inside rest = p.skip rest := by
  simp [pass, reaction, skip]

theorem pass_take (p : Point) (inside rest : List Step) : p.pass p.warner.take inside rest =
    if p.warner.pending ≠ 0 then p.callBack inside rest else p.skip rest := by
  split_ifs with h
  · rw [take_of_pending h]
    rfl
  · rw [take_of_not_pending (not_not.1 h), pass_none]

/-! ## The step that is taken -/

theorem move_flush_iff (h : p.todo = .flush inside :: rest) :
    Move p q ↔ q = p.pass p.warner.flush inside rest := by
  constructor
  · intro hm
    cases hm with
    | flush h' =>
      cases h.symm.trans h'
      rfl
    | drop h' | dropped h' | warn h' | pending h' => cases h.symm.trans h'
  · rintro rfl
    exact .flush h

theorem move_warn_iff (h : p.todo = .warn inside :: rest) :
    Move p q ↔ q = p.pass p.warner.warnIfDue inside rest := by
  constructor
  · intro hm
    cases hm with
    | warn h' =>
      cases h.symm.trans h'
      rfl
    | drop h' | dropped h' | flush h' | pending h' => cases h.symm.trans h'
  · rintro rfl
    exact .warn h

/-! ## The reports of an interval -/

/-- A point in an interval that began when `earlier` had been passed on: a report is waited for
exactly if one was made since. -/
structure Within (interval : Nat) (earlier : List UInt64) (p : Point) : Prop where
  interval_eq : p.warner.interval = interval
  reports : ∃ made, p.received = earlier ++ made ∧ (p.warner.hasWarned = true ↔ made ≠ [])

namespace Within

theorem start (interval : Nat) (steps : List Step) :
    Within interval [] { warner := { interval := interval }, todo := steps } :=
  ⟨rfl, [], rfl, by simp⟩

theorem elapse (h : p.Within interval earlier) :
    Within interval p.received { p with warner := p.warner.elapse } :=
  ⟨h.interval_eq, [], (List.append_nil _).symm, by simp [Warner.elapse]⟩

theorem pass (h : p.Within interval earlier) (ht : p.warner.Takes taken)
    (inside rest : List Step) : (p.pass taken inside rest).Within interval earlier := by
  obtain ⟨made, hmade, hw⟩ := h.reports
  refine ⟨ht.interval.trans h.interval_eq, made ++ taken.1.toList, ?_, ?_⟩
  · rw [Point.pass, hmade, List.append_assoc]
  · rw [Point.pass, ht.hasWarned, Bool.or_eq_true, hw]
    cases taken.1 <;> simp

theorem move (h : p.Within interval earlier) (hm : Move p q) : q.Within interval earlier := by
  cases hm with
  | drop | dropped | pending => exact ⟨h.interval_eq, h.reports⟩
  | warn => exact h.pass (takes_warnIfDue _) ..
  | flush => exact h.pass (takes_take _) ..

theorem moves (h : p.Within interval earlier) (hr : ReflTransGen Move p q) :
    q.Within interval earlier := by
  induction hr with
  | refl => exact h
  | tail _ hm ih => exact ih.move hm

theorem next (h : p.Within interval earlier) (hn : Next p q) :
    ∃ earlier, q.Within interval earlier := by
  cases hn with
  | move hm => exact ⟨_, h.move hm⟩
  | elapse => exact ⟨_, h.elapse⟩

theorem reaches (h : p.Within interval earlier) (hr : ReflTransGen Next p q) :
    ∃ earlier, q.Within interval earlier := by
  induction hr with
  | refl => exact ⟨_, h⟩
  | tail _ hn ih =>
    obtain ⟨_, ih⟩ := ih
    exact ih.next hn

theorem isWaiting_iff (h : p.Within interval earlier) :
    p.warner.isWaiting = true ↔ ¬ (interval = 0 ∨ p.received = earlier) := by
  obtain ⟨made, hmade, hw⟩ := h.reports
  rw [isWaiting, Bool.and_eq_true, hw, h.interval_eq, hmade]
  simp [and_comm]

end Within

/-- What a flush and a warning do at a point of an interval, `earlier` being what was passed on
before it began. -/
structure Limited (interval : Nat) (earlier : List UInt64) (p : Point) : Prop where
  flush : ∀ inside rest q, p.todo = .flush inside :: rest →
    (Move p q ↔ q = if p.warner.pending ≠ 0 then p.callBack inside rest else p.skip rest)
  warn : ∀ inside rest q, p.todo = .warn inside :: rest →
    (Move p q ↔ q = if p.warner.pending ≠ 0 ∧ (interval = 0 ∨ p.received = earlier)
      then p.callBack inside rest else p.skip rest)

theorem Within.limited (h : p.Within interval earlier) : p.Limited interval earlier where
  flush := by
    intro inside rest q hp
    rw [move_flush_iff hp, Warner.flush, pass_take]
  warn := by
    intro inside rest q hp
    rw [move_warn_iff hp]
    by_cases hdue : interval = 0 ∨ p.received = earlier
    · have hwait : p.warner.isWaiting = false :=
        Bool.eq_false_iff.2 fun hw => h.isWaiting_iff.1 hw hdue
      rw [warnIfDue_of_not_isWaiting hwait, pass_take]
      simp only [and_iff_left hdue]
    · rw [warnIfDue_of_isWaiting (h.isWaiting_iff.2 hdue), pass_none, if_neg (hdue ·.2)]

end Point

/-- At every point of a run, inside receivers too, a flush reports if something is pending, and a
warning if besides no report was made since the interval began, unless the interval is empty. -/
theorem limited_of_run (interval : Nat) (steps : List Step) :
    let start : Point := { warner := { interval := interval }, todo := steps }
    (∀ p, ReflTransGen Move start p → p.Limited interval []) ∧
      (∀ p q, ReflTransGen Next start p →
        ReflTransGen Move { p with warner := p.warner.elapse } q →
          q.Limited interval p.received) ∧
      ReflTransGen Move start
        { warner := (runAll start.warner steps).2
          todo := []
          drops := dropsAll steps (runAll start.warner steps).1
          received := receivedAll (runAll start.warner steps).1 } := by
  intro start
  have hstart : start.Within interval [] := .start interval steps
  refine ⟨fun p hp => (hstart.moves hp).limited, ?_, ?_⟩
  · intro p q hp hq
    obtain ⟨_, hwithin⟩ := hstart.reaches hp
    exact (hwithin.elapse.moves hq).limited
  · have h := passes_runAll start.warner steps [] 0 []
    rwa [List.append_nil, Nat.zero_add, List.nil_append] at h

end JournalSink.Warner
