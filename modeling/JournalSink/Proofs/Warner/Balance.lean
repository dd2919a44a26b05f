import JournalSink.Proofs.Warner.Points

/-! # No drop is lost

What a warner has passed on and what it still holds make up what was recorded. This
is so at every point of a run, also while a receiver is at work that records and
reports drops of its own.
-/

namespace JournalSink.Warner

open Relation (ReflTransGen)
open Point (Move Next)

variable {taken : Option UInt64 × Warner} {p q : Point}

/-- What was passed on and what is pending make up the drops, in the width of the counter. -/
structure Point.Balanced (p : Point) : Prop where
  drops : total p.received + p.warner.pending.toNat ≡ p.drops [MOD UInt64.size]
  positive : 0 ∉ p.received

namespace Point.Balanced

theorem start (interval : Nat) (steps : List Step) :
    Balanced { warner := { interval := interval }, todo := steps } :=
  ⟨rfl, List.not_mem_nil⟩

theorem recordDrop (h : p.Balanced) (todo : List Step) : Balanced
    { p with warner := p.warner.recordDrop, todo := todo, drops := p.drops + 1 } := by
  refine ⟨?_, h.positive⟩
  calc
    total p.received + p.warner.recordDrop.pending.toNat
    _ ≡ total p.received + (p.warner.pending.toNat + 1) [MOD UInt64.size] :=
      (pending_recordDrop _).add_left _
    _ ≡ p.drops + 1 [MOD UInt64.size] := h.drops.add_right 1

theorem pass (h : p.Balanced) (ht : p.warner.Takes taken) (inside rest : List Step) :
    (p.pass taken inside rest).Balanced := by
  constructor
  · rw [Point.pass, total_append, Nat.add_assoc, ht.total]
    exact h.drops
  · exact fun hm => (List.mem_append.1 hm).elim h.positive ht.positive

theorem next (h : p.Balanced) (hn : Next p q) : q.Balanced := by
  cases hn with
  | elapse => exact ⟨h.drops, h.positive⟩
  | move hm =>
    cases hm with
    | drop => exact h.recordDrop _
    | dropped | pending => exact ⟨h.drops, h.positive⟩
    | warn => exact h.pass (takes_warnIfDue _) ..
    | flush => exact h.pass (takes_take _) ..

theorem reaches (h : p.Balanced) (hr : ReflTransGen Next p q) : q.Balanced := by
  induction hr with
  | refl => exact h
  | tail _ hn ih => exact ih.next hn

end Point.Balanced

/-- Nothing that was recorded is lost or passed on twice, whatever the receivers do and whenever an
interval ends. -/
theorem balanced_of_run (interval : Nat) (steps : List Step) :
    let start : Point := { warner := { interval := interval }, todo := steps }
    (∀ p, ReflTransGen Next start p → p.Balanced) ∧
      ReflTransGen Next start
        { warner := (runAll start.warner steps).2
          todo := []
          drops := dropsAll steps (runAll start.warner steps).1
          received := receivedAll (runAll start.warner steps).1 } := by
  intro start
  constructor
  · exact fun p hp => (Point.Balanced.start interval steps).reaches hp
  · have h := passes_runAll start.warner steps [] 0 []
    rw [List.append_nil, Nat.zero_add, List.nil_append] at h
    exact ReflTransGen.mono (fun _ _ => Next.move) _ _ h

/-- Inside a receiver that recorded a drop of its own: one is passed on, one is pending. -/
theorem balanced_of_run_inside :
    let start : Point :=
      { warner := { interval := 0 }, todo := [.drop 1, .warn [.drop 1, .warn []], .flush []] }
    let inside : Point :=
      { warner := { interval := 0, hasWarned := true, dropped := 1 }
        todo := [.drop 0, .warn [], .flush []]
        drops := 2
        received := [1] }
    ReflTransGen Next start inside ∧ inside.Balanced := by
  intro start inside
  have h : ReflTransGen Next start inside :=
    .head (.move (.drop rfl)) (.head (.move (.dropped rfl)) (.head (.move (.warn rfl))
      (.single (.move (.drop rfl)))))
  exact ⟨h, (balanced_of_run 0 _).1 inside h⟩

end JournalSink.Warner
