import Mathlib.Logic.Relation
import JournalSink.Proofs.Warner.Taking

/-! # Runs of a warner, point by point

A run is at a point inside a receiver as well as between two steps. What is done
inside comes before what follows, so a point is a warner and one list of steps to
come. An interval may end at any point; a run in which none does is `runAll`.
-/

namespace JournalSink.Warner

open Relation (ReflTransGen)

def Report.inner : Report → List Report
  | .made _ inner _ => inner

mutual

/-- The counts that receivers were given, in order. -/
def Report.received : Report → List UInt64
  | .made called inner _ => called.toList ++ receivedAll inner

def receivedAll : List Report → List UInt64
  | [] => []
  | report :: reports => report.received ++ receivedAll reports

end

mutual

/-- The drops recorded by a step, given its report. -/
def Step.drops : Step → Report → Nat
  | .drop times, _ => times
  | .warn inside, report => dropsAll inside report.inner
  | .flush inside, report => dropsAll inside report.inner
  | .pending, _ => 0

def dropsAll : List Step → List Report → Nat
  | step :: steps, report :: reports => step.drops report + dropsAll steps reports
  | _, _ => 0

end

/-- What a receiver does, if it is given a report. -/
def reaction (taken : Option UInt64 × Warner) (inside : List Step) : List Step :=
  if taken.1.isSome then inside else []

structure Point where
  warner : Warner
  todo : List Step
  /-- The number of drops recorded so far. -/
  drops : Nat := 0
  /-- The counts passed on so far, oldest first. -/
  received : List UInt64 := []

namespace Point

/-- Passes a report on, if one was made. Its receiver comes first from there on. -/
def pass (p : Point) (taken : Option UInt64 × Warner) (inside rest : List Step) : Point where
  warner := taken.2
  todo := reaction taken inside ++ rest
  drops := p.drops
  received := p.received ++ taken.1.toList

inductive Move : Point → Point → Prop
  | drop {p : Point} {n : Nat} {rest : List Step} : p.todo = .drop (n + 1) :: rest →
      Move p { p with
        warner := p.warner.recordDrop, todo := .drop n :: rest, drops := p.drops + 1 }
  | dropped {p : Point} {rest : List Step} : p.todo = .drop 0 :: rest →
      Move p { p with todo := rest }
  | warn {p : Point} {inside rest : List Step} : p.todo = .warn inside :: rest →
      Move p (p.pass p.warner.warnIfDue inside rest)
  | flush {p : Point} {inside rest : List Step} : p.todo = .flush inside :: rest →
      Move p (p.pass p.warner.flush inside rest)
  | pending {p : Point} {rest : List Step} : p.todo = .pending :: rest →
      Move p { p with todo := rest }

/-- A move, or the end of an interval. -/
inductive Next : Point → Point → Prop
  | move {p q : Point} : Move p q → Next p q
  | elapse (p : Point) : Next p { p with warner := p.warner.elapse }

end Point

open Point (Move)

/-- Steps are gone through move by move, whatever follows them. -/
def Passes (w : Warner) (steps : List Step) (w' : Warner) (drops : Nat)
    (received : List UInt64) : Prop :=
  ∀ rest d r, ReflTransGen Move ⟨w, steps ++ rest, d, r⟩ ⟨w', rest, d + drops, r ++ received⟩

variable {w w' w'' : Warner} {st : Step} {steps steps' inside : List Step} {n n' : Nat}
  {received received' : List UInt64} {taken : Option UInt64 × Warner}

theorem repeat_recordDrop (w : Warner) (n : Nat) :
    n.repeat recordDrop w.recordDrop = (n + 1).repeat recordDrop w := by
  induction n with
  | zero => rfl
  | succ n ih => exact congrArg recordDrop ih

namespace Passes

theorem nil (w : Warner) : Passes w [] w 0 [] := by
  intro rest d r
  rw [List.append_nil]
  exact .refl

theorem append (h : Passes w steps w' n received) (h' : Passes w' steps' w'' n' received') :
    Passes w (steps ++ steps') w'' (n + n') (received ++ received') := by
  intro rest d r
  rw [List.append_assoc, ← Nat.add_assoc, ← List.append_assoc r]
  exact (h _ d r).trans (h' rest _ _)

theorem pending (w : Warner) : Passes w [.pending] w 0 [] := by
  intro rest d r
  rw [List.append_nil]
  exact .single (.pending rfl)

theorem drop (w : Warner) (times : Nat) :
    Passes w [.drop times] (times.repeat recordDrop w) times [] := by
  intro rest d r
  rw [List.append_nil]
  induction times generalizing w d with
  | zero => exact .single (.dropped rfl)
  | succ n ih =>
    have hnext := ih w.recordDrop (d + 1)
    rw [repeat_recordDrop, Nat.add_right_comm] at hnext
    exact .head (.drop rfl) hnext

end Passes

theorem runAll_nil (w : Warner) : runAll w [] = ([], w) := by
  rw [runAll.eq_def]

theorem runAll_cons (w : Warner) (st : Step) (steps : List Step) :
    runAll w (st :: steps) =
      ((run w st).1 :: (runAll (run w st).2 steps).1, (runAll (run w st).2 steps).2) := by
  rw [runAll.eq_def]

theorem receive_eq (taken : Option UInt64 × Warner) (inside : List Step) :
    receive taken inside =
      (.made taken.1 (runAll taken.2 (reaction taken inside)).1
        (runAll taken.2 (reaction taken inside)).2.pending,
      (runAll taken.2 (reaction taken inside)).2) := by
  rcases taken with ⟨_ | count, w⟩
  · rw [receive, reaction, if_neg (by simp), runAll_nil]
  · rw [receive]
    rfl

/-- A step that passes a report on is gone through with the steps of its receiver. -/
theorem Passes.receive (ht : ∀ rest d r, Move ⟨w, st :: rest, d, r⟩
      (Point.pass ⟨w, st :: rest, d, r⟩ taken inside rest))
    (h : Passes taken.2 (reaction taken inside) (receive taken inside).2
      (dropsAll inside (receive taken inside).1.inner)
      (receivedAll (receive taken inside).1.inner)) :
    Passes w [st] (receive taken inside).2 (dropsAll inside (receive taken inside).1.inner)
      (receive taken inside).1.received := by
  rw [receive_eq] at h ⊢
  intro rest d r
  have hnext := h rest d (r ++ taken.1.toList)
  rw [List.append_assoc] at hnext
  exact .head (ht rest d r) hnext

/-- What is computed step after step is gone through move by move. -/
theorem passes_runAll (w : Warner) (steps : List Step) :
    Passes w steps (runAll w steps).2 (dropsAll steps (runAll w steps).1)
      (receivedAll (runAll w steps).1) := by
  -- The motives are those of one step, of a receiver, and of several steps.
  refine runAll.induct
    (fun w st => Passes w [st] (run w st).2 (st.drops (run w st).1) (run w st).1.received)
    (fun taken inside => Passes taken.2 (reaction taken inside)
      (receive taken inside).2 (dropsAll inside (receive taken inside).1.inner)
      (receivedAll (receive taken inside).1.inner))
    (fun w steps => Passes w steps (runAll w steps).2 (dropsAll steps (runAll w steps).1)
      (receivedAll (runAll w steps).1)) ?_ ?_ ?_ ?_ ?_ ?_ ?_ ?_ w steps
  · intro w times
    rw [run]
    exact .drop w times
  · intro w inside ih
    rw [run, Step.drops]
    exact ih.receive fun _ _ _ => .warn rfl
  · intro w inside ih
    rw [run, Step.drops]
    exact ih.receive fun _ _ _ => .flush rfl
  · intro w
    rw [run]
    exact .pending w
  · intro inside w
    rw [receive]
    cases inside <;> exact .nil w
  · intro inside count w inner w' hrun ih
    rw [receive]
    exact ih
  · intro w
    rw [runAll_nil]
    exact .nil w
  · intro w st steps report w' hrun reports w'' hrun' ih ih'
    rw [runAll_cons, dropsAll, receivedAll]
    rw [hrun] at ih ⊢
    exact ih.append ih'

end JournalSink.Warner
