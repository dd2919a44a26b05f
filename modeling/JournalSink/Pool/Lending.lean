import JournalSink.Pool
import JournalSink.Wire.Encode

/-! # Buffers on loan

Several users hold buffers of one pool at a time, each under a number. Taking a
buffer out under a number that already holds one gives the old one back, after
the new one was taken.
-/

namespace JournalSink.Pool

structure Lending where
  pool : Pool
  held : List (Nat × Buffer) := []
deriving DecidableEq, Repr

namespace Lending

inductive Step
  | checkout (id : Nat)
  | extend (id : Nat) (data : List UInt8)
  | field (id : Nat) (name : String) (value : List UInt8)
  | clear (id : Nat)
  | release (id : Nat)
deriving DecidableEq, Repr

def get? (l : Lending) (id : Nat) : Option Buffer :=
  l.held.lookup id

def remove (l : Lending) (id : Nat) : Lending :=
  { l with held := l.held.filter (·.1 != id) }

def set (l : Lending) (id : Nat) (b : Buffer) : Lending :=
  { l with held := (id, b) :: (l.remove id).held }

theorem get?_remove (l : Lending) (id other : Nat) :
    (l.remove id).get? other = if other = id then none else l.get? other := by
  unfold get? remove
  induction l.held with
  | nil => simp
  | cons h held ih =>
    obtain ⟨k, b⟩ := h
    by_cases hk : k = id
    · subst hk
      rw [List.filter_cons_of_neg (by simp), ih, List.lookup_cons]
      split
      · rfl
      · rw [beq_false_of_ne ‹_›]
    · rw [List.filter_cons_of_pos (by simpa using hk), List.lookup_cons, List.lookup_cons, ih]
      by_cases ho : other = k
      · subst ho
        simp [hk]
      · rw [beq_false_of_ne ho]

theorem get?_set (l : Lending) (id other : Nat) (b : Buffer) :
    (l.set id b).get? other = if other = id then some b else l.get? other := by
  have := get?_remove l id other
  unfold get? at *
  rw [set, List.lookup_cons]
  by_cases h : other = id
  · simp [h]
  · rw [beq_false_of_ne h, this, if_neg h, if_neg h]

/-- Changes the buffer under `id`, if there is one. -/
def update (l : Lending) (id : Nat) (f : Buffer → Buffer) : Lending :=
  match l.get? id with
  | some b => l.set id (f b)
  | none => l

def giveBack (l : Lending) (id : Nat) : Lending :=
  match l.get? id with
  | some b => { l.remove id with pool := l.pool.release b }
  | none => l

def step (l : Lending) : Step → Lending
  | .checkout id =>
    let (b, pool) := l.pool.checkout
    ({ l with pool := pool }.giveBack id).set id b
  | .extend id data => l.update id (· ++ data)
  | .field id name value => l.update id (Wire.putField · name value)
  | .clear id => l.update id Pool.clear
  | .release id => l.giveBack id

end Lending

end JournalSink.Pool
