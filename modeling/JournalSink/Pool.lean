/-! # Buffer pools

A pool keeps up to `capacity` buffers that are not in use. They come out in the
order they went in; a buffer that finds the pool full is let go. A buffer keeps
its old bytes while it waits and is emptied when it is taken out.
-/

namespace JournalSink

abbrev Buffer : Type :=
  List UInt8

structure Pool where
  capacity : Nat
  waiting : List Buffer := []
deriving DecidableEq, Repr

namespace Pool

def defaultCapacity : Nat :=
  16

def idle (p : Pool) : Nat :=
  p.waiting.length

/-- Empties a buffer for its next user. -/
def clear (_ : Buffer) : Buffer :=
  []

def checkout (p : Pool) : Buffer × Pool :=
  match p.waiting with
  | [] => ([], p)
  | b :: rest => (clear b, { p with waiting := rest })

def release (p : Pool) (b : Buffer) : Pool :=
  if p.idle < p.capacity then { p with waiting := p.waiting ++ [b] } else p

theorem checkout_fst (p : Pool) : p.checkout.1 = [] := by
  unfold checkout
  split <;> rfl

theorem capacity_checkout (p : Pool) : p.checkout.2.capacity = p.capacity := by
  unfold checkout
  split <;> rfl

theorem capacity_release (p : Pool) (b : Buffer) : (p.release b).capacity = p.capacity := by
  unfold release
  split <;> rfl

theorem idle_checkout (p : Pool) : p.checkout.2.idle = p.idle - 1 := by
  unfold checkout
  split <;> simp_all [idle]

theorem idle_release (p : Pool) (b : Buffer) :
    (p.release b).idle = if p.idle < p.capacity then p.idle + 1 else p.idle := by
  unfold release
  split <;> simp [idle]

end Pool

end JournalSink
