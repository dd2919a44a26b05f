import Mathlib.Data.List.Induction
import JournalSink.Pool.Lending

/-! # Buffers of one pool are kept apart

A buffer holds what was done to it since its own checkout, whatever was written to it
before or to others meanwhile. The pool never keeps more buffers than its capacity.
-/

namespace JournalSink.Pool

/-- What is done to a buffer while it is on loan. -/
inductive Edit
  | extend (data : List UInt8)
  | field (name : String) (value : List UInt8)
  | clear

def Edit.apply (b : Buffer) : Edit → Buffer
  | extend data => b ++ data
  | field name value => Wire.putField b name value
  | clear => []

namespace Lending

namespace Step

/-- What a step does to the buffer that is held under `id`. -/
def edit? (id : Nat) : Step → Option Edit
  | .extend other data => if id = other then some (.extend data) else none
  | .field other name value => if id = other then some (.field name value) else none
  | .clear other => if id = other then some .clear else none
  | .checkout _ | .release _ => none

/-- The loan under `id` neither begins nor ends. -/
def KeepsLoan (id : Nat) (st : Step) : Prop :=
  st ≠ .checkout id ∧ st ≠ .release id

end Step

def run (l : Lending) (steps : List Step) : Lending :=
  steps.foldl step l

variable {l : Lending} {id : Nat} {b : Buffer} {st : Step} {steps : List Step}

/-! ## What is held -/

theorem get?_giveBack (l : Lending) (id other : Nat) :
    (l.giveBack id).get? other = if other = id then none else l.get? other := by
  unfold giveBack
  split
  · exact get?_remove l id other
  · rename_i h
    split_ifs with ho
    · rw [ho, h]
    · rfl

theorem get?_update (l : Lending) (id other : Nat) (f : Buffer → Buffer) :
    (l.update id f).get? other =
      if other = id then (l.get? other).map f else l.get? other := by
  unfold update
  split
  · rename_i b h
    rw [get?_set]
    split_ifs with ho
    · rw [ho, h, Option.map_some]
    · rfl
  · rename_i h
    split_ifs with ho
    · rw [ho, h, Option.map_none]
    · rfl

theorem get?_checkout (l : Lending) (id other : Nat) :
    (l.step (.checkout id)).get? other = if other = id then some [] else l.get? other := by
  rw [step, get?_set, get?_giveBack, checkout_fst]
  split_ifs <;> rfl

theorem get?_step (h : st.KeepsLoan id) :
    (l.step st).get? id = (l.get? id).map fun b => (st.edit? id).toList.foldl Edit.apply b := by
  cases st with
  | checkout other =>
    have hne : id ≠ other := fun he => h.1 (he ▸ rfl)
    simp [get?_checkout, Step.edit?, hne]
  | release other =>
    have hne : id ≠ other := fun he => h.2 (he ▸ rfl)
    simp [step, get?_giveBack, Step.edit?, hne]
  | extend other | field other | clear other =>
    rw [step, get?_update, Step.edit?]
    split_ifs
    · rfl
    · exact Option.map_id'.symm

/-- A buffer changes by its own edits only, as long as it is on loan. -/
theorem get?_run (h : ∀ st ∈ steps, st.KeepsLoan id) : (l.run steps).get? id =
    (l.get? id).map fun b => (steps.filterMap (Step.edit? id)).foldl Edit.apply b := by
  induction steps generalizing l with
  | nil => exact Option.map_id'.symm
  | cons st steps ih =>
    obtain ⟨hst, hsteps⟩ := List.forall_mem_cons.1 h
    rw [run, List.foldl_cons, ← run, ih hsteps, get?_step hst, Option.map_map,
      List.filterMap_cons]
    cases st.edit? id <;> rfl

/-- A number without a checkout gets no buffer. -/
theorem get?_run_of_none (hl : l.get? id = none) (h : .checkout id ∉ steps) :
    (l.run steps).get? id = none := by
  induction steps generalizing l with
  | nil => exact hl
  | cons st steps ih =>
    obtain ⟨hst, hsteps⟩ := not_or.1 (List.mem_cons.not.1 h)
    refine ih ?_ hsteps
    by_cases hr : st = .release id
    · rw [hr, step, get?_giveBack, if_pos rfl]
    · rw [get?_step ⟨Ne.symm hst, hr⟩, hl, Option.map_none]

/-! ## What is idle -/

theorem pool_giveBack (l : Lending) (id : Nat) :
    (l.giveBack id).pool = ((l.get? id).elim l.pool l.pool.release) := by
  unfold giveBack
  split <;> rename_i h <;> rw [h] <;> rfl

theorem pool_update (l : Lending) (id : Nat) (f : Buffer → Buffer) :
    (l.update id f).pool = l.pool := by
  unfold update
  split <;> rfl

theorem pool_checkout (l : Lending) (id : Nat) : (l.step (.checkout id)).pool =
    (l.get? id).elim l.pool.checkout.2 l.pool.checkout.2.release :=
  pool_giveBack { l with pool := l.pool.checkout.2 } id

/-- A step does nothing to the pool but take buffers out and give them back. -/
theorem pool_step {P : Pool → Prop} (hcheckout : ∀ p, P p → P p.checkout.2)
    (hrelease : ∀ p b, P p → P (p.release b)) (h : P l.pool) (st : Step) :
    P (l.step st).pool := by
  cases st with
  | checkout id =>
    rw [pool_checkout]
    cases l.get? id with
    | none => exact hcheckout _ h
    | some b => exact hrelease _ b (hcheckout _ h)
  | release id =>
    rw [step, pool_giveBack]
    cases l.get? id with
    | none => exact h
    | some b => exact hrelease _ b h
  | extend | field | clear =>
    rw [step, pool_update]
    exact h

/-- The pool has room for what it keeps. -/
def Fits (capacity : Nat) (p : Pool) : Prop :=
  p.capacity = capacity ∧ p.idle ≤ capacity

theorem fits_checkout {capacity : Nat} {p : Pool} (h : Fits capacity p) :
    Fits capacity p.checkout.2 := by
  constructor
  · rw [capacity_checkout, h.1]
  · rw [idle_checkout]
    exact Nat.le_trans (Nat.sub_le ..) h.2

theorem fits_release {capacity : Nat} {p : Pool} (h : Fits capacity p) (b : Buffer) :
    Fits capacity (p.release b) := by
  constructor
  · rw [capacity_release, h.1]
  · rw [idle_release, h.1]
    split_ifs with hlt
    · exact hlt
    · exact h.2

theorem fits_run (capacity : Nat) (steps : List Step) :
    Fits capacity (run { pool := { capacity := capacity } } steps).pool := by
  induction steps using List.reverseRecOn with
  | nil => exact ⟨rfl, Nat.zero_le _⟩
  | append_singleton steps st ih =>
    rw [run, List.foldl_append]
    exact pool_step (fun _ h => fits_checkout h) (fun _ b h => fits_release h b) ih st

/-! ## Runs -/

/-- What holds of the buffers of a pool behind the given steps, and of the next step. -/
structure Isolated (capacity : Nat) (steps : List Step) (l : Lending) : Prop where
  idle_le : l.pool.idle ≤ capacity
  /-- A buffer on loan holds what was done to it since its own checkout. -/
  held : ∀ id before later, steps = before ++ .checkout id :: later →
    (∀ st ∈ later, st.KeepsLoan id) →
    l.get? id = some ((later.filterMap (Step.edit? id)).foldl Edit.apply [])
  released : ∀ id before later, steps = before ++ .release id :: later →
    .checkout id ∉ later → l.get? id = none
  neverTaken : ∀ id, .checkout id ∉ steps → l.get? id = none
  taken : ∀ id, (l.step (.checkout id)).get? id = some []
  /-- A checkout takes one idle buffer out, if there is one. -/
  idle_checkout : ∀ id, l.get? id = none →
    (0 < l.pool.idle → (l.step (.checkout id)).pool.idle + 1 = l.pool.idle) ∧
      (l.pool.idle = 0 → (l.step (.checkout id)).pool.idle = 0)
  /-- A checkout in the place of a buffer on loan also gives that one back. -/
  idle_replace : ∀ id b, l.get? id = some b →
    (0 < l.pool.idle → (l.step (.checkout id)).pool.idle = l.pool.idle) ∧
      (l.pool.idle = 0 → (l.step (.checkout id)).pool.idle = min 1 capacity)
  /-- A release puts one buffer in, if there is room. -/
  idle_release : ∀ id b, l.get? id = some b →
    (l.pool.idle < capacity → (l.step (.release id)).pool.idle = l.pool.idle + 1) ∧
      (l.pool.idle = capacity → (l.step (.release id)).pool.idle = l.pool.idle)
  /-- Edits, and releases of what is not held, leave the pool as it is. -/
  idle_other : ∀ st, (∀ id, st ≠ .checkout id) → (∀ id b, l.get? id = some b → st ≠ .release id) →
    (l.step st).pool.idle = l.pool.idle

/-- Whatever is taken out, written and given back, the buffers of a pool are kept apart. -/
theorem isolated_of_run (capacity : Nat) (steps : List Step) :
    Isolated capacity steps (run { pool := { capacity := capacity } } steps) where
  idle_le := (fits_run capacity steps).2
  held := by
    rintro id before later rfl h
    rw [run, List.foldl_append, List.foldl_cons, ← run, ← run, get?_run h, get?_checkout,
      if_pos rfl, Option.map_some]
  released := by
    rintro id before later rfl h
    rw [run, List.foldl_append, List.foldl_cons, ← run, ← run]
    apply get?_run_of_none _ h
    rw [step, get?_giveBack, if_pos rfl]
  neverTaken := fun id h => get?_run_of_none rfl h
  taken := by
    intro id
    rw [get?_checkout, if_pos rfl]
  idle_checkout := by
    intro id h
    rw [pool_checkout, h, Option.elim_none, Pool.idle_checkout]
    omega
  idle_replace := by
    intro id b h
    rw [pool_checkout, h, Option.elim_some, Pool.idle_release, Pool.idle_checkout,
      capacity_checkout, (fits_run capacity steps).1]
    have hidle := (fits_run capacity steps).2
    split_ifs <;> omega
  idle_release := by
    intro id b h
    rw [step, pool_giveBack, h, Option.elim_some, Pool.idle_release, (fits_run capacity steps).1]
    split_ifs <;> omega
  idle_other := by
    intro st hcheckout hrelease
    cases st with
    | checkout id => cases hcheckout id rfl
    | release id =>
      rw [step, pool_giveBack]
      cases h : get? _ id with
      | none => rfl
      | some b => cases hrelease id b h rfl
    | extend | field | clear => rw [step, pool_update]

end Lending

end JournalSink.Pool
