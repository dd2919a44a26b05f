import Mathlib.Data.List.Induction
import JournalSink.Proofs.Handler.Parts
import JournalSink.Proofs.Payload.Reading
import JournalSink.Proofs.Warner.Taking

/-! # The account of lost records

Every failure that a handler returns is in one notice, or pending. Which of them it
is depends on the interval: an empty one has each failure noticed at once, another
leaves all but the first to the next flush.
-/

namespace JournalSink

namespace Notice

def count : Notice → UInt64
  | dropped count => count
  | droppedInInterval count => count

theorem filter_isDigit_text {before after : String} (hb : before.toList.filter Char.isDigit = [])
    (ha : after.toList.filter Char.isDigit = []) (count : UInt64) :
    (before ++ toString count ++ after).toList.filter Char.isDigit =
      Nat.toDigits 10 count.toNat := by
  have hcount : (toString count).toList = Nat.toDigits 10 count.toNat := Nat.toList_repr
  rw [String.toList_append, String.toList_append, List.filter_append, List.filter_append, hb, ha,
    hcount, List.nil_append, List.append_nil, List.filter_eq_self]
  exact fun c hc => Nat.isDigit_of_mem_toDigits (by decide) (by decide) hc

/-- The number in the text of a notice is its count. -/
theorem ofDigitChars_text (n : Notice) :
    Nat.ofDigitChars 10 (n.text.toList.filter Char.isDigit) 0 = n.count.toNat := by
  have hdigits : n.text.toList.filter Char.isDigit = Nat.toDigits 10 n.count.toNat := by
    cases n with
    | dropped count => exact filter_isDigit_text (by decide) (by decide) count
    | droppedInInterval count => exact filter_isDigit_text (by decide) (by decide) count
  rw [hdigits, Nat.ofDigitChars_ten_toDigits]

end Notice

namespace Handler

open Warner (total)

inductive Step
  | handle (r : LogRecord)
  | flush
  | close
  /-- The interval of the last notice comes to its end. -/
  | elapse

/-- A handler in the course of a run, with what it returned and gave notice of so far. -/
structure Account where
  handler : Handler
  failures : Nat := 0
  notices : List Notice := []

variable {h : Handler} {r : LogRecord} {a b : Account} {st : Step} {e : HandleError}
  {w : Warner} {taken : Option UInt64 × Warner} {failures interval : Nat} {notices : List Notice}
  {elapsed : Prop}

theorem handle_cases (h : Handler) (hw : r.timestamp.isWritable = true) :
    (∃ writer, h.handle r = (.ok (), [], { h with writer := writer })) ∨
      ∃ e writer, h.handle r = (.error e, h.warner.recordDrop.warnIfDue.1.toList.map .dropped,
        { writer := writer, warner := h.warner.recordDrop.warnIfDue.2 }) := by
  have hp := (Payload.ofRecord?_eq r).trans (if_pos hw)
  rw [handle, hp]
  dsimp only
  rcases h.writer.write (Payload.bytes r) with ⟨_ | _, writer⟩
  · exact .inr ⟨_, writer, rfl⟩
  · exact .inl ⟨writer, rfl⟩

theorem handle_of_unwritable (h : Handler) (hw : r.timestamp.isWritable = false) :
    h.handle r = (.error .unwritableTime, [], h) :=
  handle_of_none ((Payload.ofRecord?_eq r).trans (if_neg (Bool.eq_false_iff.1 hw)))

/-! ## The warner's part -/

/-- The failures are those that notice was given of and those that are pending. -/
structure Kept (elapsed : Prop) (failures : Nat) (notices : List Notice) (w : Warner) : Prop where
  failures : failures = total (notices.map Notice.count) + w.pending.toNat
  hasWarned : ¬ elapsed → notices ≠ [] → w.hasWarned = true

namespace Kept

theorem recordDrop (h : Kept elapsed failures notices w) (hf : failures + 1 < UInt64.size) :
    Kept elapsed (failures + 1) notices w.recordDrop := by
  refine ⟨?_, h.hasWarned⟩
  have hle : w.pending.toNat ≤ failures := h.failures ▸ Nat.le_add_left ..
  rw [Warner.pending_recordDrop_of_lt (by omega), h.failures, Nat.add_assoc]

theorem report (h : Kept elapsed failures notices w) (ht : w.Takes taken) {f : UInt64 → Notice}
    (hf : ∀ count, (f count).count = count) :
    Kept elapsed failures (notices ++ taken.1.toList.map f) taken.2 := by
  constructor
  · have hcounts : (taken.1.toList.map f).map Notice.count = taken.1.toList := by
      rw [List.map_map, show Notice.count ∘ f = id from funext hf, List.map_id]
    rw [List.map_append, hcounts, Warner.total_append, Nat.add_assoc, ht.total]
    exact h.failures
  · intro he hn
    rw [ht.hasWarned]
    by_cases hnotices : notices = []
    · cases htaken : taken.1 with
      | none => simp [hnotices, htaken] at hn
      | some count => exact Bool.or_true _
    · rw [h.hasWarned he hnotices, Bool.true_or]

theorem elapse (h : Kept elapsed failures notices w) : Kept True failures notices w.elapse :=
  ⟨h.failures, fun he => (he trivial).elim⟩

end Kept

/-! ## Runs -/

namespace Account

def step (a : Account) : Step → Account
  | .handle r =>
    let (result, notices, h) := a.handler.handle r
    { handler := h
      failures := if result.isOk then a.failures else a.failures + 1
      notices := a.notices ++ notices }
  | .flush =>
    let (_, notices, h) := a.handler.flush
    { a with handler := h, notices := a.notices ++ notices }
  | .close => { a with handler := a.handler.close }
  | .elapse => { a with handler := { a.handler with warner := a.handler.warner.elapse } }

def run (a : Account) (steps : List Step) : Account :=
  steps.foldl step a

def pending (a : Account) : UInt64 :=
  a.handler.warner.pending

/-- Neither side of the account has changed. -/
structure Agrees (b a : Account) : Prop where
  failures : b.failures = a.failures
  notices : b.notices = a.notices
  pending : b.pending = a.pending

theorem step_of_ok (h : (a.handler.handle r).1 = .ok ()) : (a.step (.handle r)).Agrees a := by
  cases hw : r.timestamp.isWritable with
  | true =>
    rcases handle_cases a.handler hw with ⟨writer, hh⟩ | ⟨e, writer, hh⟩
    · simp only [step, hh, List.append_nil]
      exact ⟨rfl, rfl, rfl⟩
    · rw [hh] at h
      cases h
  | false =>
    rw [handle_of_unwritable _ hw] at h
    cases h

/-- What holds of an account at every point of a run. -/
structure Sound (interval : Nat) (elapsed : Prop) (a : Account) : Prop where
  kept : Kept elapsed a.failures a.notices a.handler.warner
  interval_eq : a.handler.warner.interval = interval
  cleared : interval = 0 → a.pending = 0

namespace Sound

theorem start (s : Settings) (scratch : Scratch) (peer : Peer) :
    Sound s.warnInterval False { handler := ofSettings s scratch peer } :=
  ⟨⟨rfl, fun _ h => (h rfl).elim⟩, rfl, fun _ => rfl⟩

theorem handle (h : a.Sound interval elapsed) (hw : r.timestamp.isWritable = true)
    (hf : (a.step (.handle r)).failures < UInt64.size) :
    (a.step (.handle r)).Sound interval elapsed := by
  rcases handle_cases a.handler hw with ⟨writer, hh⟩ | ⟨e, writer, hh⟩
  · simp only [step, hh, List.append_nil]
    exact ⟨h.kept, h.interval_eq, h.cleared⟩
  · simp only [step, hh] at hf ⊢
    have ht := Warner.takes_warnIfDue a.handler.warner.recordDrop
    refine ⟨(h.kept.recordDrop hf).report ht fun _ => rfl, ht.interval.trans h.interval_eq, ?_⟩
    intro hi
    have hwait := Warner.isWaiting_of_interval (w := a.handler.warner.recordDrop)
      (h.interval_eq.trans hi)
    rw [pending, Warner.warnIfDue_of_not_isWaiting hwait, Warner.pending_take]

theorem flush (h : a.Sound interval elapsed) : (a.step .flush).Sound interval elapsed := by
  have ht := Warner.takes_take a.handler.warner
  exact ⟨h.kept.report ht fun _ => rfl, ht.interval.trans h.interval_eq,
    fun _ => Warner.pending_take _⟩

theorem close (h : a.Sound interval elapsed) : (a.step .close).Sound interval elapsed :=
  ⟨h.kept, h.interval_eq, h.cleared⟩

theorem elapse (h : a.Sound interval elapsed) : (a.step .elapse).Sound interval True :=
  ⟨h.kept.elapse, h.interval_eq, h.cleared⟩

theorem step (h : a.Sound interval elapsed)
    (hw : ∀ r, st = .handle r → r.timestamp.isWritable = true)
    (hf : (a.step st).failures < UInt64.size) :
    (a.step st).Sound interval (elapsed ∨ .elapse = st) := by
  cases st with
  | handle r => simpa using h.handle (hw r rfl) hf
  | flush => simpa using h.flush
  | close => simpa using h.close
  | elapse => simpa using h.elapse

end Sound

theorem run_concat (a : Account) (steps : List Step) (st : Step) :
    a.run (steps ++ [st]) = (a.run steps).step st :=
  List.foldl_concat ..

theorem failures_le_step (a : Account) (st : Step) : a.failures ≤ (a.step st).failures := by
  cases st with
  | handle r =>
    simp only [step]
    split_ifs
    · exact le_rfl
    · exact Nat.le_succ _
  | flush | close | elapse => exact le_rfl

theorem Sound.run (h : a.Sound interval False) (steps : List Step)
    (hw : ∀ r, .handle r ∈ steps → r.timestamp.isWritable = true)
    (hf : (a.run steps).failures < UInt64.size) :
    (a.run steps).Sound interval (.elapse ∈ steps) := by
  induction steps using List.reverseRecOn with
  | nil => simpa using! h
  | append_singleton steps st ih =>
    rw [run_concat] at hf ⊢
    have hsteps := ih (fun r hr => hw r (List.mem_append_left _ hr))
      ((failures_le_step _ _).trans_lt hf)
    have hst := hsteps.step (fun r hr => hw r (by simp [hr])) hf
    simpa using hst

/-- How a handler accounts for its failures, at a point of a run and in the step behind it. -/
structure Accounts (interval : Nat) (elapsed : Prop) (a : Account) : Prop where
  failures : a.failures = (a.notices.map fun n => n.count.toNat).sum + a.pending.toNat
  handled : ∀ r, (a.handler.handle r).1 = .ok () → (a.step (.handle r)).Agrees a
  closed : (a.step .close).Agrees a
  /-- With an empty interval each failure is noticed at once. -/
  immediate : interval = 0 → a.handler.flush.2.1 = [] ∧
    ∀ r e, r.timestamp.isWritable = true → (a.handler.handle r).1 = .error e →
      (a.handler.handle r).2.1 = [.dropped 1]
  /-- While an interval lasts, notice is given by flushes only. -/
  waits : interval ≠ 0 → ¬ elapsed → a.notices ≠ [] → ∀ r, (a.handler.handle r).2.1 = []
  flushed : a.pending ≠ 0 →
    a.handler.flush.2.1 = [.droppedInInterval a.pending] ∧ (a.step .flush).pending = 0

theorem Sound.accounts (h : a.Sound interval elapsed) : a.Accounts interval elapsed where
  failures := by
    rw [h.kept.failures, total, List.map_map]
    rfl
  handled := fun r hr => step_of_ok hr
  closed := ⟨rfl, rfl, rfl⟩
  immediate := by
    intro hi
    have hp := h.cleared hi
    constructor
    · rw [Handler.flush, Warner.flush, Warner.take_of_not_pending hp]
      rfl
    · intro r e hw hr
      rcases handle_cases a.handler hw with ⟨writer, hh⟩ | ⟨e, writer, hh⟩
      · rw [hh] at hr
        cases hr
      · rw [hh, Warner.warnIfDue_recordDrop_of_interval (h.interval_eq.trans hi) hp]
        rfl
  waits := by
    intro hi he hn r
    cases hw : r.timestamp.isWritable with
    | true =>
      rcases handle_cases a.handler hw with ⟨writer, hh⟩ | ⟨e, writer, hh⟩
      · rw [hh]
      · have hnone := Warner.warnIfDue_recordDrop_of_hasWarned (h.interval_eq ▸ hi)
          (h.kept.hasWarned he hn)
        rw [hh, hnone]
        rfl
    | false => rw [handle_of_unwritable _ hw]
  flushed := by
    intro hp
    constructor
    · rw [Handler.flush, Warner.flush, Warner.take_of_pending hp]
      rfl
    · exact Warner.pending_take _

/-- At every point of a run of writable records, the failures returned are those in the notices and
those pending. -/
theorem accounts_of_run (s : Settings) (scratch : Scratch) (peer : Peer) (steps : List Step)
    (hw : ∀ r, .handle r ∈ steps → r.timestamp.isWritable = true)
    (hf : (run { handler := ofSettings s scratch peer } steps).failures < UInt64.size) :
    Accounts s.warnInterval (.elapse ∈ steps)
      (run { handler := ofSettings s scratch peer } steps) :=
  ((Sound.start s scratch peer).run steps hw hf).accounts

/-- A socket that cannot be bound and a close lose every record: three before a flush, one behind
it. -/
theorem accounts_of_run_refused :
    let s : Settings := { warnInterval := 60000 }
    let peer : Peer := { binds := [.failure .notFound] }
    let r : LogRecord :=
      { logger := "app", level := .error, message := "lost", timestamp := .epoch }
    let steps : List Step := [.handle r, .handle r, .handle r, .flush, .close, .handle r]
    let a := run { handler := ofSettings s .usable peer } steps
    (∀ r, .handle r ∈ steps → r.timestamp.isWritable = true) ∧ a.failures < UInt64.size ∧
      a.failures = 4 ∧ a.notices = [.dropped 1, .droppedInInterval 2] ∧ a.pending = 1 ∧
      Accounts s.warnInterval (.elapse ∈ steps) a := by
  intro s peer r steps a
  have hw : ∀ r, .handle r ∈ steps → r.timestamp.isWritable = true := by
    simp [steps, r, Timestamp.isWritable, Timestamp.epoch]
  have hfailures : a.failures = 4 := rfl
  have hf : a.failures < UInt64.size := hfailures.trans_lt (by decide)
  exact ⟨hw, hf, hfailures, rfl, rfl, accounts_of_run s .usable peer steps hw hf⟩

end Account

end Handler

end JournalSink
