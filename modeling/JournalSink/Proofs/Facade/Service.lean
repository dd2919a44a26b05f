import JournalSink.Facade
import JournalSink.Proofs.Handler.Parts
import JournalSink.Proofs.Payload.Reading
import JournalSink.Proofs.Writer.Submission

/-! # The service of a facade

The notices of a failing handler come back as calls that its own bridge refuses, so
each call is one write at most and ends there. From the first installation on, a
facade serves that one handler, whatever is installed, called or flushed.
-/

namespace JournalSink

/-- The verbosity is the greatest that is let through, or stands before it. -/
def Ceiling.Reaches (ceiling : Ceiling) (v : Verbosity) : Prop :=
  ∃ most, ceiling = .upTo most ∧
    (v = most ∨ [v, most].Sublist [.error, .warn, .info, .debug, .trace])

theorem Ceiling.admits_iff {ceiling : Ceiling} {v : Verbosity} :
    ceiling.admits v = true ↔ ceiling.Reaches v := by
  cases ceiling with
  | off => simp [admits, Reaches]
  | upTo most =>
    have h : v.rank ≤ most.rank ↔
        v = most ∨ [v, most].Sublist [.error, .warn, .info, .debug, .trace] := by
      cases v <;> cases most <;> decide
    simp [admits, Reaches, h]

instance {ceiling : Ceiling} {v : Verbosity} : Decidable (ceiling.Reaches v) :=
  decidable_of_iff _ Ceiling.admits_iff

namespace Bridge

variable {b : Bridge} {c : LogCall}

theorem isEnabled_iff :
    b.isEnabled c = true ↔ b.ceiling.Reaches c.verbosity ∧ c.target ≠ diagnosticTarget := by
  simp [isEnabled, Ceiling.admits_iff]

theorem isEnabled_toCall (b : Bridge) (n : Notice) : b.isEnabled n.toCall = false := by
  simp [isEnabled, Notice.toCall]

end Bridge

namespace Facade

inductive Step
  | install (b : Bridge)
  | log (now : Timestamp) (c : LogCall)
  | flush (now : Timestamp)

def step (f : Facade) : Step → Facade
  | .install b => (f.install b).2
  | .log now c => f.log now c
  | .flush now => f.flush now

def run (f : Facade) (steps : List Step) : Facade :=
  steps.foldl step f

/-- The first bridge installed, and the steps behind its installation. -/
def installed? : List Step → Option (Bridge × List Step)
  | [] => none
  | .install b :: later => some (b, later)
  | .log _ _ :: steps => installed? steps
  | .flush _ :: steps => installed? steps

/-- What a step has a bridge write. -/
def payload? (first : Bridge) : Step → Option (List UInt8)
  | .log now c =>
    if first.ceiling.Reaches c.verbosity ∧ c.target ≠ diagnosticTarget then
      Payload.ofRecord? (c.toRecord now)
    else none
  | _ => none

/-- The facade with the logger `first`, as installed but for the state of its handler. -/
def serving (first : Bridge) (h : Handler) : Facade where
  logger := some { first with handler := h }
  ceiling := first.ceiling

variable {first : Bridge} {h : Handler} {now : Timestamp} {c : LogCall}

/-! ## Notices -/

theorem log_toCall (f : Facade) (now : Timestamp) (n : Notice) : f.log now n.toCall = f := by
  rw [log]
  split
  · rfl
  · rw [Bridge.isEnabled_toCall]
    split <;> rfl

theorem log_notices (f : Facade) (now : Timestamp) (notices : List Notice) :
    notices.foldl (fun f n => f.log now n.toCall) f = f := by
  induction notices with
  | nil => rfl
  | cons n notices ih => rw [List.foldl_cons, log_toCall, ih]

/-! ## Single steps -/

theorem log_of_isEnabled (he : first.isEnabled c = true) :
    (serving first h).log now c = serving first (h.handle (c.toRecord now)).2.2 := by
  have he' : ({ first with handler := h } : Bridge).isEnabled c = true := he
  rw [log]
  have hc := Ceiling.admits_iff.2 (Bridge.isEnabled_iff.1 he).1
  simp only [serving, hc, he', if_true, dif_pos, log_notices]
  simp only [Bridge.log, he', if_true]

theorem log_of_not_isEnabled (he : ¬ first.isEnabled c = true) :
    (serving first h).log now c = serving first h := by
  have he' : ¬ ({ first with handler := h } : Bridge).isEnabled c = true := he
  rw [log]
  simp only [serving, dif_neg he', ite_self]

theorem payload?_of_isEnabled (he : first.isEnabled c = true) :
    payload? first (.log now c) = Payload.ofRecord? (c.toRecord now) :=
  if_pos (Bridge.isEnabled_iff.1 he)

theorem payload?_of_not_isEnabled (he : ¬ first.isEnabled c = true) :
    payload? first (.log now c) = none :=
  if_neg (Bridge.isEnabled_iff.not.1 he)

theorem payload?_eq_none (hr : ¬ first.ceiling.Reaches c.verbosity ∨
    c.target = diagnosticTarget ∨ now.isWritable = false) : payload? first (.log now c) = none := by
  by_cases he : first.isEnabled c = true
  · obtain ⟨hc, ht⟩ := Bridge.isEnabled_iff.1 he
    rw [payload?_of_isEnabled he, Payload.ofRecord?_eq]
    rcases hr with hr | hr | hr
    · cases hr hc
    · cases ht hr
    · exact if_neg (Bool.not_eq_true _ ▸ hr)
  · exact payload?_of_not_isEnabled he

/-- What a step leaves of the handler that is served. -/
def advance (first : Bridge) (h : Handler) : Step → Handler
  | .install _ => h
  | .log now c => (payload? first (.log now c)).elim h h.afterWrite
  | .flush _ => { h with warner := h.warner.flush.2 }

theorem log_serving : (serving first h).log now c =
    serving first ((payload? first (.log now c)).elim h h.afterWrite) := by
  by_cases he : first.isEnabled c = true
  · rw [log_of_isEnabled he, payload?_of_isEnabled he]
    cases hp : Payload.ofRecord? (c.toRecord now) with
    | some payload => rw [Handler.handle_of_some hp, Option.elim_some]
    | none => rw [Handler.handle_of_none hp, Option.elim_none]
  · rw [log_of_not_isEnabled he, payload?_of_not_isEnabled he, Option.elim_none]

theorem step_serving (st : Step) :
    (serving first h).step st = serving first (advance first h st) := by
  cases st with
  | install b => rfl
  | log now c => exact log_serving
  | flush now => exact log_notices ..

theorem writer_advance (st : Step) : (advance first h st).writer =
    (payload? first st).elim h.writer fun payload => (h.writer.write payload).2 := by
  cases st with
  | install b => rfl
  | log now c =>
    rw [advance]
    cases payload? first (.log now c) <;> rfl
  | flush now => rfl

/-! ## Runs -/

theorem run_serving (steps : List Step) :
    (serving first h).run steps = serving first (steps.foldl (advance first) h) := by
  induction steps generalizing h with
  | nil => rfl
  | cons st steps ih => rw [run, List.foldl_cons, step_serving, List.foldl_cons, ← ih, run]

theorem writer_foldl_advance (steps : List Step) :
    (steps.foldl (advance first) h).writer =
      (steps.filterMap (payload? first)).foldl (fun w payload => (w.write payload).2) h.writer := by
  induction steps generalizing h with
  | nil => rfl
  | cons st steps ih =>
    rw [List.foldl_cons, ih, writer_advance]
    cases hp : payload? first st with
    | none => rw [List.filterMap_cons_none hp, Option.elim_none]
    | some payload => rw [List.filterMap_cons_some hp, Option.elim_some, List.foldl_cons]

/-- A facade at some point of a run, with `later` the steps behind the first installation. -/
structure Serves (first : Bridge) (later : List Step) (f : Facade) (h : Handler) : Prop where
  facade : f = serving first h
  /-- The calls let through so far are written once each, whatever came of the writes before. -/
  writer : h.writer =
    (later.filterMap (payload? first)).foldl (fun w payload => (w.write payload).2)
      first.handler.writer
  install : ∀ b, f.install b = (.error .alreadyInstalled, f)
  /-- A call that is let through is one write, and one datagram to where the journal is reached. -/
  passed : ∀ now c, first.ceiling.Reaches c.verbosity → c.target ≠ diagnosticTarget →
    now.isWritable = true → ∃ payload entry,
      Payload.ofRecord? (c.toRecord now) = some payload ∧ Entry.decode payload = .ok entry ∧
      f.log now c = serving first (h.afterWrite payload) ∧
      ∃ fallback : Option String, (h.afterWrite payload).writer.transmitted =
        h.writer.transmitted ++ ((h.writer.session.connect.1.toOption.map
          (.send · (Wire.putEntry [] entry payload))).toList ++
            (fallback.map (.handOver · (Wire.putEntry [] entry payload))).toList)
  refused : ∀ now c, ¬ first.ceiling.Reaches c.verbosity ∨ c.target = diagnosticTarget ∨
    now.isWritable = false → f.log now c = f
  flush : ∀ now, f.flush now = serving first { h with warner := h.warner.flush.2 }

theorem serves_serving (first : Bridge) (later : List Step) :
    Serves first later ((serving first first.handler).run later)
      (later.foldl (advance first) first.handler) := by
  rw [run_serving]
  constructor
  · rfl
  · exact writer_foldl_advance later
  · exact fun _ => rfl
  · intro now c hc ht hw
    have hp := (Payload.ofRecord?_eq (c.toRecord now)).trans (if_pos hw)
    have hd := Payload.decode_bytes (c.toRecord now)
    rw [log_serving, payload?_of_isEnabled (Bridge.isEnabled_iff.2 ⟨hc, ht⟩), hp]
    exact ⟨_, _, rfl, hd, rfl, Writer.transmitted_write_decoded hd⟩
  · intro now c hr
    rw [log_serving, payload?_eq_none hr, Option.elim_none]
  · exact fun _ => log_notices ..

theorem decode_of_payload? {st : Step} {payload : List UInt8}
    (hp : payload? first st = some payload) : ∃ entry, Entry.decode payload = .ok entry := by
  cases st with
  | install b => cases hp
  | log now c =>
    by_cases he : first.isEnabled c = true
    · rw [payload?_of_isEnabled he, Payload.ofRecord?_eq, Option.ite_none_right_eq_some] at hp
      obtain ⟨-, hp⟩ := hp
      rw [← Option.some.inj hp]
      exact ⟨_, Payload.decode_bytes _⟩
    · rw [payload?_of_not_isEnabled he] at hp
      cases hp
  | flush now => cases hp

/-- A run sends one datagram for each call let through, whatever the answers to them: the notices
of lost records send none. -/
theorem Serves.sent {later : List Step} {f : Facade} (hs : Serves first later f h) :
    h.writer.session.peer.sent = first.handler.writer.session.peer.sent +
      if first.handler.writer.session.connect.1.isOk then
        (later.filterMap (payload? first)).length
      else 0 := by
  rw [hs.writer]
  refine Writer.sent_foldl_write _ _ fun payload hp => ?_
  obtain ⟨st, -, hst⟩ := List.mem_filterMap.1 hp
  exact decode_of_payload? hst

/-- Before the first installation a facade does nothing, and after it the facade serves the handler
that was installed. -/
theorem service_of_run (steps : List Step) :
    match installed? steps with
    | none =>
      run {} steps = {} ∧
        (∀ b, install {} b = (.ok (), { logger := some b, ceiling := b.ceiling })) ∧
        (∀ now c, log {} now c = {}) ∧ ∀ now, flush {} now = {}
    | some (first, later) => ∃ h, Serves first later (run {} steps) h := by
  have hlog (now : Timestamp) (c : LogCall) : log {} now c = {} := by rw [log]
  fun_induction installed? steps with
  | case1 => exact ⟨rfl, fun _ => rfl, hlog, fun _ => rfl⟩
  | case2 b later => exact ⟨_, serves_serving b later⟩
  | case3 now c steps ih =>
    rw [run, List.foldl_cons, step, hlog]
    exact ih
  | case4 now steps ih => exact ih

/-- Of three calls that are lost, notice is given of the first. It comes back as a call, and is not
a fourth. -/
example :
    let first : Bridge :=
      { handler := .ofSettings { warnInterval := 60000 } .usable
          { binds := [.failure .notFound] }
        ceiling := .upTo .warn }
    let lost : LogCall := { verbosity := .error, target := "app", message := "lost" }
    let detail : LogCall := { verbosity := .info, target := "app", message := "detail" }
    let f := run {} [.install first, .log .epoch lost, .log .epoch detail, .log .epoch lost,
      .log .epoch lost]
    (f.logger.map fun b => b.handler.writer.session.peer.trace) = some [.bind] ∧
      (f.logger.map fun b => b.handler.warner) =
        some { interval := 60000, hasWarned := true, dropped := 2 } := by
  decide +kernel

end Facade

end JournalSink
