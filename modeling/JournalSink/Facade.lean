import JournalSink.Bridge

/-! # The logging facade

One logger serves a whole program, and the first one installed stays. The
notices that a handler gives while it logs are calls like any other and come
back to the same logger.
-/

namespace JournalSink

structure Facade where
  logger : Option Bridge := none
  ceiling : Ceiling := .off

inductive InstallError
  | alreadyInstalled
deriving DecidableEq, Repr

def InstallError.message : InstallError → String
  | alreadyInstalled =>
    "attempted to set a logger after the logging system was already initialized"

namespace Facade

def install (f : Facade) (b : Bridge) : Except InstallError Unit × Facade :=
  match f.logger with
  | some _ => (.error .alreadyInstalled, f)
  | none => (.ok (), { logger := some b, ceiling := b.ceiling })

def log (f : Facade) (now : Timestamp) (c : LogCall) : Facade :=
  match f.logger with
  | none => f
  | some b =>
    if f.ceiling.admits c.verbosity then
      if _h : b.isEnabled c then
        let (notices, b) := b.log now c
        notices.foldl (fun f n => log f now n.toCall) { f with logger := some b }
      else f
    else f
termination_by if c.target = diagnosticTarget then 0 else 1
decreasing_by
  have : c.target ≠ diagnosticTarget := by
    simp only [Bridge.isEnabled, Bool.and_eq_true, bne_iff_ne] at _h
    exact _h.2
  simp [this, Notice.toCall]

def flush (f : Facade) (now : Timestamp) : Facade :=
  match f.logger with
  | none => f
  | some b =>
    let (notices, b) := b.flush
    notices.foldl (fun f n => log f now n.toCall) { f with logger := some b }

end Facade

end JournalSink
