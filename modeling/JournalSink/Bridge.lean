import JournalSink.Handler
import JournalSink.LogCall

/-! # The bridge from the logging facade

A bridge passes the calls of the facade on to a handler, up to a ceiling. It
refuses calls with the target of the handler's own notices, so that a failing
journal does not feed itself.
-/

namespace JournalSink

/-- The target of the notices of handlers. -/
def diagnosticTarget : String :=
  "femtologging_journal::handler"

/-- The call by which a notice is given. -/
def Notice.toCall (n : Notice) : LogCall where
  verbosity := .warn
  target := diagnosticTarget
  message := n.text

structure Bridge where
  handler : Handler
  ceiling : Ceiling

namespace Bridge

def isEnabled (b : Bridge) (c : LogCall) : Bool :=
  b.ceiling.admits c.verbosity && c.target != diagnosticTarget

/-- Failures are counted by the handler and reported no further. -/
def log (b : Bridge) (now : Timestamp) (c : LogCall) : List Notice × Bridge :=
  if b.isEnabled c then
    let (_, notices, handler) := b.handler.handle (c.toRecord now)
    (notices, { b with handler := handler })
  else ([], b)

def flush (b : Bridge) : List Notice × Bridge :=
  let (_, notices, handler) := b.handler.flush
  (notices, { b with handler := handler })

end Bridge

end JournalSink
