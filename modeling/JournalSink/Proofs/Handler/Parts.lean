import JournalSink.Handler

/-! # The parts of a handler

A record reaches the writer if it has a payload, whatever comes of the write. The
warner hears of it only if the write failed, and then once.
-/

namespace JournalSink.Handler

variable {h : Handler} {r : LogRecord} {payload : List UInt8}

/-- What one write leaves of a handler. -/
def afterWrite (h : Handler) (payload : List UInt8) : Handler where
  writer := (h.writer.write payload).2
  warner :=
    match (h.writer.write payload).1 with
    | .ok _ => h.warner
    | .error _ => h.warner.recordDrop.warnIfDue.2

theorem handle_of_none (hp : Payload.ofRecord? r = none) :
    h.handle r = (.error .unwritableTime, [], h) := by
  rw [handle, hp]

theorem handle_of_some (hp : Payload.ofRecord? r = some payload) :
    (h.handle r).2.2 = h.afterWrite payload := by
  simp only [handle, hp]
  unfold afterWrite
  rcases h.writer.write payload with ⟨_ | _, writer⟩ <;> rfl

end JournalSink.Handler
