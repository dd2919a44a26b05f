import JournalSink.Payload
import JournalSink.Writer

/-! # Journal handlers

A handler turns log records into payloads and writes them. Lost records are
counted and given notice of; the notices are returned to whoever runs the
handler.
-/

namespace JournalSink

structure Handler where
  writer : Writer
  warner : Warner

inductive HandleError
  /-- The time of the record cannot be written. Such a record is not counted as lost. -/
  | unwritableTime
  | journal (e : WriteError)

inductive Notice
  | dropped (count : UInt64)
  | droppedInInterval (count : UInt64)
deriving DecidableEq, Repr

def Notice.text : Notice → String
  | dropped count => "FemtoJournalHandler dropped " ++ toString count ++ " records"
  | droppedInInterval count =>
    "FemtoJournalHandler dropped " ++ toString count ++ " records in the last interval"

namespace Handler

def ofSettings (s : Settings) (scratch : Scratch) (peer : Peer) : Handler where
  writer := .ofSettings s scratch peer
  warner := { interval := s.warnInterval }

/-- Counts a lost record, and gives notice if it is time to. -/
def recordFailure (h : Handler) : List Notice × Handler :=
  let (count, warner) := h.warner.recordDrop.warnIfDue
  (count.toList.map .dropped, { h with warner := warner })

def handle (h : Handler) (r : LogRecord) : Except HandleError Unit × List Notice × Handler :=
  match Payload.ofRecord? r with
  | none => (.error .unwritableTime, [], h)
  | some payload =>
    match h.writer.write payload with
    | (.ok _, writer) => (.ok (), [], { h with writer := writer })
    | (.error e, writer) => (.error (.journal e), recordFailure { h with writer := writer })

/-- Whether the handler can still be used. -/
def flush (h : Handler) : Bool × List Notice × Handler :=
  let (count, warner) := h.warner.flush
  (!h.writer.isClosed, count.toList.map .droppedInInterval, { h with warner := warner })

def close (h : Handler) : Handler :=
  { h with writer := h.writer.close }

end Handler

end JournalSink
