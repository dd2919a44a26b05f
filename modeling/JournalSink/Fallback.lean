import JournalSink.Session

/-! # Entries too large for a datagram

The entry is written to a nameless file in a memory-backed directory, and the
journal is handed the descriptor.
-/

namespace JournalSink

/-- What comes of creating a nameless file in a directory. -/
inductive Scratch
  | usable
  | unusable (e : IoError)
deriving DecidableEq, Repr

namespace Scratch

def defaultDirectory : String :=
  "/dev/shm"

/-- The names in the directory: none, because a fallback file never has one. -/
def names (_ : Scratch) : List String :=
  []

end Scratch

/-- Reports the whole length of the data, whatever the journal says it accepted. -/
def Session.sendOversized (s : Session) (scratch : Scratch) (data : List UInt8) :
    Except WriteError Nat × Session :=
  match scratch with
  | .unusable e => (.error (.fallback e), s)
  | .usable =>
    match s.handOver data with
    | (.error e, s) => (.error e, s)
    | (.ok _, s) => (.ok data.length, s)

end JournalSink
