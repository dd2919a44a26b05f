import JournalSink.Level
import JournalSink.Timestamp

/-! # Log records

What a program hands over to be logged: who speaks, how serious it is, the
message, where and when it arose, and pairs in the order they were attached.
-/

namespace JournalSink

structure LogRecord where
  logger : String
  level : Level
  message : String
  modulePath : String := ""
  file : String := ""
  line : Nat := 0
  timestamp : Timestamp
  pairs : List (String × String) := []
deriving DecidableEq, Repr

namespace LogRecord

def withPair (r : LogRecord) (key value : String) : LogRecord :=
  { r with pairs := r.pairs ++ [(key, value)] }

/-- The one-line form for people. -/
def display (r : LogRecord) : String :=
  r.logger ++ " [" ++ r.level.name ++ "] " ++ r.message

end LogRecord

end JournalSink
