/-! # Levels

The seven levels of a log record, from the least to the most severe.
-/

namespace JournalSink

inductive Level
  | trace
  | debug
  | info
  | warn
  | error
  | fatal
  | panic
deriving DecidableEq, Ord, Repr

namespace Level

def name : Level → String
  | trace => "trace"
  | debug => "debug"
  | info => "info"
  | warn => "warn"
  | error => "error"
  | fatal => "fatal"
  | panic => "panic"

def all : List Level :=
  [trace, debug, info, warn, error, fatal, panic]

def default : Level :=
  info

/-- The spellings that name a level, in lowercase. -/
def spellings : List (String × Level) :=
  all.map (fun l => (l.name, l)) ++ [("warning", warn), ("critical", fatal)]

theorem spellings_eq : spellings =
    [("trace", trace), ("debug", debug), ("info", info), ("warn", warn), ("error", error),
      ("fatal", fatal), ("panic", panic), ("warning", warn), ("critical", fatal)] :=
  rfl

def lowercase (s : String) : String :=
  String.ofList (s.toList.map Char.toLower)

/-- Names are read without regard to the case of ASCII letters. -/
def parse? (s : String) : Option Level :=
  spellings.lookup (lowercase s)

theorem parse?_name (l : Level) : parse? l.name = some l := by
  cases l <;> decide

end Level

end JournalSink
