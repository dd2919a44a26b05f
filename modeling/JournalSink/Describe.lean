import JournalSink.Handler

/-! # Descriptions

What sessions, writers and handlers look like in diagnostics: the name of a
structure and its fields in order.
-/

namespace JournalSink.Describe

def record (name : String) (fields : List (String × String)) : String :=
  name ++ " \x7b " ++ ", ".intercalate (fields.map fun f => f.1 ++ ": " ++ f.2) ++ " \x7d"

/-- A structure whose content is not shown. -/
def hidden (name : String) : String :=
  name ++ " \x7b .. \x7d"

def option : Option String → String
  | none => "None"
  | some text => "Some(" ++ text ++ ")"

def boolean (b : Bool) : String :=
  if b then "true" else "false"

/-- Thousandths as a fraction, without trailing zeros. -/
def fraction (thousandths : Nat) : String :=
  if thousandths = 0 then ""
  else
    let digits := Timestamp.padded 3 thousandths
    "." ++ String.ofList (digits.reverse.dropWhile (· == '0')).reverse

/-- A number of milliseconds in the largest unit that leaves a whole part. -/
def duration (milliseconds : Nat) : String :=
  if milliseconds = 0 then "0ns"
  else if milliseconds < 1000 then toString milliseconds ++ "ms"
  else toString (milliseconds / 1000) ++ fraction (milliseconds % 1000) ++ "s"

def endpoint : Endpoint → String
  | .untried => "uninitialised"
  | .bound _ => "ready"
  | .failed _ => "failed"

def session (s : Session) : String :=
  record "JournalSession"
    [("socket_override", option (s.socket.map Text.quoted)),
      ("state", Text.quoted (endpoint s.endpoint)), ("closed", boolean s.isClosed)]

def writer (w : Writer) : String :=
  record "FemtoJournalWriter"
    [("session", session w.session),
      ("pool", record "BufferPool" [("idle_tx", hidden "Sender"), ("idle_rx", hidden "Receiver")]),
      ("shm_dir", Text.quoted w.directory)]

def warner (w : Warner) : String :=
  record "RateLimitedWarner"
    [("interval", duration w.interval),
      ("last_warn", record "Mutex" [("data", if w.hasWarned then "Some(..)" else "None")]),
      ("dropped", toString w.dropped)]

def handler (h : Handler) : String :=
  record "FemtoJournalHandler" [("writer", writer h.writer), ("warner", warner h.warner)]

end JournalSink.Describe
