import JournalSink.LogRecord

/-! # Log calls

A call of the logging facade: its verbosity, the target it names, its message,
and the source location as far as it is known.
-/

namespace JournalSink

/-- How much detail a call gives, from the least to the most. -/
inductive Verbosity
  | error
  | warn
  | info
  | debug
  | trace
deriving DecidableEq, Repr

namespace Verbosity

def rank : Verbosity → Nat
  | error => 1
  | warn => 2
  | info => 3
  | debug => 4
  | trace => 5

def all : List Verbosity :=
  [error, warn, info, debug, trace]

def name : Verbosity → String
  | error => "ERROR"
  | warn => "WARN"
  | info => "INFO"
  | debug => "DEBUG"
  | trace => "TRACE"

/-- Names are read without regard to the case of ASCII letters. -/
def parse? (s : String) : Option Verbosity :=
  all.find? fun v => v.name == String.ofList (s.toList.map Char.toUpper)

def level : Verbosity → Level
  | error => .error
  | warn => .warn
  | info => .info
  | debug => .debug
  | trace => .trace

theorem map_level : all.map (fun v => (v.name, v.level.name)) =
    [("ERROR", "error"), ("WARN", "warn"), ("INFO", "info"), ("DEBUG", "debug"),
      ("TRACE", "trace")] :=
  rfl

end Verbosity

/-- The greatest verbosity that is let through, if any is. -/
inductive Ceiling
  | off
  | upTo (v : Verbosity)
deriving DecidableEq, Repr

namespace Ceiling

def admits : Ceiling → Verbosity → Bool
  | off, _ => false
  | upTo c, v => v.rank ≤ c.rank

def name : Ceiling → String
  | off => "OFF"
  | upTo v => v.name

def parse? (s : String) : Option Ceiling :=
  if s = "OFF" then some off else (Verbosity.parse? s).map upTo

end Ceiling

structure LogCall where
  verbosity : Verbosity
  target : String
  message : String
  modulePath : Option String := none
  file : Option String := none
  line : Option Nat := none
deriving DecidableEq, Repr

namespace LogCall

/-- Replaces each `::`, taken from the left, by a point. -/
def dotted : List Char → List Char
  | [] => []
  | ':' :: ':' :: r => '.' :: dotted r
  | c :: r => c :: dotted r

def containsPair : List Char → Bool
  | [] => false
  | ':' :: ':' :: _ => true
  | _ :: r => containsPair r

/-- A target without a pair of colons is the name as it is. -/
def loggerName (target : String) : String :=
  if containsPair target.toList then String.ofList (dotted target.toList) else target

/-- The record of a call made at `now`. -/
def toRecord (c : LogCall) (now : Timestamp) : LogRecord where
  logger := loggerName c.target
  level := c.verbosity.level
  message := c.message
  modulePath := c.modulePath.getD ""
  file := c.file.getD ""
  line := c.line.getD 0
  timestamp := now

end LogCall

end JournalSink
