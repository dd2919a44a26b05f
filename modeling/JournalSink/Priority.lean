import JournalSink.Level

/-! # Priorities

The syslog severities, and the one that each level is filed under.
-/

namespace JournalSink

inductive Priority
  | emergency
  | alert
  | critical
  | error
  | warning
  | notice
  | informational
  | debug
deriving DecidableEq, Repr

namespace Priority

def code : Priority → Nat
  | emergency => 0
  | alert => 1
  | critical => 2
  | error => 3
  | warning => 4
  | notice => 5
  | informational => 6
  | debug => 7

def digit (p : Priority) : UInt8 :=
  0x30 + p.code.toUInt8

def name : Priority → String
  | emergency => "Emergency"
  | alert => "Alert"
  | critical => "Critical"
  | error => "Error"
  | warning => "Warning"
  | notice => "Notice"
  | informational => "Informational"
  | debug => "Debug"

def all : List Priority :=
  [emergency, alert, critical, error, warning, notice, informational, debug]

def parse? (s : String) : Option Priority :=
  all.find? (·.name == s)

/-- A record without a recognised level is a notice. -/
def ofLevel : Option Level → Priority
  | some .trace => debug
  | some .debug => debug
  | some .info => informational
  | some .warn => warning
  | some .error => error
  | some .fatal => critical
  | some .panic => emergency
  | none => notice

/-- The digit of each level as it is written, and the digit of a record without one. -/
def levelDigit : Option Level → UInt8
  | some .trace => 0x37
  | some .debug => 0x37
  | some .info => 0x36
  | some .warn => 0x34
  | some .error => 0x33
  | some .fatal => 0x32
  | some .panic => 0x30
  | none => 0x35

theorem digit_ofLevel (l : Option Level) : (ofLevel l).digit = levelDigit l := by
  rcases l with _ | _ | _ | _ | _ | _ | _ | _ <;> rfl

end Priority

end JournalSink
