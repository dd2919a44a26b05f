import JournalSink.LogRecord
import JournalSink.Text.Ascii
import JournalSink.Text.Utf8

/-! # Payloads

A log record as one line of JSON. Source locations are left out while they are
unknown. A pair whose key has a meaning of its own is written under another key,
so that it cannot stand in for the level or the message.
-/

namespace JournalSink.Payload

inductive Value
  | string (s : String)
  | number (n : Nat)
deriving DecidableEq, Repr

def reservedKeys : List String :=
  ["level", "message", "msg"]

def pairKey (key : String) : String :=
  if key ∈ reservedKeys then "field_" ++ key else key

/-- The members of a record with the given time, in order. -/
def members (r : LogRecord) (time : String) : List (String × Value) :=
  [("time", .string time), ("level", .string r.level.name), ("logger", .string r.logger),
    ("message", .string r.message)] ++
  (if r.modulePath.isEmpty then [] else [("code_module", .string r.modulePath)]) ++
  (if r.file.isEmpty then [] else [("code_file", .string r.file), ("code_line", .number r.line)]) ++
  r.pairs.map fun (key, value) => (pairKey key, .string value)

/-- A character inside a JSON string. Only quotes, backslashes and controls are escaped. -/
def escape (c : Char) : List Char :=
  if c = '\x22' then ['\\', '\x22']
  else if c = '\\' then ['\\', '\\']
  else if c = '\x08' then ['\\', 'b']
  else if c = '\t' then ['\\', 't']
  else if c = '\n' then ['\\', 'n']
  else if c = '\x0C' then ['\\', 'f']
  else if c = '\r' then ['\\', 'r']
  else if c.toNat < 0x20 then
    ['\\', 'u', '0', '0', Nat.digitChar (c.toNat / 16), Nat.digitChar (c.toNat % 16)]
  else [c]

def string (s : String) : List Char :=
  '\x22' :: s.toList.flatMap escape ++ ['\x22']

def Value.source : Value → List Char
  | .string s => Payload.string s
  | .number n => Nat.toDigits 10 n

def member : String × Value → List Char
  | (key, value) => Payload.string key ++ ':' :: value.source

/-- The members between braces, and the newline that ends the payload. -/
def source (ms : List (String × Value)) : String :=
  String.ofList ('\x7b' :: ((ms.map member).intersperse [',']).flatten ++ ['\x7d', '\n'])

/-- Fails when the time cannot be written. -/
def ofRecord? (r : LogRecord) : Option (List UInt8) :=
  r.timestamp.text?.map fun time => Text.utf8 (source (members r time))

end JournalSink.Payload
