import JournalSink.Fallback
import JournalSink.Ini.Document
import JournalSink.Pool
import JournalSink.Warner

/-! # Settings

The settings of a sink, and how they are read from an INI document. A document
without the section of the sink leaves every setting at its default.
-/

namespace JournalSink

structure Settings where
  socket : Option String := none
  /-- Where the files for oversized entries are made. -/
  directory : String := Scratch.defaultDirectory
  poolCapacity : Nat := Pool.defaultCapacity
  /-- Milliseconds. -/
  warnInterval : Nat := Warner.defaultInterval
deriving DecidableEq, Repr

inductive SettingsError
  | zeroCapacity
  | emptyDirectory
  | notAnInteger (key raw : String)
  /-- The text, or the named file, is no INI document. -/
  | malformed (file : Option String) (f : Ini.Fault)
  | io (e : IoError)
deriving DecidableEq, Repr

def SettingsError.message : SettingsError → String
  | zeroCapacity => "invalid handler configuration: pool_capacity must be greater than zero"
  | emptyDirectory => "invalid handler configuration: shm_dir must not be empty"
  | notAnInteger key raw =>
    "invalid handler configuration: " ++ key ++ " must be an integer, got " ++ Text.quoted raw
  | malformed none f => "invalid handler configuration: " ++ f.message
  | malformed (some file) f => "invalid handler configuration: " ++ file ++ ": " ++ f.message
  | io e => e.message

namespace Settings

def sectionName : String :=
  "handler_journal"

def withSocket (s : Settings) (path : String) : Settings :=
  { s with socket := some path }

def withDirectory (s : Settings) (path : String) : Settings :=
  { s with directory := path }

def withPoolCapacity (s : Settings) (n : Nat) : Settings :=
  { s with poolCapacity := n }

def withWarnInterval (s : Settings) (milliseconds : Nat) : Settings :=
  { s with warnInterval := milliseconds }

def validate (s : Settings) : Except SettingsError Unit :=
  if s.poolCapacity = 0 then .error .zeroCapacity
  else if s.directory.isEmpty then .error .emptyDirectory
  else .ok ()

/-- A number of 64 bits in decimal digits. Blanks around it and a plus sign in front are allowed. -/
def number? (raw : String) : Option Nat :=
  let cs := Text.trim raw.toList
  let digits := if cs.head? = some '+' then cs.tail else cs
  if digits ≠ [] ∧ digits.all Char.isDigit then
    let n := digits.foldl (fun n c => n * 10 + (c.toNat - '0'.toNat)) 0
    if n < UInt64.size then some n else none
  else none

/-- The number under `key`, or `fallback` where there is none. -/
def readNumber (part : Ini.Section) (key : String) (fallback : Nat) :
    Except SettingsError Nat :=
  match part.get? key with
  | none => .ok fallback
  | some raw =>
    match number? raw with
    | some n => .ok n
    | none => .error (.notAnInteger key raw)

def ofSection (part : Ini.Section) : Except SettingsError Settings := do
  let fallback : Settings := {}
  let poolCapacity ← readNumber part "pool_capacity" fallback.poolCapacity
  let warnInterval ← readNumber part "warn_interval_ms" fallback.warnInterval
  let settings : Settings :=
    { socket := part.get? "socket"
      directory := (part.get? "shm_dir").getD fallback.directory
      poolCapacity := poolCapacity
      warnInterval := warnInterval }
  settings.validate
  return settings

def ofDocument (d : Ini.Document) : Except SettingsError Settings :=
  match d.find? sectionName with
  | none => .ok {}
  | some part => ofSection part

def ofText (text : String) : Except SettingsError Settings :=
  match Ini.Document.parse text with
  | .error f => .error (.malformed none f)
  | .ok d => ofDocument d

/-- The mark that a file of UTF-8 text may start with. -/
def byteOrderMark : List UInt8 :=
  [0xEF, 0xBB, 0xBF]

/-- Reads the named file, whose content is `none` when there is no such file. -/
def ofFile (name : String) (content : Option (List UInt8)) : Except SettingsError Settings :=
  match content with
  | none => .error (.io .notFound)
  | some bytes =>
    let body := if byteOrderMark.isPrefixOf bytes then bytes.drop 3 else bytes
    match Text.ofUtf8? body with
    | none => .error (.io (.other "stream did not contain valid UTF-8"))
    | some text =>
      match Ini.Document.parse text with
      | .error f => .error (.malformed (some name) f)
      | .ok d => ofDocument d

end Settings

/-- Settings chosen one by one, and what they are laid over. -/
structure Overrides where
  base : Option Settings := none
  socket : Option String := none
  directory : Option String := none
  poolCapacity : Option Nat := none
  warnInterval : Option Nat := none
deriving DecidableEq, Repr

namespace Overrides

def overlay (o : Overrides) : Settings :=
  let base := o.base.getD {}
  { socket := o.socket.or base.socket
    directory := o.directory.getD base.directory
    poolCapacity := o.poolCapacity.getD base.poolCapacity
    warnInterval := o.warnInterval.getD base.warnInterval }

def build (o : Overrides) : Except SettingsError Settings := do
  o.overlay.validate
  return o.overlay

end Overrides

end JournalSink
