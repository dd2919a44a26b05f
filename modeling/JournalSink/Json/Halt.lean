import JournalSink.Text.Ascii

/-! # Where reading stops

A reader of bytes gives what remains after it, or the cause why it stopped and
the bytes that follow the place where it did. A place becomes a line and a
column once the whole document is known.
-/

namespace JournalSink.Json

inductive Cause
  | endInValue
  | endInList
  | endInObject
  | endInString
  | noValue
  | noColon
  | noListSeparator
  | noObjectSeparator
  | badWord
  | badNumber
  | numberOutOfRange
  | badEscape
  | badEncoding
  | controlCharacter
  | loneSurrogate
  | noSecondSurrogate
  | keyNotString
  | trailingComma
  | trailingCharacters
deriving DecidableEq, Repr

namespace Cause

def text : Cause → String
  | endInValue => "EOF while parsing a value"
  | endInList => "EOF while parsing a list"
  | endInObject => "EOF while parsing an object"
  | endInString => "EOF while parsing a string"
  | noValue => "expected value"
  | noColon => "expected `:`"
  | noListSeparator => "expected `,` or `]`"
  | noObjectSeparator => "expected `,` or `\x7d`"
  | badWord => "expected ident"
  | badNumber => "invalid number"
  | numberOutOfRange => "number out of range"
  | badEscape => "invalid escape"
  | badEncoding => "invalid unicode code point"
  | controlCharacter => "control character (\\u0000-\\u001F) found while parsing a string"
  | loneSurrogate => "lone leading surrogate in hex escape"
  | noSecondSurrogate => "unexpected end of hex escape"
  | keyNotString => "key must be a string"
  | trailingComma => "trailing comma"
  | trailingCharacters => "trailing characters"

/-- The document ended where more was due. -/
def isEnd : Cause → Bool
  | endInValue | endInList | endInObject | endInString => true
  | _ => false

end Cause

structure Halt where
  cause : Cause
  rest : List UInt8
deriving DecidableEq, Repr

def halt {α : Type} (cause : Cause) (rest : List UInt8) : Except Halt α :=
  .error ⟨cause, rest⟩

/-- A line, counted from one, and the bytes of that line that lie before the place. -/
structure Position where
  line : Nat
  column : Nat
deriving DecidableEq, Repr

namespace Position

/-- The place behind the bytes read so far. -/
def behind (read : List UInt8) : Position where
  line := 1 + read.count Ascii.newline
  column := (read.reverse.takeWhile (· != Ascii.newline)).length

/-- The place in `document` at which `rest` is still to be read. -/
def before (document rest : List UInt8) : Position :=
  behind (document.take (document.length - rest.length))

end Position

def isBlank (b : UInt8) : Bool :=
  b == Ascii.space || b == Ascii.newline || b == Ascii.tab || b == Ascii.carriageReturn

theorem isBlank_iff {b : UInt8} :
    isBlank b = true ↔ b ∈ [Ascii.space, Ascii.newline, Ascii.tab, Ascii.carriageReturn] := by
  simp [isBlank, or_assoc]

def skipBlank (bytes : List UInt8) : List UInt8 :=
  bytes.dropWhile isBlank

theorem skipBlank_length_le (bytes : List UInt8) : (skipBlank bytes).length ≤ bytes.length :=
  (List.dropWhile_suffix _).length_le

theorem skipBlank_tail_length {bytes r : List UInt8} {b : UInt8} (h : skipBlank bytes = b :: r) :
    r.length < bytes.length := by
  have := skipBlank_length_le bytes
  rw [h] at this
  exact this

end JournalSink.Json
