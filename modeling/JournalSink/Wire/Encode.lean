import JournalSink.Entry
import JournalSink.Priority
import JournalSink.Text.Uppercase
import JournalSink.Wire.LittleEndian

/-! # The native wire form

A field is a line `NAME=value`. A value that holds a newline is framed instead:
the name on a line of its own, the length of the value in eight bytes, the value
and a newline. An entry is written as its priority, its message, its further
fields under uppercase names, and last the raw record it was decoded from.
-/

namespace JournalSink.Wire

def field (name : String) (value : List UInt8) : List UInt8 :=
  Text.utf8 name ++
    (if Ascii.newline ∈ value then Ascii.newline :: littleEndian 8 value.length
      else [Ascii.equals]) ++
    value ++ [Ascii.newline]

/-- Appends a field to a buffer. -/
def putField (buffer : List UInt8) (name : String) (value : List UInt8) : List UInt8 :=
  buffer ++ field name value

def fieldName (key : String) : String :=
  Text.uppercase key

/-- The fields of an entry in the order they are written. -/
def fields (e : Entry) (raw : List UInt8) : List (String × List UInt8) :=
  ("PRIORITY", [(Priority.ofLevel e.level).digit]) ::
  ("MESSAGE", Text.utf8 e.message) ::
  e.fields.map (fun (key, value) => (fieldName key, Text.utf8 value)) ++
  [("JSON", raw)]

/-- Appends an entry to a buffer. -/
def putEntry (buffer : List UInt8) (e : Entry) (raw : List UInt8) : List UInt8 :=
  (fields e raw).foldl (fun buffer (name, value) => putField buffer name value) buffer

/-- What the buffer held stays in front, and the fields stand behind it in order. -/
theorem putEntry_eq (buffer : List UInt8) (e : Entry) (raw : List UInt8) :
    putEntry buffer e raw =
      buffer ++ (fields e raw).flatMap fun (name, value) => field name value := by
  simp only [putEntry, putField, List.foldl_append_eq_append, List.flatMap_def]

end JournalSink.Wire
