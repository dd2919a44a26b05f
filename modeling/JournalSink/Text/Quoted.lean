import JournalSink.Text.Extender
import JournalSink.Text.Unprintable

/-! # Quoted text

A text between quotes, as diagnostics show it. A character that could not be
seen in a terminal, or that would merge with the one before it, is written by
its code point in hexadecimal.
-/

namespace JournalSink.Text

def inRanges (ranges : List (Nat × Nat)) (n : Nat) : Bool :=
  ranges.any fun (lo, hi) => lo ≤ n && n ≤ hi

def isPrintable (c : Char) : Bool :=
  if c.toNat < 0x7F then 0x20 ≤ c.toNat else !inRanges unprintableRanges c.toNat

def isExtender (c : Char) : Bool :=
  0x300 ≤ c.toNat && inRanges extenderRanges c.toNat

def escapeCode (c : Char) : String :=
  "\\u\x7b" ++ String.ofList (Nat.toDigits 16 c.toNat) ++ "\x7d"

/-- How one character stands between quotes of the given kind. -/
def escapeFor (quote c : Char) : String :=
  if c = '\x00' then "\\0"
  else if c = '\t' then "\\t"
  else if c = '\r' then "\\r"
  else if c = '\n' then "\\n"
  else if c = '\\' then "\\\\"
  else if c = quote then String.ofList ['\\', c]
  else if isExtender c || !isPrintable c then escapeCode c
  else String.singleton c

def quoted (s : String) : String :=
  "\"" ++ String.join (s.toList.map (escapeFor '\x22')) ++ "\""

def quotedChar (c : Char) : String :=
  "'" ++ escapeFor '\x27' c ++ "'"

end JournalSink.Text
