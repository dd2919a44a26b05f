import JournalSink.Text.CaseTable

/-! # Uppercase

The full uppercase mapping, character by character and without regard to
context: a capital may be written with up to three characters.
-/

namespace JournalSink.Text

def upperChar (c : Char) : List Char :=
  if c.toNat < 0x80 then
    [c.toUpper]
  else
    match caseExpansions.lookup c.toNat with
    | some codes => codes.map Char.ofNat
    | none =>
      match caseRuns.find? (·.covers c.toNat) with
      | some run => [Char.ofNat (run.image c.toNat)]
      | none => [c]

def uppercase (s : String) : String :=
  String.ofList (s.toList.flatMap upperChar)

theorem uppercase_append (s t : String) : uppercase (s ++ t) = uppercase s ++ uppercase t := by
  simp [uppercase, List.flatMap_append, String.ofList_append]

end JournalSink.Text
