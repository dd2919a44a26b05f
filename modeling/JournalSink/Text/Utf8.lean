/-! # UTF-8

Texts and the bytes that spell them. A byte list spells at most one text, and
every text has one spelling.
-/

namespace JournalSink.Text

def utf8 (s : String) : List UInt8 :=
  s.toList.flatMap String.utf8EncodeChar

def ofUtf8? (bytes : List UInt8) : Option String :=
  String.fromUTF8? bytes.toByteArray

/-- The character spelled at the front, if there is one. -/
def firstChar? (bytes : List UInt8) : Option Char :=
  (bytes.take 4).toByteArray.utf8DecodeChar? 0

/-- What is left when characters are taken off the front until none is spelled there. -/
def dropText (bytes : List UInt8) : List UInt8 :=
  match bytes with
  | [] => []
  | b :: r =>
    match firstChar? (b :: r) with
    | some c => dropText ((b :: r).drop c.utf8Size)
    | none => b :: r
termination_by bytes.length
decreasing_by
  have := c.utf8Size_pos
  simp only [List.length_drop, List.length_cons]
  omega

theorem utf8_append (s t : String) : utf8 (s ++ t) = utf8 s ++ utf8 t := by
  simp [utf8, List.flatMap_append]

theorem toByteArray_utf8 (s : String) : (utf8 s).toByteArray = s.toByteArray := by
  rw [← String.utf8Encode_toList (b := s)]
  rfl

theorem ofUtf8?_utf8 (s : String) : ofUtf8? (utf8 s) = some s := by
  unfold ofUtf8?
  rw [toByteArray_utf8]
  simp [String.fromUTF8?, s.isValidUTF8, String.fromUTF8]

theorem ofUtf8?_eq_some_iff {bytes : List UInt8} {s : String} :
    ofUtf8? bytes = some s ↔ bytes = utf8 s := by
  constructor
  · intro h
    have hb : bytes.toByteArray = s.toByteArray := by
      unfold ofUtf8? String.fromUTF8? at h
      split at h
      · cases h; rfl
      · cases h
    rw [← toByteArray_utf8] at hb
    simpa using congrArg (fun b => b.data.toList) hb
  · rintro rfl
    exact ofUtf8?_utf8 s

end JournalSink.Text
