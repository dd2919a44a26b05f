import JournalSink.Wire.LittleEndian
import JournalSink.Text.Ascii

/-! # Reading the native wire form

Fields are taken from the front until nothing is left. A line with an equals
sign is a field by itself; any other line is the name of a framed value.
-/

namespace JournalSink.Wire

/-- Up to the first `b`, and behind it. -/
def cut? (b : UInt8) : List UInt8 → Option (List UInt8 × List UInt8)
  | [] => none
  | x :: r =>
    if x = b then some ([], r)
    else (cut? b r).map fun (before, after) => (x :: before, after)

theorem cut?_length {b : UInt8} {bytes before after : List UInt8}
    (h : cut? b bytes = some (before, after)) : after.length < bytes.length := by
  induction bytes generalizing before with
  | nil => cases h
  | cons x r ih =>
    unfold cut? at h
    split at h
    · cases h; simp
    · obtain ⟨⟨p, q⟩, hpq, he⟩ := Option.map_eq_some_iff.1 h
      cases he
      exact Nat.lt_succ_of_lt (ih hpq)

theorem cut?_append {b : UInt8} {before : List UInt8} (after : List UInt8) (h : b ∉ before) :
    cut? b (before ++ b :: after) = some (before, after) := by
  induction before with
  | nil => simp [cut?]
  | cons x r ih =>
    rw [List.mem_cons, not_or] at h
    simp [cut?, Ne.symm h.1, ih h.2]

theorem cut?_eq_none_iff {b : UInt8} {bytes : List UInt8} : cut? b bytes = none ↔ b ∉ bytes := by
  induction bytes with
  | nil => simp [cut?]
  | cons x r ih =>
    unfold cut?
    split
    · simp_all
    · rename_i hx
      simp [ih, Ne.symm hx]

/-- The value of a framed field, behind the line with its name. -/
def readFramed? (bytes : List UInt8) : Option (List UInt8 × List UInt8) :=
  let size := ofLittleEndian (bytes.take 8)
  let body := bytes.drop 8
  if 8 ≤ bytes.length ∧ size < body.length ∧ (body.drop size).head? = some Ascii.newline then
    some (body.take size, body.drop (size + 1))
  else none

theorem readFramed?_length {bytes value rest : List UInt8}
    (h : readFramed? bytes = some (value, rest)) : rest.length ≤ bytes.length := by
  simp only [readFramed?] at h
  split at h <;> cases h
  simp only [List.length_drop]
  omega

def readField? (bytes : List UInt8) : Option ((List UInt8 × List UInt8) × List UInt8) :=
  match cut? Ascii.newline bytes with
  | none => none
  | some (line, rest) =>
    match cut? Ascii.equals line with
    | some field => some (field, rest)
    | none =>
      match readFramed? rest with
      | some (value, rest) => some ((line, value), rest)
      | none => none

theorem readField?_length {bytes rest : List UInt8} {f : List UInt8 × List UInt8}
    (h : readField? bytes = some (f, rest)) : rest.length < bytes.length := by
  unfold readField? at h
  split at h
  · cases h
  · rename_i hc
    have := cut?_length hc
    split at h
    · cases h; omega
    · split at h <;> cases h
      rename_i hf
      have := readFramed?_length hf
      omega

/-- All fields in order, if the bytes are fields and nothing else. -/
def read? (bytes : List UInt8) : Option (List (List UInt8 × List UInt8)) :=
  match bytes with
  | [] => some []
  | b :: r =>
    match _h : readField? (b :: r) with
    | none => none
    | some (f, rest) => (read? rest).map (f :: ·)
termination_by bytes.length
decreasing_by
  exact readField?_length ‹_›

end JournalSink.Wire
