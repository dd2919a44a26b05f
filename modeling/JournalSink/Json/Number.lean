import JournalSink.Json.Halt

/-! # Numbers passed over

The parts of a number in order: whole part, fraction, exponent. Each part is
checked for its form; no value is computed.
-/

namespace JournalSink.Json

def startsWithDigit : List UInt8 → Bool
  | [] => false
  | b :: _ => Ascii.isDigit b

def isExponentMark (b : UInt8) : Bool :=
  b == 0x65 || b == 0x45

theorem isExponentMark_iff {b : UInt8} : isExponentMark b = true ↔ b ∈ [0x65, 0x45] := by
  simp [isExponentMark]

def skipDigits (bytes : List UInt8) : List UInt8 :=
  bytes.dropWhile Ascii.isDigit

def skipSign : List UInt8 → List UInt8
  | [] => []
  | b :: r => if b = Ascii.plus ∨ b = Ascii.minus then r else b :: r

/-- A leading zero is the whole part by itself. -/
def skipWhole : List UInt8 → Except Halt (List UInt8)
  | [] => halt .badNumber []
  | b :: r =>
    if b = Ascii.zero then
      if startsWithDigit r then halt .badNumber r.tail else .ok r
    else if Ascii.isDigit b then .ok (skipDigits r)
    else halt .badNumber r

def skipFraction : List UInt8 → Except Halt (List UInt8)
  | [] => .ok []
  | b :: r =>
    if b = Ascii.dot then
      if startsWithDigit r then .ok (skipDigits r) else halt .badNumber r.tail
    else .ok (b :: r)

def skipExponent : List UInt8 → Except Halt (List UInt8)
  | [] => .ok []
  | b :: r =>
    if isExponentMark b then
      match skipSign r with
      | [] => halt .badNumber []
      | d :: r => if Ascii.isDigit d then .ok (skipDigits r) else halt .badNumber r
    else .ok (b :: r)

/-- Passes over a number without its sign. -/
def skipNumber (bytes : List UInt8) : Except Halt (List UInt8) := do
  let r ← skipWhole bytes
  let r ← skipFraction r
  skipExponent r

theorem skipDigits_length_le (bytes : List UInt8) : (skipDigits bytes).length ≤ bytes.length :=
  (List.dropWhile_suffix _).length_le

theorem skipSign_length_le (bytes : List UInt8) : (skipSign bytes).length ≤ bytes.length := by
  unfold skipSign
  split
  · simp
  · split <;> simp

theorem skipWhole_length {bytes r : List UInt8} (h : skipWhole bytes = .ok r) :
    r.length < bytes.length := by
  cases bytes with
  | nil => cases h
  | cons b bytes =>
    have := skipDigits_length_le bytes
    simp only [skipWhole, halt] at h
    split at h
    · split at h <;> cases h
      simp
    · split at h <;> cases h
      simp only [List.length_cons]
      omega

theorem skipFraction_length_le {bytes r : List UInt8} (h : skipFraction bytes = .ok r) :
    r.length ≤ bytes.length := by
  cases bytes with
  | nil => cases h; simp
  | cons b bytes =>
    have := skipDigits_length_le bytes
    simp only [skipFraction, halt] at h
    split at h
    · split at h <;> cases h
      simp only [List.length_cons]
      omega
    · cases h
      simp

theorem skipExponent_length_le {bytes r : List UInt8} (h : skipExponent bytes = .ok r) :
    r.length ≤ bytes.length := by
  cases bytes with
  | nil => cases h; simp
  | cons b bytes =>
    have hs := skipSign_length_le bytes
    simp only [skipExponent, halt] at h
    split at h
    · split at h
      · cases h
      · rename_i d rest heq
        have := skipDigits_length_le rest
        rw [heq] at hs
        split at h <;> cases h
        simp only [List.length_cons] at *
        omega
    · cases h
      simp

theorem skipNumber_length {bytes r : List UInt8} (h : skipNumber bytes = .ok r) :
    r.length < bytes.length := by
  unfold skipNumber at h
  cases hw : skipWhole bytes with
  | error e => rw [hw] at h; cases h
  | ok r₁ =>
    rw [hw] at h
    cases hf : skipFraction r₁ with
    | error e => simp [hf, bind, Except.bind] at h
    | ok r₂ =>
      simp only [hf, bind, Except.bind] at h
      have := skipWhole_length hw
      have := skipFraction_length_le hf
      have := skipExponent_length_le h
      omega

end JournalSink.Json
