import JournalSink.Json.Halt
import JournalSink.Text.Utf8

/-! # Strings

A string is passed over or read. Passing over it checks the form of its escapes
only; reading it also pairs surrogates and checks the encoding. Both start
behind the opening quote and end behind the closing one.
-/

namespace JournalSink.Json

def hex4 : List UInt8 → Except Halt (Nat × List UInt8)
  | a :: b :: c :: d :: r =>
    match Ascii.hexValue? a, Ascii.hexValue? b, Ascii.hexValue? c, Ascii.hexValue? d with
    | some a, some b, some c, some d => .ok (((a * 16 + b) * 16 + c) * 16 + d, r)
    | _, _, _, _ => halt .badEscape r
  | _ => halt .endInString []

theorem hex4_length {bytes r : List UInt8} {n : Nat} (h : hex4 bytes = .ok (n, r)) :
    r.length < bytes.length := by
  unfold hex4 halt at h
  split at h
  · split at h <;> simp_all
    omega
  · cases h

/-- What a backslash and one letter stand for. -/
def shortEscape? (b : UInt8) : Option UInt8 :=
  if b = Ascii.quote ∨ b = Ascii.backslash ∨ b = 0x2F then some b
  else if b = 0x62 then some 0x08
  else if b = 0x66 then some 0x0C
  else if b = 0x6E then some Ascii.newline
  else if b = 0x72 then some Ascii.carriageReturn
  else if b = 0x74 then some Ascii.tab
  else none

abbrev letterU : UInt8 := 0x75

def isLowSurrogate (n : Nat) : Bool :=
  0xDC00 ≤ n && n ≤ 0xDFFF

def isHighSurrogate (n : Nat) : Bool :=
  0xD800 ≤ n && n ≤ 0xDBFF

def joinSurrogates (high low : Nat) : Char :=
  Char.ofNat (0x10000 + (high - 0xD800) * 0x400 + (low - 0xDC00))

/-- Passes over what follows a backslash. -/
def skipEscape : List UInt8 → Except Halt (List UInt8)
  | [] => halt .endInString []
  | b :: r =>
    if b = letterU then
      match hex4 r with
      | .error e => .error e
      | .ok (_, r') => .ok r'
    else if (shortEscape? b).isSome then .ok r
    else halt .badEscape r

theorem skipEscape_length {bytes r : List UInt8} (h : skipEscape bytes = .ok r) :
    r.length < bytes.length := by
  cases bytes with
  | nil => cases h
  | cons b bytes =>
    simp only [skipEscape, halt] at h
    split at h
    · split at h
      · cases h
      · rename_i hx
        cases h
        exact Nat.lt_succ_of_lt (hex4_length hx)
    · split at h <;> cases h
      simp

def skipString (bytes : List UInt8) : Except Halt (List UInt8) :=
  match bytes with
  | [] => halt .endInString []
  | b :: r =>
    if b = Ascii.quote then .ok r
    else if b = Ascii.backslash then
      match _h : skipEscape r with
      | .error e => .error e
      | .ok r' => skipString r'
    else if b < Ascii.space then halt .controlCharacter (b :: r)
    else skipString r
termination_by bytes.length
decreasing_by
  · exact Nat.lt_succ_of_lt (skipEscape_length ‹_›)
  · simp

theorem skipString_length {bytes r : List UInt8} (h : skipString bytes = .ok r) :
    r.length < bytes.length := by
  fun_induction skipString bytes with
  | case1 => cases h
  | case2 => cases h; simp
  | case3 => cases h
  | case4 _ _ hr _ ih =>
    have := skipEscape_length hr
    have := ih h
    simp only [List.length_cons]
    omega
  | case5 => cases h
  | case6 _ _ _ _ _ ih => exact Nat.lt_succ_of_lt (ih h)

/-- Reads the four digits behind `\\u`, and the second half of a pair if they are the first. -/
def readUnicode (bytes : List UInt8) : Except Halt (Char × List UInt8) :=
  match hex4 bytes with
  | .error e => .error e
  | .ok (n, r) =>
    if isLowSurrogate n then halt .loneSurrogate r
    else if isHighSurrogate n then
      match r with
      | [] => halt .endInString []
      | b :: r =>
        if b = Ascii.backslash then
          match r with
          | [] => halt .endInString []
          | c :: r =>
            if c = letterU then
              match hex4 r with
              | .error e => .error e
              | .ok (m, r) =>
                if isLowSurrogate m then .ok (joinSurrogates n m, r) else halt .loneSurrogate r
            else halt .noSecondSurrogate r
        else halt .noSecondSurrogate r
    else .ok (Char.ofNat n, r)

theorem readUnicode_length {bytes r : List UInt8} {c : Char} (h : readUnicode bytes = .ok (c, r)) :
    r.length < bytes.length := by
  unfold readUnicode halt at h
  split at h
  · cases h
  · rename_i n r₁ h₁
    have := hex4_length h₁
    split at h
    · cases h
    · split at h
      · split at h
        · cases h
        · split at h
          · split at h
            · cases h
            · split at h
              · split at h
                · cases h
                · rename_i h₂
                  have := hex4_length h₂
                  split at h <;>
                    simp only [reduceCtorEq, Except.ok.injEq, Prod.mk.injEq] at h
                  obtain ⟨-, rfl⟩ := h
                  simp only [List.length_cons] at *
                  omega
              · cases h
          · cases h
      · simp only [Except.ok.injEq, Prod.mk.injEq] at h
        obtain ⟨-, rfl⟩ := h
        omega

/-- Reads what follows a backslash: the bytes that it stands for. -/
def readEscape : List UInt8 → Except Halt (List UInt8 × List UInt8)
  | [] => halt .endInString []
  | b :: r =>
    if b = letterU then
      match readUnicode r with
      | .error e => .error e
      | .ok (c, r') => .ok (String.utf8EncodeChar c, r')
    else
      match shortEscape? b with
      | some x => .ok ([x], r)
      | none => halt .badEscape r

theorem readEscape_length {bytes r x : List UInt8} (h : readEscape bytes = .ok (x, r)) :
    r.length < bytes.length := by
  cases bytes with
  | nil => cases h
  | cons b bytes =>
    simp only [readEscape, halt] at h
    split at h
    · split at h
      · cases h
      · rename_i hx
        cases h
        exact Nat.lt_succ_of_lt (readUnicode_length hx)
    · split at h <;> cases h
      simp

/-- Reads the content of a string; `done` is what was read before, backwards. -/
def readContent (done bytes : List UInt8) : Except Halt (List UInt8 × List UInt8) :=
  match bytes with
  | [] => halt .endInString []
  | b :: r =>
    if b = Ascii.quote then .ok (done.reverse, r)
    else if b = Ascii.backslash then
      match _h : readEscape r with
      | .error e => .error e
      | .ok (x, r') => readContent (x.reverse ++ done) r'
    else if b < Ascii.space then halt .controlCharacter r
    else readContent (b :: done) r
termination_by bytes.length
decreasing_by
  · exact Nat.lt_succ_of_lt (readEscape_length ‹_›)
  · simp

theorem readContent_length {done bytes x r : List UInt8} (h : readContent done bytes = .ok (x, r)) :
    r.length < bytes.length := by
  fun_induction readContent done bytes with
  | case1 => cases h
  | case2 => cases h; simp
  | case3 => cases h
  | case4 _ _ _ _ hr _ ih =>
    have := readEscape_length hr
    have := ih h
    simp only [List.length_cons]
    omega
  | case5 => cases h
  | case6 _ _ _ _ _ _ ih => exact Nat.lt_succ_of_lt (ih h)

/-- Reads a string. A byte that belongs to no character is placed as far before the end as the
content has bytes from it on, each escape counted by what it stands for. -/
def readString (bytes : List UInt8) : Except Halt (String × List UInt8) :=
  match readContent [] bytes with
  | .error e => .error e
  | .ok (x, r) =>
    match Text.ofUtf8? x with
    | some s => .ok (s, r)
    | none => halt .badEncoding (bytes.drop (bytes.length - (r.length + (Text.dropText x).length)))

theorem readString_length {bytes r : List UInt8} {s : String} (h : readString bytes = .ok (s, r)) :
    r.length < bytes.length := by
  unfold readString halt at h
  split at h
  · cases h
  · rename_i hx
    split at h <;> cases h
    exact readContent_length hx

end JournalSink.Json
