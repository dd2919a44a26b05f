import JournalSink.Json.Number
import JournalSink.Json.Text

/-! # Values passed over

A value of any depth is passed over with an explicit stack of the lists and
objects that are still open, innermost first.
-/

namespace JournalSink.Json

inductive Frame
  | list
  | object
deriving DecidableEq, Repr

namespace Frame

def closer : Frame → UInt8
  | list => Ascii.closeBracket
  | object => Ascii.closeBrace

def endCause : Frame → Cause
  | list => .endInList
  | object => .endInObject

def separatorCause : Frame → Cause
  | list => .noListSeparator
  | object => .noObjectSeparator

end Frame

/-- Passes over the rest of a literal word. -/
def skipWord : List UInt8 → List UInt8 → Except Halt (List UInt8)
  | [], bytes => .ok bytes
  | _ :: _, [] => halt .endInValue []
  | w :: word, b :: r => if b = w then skipWord word r else halt .badWord r

/-- What follows the first letter of `null`, `true` and `false`. -/
def wordTail? (b : UInt8) : Option (List UInt8) :=
  if b = 0x6E then some [0x75, 0x6C, 0x6C]
  else if b = 0x74 then some [0x72, 0x75, 0x65]
  else if b = 0x66 then some [0x61, 0x6C, 0x73, 0x65]
  else none

/-- Passes over a word, number or string whose first byte is `b`. -/
def skipScalar (b : UInt8) (r : List UInt8) : Except Halt (List UInt8) :=
  match wordTail? b with
  | some word => skipWord word r
  | none =>
    if b = Ascii.minus then skipNumber r
    else if Ascii.isDigit b then skipNumber (b :: r)
    else if b = Ascii.quote then skipString r
    else halt .noValue r

/-- Passes over a key and its colon. -/
def skipKey (bytes : List UInt8) : Except Halt (List UInt8) :=
  match skipBlank bytes with
  | [] => halt .endInObject []
  | b :: r =>
    if b = Ascii.quote then
      match skipString r with
      | .error e => .error e
      | .ok r =>
        match skipBlank r with
        | [] => halt .endInObject []
        | c :: r => if c = Ascii.colon then .ok r else halt .noColon r
    else halt .keyNotString r

/-- Passes over what stands before a value of a list or an object. -/
def Frame.skipLabel : Frame → List UInt8 → Except Halt (List UInt8)
  | .list, bytes => .ok bytes
  | .object, bytes => skipKey bytes

theorem skipWord_length_le {word bytes r : List UInt8} (h : skipWord word bytes = .ok r) :
    r.length ≤ bytes.length := by
  induction word generalizing bytes with
  | nil => cases h; exact Nat.le_refl _
  | cons w word ih =>
    cases bytes with
    | nil => cases h
    | cons b bytes =>
      simp only [skipWord, halt] at h
      split at h
      · exact Nat.le_succ_of_le (ih h)
      · cases h

theorem skipScalar_length_le {b : UInt8} {bytes r : List UInt8} (h : skipScalar b bytes = .ok r) :
    r.length ≤ bytes.length := by
  unfold skipScalar halt at h
  split at h
  · exact skipWord_length_le h
  · split at h
    · exact Nat.le_of_lt (skipNumber_length h)
    · split at h
      · exact Nat.le_of_lt_succ (skipNumber_length h)
      · split at h
        · exact Nat.le_of_lt (skipString_length h)
        · cases h

theorem skipKey_length_le {bytes r : List UInt8} (h : skipKey bytes = .ok r) :
    r.length ≤ bytes.length := by
  have hb := skipBlank_length_le bytes
  unfold skipKey halt at h
  split at h
  · cases h
  · rename_i heq
    rw [heq] at hb
    split at h
    · split at h
      · cases h
      · rename_i r₁ hs
        have := skipString_length hs
        have hb₁ := skipBlank_length_le r₁
        split at h
        · cases h
        · rename_i heq₁
          rw [heq₁] at hb₁
          split at h <;> cases h
          simp only [List.length_cons] at *
          omega
    · cases h

theorem Frame.skipLabel_length_le {f : Frame} {bytes r : List UInt8}
    (h : f.skipLabel bytes = .ok r) : r.length ≤ bytes.length := by
  cases f with
  | list => cases h; exact Nat.le_refl _
  | object => exact skipKey_length_le h

/-- What is due next: a value, what follows an opening bracket, or what follows a value. -/
inductive Due
  | value
  | first (f : Frame)
  | next

def Due.rank : Due → Nat
  | value => 0
  | first _ => 1
  | next => 1

def skipDue (due : Due) (stack : List Frame) (bytes : List UInt8) : Except Halt (List UInt8) :=
  match due, stack with
  | .value, stack =>
    match _hb : skipBlank bytes with
    | [] => halt .endInValue []
    | b :: r =>
      if b = Ascii.openBracket then skipDue (.first .list) stack r
      else if b = Ascii.openBrace then skipDue (.first .object) stack r
      else
        match _hs : skipScalar b r with
        | .error e => .error e
        | .ok r' => skipDue .next stack r'
  | .first f, stack =>
    match _hb : skipBlank bytes with
    | [] => halt f.endCause []
    | b :: r =>
      if b = f.closer then skipDue .next stack r
      else
        match _hs : f.skipLabel (b :: r) with
        | .error e => .error e
        | .ok r' => skipDue .value (f :: stack) r'
  | .next, [] => .ok bytes
  | .next, f :: stack =>
    match _hb : skipBlank bytes with
    | [] => halt f.endCause []
    | b :: r =>
      if b = Ascii.comma then
        match _hs : f.skipLabel r with
        | .error e => .error e
        | .ok r' => skipDue .value (f :: stack) r'
      else if b = f.closer then skipDue .next stack r
      else halt f.separatorCause r
termination_by (bytes.length, due.rank)
decreasing_by
  all_goals have hb := skipBlank_tail_length ‹_›
  · exact Prod.Lex.left _ _ hb
  · exact Prod.Lex.left _ _ hb
  · exact Prod.Lex.left _ _ (Nat.lt_of_le_of_lt (skipScalar_length_le ‹_›) hb)
  · exact Prod.Lex.left _ _ hb
  · rcases Nat.lt_or_eq_of_le (Nat.le_trans (Frame.skipLabel_length_le ‹_›) hb) with hlt | heq
    · exact Prod.Lex.left _ _ hlt
    · exact heq ▸ Prod.Lex.right _ Nat.zero_lt_one
  · exact Prod.Lex.left _ _ (Nat.lt_of_le_of_lt (Frame.skipLabel_length_le ‹_›) hb)
  · exact Prod.Lex.left _ _ hb

theorem skipDue_length_le {due : Due} {stack : List Frame} {bytes r : List UInt8}
    (h : skipDue due stack bytes = .ok r) : r.length ≤ bytes.length := by
  fun_induction skipDue due stack bytes with
  | case1 | case4 | case6 | case8 | case11 | case12 | case15 => cases h
  | case10 => cases h; exact Nat.le_refl _
  | case2 _ _ _ hb ih | case3 _ _ _ hb _ ih | case7 _ _ _ _ hb ih | case14 _ _ _ _ hb _ ih =>
    exact Nat.le_of_lt (Nat.lt_of_le_of_lt (ih h) (skipBlank_tail_length hb))
  | case5 _ _ _ _ hb _ _ _ hs ih =>
    exact Nat.le_of_lt (Nat.lt_of_le_of_lt (Nat.le_trans (ih h) (skipScalar_length_le hs))
      (skipBlank_tail_length hb))
  | case9 _ _ _ _ _ hb _ _ hl ih =>
    exact Nat.le_trans (Nat.le_trans (ih h) (Frame.skipLabel_length_le hl))
      (skipBlank_tail_length hb)
  | case13 _ _ _ _ _ hl hb ih =>
    exact Nat.le_of_lt (Nat.lt_of_le_of_lt (Nat.le_trans (ih h) (Frame.skipLabel_length_le hl))
      (skipBlank_tail_length hb))

def skipValue (bytes : List UInt8) : Except Halt (List UInt8) :=
  skipDue .value [] bytes

end JournalSink.Json
