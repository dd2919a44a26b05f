import JournalSink.Json.Found

/-! # Documents

A document is one object. Its members are read in order, each with the text of
its value: the content of a string, or the source of anything else.
-/

namespace JournalSink.Json

structure Member where
  key : String
  text : String
deriving DecidableEq, Repr

/-- Why a document is refused. A string value is read by itself, so its places are its own. -/
inductive Refusal
  | malformed (h : Halt)
  | noObject (found : Found) (rest : List UInt8)
  | badValue (source : List UInt8) (h : Halt)

def refuse {α : Type} (cause : Cause) (rest : List UInt8) : Except Refusal α :=
  .error (.malformed ⟨cause, rest⟩)

/-- The text of a value whose source is `source`; `rest` follows it. -/
def valueText (source rest : List UInt8) : Except Refusal String :=
  match Text.ofUtf8? source with
  | none => refuse .badEncoding ((Text.dropText source).tail ++ rest)
  | some s =>
    match source with
    | [] => .ok s
    | b :: r =>
      if b = Ascii.quote then
        match readString r with
        | .error h => .error (.badValue source h)
        | .ok (content, _) => .ok content
      else .ok s

/-- Reads a key; blanks before it are passed over already. -/
def readKey : List UInt8 → Except Refusal (String × List UInt8)
  | [] => refuse .endInValue []
  | b :: r =>
    if b = Ascii.quote then
      match readString r with
      | .error h => .error (.malformed h)
      | .ok (key, r) =>
        match skipBlank r with
        | [] => refuse .endInObject []
        | c :: r => if c = Ascii.colon then .ok (key, r) else refuse .noColon r
    else if b = Ascii.closeBrace then refuse .trailingComma r
    else refuse .keyNotString r

def readMember (bytes : List UInt8) : Except Refusal (Member × List UInt8) :=
  match readKey bytes with
  | .error e => .error e
  | .ok (key, r) =>
    let start := skipBlank r
    match skipValue start with
    | .error h => .error (.malformed h)
    | .ok rest =>
      match valueText (start.take (start.length - rest.length)) rest with
      | .error e => .error e
      | .ok text => .ok (⟨key, text⟩, rest)

theorem readKey_length {bytes r : List UInt8} {key : String} (h : readKey bytes = .ok (key, r)) :
    r.length < bytes.length := by
  cases bytes with
  | nil => cases h
  | cons b bytes =>
    simp only [readKey, refuse] at h
    split at h
    · split at h
      · cases h
      · rename_i hs
        have := readString_length hs
        split at h
        · cases h
        · rename_i hb
          have := skipBlank_tail_length hb
          split at h <;> cases h
          simp only [List.length_cons]
          omega
    · split at h <;> cases h

theorem readMember_length {bytes r : List UInt8} {m : Member} (h : readMember bytes = .ok (m, r)) :
    r.length < bytes.length := by
  unfold readMember at h
  split at h
  · cases h
  · rename_i r₁ hk
    dsimp only at h
    split at h
    · cases h
    · rename_i hv
      have := readKey_length hk
      have := skipBlank_length_le r₁
      have := skipDue_length_le hv
      split at h <;> cases h
      omega

/-- Reads members up to the closing brace; `done` holds those before, last one first. -/
def readMembers (done : List Member) (bytes : List UInt8) :
    Except Refusal (List Member × List UInt8) :=
  match _hm : readMember bytes with
  | .error e => .error e
  | .ok (m, r) =>
    match _hb : skipBlank r with
    | [] => refuse .endInObject []
    | b :: r' =>
      if b = Ascii.closeBrace then .ok ((m :: done).reverse, r')
      else if b = Ascii.comma then readMembers (m :: done) (skipBlank r')
      else refuse .noObjectSeparator r'
termination_by bytes.length
decreasing_by
  exact Nat.lt_of_le_of_lt (skipBlank_length_le _)
    (Nat.lt_trans (skipBlank_tail_length ‹_›) (readMember_length ‹_›))

/-- Reads an object behind its opening brace. -/
def readObject (bytes : List UInt8) : Except Refusal (List Member × List UInt8) :=
  match skipBlank bytes with
  | [] => refuse .endInObject []
  | b :: r => if b = Ascii.closeBrace then .ok ([], r) else readMembers [] (b :: r)

def readDocument (bytes : List UInt8) : Except Refusal (List Member) :=
  match skipBlank bytes with
  | [] => refuse .endInValue []
  | b :: r =>
    if b = Ascii.openBrace then
      match readObject r with
      | .error e => .error e
      | .ok (members, rest) =>
        match skipBlank rest with
        | [] => .ok members
        | _ :: rest => refuse .trailingCharacters rest
    else
      match readFound b r with
      | .error h => .error (.malformed h)
      | .ok (found, rest) => .error (.noObject found rest)

end JournalSink.Json
