import JournalSink.Json.Object

/-! # The grammar of documents

JSON by its rules alone, over bytes. The grammar asks of the escapes in a string
only their form; what a string stands for, and whether its surrogates are paired,
is said apart from it. Every rule keeps the source that it was made from.
-/

namespace JournalSink.Json

def Blanks (s : List UInt8) : Prop :=
  ∀ b ∈ s, b ∈ [Ascii.space, Ascii.newline, Ascii.tab, Ascii.carriageReturn]

/-! ## Numbers -/

def IsDigit (b : UInt8) : Prop :=
  0x30 ≤ b ∧ b ≤ 0x39

def Digits (s : List UInt8) : Prop :=
  ∀ b ∈ s, IsDigit b

/-- Zero by itself, or digits that do not start with it. -/
inductive Whole : List UInt8 → Prop
  | zero : Whole [Ascii.zero]
  | digits {d : UInt8} {s : List UInt8} : IsDigit d → d ≠ Ascii.zero → Digits s →
      Whole (d :: s)

inductive Fraction : List UInt8 → Prop
  | absent : Fraction []
  | digits {d : UInt8} {s : List UInt8} : IsDigit d → Digits s →
      Fraction (Ascii.dot :: d :: s)

inductive Exponent : List UInt8 → Prop
  | absent : Exponent []
  | digits {e d : UInt8} {sign s : List UInt8} : e ∈ [0x65, 0x45] →
      sign ∈ [[], [Ascii.plus], [Ascii.minus]] → IsDigit d → Digits s →
      Exponent (e :: sign ++ d :: s)

inductive Number : List UInt8 → Prop
  | mk {sign whole fraction exponent : List UInt8} : sign ∈ [[], [Ascii.minus]] → Whole whole →
      Fraction fraction → Exponent exponent → Number (sign ++ (whole ++ (fraction ++ exponent)))

/-! ## Strings -/

def IsPlain (b : UInt8) : Prop :=
  Ascii.space ≤ b ∧ b ≠ Ascii.quote ∧ b ≠ Ascii.backslash

/-- The letters of the short escapes, and the bytes that they stand for. -/
def shortEscapes : List (UInt8 × UInt8) :=
  [(Ascii.quote, Ascii.quote), (Ascii.backslash, Ascii.backslash), (0x2F, 0x2F), (0x62, 0x08),
    (0x66, 0x0C), (0x6E, Ascii.newline), (0x72, Ascii.carriageReturn), (0x74, Ascii.tab)]

/-- The hexadecimal digits, and the numbers that they stand for. -/
def hexDigits : List (UInt8 × Nat) :=
  [(0x30, 0), (0x31, 1), (0x32, 2), (0x33, 3), (0x34, 4), (0x35, 5), (0x36, 6), (0x37, 7),
    (0x38, 8), (0x39, 9), (0x41, 10), (0x42, 11), (0x43, 12), (0x44, 13), (0x45, 14), (0x46, 15),
    (0x61, 10), (0x62, 11), (0x63, 12), (0x64, 13), (0x65, 14), (0x66, 15)]

/-- The number written by four hexadecimal digits. -/
def code? (a b c d : UInt8) : Option Nat := do
  let a ← hexDigits.lookup a
  let b ← hexDigits.lookup b
  let c ← hexDigits.lookup c
  let d ← hexDigits.lookup d
  return ((a * 16 + b) * 16 + c) * 16 + d

def IsHigh (n : Nat) : Prop :=
  0xD800 ≤ n ∧ n ≤ 0xDBFF

def IsLow (n : Nat) : Prop :=
  0xDC00 ≤ n ∧ n ≤ 0xDFFF

def IsSurrogate (n : Nat) : Prop :=
  IsHigh n ∨ IsLow n

/-- What may stand between the quotes of a string. -/
inductive Content : List UInt8 → Prop
  | nil : Content []
  | plain {b : UInt8} {s : List UInt8} : IsPlain b → Content s → Content (b :: s)
  | short {b x : UInt8} {s : List UInt8} : (b, x) ∈ shortEscapes → Content s →
      Content (Ascii.backslash :: b :: s)
  | code {a b c d : UInt8} {n : Nat} {s : List UInt8} : code? a b c d = some n → Content s →
      Content (Ascii.backslash :: letterU :: a :: b :: c :: d :: s)

/-- Surrogates are escaped only in pairs, the high one before the low one. -/
inductive Paired : List UInt8 → Prop
  | nil : Paired []
  | plain {b : UInt8} {s : List UInt8} : b ≠ Ascii.backslash → Paired s → Paired (b :: s)
  | short {b : UInt8} {s : List UInt8} : b ≠ letterU → Paired s → Paired (Ascii.backslash :: b :: s)
  | code {a b c d : UInt8} {n : Nat} {s : List UInt8} : code? a b c d = some n →
      ¬ IsSurrogate n → Paired s → Paired (Ascii.backslash :: letterU :: a :: b :: c :: d :: s)
  | pair {a b c d a' b' c' d' : UInt8} {high low : Nat} {s : List UInt8} :
      code? a b c d = some high → IsHigh high → code? a' b' c' d' = some low → IsLow low →
      Paired s →
      Paired (Ascii.backslash :: letterU :: a :: b :: c :: d ::
        Ascii.backslash :: letterU :: a' :: b' :: c' :: d' :: s)

/-- The bytes that a content stands for. -/
inductive Unescapes : List UInt8 → List UInt8 → Prop
  | nil : Unescapes [] []
  | plain {b : UInt8} {s t : List UInt8} : IsPlain b → Unescapes s t → Unescapes (b :: s) (b :: t)
  | short {b x : UInt8} {s t : List UInt8} : (b, x) ∈ shortEscapes → Unescapes s t →
      Unescapes (Ascii.backslash :: b :: s) (x :: t)
  | code {a b c d : UInt8} {n : Nat} {s t : List UInt8} : code? a b c d = some n →
      ¬ IsSurrogate n → Unescapes s t →
      Unescapes (Ascii.backslash :: letterU :: a :: b :: c :: d :: s)
        (String.utf8EncodeChar (Char.ofNat n) ++ t)
  | pair {a b c d a' b' c' d' : UInt8} {high low : Nat} {s t : List UInt8} :
      code? a b c d = some high → IsHigh high → code? a' b' c' d' = some low → IsLow low →
      Unescapes s t →
      Unescapes (Ascii.backslash :: letterU :: a :: b :: c :: d ::
          Ascii.backslash :: letterU :: a' :: b' :: c' :: d' :: s)
        (String.utf8EncodeChar
          (Char.ofNat (0x10000 + (high - 0xD800) * 0x400 + (low - 0xDC00))) ++ t)

/-- A content stands for a text. -/
def Spells (s : List UInt8) (t : String) : Prop :=
  Unescapes s (Text.utf8 t)

def quoted (s : List UInt8) : List UInt8 :=
  Ascii.quote :: s ++ [Ascii.quote]

/-! ## Values -/

def words : List (List UInt8) :=
  ["null", "true", "false"].map Text.utf8

/-- A member as it is written: what its key holds between the quotes, and the value. -/
structure Spelling where
  key : List UInt8
  value : List UInt8
deriving DecidableEq, Repr

/-- What can be derived: a value, or what stands between brackets or braces that are not empty. -/
inductive Phrase
  | value
  | elements
  | members (ms : List Spelling)

inductive Derives : Phrase → List UInt8 → Prop
  | word {s : List UInt8} : s ∈ words → Derives .value s
  | number {s : List UInt8} : Number s → Derives .value s
  | string {s : List UInt8} : Content s → Derives .value (quoted s)
  | emptyList {a : List UInt8} : Blanks a →
      Derives .value (Ascii.openBracket :: a ++ [Ascii.closeBracket])
  | list {s : List UInt8} : Derives .elements s →
      Derives .value (Ascii.openBracket :: s ++ [Ascii.closeBracket])
  | emptyObject {a : List UInt8} : Blanks a →
      Derives .value (Ascii.openBrace :: a ++ [Ascii.closeBrace])
  | object {s : List UInt8} {ms : List Spelling} : Derives (.members ms) s →
      Derives .value (Ascii.openBrace :: s ++ [Ascii.closeBrace])
  | lastElement {a v b : List UInt8} : Blanks a → Derives .value v → Blanks b →
      Derives .elements (a ++ v ++ b)
  | element {a v b s : List UInt8} : Blanks a → Derives .value v → Blanks b →
      Derives .elements s → Derives .elements (a ++ v ++ b ++ Ascii.comma :: s)
  | lastMember {a k b c v d : List UInt8} : Blanks a → Content k → Blanks b → Blanks c →
      Derives .value v → Blanks d →
      Derives (.members [⟨k, v⟩]) (a ++ quoted k ++ b ++ Ascii.colon :: c ++ v ++ d)
  | member {a k b c v d s : List UInt8} {ms : List Spelling} : Blanks a → Content k → Blanks b →
      Blanks c → Derives .value v → Blanks d → Derives (.members ms) s →
      Derives (.members (⟨k, v⟩ :: ms))
        (a ++ quoted k ++ b ++ Ascii.colon :: c ++ v ++ d ++ Ascii.comma :: s)

/-- A document: one object with the given members, and blanks around it. -/
def Document (raw : List UInt8) (ms : List Spelling) : Prop :=
  ∃ a body b, Blanks a ∧ Blanks b ∧
    raw = a ++ Ascii.openBrace :: body ++ Ascii.closeBrace :: b ∧
    (Blanks body ∧ ms = [] ∨ Derives (.members ms) body)

/-- The text of a value: what a string spells, and the source of anything else. -/
inductive HasText : List UInt8 → String → Prop
  | string {s : List UInt8} {t : String} : Spells s t → HasText (quoted s) t
  | source {t : String} : (Text.utf8 t).head? ≠ some Ascii.quote → HasText (Text.utf8 t) t

namespace Spelling

/-- The surrogates of the key, and of the value if it is a string, are paired. -/
def IsPaired (m : Spelling) : Prop :=
  Paired m.key ∧ ∀ s, m.value = quoted s → Paired s

/-- A member as it is written, and as it is read. -/
def Means (m : Spelling) (x : Member) : Prop :=
  Spells m.key x.key ∧ HasText m.value x.text

end Spelling

end JournalSink.Json
