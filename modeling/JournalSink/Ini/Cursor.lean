import JournalSink.Text.Quoted

/-! # Places in an INI text

A cursor stands on a character or behind the last one. Its line and column count
the line breaks up to that character, and the characters behind the last break.
-/

namespace JournalSink.Ini

structure Cursor where
  rest : List Char
  line : Nat
  column : Nat
deriving DecidableEq, Repr

namespace Cursor

/-- Steps onto the first character of `rest` from the given line and column. -/
def arrive (line column : Nat) : List Char → Cursor
  | [] => ⟨[], line, column⟩
  | c :: r => if c = '\n' then ⟨c :: r, line + 1, 0⟩ else ⟨c :: r, line, column + 1⟩

def start (text : List Char) : Cursor :=
  arrive 0 0 text

def next (c : Cursor) : Cursor :=
  arrive c.line c.column c.rest.tail

@[simp] theorem arrive_rest (line column : Nat) (rest : List Char) :
    (arrive line column rest).rest = rest := by
  cases rest with
  | nil => rfl
  | cons c r => simp only [arrive]; split <;> rfl

@[simp] theorem start_rest (text : List Char) : (start text).rest = text :=
  arrive_rest _ _ _

@[simp] theorem next_rest (c : Cursor) : c.next.rest = c.rest.tail :=
  arrive_rest _ _ _

theorem next_length_le (c : Cursor) : c.next.rest.length ≤ c.rest.length := by
  simp

theorem next_length_lt {c : Cursor} {x : Char} {r : List Char} (h : c.rest = x :: r) :
    c.next.rest.length < c.rest.length := by
  simp [h]

/-- Moves on while characters satisfy `p`. -/
def skipWhile (p : Char → Bool) (c : Cursor) : Cursor :=
  match _h : c.rest with
  | [] => c
  | x :: _ => if p x then skipWhile p c.next else c
termination_by c.rest.length
decreasing_by exact next_length_lt ‹_›

theorem skipWhile_length_le (p : Char → Bool) (c : Cursor) :
    (c.skipWhile p).rest.length ≤ c.rest.length := by
  fun_induction skipWhile p c with
  | case1 => exact Nat.le_refl _
  | case2 c _ _ _ _ ih => exact Nat.le_trans ih c.next_length_le
  | case3 => exact Nat.le_refl _

theorem skipWhile_length_lt {p : Char → Bool} {c : Cursor} {x : Char} {r : List Char}
    (h : c.rest = x :: r) (hx : p x = true) : (c.skipWhile p).rest.length < c.rest.length := by
  unfold skipWhile
  split
  · simp_all
  · rename_i y _ hy
    obtain rfl : x = y := by rw [h] at hy; exact (List.cons.inj hy).1
    rw [if_pos hx]
    exact Nat.lt_of_le_of_lt (skipWhile_length_le _ _) (next_length_lt h)

end Cursor

/-- What ends a part of the text. -/
inductive Mark
  /-- The sign between a key and its value. -/
  | assignment
  | bracket
  | lineEnd
  | quote (q : Char)
deriving DecidableEq, Repr

namespace Mark

def characters : Mark → List Char
  | assignment => ['=', ':']
  | bracket => [']']
  | lineEnd => ['\n', '\r']
  | quote q => [q]

/-- The end of the text will do as well. -/
def allowsEnd : Mark → Bool
  | lineEnd => true
  | _ => false

def optionText : Option Char → String
  | some c => "Some(" ++ Text.quotedChar c ++ ")"
  | none => "None"

def text (m : Mark) : String :=
  let marks := m.characters.map some ++ if m.allowsEnd then [none] else []
  "[" ++ ", ".intercalate (marks.map optionText) ++ "]"

end Mark

inductive Cause
  | endBefore (m : Mark)
  | noLineBreak (found : Option Char)
  | badCode
  | inlineComment
  | missingKey
deriving DecidableEq, Repr

def Cause.text : Cause → String
  | endBefore m => "expecting \"" ++ m.text ++ "\" but found EOF."
  | noLineBreak found => "expecting \"\\\\n\" but found \"" ++ Mark.optionText found ++ "\"."
  | badCode => "unknown character in \\xHH form"
  | inlineComment => "doesn't support inline comment"
  | missingKey => "missing key"

/-- Why a text is refused, and where. -/
structure Fault where
  cause : Cause
  line : Nat
  column : Nat
deriving DecidableEq, Repr

def Fault.message (f : Fault) : String :=
  toString f.line ++ ":" ++ toString f.column ++ " " ++ f.cause.text

def Cursor.fault (c : Cursor) (cause : Cause) : Fault :=
  ⟨cause, c.line + 1, c.column + 1⟩

end JournalSink.Ini
