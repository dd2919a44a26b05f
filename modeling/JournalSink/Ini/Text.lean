import JournalSink.Ini.Cursor
import JournalSink.Text.Ascii
import JournalSink.Text.Blank

/-! # Parts of an INI text

Text is read up to a mark. A backslash gives the next character a meaning of its
own: some letters stand for controls, `x` for a code point in four hexadecimal
digits, and a line break for nothing at all.
-/

namespace JournalSink.Ini

/-- What was read, or why reading stopped, and where. -/
abbrev Reading (α : Type) : Type :=
  Except Cause α × Cursor

def letterEscape? (c : Char) : Option Char :=
  [('0', '\x00'), ('a', '\x07'), ('b', '\x08'), ('t', '\t'), ('r', '\r'), ('n', '\n')].lookup c

def hexValue? (c : Char) : Option Nat :=
  if c.toNat < 0x80 then Ascii.hexValue? c.toNat.toUInt8 else none

/-- The character with the given code; a plus sign before the digits is allowed. -/
def ofCode? (code : List Char) : Option Char :=
  let digits := if code.head? = some '+' ∧ code.tail ≠ [] then code.tail else code
  match digits.mapM hexValue? with
  | none => none
  | some values =>
    let n := values.foldl (fun n d => n * 16 + d) 0
    if n.isValidChar then some (Char.ofNat n) else none

/-- Reads `count` characters behind the cursor. A backslash among them must end its line. -/
def readCode (m : Mark) : Nat → List Char → Cursor → Reading Char
  | 0, code, c =>
    match ofCode? code with
    | some x => (.ok x, c.next)
    | none => (.error .badCode, c)
  | count + 1, code, c =>
    match c.next.rest with
    | [] => (.error (.endBefore m), c.next)
    | x :: r =>
      if x = '\\' then
        if r.head? = some '\n' then readCode m count (code ++ [x]) c.next.next
        else (.error (.noLineBreak r.head?), c.next.next)
      else readCode m count (code ++ [x]) c.next

/-- Reads what follows a backslash. At the end of the text it stands for itself. -/
def readEscape (m : Mark) (c : Cursor) : Reading (List Char) :=
  match c.rest with
  | [] => (if m.allowsEnd then .ok ['\\'] else .error (.endBefore m), c)
  | x :: _ =>
    if x = 'x' then
      match readCode m 4 [] c with
      | (.ok y, c) => (.ok [y], c)
      | (.error e, c) => (.error e, c)
    else if x = '\n' then (.ok [], c.next)
    else (.ok [(letterEscape? x).getD x], c.next)

theorem readCode_length_le (m : Mark) (count : Nat) (code : List Char) (c : Cursor) :
    (readCode m count code c).2.rest.length ≤ c.rest.length := by
  induction count generalizing code c with
  | zero =>
    unfold readCode
    split <;> simp
  | succ count ih =>
    have hc := c.next_length_le
    have hcc := Nat.le_trans c.next.next_length_le hc
    unfold readCode
    split
    · exact hc
    · split
      · split
        · exact Nat.le_trans (ih _ _) hcc
        · exact hcc
      · exact Nat.le_trans (ih _ _) hc

theorem readEscape_length_le (m : Mark) (c : Cursor) :
    (readEscape m c).2.rest.length ≤ c.rest.length := by
  have hc := c.next_length_le
  have h4 := readCode_length_le m 4 [] c
  unfold readEscape
  split
  · exact Nat.le_refl _
  · split
    · split <;> simp_all
    · split
      · exact hc
      · exact hc

/-- Reads up to a mark; `done` is what was read before, backwards. -/
def readUntil (m : Mark) (done : List Char) (c : Cursor) : Reading (List Char) :=
  match _h : c.rest with
  | [] => (if m.allowsEnd then .ok done.reverse else .error (.endBefore m), c)
  | x :: _ =>
    if x ∈ m.characters then (.ok done.reverse, c)
    else if x = '\\' then
      match _he : readEscape m c.next with
      | (.error e, c') => (.error e, c')
      | (.ok xs, c') => readUntil m (xs.reverse ++ done) c'
    else readUntil m (x :: done) c.next
termination_by c.rest.length
decreasing_by
  · have := readEscape_length_le m c.next
    rw [‹readEscape m c.next = _›] at this
    exact Nat.lt_of_le_of_lt this (Cursor.next_length_lt ‹_›)
  · exact Cursor.next_length_lt ‹_›

theorem readUntil_length_le (m : Mark) (done : List Char) (c : Cursor) :
    (readUntil m done c).2.rest.length ≤ c.rest.length := by
  fun_induction readUntil m done c with
  | case1 | case2 => exact Nat.le_refl _
  | case3 _ c _ _ _ he _ _ =>
    have := readEscape_length_le m c.next
    rw [he] at this
    exact Nat.le_trans this c.next_length_le
  | case4 _ c _ _ _ he _ _ ih =>
    have := readEscape_length_le m c.next
    rw [he] at this
    exact Nat.le_trans ih (Nat.le_trans this c.next_length_le)
  | case5 _ c _ _ _ _ _ ih => exact Nat.le_trans ih c.next_length_le

/-- A character that is no mark is read. -/
theorem readUntil_length_lt {m : Mark} (done : List Char) {c : Cursor} {x : Char} {r : List Char}
    (h : c.rest = x :: r) (hx : x ∉ m.characters) :
    (readUntil m done c).2.rest.length < c.rest.length := by
  have hn := Cursor.next_length_lt h
  have he := readEscape_length_le m c.next
  unfold readUntil
  split
  · simp_all
  · rename_i y _ hy
    obtain rfl : x = y := by rw [h] at hy; exact (List.cons.inj hy).1
    rw [if_neg hx]
    split
    · split <;> rename_i hr <;> rw [hr] at he
      · exact Nat.lt_of_le_of_lt he hn
      · exact Nat.lt_of_le_of_lt (readUntil_length_le _ _ _) (Nat.lt_of_le_of_lt he hn)
    · exact Nat.lt_of_le_of_lt (readUntil_length_le _ _ _) hn

end JournalSink.Ini
