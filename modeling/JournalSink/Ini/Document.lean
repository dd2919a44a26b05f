import JournalSink.Ini.Text

/-! # INI documents

A document is a list of sections, each with its entries in order; entries before
the first header have a section without a name. A name may occur again, and a
key too: the first section and the first entry answer for them.
-/

namespace JournalSink.Ini

structure Section where
  name : Option String
  entries : List (String × String) := []
deriving DecidableEq, Repr

abbrev Document : Type :=
  List Section

def Document.find? (d : Document) (name : String) : Option Section :=
  List.find? (·.name == some name) d

def Section.get? (s : Section) (key : String) : Option String :=
  s.entries.lookup key

def isLineBreak (c : Char) : Bool :=
  c == '\n' || c == '\r'

def isIndent (c : Char) : Bool :=
  c == ' ' || c == '\t'

/-- Passes over the blanks behind a token, up to the next token or to the first indented line. -/
def skipToToken (c : Cursor) : Cursor :=
  match _h : c.rest with
  | [] => c
  | x :: _ =>
    if isLineBreak x && c.next.rest.head?.any isIndent then c.next
    else if Text.isBlank x then skipToToken c.next
    else c
termination_by c.rest.length
decreasing_by exact Cursor.next_length_lt ‹_›

theorem skipToToken_length_le (c : Cursor) :
    (skipToToken c).rest.length ≤ c.rest.length := by
  fun_induction skipToToken c with
  | case1 | case4 => exact Nat.le_refl _
  | case2 c => exact c.next_length_le
  | case3 c _ _ _ _ _ ih => exact Nat.le_trans ih c.next_length_le

/-- Reads a value up to the end of its line. Quoted parts stand as they are; the plain part is
trimmed, on its left only when it comes first. -/
def readValue (first : Bool) (done : List Char) (c : Cursor) : Reading (List Char) :=
  match _h : c.rest with
  | [] => (.ok done, c)
  | q :: _ =>
    if q = '\x22' ∨ q = '\x27' then
      match _hr : readUntil (.quote q) [] c.next with
      | (.error e, c') => (.error e, c')
      | (.ok part, c') => readValue false (done ++ part) c'.next
    else
      match readUntil .lineEnd [] c with
      | (.error e, c') => (.error e, c')
      | (.ok part, c') => (.ok (done ++ if first then Text.trim part else Text.trimEnd part), c')
termination_by c.rest.length
decreasing_by
  have := readUntil_length_le (.quote q) [] c.next
  rw [‹readUntil (.quote q) [] c.next = _›] at this
  exact Nat.lt_of_le_of_lt (Nat.le_trans c'.next_length_le this) (Cursor.next_length_lt ‹_›)

theorem readValue_length_le (first : Bool) (done : List Char) (c : Cursor) :
    (readValue first done c).2.rest.length ≤ c.rest.length := by
  fun_induction readValue first done c with
  | case1 => exact Nat.le_refl _
  | case2 _ _ c q _ _ _ _ _ hr =>
    have := readUntil_length_le (.quote q) [] c.next
    rw [hr] at this
    exact Nat.le_trans this c.next_length_le
  | case3 _ _ c q _ _ _ _ _ hr ih =>
    have := readUntil_length_le (.quote q) [] c.next
    rw [hr] at this
    exact Nat.le_trans ih (Nat.le_trans (Cursor.next_length_le _)
      (Nat.le_trans this c.next_length_le))
  | case4 _ _ c _ _ _ _ _ _ hr | case5 _ _ c _ _ _ _ _ _ hr =>
    have := readUntil_length_le .lineEnd [] c
    rw [hr] at this
    exact this

/-- Reads the value behind an assignment sign. -/
def readAssigned (c : Cursor) : Reading (List Char) :=
  readValue true [] (c.next.skipWhile fun x => Text.isBlank x && !isLineBreak x)

/-- Reads a header from its opening bracket on. -/
def readHeader (c : Cursor) : Reading (List Char) :=
  match readUntil .bracket [] c.next with
  | (.ok name, c) => (.ok (Text.trim name), c.next)
  | (.error e, c) => (.error e, c)

def readKey (c : Cursor) : Reading (List Char) :=
  match readUntil .assignment [] c with
  | (.ok key, c) => (.ok (Text.trim key), c)
  | (.error e, c) => (.error e, c)

/-- What was read so far: the sections, last one first, and a key that waits for its value. -/
structure Draft where
  key : List Char := []
  sections : List Section := []

namespace Draft

def withSection (d : Draft) (name : List Char) : Draft :=
  { d with sections := ⟨some (String.ofList name), []⟩ :: d.sections }

/-- Gives the waiting key its value in the section read last. -/
def withValue (d : Draft) (value : List Char) : Draft :=
  let entry := (String.ofList d.key, String.ofList value)
  match d.sections with
  | [] => { sections := [⟨none, [entry]⟩] }
  | s :: rest => { sections := { s with entries := s.entries ++ [entry] } :: rest }

end Draft

/-- Ends a token: goes on to the next one, or puts a cause in its place. -/
def endToken (r : Reading Draft) : Except Fault (Draft × Cursor) :=
  match r with
  | (.ok d, c) => .ok (d, skipToToken c)
  | (.error e, c) => .error (c.fault e)

/-- Changes what was read and leaves the cursor. -/
def Reading.map {α β : Type} (f : α → β) (r : Reading α) : Reading β :=
  (r.1.map f, r.2)

/-- Reads an indented line. It may be empty or hold a header; a key that never ends is dropped,
and what follows its fault is read as text of its own. -/
def readIndented (d : Draft) (c : Cursor) : Except Fault (Draft × Cursor) :=
  let c := c.skipWhile isIndent
  if c.rest.head?.any isLineBreak then .ok (d, c.next)
  else if c.rest.head? = some '[' then endToken (Reading.map d.withSection (readHeader c))
  else
    match readKey c with
    | (.ok key, c) => endToken (.ok { d with key := key }, c)
    | (.error _, c) => endToken (.ok d, c)

/-- Reads the token that starts with `x`, on which the cursor stands. -/
def readToken (d : Draft) (x : Char) (c : Cursor) : Except Fault (Draft × Cursor) :=
  if x = ';' ∨ x = '#' then
    if 1 < c.column then .error (c.fault .inlineComment)
    else endToken (.ok d, (c.skipWhile (· != '\n')).next)
  else if x = '[' then endToken (Reading.map d.withSection (readHeader c))
  else if x = '=' ∨ x = ':' then
    if d.key.isEmpty then .error (c.fault .missingKey)
    else endToken (Reading.map d.withValue (readAssigned c))
  else if isIndent x then readIndented d c
  else if isLineBreak x then endToken (.ok d, c.next)
  else endToken (Reading.map (fun key => { d with key := key }) (readKey c))

theorem readAssigned_length_le (c : Cursor) :
    (readAssigned c).2.rest.length ≤ c.next.rest.length :=
  Nat.le_trans (readValue_length_le _ _ _) (Cursor.skipWhile_length_le _ _)

theorem readHeader_length_le (c : Cursor) :
    (readHeader c).2.rest.length ≤ c.next.rest.length := by
  have := readUntil_length_le .bracket [] c.next
  unfold readHeader
  split <;> rename_i hr <;> rw [hr] at this
  · exact Nat.le_trans (Cursor.next_length_le _) this
  · exact this

theorem readKey_length_le (c : Cursor) : (readKey c).2.rest.length ≤ c.rest.length := by
  have := readUntil_length_le .assignment [] c
  unfold readKey
  split <;> rename_i hr <;> rw [hr] at this <;> exact this

theorem readKey_length_lt {c : Cursor} {x : Char} {r : List Char} (h : c.rest = x :: r)
    (hx : x ∉ Mark.assignment.characters) : (readKey c).2.rest.length < c.rest.length := by
  have := readUntil_length_lt [] h hx
  unfold readKey
  split <;> rename_i hr <;> rw [hr] at this <;> exact this

theorem endToken_length_le {r : Reading Draft} {d : Draft} {c : Cursor}
    (h : endToken r = .ok (d, c)) : c.rest.length ≤ r.2.rest.length := by
  unfold endToken at h
  split at h <;> cases h
  exact skipToToken_length_le _

theorem readIndented_length {d d' : Draft} {c c' : Cursor} {x : Char} {r : List Char}
    (h : c.rest = x :: r) (hx : isIndent x = true) (hr : readIndented d c = .ok (d', c')) :
    c'.rest.length < c.rest.length := by
  have hs := Cursor.skipWhile_length_lt h hx
  refine Nat.lt_of_le_of_lt ?_ hs
  unfold readIndented at hr
  generalize c.skipWhile isIndent = b at hr
  dsimp only at hr
  split at hr
  · cases hr
    exact b.next_length_le
  · split at hr
    · exact Nat.le_trans (endToken_length_le hr)
        (Nat.le_trans (readHeader_length_le b) b.next_length_le)
    · have hk := readKey_length_le b
      split at hr <;> rename_i he <;> rw [he] at hk <;>
        exact Nat.le_trans (endToken_length_le hr) hk

theorem readToken_length {d d' : Draft} {c c' : Cursor} {x : Char} {r : List Char}
    (h : c.rest = x :: r) (hr : readToken d x c = .ok (d', c')) :
    c'.rest.length < c.rest.length := by
  have hn := Cursor.next_length_lt h
  unfold readToken at hr
  split at hr
  · split at hr
    · cases hr
    · refine Nat.lt_of_le_of_lt (endToken_length_le hr) ?_
      have := Cursor.skipWhile_length_le (· != '\n') c
      simp only [Cursor.next_rest, List.length_tail, h, List.length_cons] at *
      omega
  · split at hr
    · exact Nat.lt_of_le_of_lt (endToken_length_le hr)
        (Nat.lt_of_le_of_lt (readHeader_length_le c) hn)
    · split at hr
      · split at hr
        · cases hr
        · exact Nat.lt_of_le_of_lt (endToken_length_le hr)
            (Nat.lt_of_le_of_lt (readAssigned_length_le c) hn)
      · rename_i hx
        split at hr
        · exact readIndented_length h ‹_› hr
        · split at hr
          · exact Nat.lt_of_le_of_lt (endToken_length_le hr) hn
          · exact Nat.lt_of_le_of_lt (endToken_length_le hr)
              (readKey_length_lt h (by simpa [Mark.characters] using hx))

def readTokens (d : Draft) (c : Cursor) : Except Fault Draft :=
  match _h : c.rest with
  | [] => .ok d
  | x :: _ =>
    match _hr : readToken d x c with
    | .error e => .error e
    | .ok (d, c') => readTokens d c'
termination_by c.rest.length
decreasing_by exact readToken_length ‹_› ‹_›

def Document.parse (text : String) : Except Fault Document :=
  match readTokens {} (Cursor.start text.toList) with
  | .ok d => .ok d.sections.reverse
  | .error e => .error e

end JournalSink.Ini
