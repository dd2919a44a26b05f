import Mathlib.Data.List.TakeWhile
import JournalSink.Ini.Document

/-! # Plain INI texts

A plain text spells out a document: a line for each header and for each entry, the
entries as `key = value`, and blank lines anywhere. It is read back as that
document.
-/

namespace JournalSink

theorem Text.trim_append {cs : List Char} (hcs : ∀ c ∈ cs, isBlank c = false)
    (blanks : List Char) (hblanks : ∀ c ∈ blanks, isBlank c = true) :
    trim (cs ++ blanks) = cs := by
  have hstart : trimStart (cs ++ blanks) = cs ++ blanks ∨ cs = [] := by
    cases cs with
    | nil => exact .inr rfl
    | cons c cs => exact .inl (List.dropWhile_cons_of_neg (by simp [hcs c (by simp)]))
  have hend : trimEnd (cs ++ blanks) = cs := by
    rw [trimEnd, List.reverse_append, List.dropWhile_append_of_pos (by simpa using hblanks),
      List.dropWhile_eq_self_iff.2, List.reverse_reverse]
    intro hl
    have := hcs _ (List.mem_reverse.1 (List.getElem_mem hl))
    simpa using this
  rcases hstart with h | rfl
  · rw [trim, h, hend]
  · simp only [List.nil_append, trim, trimStart, List.dropWhile_eq_nil_iff.2 hblanks]
    rfl

namespace Ini

variable {c : Cursor} {r t cs : List Char} {d : Document} {entries : List (String × String)}
  {name key value : String} {draft : Draft}

/-- A visible character that means nothing but itself. -/
def isPlain (c : Char) : Bool :=
  !Text.isBlank c && c ∉ ['=', ':', '[', ']', ';', '#', '\\', '\x22', '\x27']

def Plain (s : String) : Prop :=
  ∀ c ∈ s.toList, isPlain c = true

instance (s : String) : Decidable (Plain s) :=
  List.decidableBAll _ s.toList

example : Plain "abcdefghijklmnopqrstuvwxyzABCDEFGHIJKLMNOPQRSTUVWXYZ0123456789/._-" := by decide

/-- Behind the end of its line, the text goes on with `t`. -/
def Breaks (r t : List Char) : Prop :=
  r = '\n' :: t ∨ r = [] ∧ t = []

/-- The text gives the rest of a section, by its entries, and then the sections of a document. -/
inductive Spells : List (String × String) → Document → List Char → Prop
  | nil : Spells [] [] []
  | blank {entries : List (String × String)} {d : Document} {t : List Char} :
      Spells entries d t → Spells entries d ('\n' :: t)
  | header {name : String} {entries : List (String × String)} {d : Document} {r t : List Char} :
      Plain name → Breaks r t → Spells entries d t →
      Spells [] (⟨some name, entries⟩ :: d) ('[' :: name.toList ++ ']' :: r)
  | entry {key value : String} {entries : List (String × String)} {d : Document}
      {r t : List Char} : Plain key → key ≠ "" → Plain value → Breaks r t → Spells entries d t →
      Spells ((key, value) :: entries) d (key.toList ++ ' ' :: '=' :: ' ' :: value.toList ++ r)

theorem isBlank_of_isIndent {x : Char} (h : isIndent x = true) : Text.isBlank x = true := by
  have : x = ' ' ∨ x = '\t' := by simpa [isIndent] using h
  rcases this with rfl | rfl <;> decide

theorem isBlank_of_isLineBreak {x : Char} (h : isLineBreak x = true) : Text.isBlank x = true := by
  have : x = '\n' ∨ x = '\r' := by simpa [isLineBreak] using h
  rcases this with rfl | rfl <;> decide

theorem Plain.not_blank (h : Plain key) : ∀ c ∈ key.toList, Text.isBlank c = false := by
  intro c hc
  have := h c hc
  simp_all [isPlain]

theorem Plain.trim (h : Plain key) : Text.trim key.toList = key.toList := by
  simpa using Text.trim_append h.not_blank [] (by simp)

theorem Spells.plain (h : Spells entries d t) : (∀ e ∈ entries, Plain e.2) ∧
    ∀ s ∈ d, ∀ e ∈ s.entries, Plain e.2 := by
  induction h with
  | nil => simp
  | blank _ ih => exact ih
  | header _ _ _ ih => simpa [List.forall_mem_cons] using ih
  | entry _ _ hvalue _ _ ih => exact ⟨List.forall_mem_cons.2 ⟨hvalue, ih.1⟩, ih.2⟩

/-! ## Reading up to a mark -/

/-- The reading gives `a` and leaves the text `r`. -/
def Reading.Gives {α : Type} (reading : Reading α) (a : α) (r : List Char) : Prop :=
  ∃ c : Cursor, c.rest = r ∧ reading = (.ok a, c)

/-- The mark, or an end of the text that will do, is reached. -/
def Mark.Reached (m : Mark) (r : List Char) : Prop :=
  r = [] ∧ m.allowsEnd = true ∨ ∃ x t, r = x :: t ∧ x ∈ m.characters

theorem readUntil_gives {m : Mark} (hc : c.rest = cs ++ r)
    (hcs : ∀ x ∈ cs, x ∉ m.characters ∧ x ≠ '\\') (hr : m.Reached r) (done : List Char) :
    (readUntil m done c).Gives (done.reverse ++ cs) r := by
  induction cs generalizing c done with
  | nil =>
    refine ⟨c, hc, ?_⟩
    unfold readUntil
    rcases hr with ⟨rfl, hend⟩ | ⟨x, t, rfl, hx⟩ <;> split <;> simp_all
  | cons x cs ih =>
    obtain ⟨c', hc', heq⟩ := ih (c := c.next) (by simp [hc]) (fun y hy => hcs y (by simp [hy]))
      (x :: done)
    refine ⟨c', hc', ?_⟩
    obtain ⟨hmark, hslash⟩ := hcs x (by simp)
    unfold readUntil
    split
    · simp_all
    · rename_i y _ hy
      obtain rfl : y = x := by simp_all
      rw [if_neg hmark, if_neg hslash, heq]
      simp

theorem Mark.not_plain {m : Mark} (hm : ∀ q, m ≠ .quote q) : m.characters.any isPlain = false := by
  cases m with
  | quote q => exact absurd rfl (hm q)
  | assignment | bracket | lineEnd => decide

theorem Plain.not_mark (h : Plain key) {m : Mark} (hm : ∀ q, m ≠ .quote q) :
    ∀ x ∈ key.toList, x ∉ m.characters ∧ x ≠ '\\' := by
  intro x hx
  constructor
  · intro hmem
    exact List.any_eq_false.1 (Mark.not_plain hm) x hmem (h x hx)
  · rintro rfl
    exact absurd (h _ hx) (by decide)

theorem Breaks.reached (h : Breaks r t) : Mark.lineEnd.Reached r := by
  rcases h with rfl | ⟨rfl, -⟩
  · exact .inr ⟨'\n', t, rfl, by decide⟩
  · exact .inl ⟨rfl, rfl⟩

theorem readHeader_gives (hname : Plain name) (hc : c.rest = '[' :: name.toList ++ ']' :: r) :
    (readHeader c).Gives name.toList r := by
  obtain ⟨c', hc', heq⟩ := readUntil_gives (m := .bracket) (c := c.next) (r := ']' :: r)
    (by simp [hc]) (hname.not_mark (by simp)) (.inr ⟨']', r, rfl, by decide⟩) []
  exact ⟨c'.next, by simp [hc'], by simp [readHeader, heq, hname.trim]⟩

theorem readKey_gives (hkey : Plain key) (hc : c.rest = key.toList ++ ' ' :: '=' :: r) :
    (readKey c).Gives key.toList ('=' :: r) := by
  have hcs : ∀ x ∈ key.toList ++ [' '], x ∉ Mark.assignment.characters ∧ x ≠ '\\' := by
    intro x hx
    rcases List.mem_append.1 hx with h | h
    · exact hkey.not_mark (by simp) x h
    · rw [List.mem_singleton.1 h]
      decide
  obtain ⟨c', hc', heq⟩ := readUntil_gives (c := c) (by simp [hc]) hcs
    (.inr ⟨'=', r, rfl, by decide⟩) []
  refine ⟨c', hc', ?_⟩
  have htrim := Text.trim_append hkey.not_blank [' '] (List.forall_mem_singleton.2 (by decide))
  simp [readKey, heq, htrim]

theorem readValue_gives (hc : c.rest = value.toList ++ r) (hvalue : Plain value)
    (hr : Breaks r t) : (readValue true [] c).Gives value.toList r := by
  obtain ⟨c', hc', heq⟩ := readUntil_gives (m := .lineEnd) hc (hvalue.not_mark (by simp))
    hr.reached []
  unfold readValue
  split
  · rename_i hnil
    obtain ⟨hv, rfl⟩ := List.append_eq_nil_iff.1 (hc.symm.trans hnil)
    exact ⟨c, hnil, by rw [hv]⟩
  · rename_i q rest hcons
    have hq : ¬(q = '\x22' ∨ q = '\x27') := by
      rw [hc] at hcons
      rcases List.append_eq_cons_iff.1 hcons with ⟨-, hr'⟩ | ⟨_, hv, -⟩
      · rcases hr with rfl | ⟨rfl, -⟩ <;> cases hr'
        decide
      · have hplain := hvalue q (by simp [hv])
        rintro (rfl | rfl) <;> exact absurd hplain (by decide)
    refine ⟨c', hc', ?_⟩
    simp [hq, heq, hvalue.trim]

@[simp] theorem Cursor.skipWhile_rest (p : Char → Bool) (c : Cursor) :
    (c.skipWhile p).rest = c.rest.dropWhile p := by
  fun_induction skipWhile p c <;> simp_all

theorem readAssigned_gives (hc : c.rest = '=' :: ' ' :: value.toList ++ r) (hvalue : Plain value)
    (hr : Breaks r t) : (readAssigned c).Gives value.toList r := by
  refine readValue_gives ?_ hvalue hr
  have hdrop : (value.toList ++ r).dropWhile (fun x => Text.isBlank x && !isLineBreak x) =
      value.toList ++ r := by
    cases hv : value.toList with
    | nil => rcases hr with rfl | ⟨rfl, -⟩ <;> rfl
    | cons x v => exact List.dropWhile_cons_of_neg (by simp [hvalue.not_blank x (by simp [hv])])
  simp only [Cursor.skipWhile_rest, Cursor.next_rest, hc, List.cons_append, List.tail_cons]
  rw [List.dropWhile_cons_of_pos (by decide), hdrop]

/-! ## Reading line by line -/

theorem skipToToken_nil (hc : c.rest = []) : skipToToken c = c := by
  unfold skipToToken
  split <;> simp_all

theorem skipToToken_visible {x : Char} (hc : c.rest = x :: r) (hx : Text.isBlank x = false) :
    skipToToken c = c := by
  have hbreak : isLineBreak x = false :=
    Bool.eq_false_iff.2 fun hb => by simp [isBlank_of_isLineBreak hb] at hx
  unfold skipToToken
  split <;> simp_all

theorem skipToToken_lineBreak (hc : c.rest = '\n' :: t) (ht : ∀ x ∈ t.head?, isIndent x = false) :
    skipToToken c = skipToToken c.next := by
  have hindent : c.next.rest.head?.any isIndent = false := by
    rw [Cursor.next_rest, hc, List.tail_cons]
    cases hh : t.head? with
    | none => rfl
    | some x => exact ht x hh
  conv => lhs; unfold skipToToken
  split
  · simp_all
  · rename_i x _ hx
    obtain rfl : x = '\n' := by simp_all
    rw [hindent, Bool.and_false, if_neg (by simp), if_pos (by decide)]

theorem Breaks.skipToToken_eq (h : Breaks r t) (hc : c.rest = r)
    (ht : ∀ x ∈ t.head?, isIndent x = false) :
    ∃ c' : Cursor, c'.rest = t ∧ skipToToken c = skipToToken c' := by
  rcases h with rfl | ⟨rfl, rfl⟩
  · exact ⟨c.next, by simp [hc], skipToToken_lineBreak hc ht⟩
  · exact ⟨c, hc, rfl⟩

theorem Plain.exists_cons (h : Plain key) (hne : key ≠ "") :
    ∃ x k, key.toList = x :: k ∧ isPlain x = true := by
  cases hk : key.toList with
  | nil => exact absurd (String.toList_eq_nil_iff.1 hk) hne
  | cons x k => exact ⟨x, k, rfl, h x (by simp [hk])⟩

theorem not_isIndent_of_isPlain {x : Char} (h : isPlain x = true) : isIndent x = false :=
  Bool.eq_false_iff.2 fun hx => by simp [isPlain, isBlank_of_isIndent hx] at h

theorem not_isLineBreak_of_isPlain {x : Char} (h : isPlain x = true) : isLineBreak x = false :=
  Bool.eq_false_iff.2 fun hx => by simp [isPlain, isBlank_of_isLineBreak hx] at h

theorem Spells.not_indent (h : Spells entries d t) : ∀ x ∈ t.head?, isIndent x = false := by
  cases h with
  | nil => simp
  | blank | header => simp [isIndent]
  | entry hkey hne =>
    obtain ⟨x, k, hk, hx⟩ := hkey.exists_cons hne
    simp [hk, not_isIndent_of_isPlain hx]

theorem readTokens_of_rest {x : Char} {draft' : Draft} {c' : Cursor} (hc : c.rest = x :: r)
    (h : readToken draft x c = .ok (draft', c')) : readTokens draft c = readTokens draft' c' := by
  conv => lhs; unfold readTokens
  split
  · simp_all
  · rename_i y _ hy
    obtain rfl : y = x := by simp_all
    split <;> simp_all

theorem readToken_header (draft : Draft) (hc : c.rest = '[' :: name.toList ++ ']' :: r)
    (hname : Plain name) : ∃ c' : Cursor, c'.rest = r ∧
      readToken draft '[' c = .ok (draft.withSection name.toList, skipToToken c') := by
  obtain ⟨c', hc', heq⟩ := readHeader_gives hname hc
  exact ⟨c', hc', by simp [readToken, heq, Reading.map, Except.map, endToken]⟩

theorem readToken_key (draft : Draft) {x : Char} {k : List Char}
    (hc : c.rest = key.toList ++ ' ' :: '=' :: r) (hkey : Plain key) (hk : key.toList = x :: k) :
    ∃ c' : Cursor, c'.rest = '=' :: r ∧
      readToken draft x c = .ok ({ draft with key := key.toList }, c') := by
  obtain ⟨c', hc', heq⟩ := readKey_gives hkey hc
  have hx : isPlain x = true := hkey x (by simp [hk])
  have hskip : skipToToken c' = c' := skipToToken_visible hc' (by decide)
  refine ⟨c', hc', ?_⟩
  have hmarks : ¬(x = ';' ∨ x = '#') ∧ x ≠ '[' ∧ ¬(x = '=' ∨ x = ':') := by
    simp_all [isPlain]
  simp [readToken, hmarks, not_isIndent_of_isPlain hx, not_isLineBreak_of_isPlain hx, heq,
    Reading.map, Except.map, endToken, hskip]

theorem readToken_value (draft : Draft) (hc : c.rest = '=' :: ' ' :: value.toList ++ r)
    (hvalue : Plain value) (hr : Breaks r t) (hkey : draft.key ≠ []) : ∃ c' : Cursor, c'.rest = r ∧
      readToken draft '=' c = .ok (draft.withValue value.toList, skipToToken c') := by
  obtain ⟨c', hc', heq⟩ := readAssigned_gives hc hvalue hr
  exact ⟨c', hc', by simp [readToken, hkey, heq, Reading.map, Except.map, endToken]⟩

theorem readTokens_header (draft : Draft) (hc : c.rest = '[' :: name.toList ++ ']' :: r)
    (hname : Plain name) (hr : Breaks r t) (ht : ∀ x ∈ t.head?, isIndent x = false) :
    ∃ c' : Cursor, c'.rest = t ∧
      readTokens draft (skipToToken c) =
        readTokens (draft.withSection name.toList) (skipToToken c') := by
  obtain ⟨c₁, hc₁, hread⟩ := readToken_header draft hc hname
  obtain ⟨c₂, hc₂, hskip⟩ := hr.skipToToken_eq hc₁ ht
  refine ⟨c₂, hc₂, ?_⟩
  rw [skipToToken_visible hc (by decide), readTokens_of_rest hc hread, hskip]

theorem readTokens_entry (draft : Draft)
    (hc : c.rest = key.toList ++ ' ' :: '=' :: ' ' :: value.toList ++ r) (hkey : Plain key)
    (hne : key ≠ "") (hvalue : Plain value) (hr : Breaks r t)
    (ht : ∀ x ∈ t.head?, isIndent x = false) : ∃ c' : Cursor, c'.rest = t ∧
      readTokens draft (skipToToken c) =
        readTokens ({ draft with key := key.toList }.withValue value.toList) (skipToToken c') := by
  obtain ⟨x, k, hk, hx⟩ := hkey.exists_cons hne
  obtain ⟨c₁, hc₁, hread⟩ := readToken_key draft (by simpa using hc) hkey hk
  obtain ⟨c₂, hc₂, hassign⟩ := readToken_value { draft with key := key.toList } hc₁
    hvalue hr (by simp [hk])
  obtain ⟨c₃, hc₃, hskip⟩ := hr.skipToToken_eq hc₂ ht
  refine ⟨c₃, hc₃, ?_⟩
  have hx : c.rest = x :: (k ++ ' ' :: '=' :: ' ' :: value.toList ++ r) := by simp [hc, hk]
  rw [skipToToken_visible hx (hkey.not_blank x (by simp [hk])),
    readTokens_of_rest hx hread, readTokens_of_rest hc₁ hassign, hskip]

/-- Adds entries to the section read last. -/
def Draft.withEntries (draft : Draft) (entries : List (String × String)) : Draft :=
  entries.foldl (fun draft entry =>
    { draft with key := entry.1.toList }.withValue entry.2.toList) draft

theorem Draft.sections_withEntries {s : Section} {before : List Section}
    (h : draft.sections = s :: before) (entries : List (String × String)) :
    (draft.withEntries entries).sections =
      { s with entries := s.entries ++ entries } :: before := by
  induction entries generalizing draft s with
  | nil => simp [withEntries, h]
  | cons entry entries ih =>
    have hstep : ({ draft with key := entry.1.toList }.withValue entry.2.toList).sections =
        { s with entries := s.entries ++ [entry] } :: before := by
      simp [withValue, h]
    have := ih hstep
    simpa [withEntries] using this

theorem readTokens_spells (h : Spells entries d t) (hc : c.rest = t) (draft : Draft) :
    (readTokens draft (skipToToken c)).map Draft.sections =
      .ok (d.reverse ++ (draft.withEntries entries).sections) := by
  induction h generalizing c draft with
  | nil =>
    rw [skipToToken_nil hc]
    unfold readTokens
    split <;> simp_all [Except.map, Draft.withEntries]
  | blank h ih =>
    rw [skipToToken_lineBreak hc h.not_indent]
    exact ih (by simp [hc]) draft
  | @header name entries d r t hname hr h ih =>
    obtain ⟨c', hc', heq⟩ := readTokens_header draft hc hname hr h.not_indent
    rw [heq, ih hc', Draft.sections_withEntries rfl]
    simp [Draft.withEntries]
  | entry hkey hne hvalue hr h ih =>
    obtain ⟨c', hc', heq⟩ :=
      readTokens_entry draft hc hkey hne hvalue hr h.not_indent
    rw [heq, ih hc']
    rfl

/-- The first token need not be looked for. -/
theorem readTokens_skipToToken (h : Spells [] d c.rest) (draft : Draft) :
    readTokens draft (skipToToken c) = readTokens draft c := by
  generalize ht : c.rest = t at h
  cases h with
  | nil => rw [skipToToken_nil ht]
  | blank h =>
    have hread : readToken draft '\n' c = .ok (draft, skipToToken c.next) := by
      simp [readToken, isIndent, isLineBreak, endToken]
    rw [skipToToken_lineBreak ht h.not_indent, readTokens_of_rest ht hread]
  | header => rw [skipToToken_visible ht (by decide)]

/-- A plain text is read as the document that it spells out. -/
theorem Document.parse_eq_ok {text : String} (h : Spells [] d text.toList) :
    parse text = .ok d := by
  have hrest := Cursor.start_rest text.toList
  have hread := readTokens_spells h hrest {}
  rw [readTokens_skipToToken (by rwa [hrest])] at hread
  unfold parse
  split <;> simp_all [Except.map, Draft.withEntries]

end Ini

end JournalSink
