import JournalSink.Proofs.Json.Documents

/-! # Which documents are read

No document has its members in two ways. It is UTF-8 if their keys and values are,
and those have texts exactly when, besides, their surrogates are paired.
-/

namespace JournalSink.Json

variable {bytes r s a b v : List UInt8} {m : Spelling} {ms ms' : List Spelling}

/-! ## One reading -/

theorem separator_unique {x x' : UInt8} {a' r' : List UInt8} (ha : Blanks a)
    (hx : isBlank x = false) (ha' : Blanks a') (hx' : isBlank x' = false)
    (h : a ++ x :: r = a' ++ x' :: r') : x = x' ∧ r = r' := by
  rw [← List.cons.injEq, ← skipBlank_eq ha hx, h, skipBlank_eq ha' hx']

/-- The bytes start with a member, but for blanks, and the rest follows it. -/
def Spelling.Leads (m : Spelling) (rest bytes : List UInt8) : Prop :=
  ∃ a b c, bytes = a ++ (quoted m.key ++ (b ++ Ascii.colon :: (c ++ (m.value ++ rest)))) ∧
    Blanks a ∧ Blanks b ∧ Blanks c ∧ Content m.key ∧ Derives .value m.value

theorem Spelling.Leads.unique {m' : Spelling} {r' : List UInt8} (h : m.Leads r bytes)
    (h' : m'.Leads r' bytes) (hr : EndsNumber r) (hr' : EndsNumber r') : m = m' ∧ r = r' := by
  obtain ⟨a, b, c, rfl, ha, hb, hc, hk, hv⟩ := h
  obtain ⟨a', b', c', heq, ha', hb', hc', hk', hv'⟩ := h'
  have hstart := congrArg skipBlank heq
  rw [skipBlank_quoted ha, skipBlank_quoted ha'] at hstart
  obtain ⟨hkey, hbehind⟩ := content_unique hk hk' (by simpa [quoted] using hstart)
  obtain ⟨-, hvalue⟩ := separator_unique hb rfl hb' rfl hbehind
  have hboth : m.value ++ r = m'.value ++ r' := by
    rw [← skipBlank_append_value hc hv, hvalue, skipBlank_append_value hc' hv']
  have hskip := skipValue_append blanks_nil hv hr
  rw [List.nil_append, hboth] at hskip
  cases hskip.symm.trans (skipValue_append blanks_nil hv' hr')
  exact ⟨congrArg₂ Spelling.mk hkey (List.append_cancel_right hboth), rfl⟩

/-- What stands behind a member: the closing brace, or a comma and further members. -/
def Continues (ms : List Spelling) (x : UInt8) (s r : List UInt8) : Prop :=
  x = Ascii.closeBrace ∧ ms = [] ∨
    x = Ascii.comma ∧ ∃ t, s = t ++ Ascii.closeBrace :: r ∧ Derives (.members ms) t

theorem Continues.separator {x : UInt8} (h : Continues ms x s r) :
    x ∈ [Ascii.comma, Ascii.closeBracket, Ascii.closeBrace] ∧ isBlank x = false := by
  rcases h with ⟨rfl, -⟩ | ⟨rfl, -⟩ <;> decide

theorem Derives.members_cases (h : Derives (.members ms) s) (r : List UInt8) :
    ∃ m ms' d x t, ms = m :: ms' ∧ m.Leads (d ++ x :: t) (s ++ Ascii.closeBrace :: r) ∧
      Blanks d ∧ Continues ms' x t r := by
  refine h.members_rec ?_ ?_
  · intro a k b c v d ha hk hb hc hv hd
    refine ⟨⟨k, v⟩, [], d, _, r, rfl, ?_, hd, .inl ⟨rfl, rfl⟩⟩
    exact ⟨a, b, c, by simp, ha, hb, hc, hk, hv⟩
  · rintro a k b c v d s ms ha hk hb hc hv hd hs -
    refine ⟨⟨k, v⟩, ms, d, _, _, rfl, ?_, hd, .inr ⟨rfl, s, rfl, hs⟩⟩
    exact ⟨a, b, c, by simp, ha, hb, hc, hk, hv⟩

theorem members_unique {s' r' : List UInt8} (h : Derives (.members ms) s)
    (h' : Derives (.members ms') s')
    (heq : s ++ Ascii.closeBrace :: r = s' ++ Ascii.closeBrace :: r') : ms = ms' := by
  induction ms generalizing ms' s s' with
  | nil =>
    obtain ⟨_, _, _, _, _, hms, -⟩ := h.members_cases r
    cases hms
  | cons m ms ih =>
    obtain ⟨_, _, d, x, t, hms, hlead, hd, ht⟩ := h.members_cases r
    obtain ⟨m', ms₁, d', x', t', rfl, hlead', hd', ht'⟩ := h'.members_cases r'
    cases hms
    -- Both readings start with the same member, so the same separator follows it.
    obtain ⟨rfl, hrest⟩ := hlead.unique (heq ▸ hlead') (endsNumber_of_blanks hd ht.separator.1)
      (endsNumber_of_blanks hd' ht'.separator.1)
    obtain ⟨rfl, rfl⟩ := separator_unique hd ht.separator.2 hd' ht'.separator.2 hrest
    rcases ht with ⟨rfl, rfl⟩ | ⟨rfl, t, rfl, ht⟩
    · obtain ⟨-, rfl⟩ | ⟨hx, -⟩ := ht'
      · rfl
      · cases hx
    · obtain ⟨hx, -⟩ | ⟨-, t', htt', ht'⟩ := ht'
      · cases hx
      · rw [ih ht ht' htt']

theorem Derives.ne_blanks {r' : List UInt8} (h : Derives (.members ms) s) (ha : Blanks a) :
    s ++ Ascii.closeBrace :: r ≠ a ++ Ascii.closeBrace :: r' := by
  obtain ⟨⟨a', x, s', rfl, ha', hx, hne⟩, -⟩ := h.takes
  intro heq
  rw [List.append_assoc] at heq
  exact hne (separator_unique ha' hx ha rfl heq).1

/-- A document has its members in one way. -/
theorem Document.unique (h : Document bytes ms) (h' : Document bytes ms') : ms = ms' := by
  obtain ⟨a, s, b, ha, -, rfl, hs⟩ := h
  obtain ⟨a', s', b', ha', -, heq, hs'⟩ := h'
  simp only [List.append_assoc, List.cons_append] at heq
  obtain ⟨-, heq⟩ := separator_unique ha rfl ha' rfl heq
  rcases hs with ⟨hs, rfl⟩ | hs <;> rcases hs' with ⟨hs', rfl⟩ | hs'
  · rfl
  · cases hs'.ne_blanks hs heq.symm
  · cases hs.ne_blanks hs' heq
  · exact members_unique hs hs' heq

/-! ## UTF-8 -/

open Text (IsUtf8 isUtf8_append_cons_iff)

theorem isUtf8_append_blanks_iff {d : List UInt8} (hd : Blanks d) :
    IsUtf8 (v ++ d) ↔ IsUtf8 v := by
  cases d with
  | nil => rw [List.append_nil]
  | cons x d =>
    obtain ⟨hx, hd⟩ := List.forall_mem_cons.1 hd
    rw [isUtf8_append_cons_iff (lt_of_blank hx), and_iff_left (Blanks.isUtf8 hd)]

theorem isUtf8_append_comma_iff {d : List UInt8} (hd : Blanks d) :
    IsUtf8 (v ++ (d ++ Ascii.comma :: s)) ↔ IsUtf8 v ∧ IsUtf8 s := by
  rw [← List.append_assoc, isUtf8_append_cons_iff (by decide), isUtf8_append_blanks_iff hd]

/-- Between the braces of a document only keys and values may fail to be UTF-8. -/
theorem Derives.isUtf8_iff (h : Derives (.members ms) s) :
    IsUtf8 s ↔ ∀ m ∈ ms, IsUtf8 m.key ∧ IsUtf8 m.value := by
  have hcolon : Ascii.colon < 0x80 := by decide
  refine h.members_rec ?_ ?_
  · rintro _ _ _ _ _ _ ha - hb hc - hd
    simp [ha.isUtf8_append_iff, isUtf8_quoted_append_iff, isUtf8_append_cons_iff hcolon,
      hb.isUtf8, hc.isUtf8_append_iff, isUtf8_append_blanks_iff hd]
  · rintro _ _ _ _ _ _ _ _ ha - hb hc - hd - ih
    simp [ha.isUtf8_append_iff, isUtf8_quoted_append_iff, isUtf8_append_cons_iff hcolon,
      hb.isUtf8, hc.isUtf8_append_iff, isUtf8_append_comma_iff hd, ih, and_assoc]

/-- A document is UTF-8 if its keys and values are. -/
theorem Document.isUtf8_iff (h : Document bytes ms) :
    IsUtf8 bytes ↔ ∀ m ∈ ms, IsUtf8 m.key ∧ IsUtf8 m.value := by
  obtain ⟨a, s, b, ha, hb, rfl, hs⟩ := h
  have hopen : Ascii.openBrace < 0x80 := by decide
  have hclose : Ascii.closeBrace < 0x80 := by decide
  have hbody : IsUtf8 s ↔ ∀ m ∈ ms, IsUtf8 m.key ∧ IsUtf8 m.value := by
    rcases hs with ⟨hs, rfl⟩ | hs
    · simp [hs.isUtf8]
    · exact hs.isUtf8_iff
  simp [ha.isUtf8, hb.isUtf8, isUtf8_append_cons_iff hopen, isUtf8_append_cons_iff hclose, hbody]

/-! ## Texts -/

theorem Derives.of_mem (h : Derives (.members ms) s) :
    ∀ m ∈ ms, Content m.key ∧ Derives .value m.value := by
  refine h.members_rec ?_ ?_
  · rintro _ _ _ _ _ _ - hk - - hv -
    simpa using ⟨hk, hv⟩
  · rintro _ _ _ _ _ _ _ _ - hk - - hv - - ih
    exact List.forall_mem_cons.2 ⟨⟨hk, hv⟩, ih⟩

theorem exists_hasText_iff (hv : Derives .value v) :
    (∃ t, HasText v t) ↔ IsUtf8 v ∧ ∀ s, v = quoted s → Paired s := by
  constructor
  · rintro ⟨t, ht⟩
    cases ht with
    | @string s _ hs =>
      obtain ⟨hutf, hp⟩ := (exists_spells_iff hs.content).1 ⟨t, hs⟩
      refine ⟨isUtf8_quoted_iff.2 hutf, ?_⟩
      rintro s' hs'
      obtain rfl : s = s' := by simpa [quoted] using hs'
      exact hp
    | source hq =>
      refine ⟨Text.isUtf8_utf8 t, ?_⟩
      rintro s' hs'
      rw [hs'] at hq
      cases hq rfl
  · rintro ⟨⟨t, rfl⟩, hp⟩
    by_cases hq : (Text.utf8 t).head? = some Ascii.quote
    · obtain ⟨r, hr⟩ := List.head?_eq_some_iff.1 hq
      rw [hr] at hv
      obtain ⟨s, rfl, hs⟩ := hv.quoted_of_quote
      have hutf : IsUtf8 (quoted s) := ⟨t, hr.symm⟩
      obtain ⟨u, hu⟩ := (exists_spells_iff hs).2 ⟨isUtf8_quoted_iff.1 hutf, hp s hr⟩
      exact ⟨u, hr ▸ .string hu⟩
    · exact ⟨t, .source hq⟩

theorem Spelling.exists_means_iff (hk : Content m.key) (hv : Derives .value m.value) :
    (∃ x, m.Means x) ↔ (IsUtf8 m.key ∧ IsUtf8 m.value) ∧ m.IsPaired := by
  have hkey := exists_spells_iff hk
  have hvalue := exists_hasText_iff hv
  constructor
  · rintro ⟨x, hx, ht⟩
    obtain ⟨hk, hp⟩ := hkey.1 ⟨x.key, hx⟩
    obtain ⟨hv, hp'⟩ := hvalue.1 ⟨x.text, ht⟩
    exact ⟨⟨hk, hv⟩, hp, hp'⟩
  · rintro ⟨⟨hk, hv⟩, hp, hp'⟩
    obtain ⟨key, hx⟩ := hkey.2 ⟨hk, hp⟩
    obtain ⟨text, ht⟩ := hvalue.2 ⟨hv, hp'⟩
    exact ⟨⟨key, text⟩, hx, ht⟩

theorem exists_forall₂_iff {α β : Type} {R : α → β → Prop} {l : List α} :
    (∃ l', List.Forall₂ R l l') ↔ ∀ x ∈ l, ∃ y, R x y := by
  induction l with
  | nil => exact ⟨fun _ => nofun, fun _ => ⟨[], .nil⟩⟩
  | cons x l ih =>
    rw [List.forall_mem_cons, ← ih]
    constructor
    · rintro ⟨_, _ | ⟨h, hl⟩⟩
      exact ⟨⟨_, h⟩, _, hl⟩
    · rintro ⟨⟨y, h⟩, l', hl⟩
      exact ⟨y :: l', .cons h hl⟩

theorem Document.of_mem (h : Document bytes ms) :
    ∀ m ∈ ms, Content m.key ∧ Derives .value m.value := by
  obtain ⟨_, _, _, -, -, -, ⟨-, rfl⟩ | h⟩ := h
  · exact nofun
  · exact h.of_mem

theorem Document.exists_means_iff (h : Document bytes ms) :
    (∃ members, List.Forall₂ Spelling.Means ms members) ↔
      IsUtf8 bytes ∧ ∀ m ∈ ms, m.IsPaired := by
  rw [exists_forall₂_iff, h.isUtf8_iff]
  constructor
  · intro hm
    have hboth := fun m hmem =>
      (Spelling.exists_means_iff (h.of_mem m hmem).1 (h.of_mem m hmem).2).1 (hm m hmem)
    exact ⟨fun m hmem => (hboth m hmem).1, fun m hmem => (hboth m hmem).2⟩
  · rintro ⟨hutf, hp⟩ m hmem
    obtain ⟨hk, hv⟩ := h.of_mem m hmem
    exact (Spelling.exists_means_iff hk hv).2 ⟨hutf m hmem, hp m hmem⟩

/-- What is read is UTF-8, derived by the grammar, and has its surrogates paired. -/
theorem exists_readDocument_iff : (∃ members, readDocument bytes = .ok members) ↔
    IsUtf8 bytes ∧ ∃ ms, Document bytes ms ∧ ∀ m ∈ ms, m.IsPaired := by
  simp only [readDocument_eq_ok_iff]
  constructor
  · rintro ⟨members, ms, h, hm⟩
    obtain ⟨hutf, hp⟩ := h.exists_means_iff.1 ⟨members, hm⟩
    exact ⟨hutf, ms, h, hp⟩
  · rintro ⟨hutf, ms, h, hp⟩
    obtain ⟨members, hm⟩ := h.exists_means_iff.2 ⟨hutf, hp⟩
    exact ⟨members, ms, h, hm⟩

end JournalSink.Json
