import Mathlib.Tactic.SplitIfs
import JournalSink.Proofs.Json.Grammar
import JournalSink.Proofs.Text.Utf8

/-! # Strings against the grammar

Passing over a string stops exactly behind a content and its closing quote.
Reading it succeeds for the contents that stand for a text, and gives that text.
-/

namespace JournalSink.Json

variable {bytes r x s t : List UInt8} {b : UInt8} {n : Nat}

theorem hexValue?_eq_lookup (b : UInt8) : Ascii.hexValue? b = hexDigits.lookup b := by
  have h : ∀ n < 0x100, Ascii.hexValue? (UInt8.ofNat n) = hexDigits.lookup (UInt8.ofNat n) := by
    decide +kernel
  simpa using h b.toNat b.toNat_lt

theorem isHighSurrogate_iff : isHighSurrogate n = true ↔ IsHigh n := by
  simp [isHighSurrogate, IsHigh]

theorem isLowSurrogate_iff : isLowSurrogate n = true ↔ IsLow n := by
  simp [isLowSurrogate, IsLow]

theorem hex4_eq_ok_iff : hex4 bytes = .ok (n, r) ↔
    ∃ a b c d, bytes = a :: b :: c :: d :: r ∧ code? a b c d = some n := by
  constructor
  · intro h
    unfold hex4 halt at h
    split at h
    · rename_i a b c d r'
      split at h <;> simp only [reduceCtorEq, Except.ok.injEq, Prod.mk.injEq] at h
      rename_i ha hb hc hd
      obtain ⟨rfl, rfl⟩ := h
      simp only [hexValue?_eq_lookup] at ha hb hc hd
      exact ⟨a, b, c, d, rfl, by simp [code?, ha, hb, hc, hd]⟩
    · cases h
  · rintro ⟨a, b, c, d, rfl, h⟩
    simp only [code?, Option.bind_eq_bind, Option.bind_eq_some_iff, Option.pure_def] at h
    obtain ⟨p, ha, q, hb, u, hc, v, hd, h⟩ := h
    cases h
    simp [hex4, hexValue?_eq_lookup, ha, hb, hc, hd]

theorem hex4_cons {a c d : UInt8} (h : code? a b c d = some n) :
    hex4 (a :: b :: c :: d :: r) = .ok (n, r) :=
  hex4_eq_ok_iff.2 ⟨a, b, c, d, rfl, h⟩

theorem shortEscape?_eq_some_iff {x : UInt8} :
    shortEscape? b = some x ↔ (b, x) ∈ shortEscapes := by
  constructor
  · intro h
    unfold shortEscape? at h
    split_ifs at h with h₁ h₂ h₃ h₄ h₅ h₆
    · rcases h₁ with rfl | rfl | rfl <;> cases h <;> decide
    all_goals subst_vars; cases h; decide
  · intro h
    simp only [shortEscapes, List.mem_cons, Prod.mk.injEq, List.not_mem_nil, or_false] at h
    rcases h with h | h | h | h | h | h | h | h <;> obtain ⟨rfl, rfl⟩ := h <;> rfl

theorem lt_of_mem_shortEscapes {x : UInt8} (h : (b, x) ∈ shortEscapes) : b < 0x80 ∧ x < 0x80 := by
  simp only [shortEscapes, List.mem_cons, Prod.mk.injEq, List.not_mem_nil, or_false] at h
  rcases h with h | h | h | h | h | h | h | h <;> obtain ⟨rfl, rfl⟩ := h <;> decide

theorem letterU_not_short {x : UInt8} : (letterU, x) ∉ shortEscapes := by
  rw [← shortEscape?_eq_some_iff]
  nofun

/-! ## Passing over -/

theorem skipEscape_sound (h : skipEscape bytes = .ok r) :
    ∃ e, bytes = e ++ r ∧ ∀ s, Content s → Content (Ascii.backslash :: e ++ s) := by
  cases bytes with
  | nil => cases h
  | cons b bytes =>
    simp only [skipEscape, halt] at h
    split_ifs at h with hu hs
    · subst hu
      split at h
      · cases h
      · rename_i hx
        cases h
        obtain ⟨a, b, c, d, rfl, hn⟩ := hex4_eq_ok_iff.1 hx
        exact ⟨[letterU, a, b, c, d], rfl, fun s => .code hn⟩
    · cases h
      obtain ⟨x, hx⟩ := Option.isSome_iff_exists.1 hs
      exact ⟨[b], rfl, fun s => .short (shortEscape?_eq_some_iff.1 hx)⟩

theorem skipEscape_short {x : UInt8} (h : (b, x) ∈ shortEscapes) : skipEscape (b :: r) = .ok r := by
  have hu : b ≠ letterU := fun hb => letterU_not_short (hb ▸ h)
  simp [skipEscape, hu, shortEscape?_eq_some_iff.2 h]

theorem skipEscape_code {a c d : UInt8} (h : code? a b c d = some n) :
    skipEscape (letterU :: a :: b :: c :: d :: r) = .ok r := by
  simp [skipEscape, hex4_cons h]

theorem skipString_quote : skipString (Ascii.quote :: r) = .ok r := by
  rw [skipString, if_pos rfl]

theorem skipString_plain (h : IsPlain b) : skipString (b :: r) = skipString r := by
  rw [skipString, if_neg h.2.1, if_neg h.2.2, if_neg (UInt8.not_lt.2 h.1)]

theorem skipString_escape (h : skipEscape bytes = .ok r) :
    skipString (Ascii.backslash :: bytes) = skipString r := by
  rw [skipString, if_neg (by decide), if_pos rfl]
  split
  · rename_i h'
    rw [h] at h'
    cases h'
  · rename_i h'
    rw [h] at h'
    cases h'
    rfl

theorem skipString_sound (h : skipString bytes = .ok r) :
    ∃ s, bytes = s ++ Ascii.quote :: r ∧ Content s := by
  fun_induction skipString bytes with
  | case1 => cases h
  | case2 => cases h; exact ⟨[], by simp_all, .nil⟩
  | case3 => cases h
  | case4 _ _ hr _ ih =>
    obtain ⟨s, rfl, hs⟩ := ih h
    obtain ⟨e, rfl, he⟩ := skipEscape_sound hr
    exact ⟨_, by simp, he s hs⟩
  | case5 => cases h
  | case6 b _ hq hb hc ih =>
    obtain ⟨s, rfl, hs⟩ := ih h
    exact ⟨b :: s, rfl, .plain ⟨UInt8.not_lt.1 hc, hq, hb⟩ hs⟩

theorem skipString_complete (h : Content s) : skipString (s ++ Ascii.quote :: r) = .ok r := by
  induction h with
  | nil => exact skipString_quote
  | plain hb _ ih => rw [List.cons_append, skipString_plain hb, ih]
  | short hx _ ih =>
    rw [List.cons_append, List.cons_append, skipString_escape (skipEscape_short hx), ih]
  | code hn _ ih =>
    simp only [List.cons_append]
    rw [skipString_escape (skipEscape_code hn), ih]

/-! ## Reading -/

theorem readUnicode_sound {c : Char} (h : readUnicode bytes = .ok (c, r)) :
    ∃ e, bytes = e ++ r ∧ ∀ s t, Unescapes s t →
      Unescapes (Ascii.backslash :: letterU :: e ++ s) (String.utf8EncodeChar c ++ t) := by
  unfold readUnicode halt at h
  split at h
  · cases h
  · rename_i n r₁ h₁
    obtain ⟨a, b, c, d, rfl, hn⟩ := hex4_eq_ok_iff.1 h₁
    split_ifs at h with hl hh
    · split at h
      · cases h
      · split_ifs at h with hb
        split at h
        · cases h
        · split_ifs at h with hu
          split at h
          · cases h
          · rename_i h₂
            obtain ⟨a', b', c', d', rfl, hm⟩ := hex4_eq_ok_iff.1 h₂
            split_ifs at h with hl'
            simp only [Except.ok.injEq, Prod.mk.injEq] at h
            obtain ⟨rfl, rfl⟩ := h
            subst hb hu
            exact ⟨[a, b, c, d, Ascii.backslash, letterU, a', b', c', d'], rfl,
              fun s t => .pair hn (isHighSurrogate_iff.1 hh) hm (isLowSurrogate_iff.1 hl')⟩
    · cases h
      rw [isHighSurrogate_iff] at hh
      rw [isLowSurrogate_iff] at hl
      exact ⟨[a, b, c, d], rfl, fun s t => .code hn (not_or.2 ⟨hh, hl⟩)⟩

theorem readUnicode_code {a b c d : UInt8} (h : code? a b c d = some n) (hs : ¬ IsSurrogate n) :
    readUnicode (a :: b :: c :: d :: r) = .ok (Char.ofNat n, r) := by
  obtain ⟨hh, hl⟩ := not_or.1 hs
  rw [← isHighSurrogate_iff] at hh
  rw [← isLowSurrogate_iff] at hl
  simp [readUnicode, hex4_cons h, hh, hl]

theorem IsHigh.not_isLow (h : IsHigh n) : ¬ IsLow n := by
  unfold IsHigh at h
  unfold IsLow
  omega

theorem readUnicode_pair {a b c d a' b' c' d' : UInt8} {m : Nat} (h : code? a b c d = some n)
    (hh : IsHigh n) (h' : code? a' b' c' d' = some m) (hl : IsLow m) :
    readUnicode (a :: b :: c :: d :: Ascii.backslash :: letterU :: a' :: b' :: c' :: d' :: r) =
      .ok (Char.ofNat (0x10000 + (n - 0xD800) * 0x400 + (m - 0xDC00)), r) := by
  have hn := hh.not_isLow
  rw [← isLowSurrogate_iff] at hn hl
  rw [← isHighSurrogate_iff] at hh
  simp [readUnicode, hex4_cons h, hex4_cons h', hh, hl, hn, joinSurrogates]

theorem readEscape_sound (h : readEscape bytes = .ok (x, r)) :
    ∃ e, bytes = e ++ r ∧ ∀ s t, Unescapes s t →
      Unescapes (Ascii.backslash :: e ++ s) (x ++ t) := by
  cases bytes with
  | nil => cases h
  | cons b bytes =>
    simp only [readEscape, halt] at h
    split_ifs at h with hu
    · subst hu
      split at h
      · cases h
      · rename_i hc
        cases h
        obtain ⟨e, rfl, he⟩ := readUnicode_sound hc
        exact ⟨letterU :: e, rfl, he⟩
    · split at h <;> cases h
      rename_i hx
      exact ⟨[b], rfl, fun s t => .short (shortEscape?_eq_some_iff.1 hx)⟩

theorem readEscape_short {y : UInt8} (h : (b, y) ∈ shortEscapes) :
    readEscape (b :: r) = .ok ([y], r) := by
  have hu : b ≠ letterU := fun hb => letterU_not_short (hb ▸ h)
  simp [readEscape, hu, shortEscape?_eq_some_iff.2 h]

theorem readEscape_unicode {c : Char} (h : readUnicode bytes = .ok (c, r)) :
    readEscape (letterU :: bytes) = .ok (String.utf8EncodeChar c, r) := by
  simp [readEscape, h]

theorem readContent_quote : readContent x (Ascii.quote :: r) = .ok (x.reverse, r) := by
  rw [readContent, if_pos rfl]

theorem readContent_plain (h : IsPlain b) :
    readContent x (b :: r) = readContent (b :: x) r := by
  rw [readContent, if_neg h.2.1, if_neg h.2.2, if_neg (UInt8.not_lt.2 h.1)]

theorem readContent_escape (h : readEscape bytes = .ok (t, r)) :
    readContent x (Ascii.backslash :: bytes) = readContent (t.reverse ++ x) r := by
  rw [readContent, if_neg (by decide), if_pos rfl]
  split
  · rename_i h'
    rw [h] at h'
    cases h'
  · rename_i h'
    rw [h] at h'
    cases h'
    rfl

theorem readContent_sound {done : List UInt8} (h : readContent done bytes = .ok (x, r)) :
    ∃ s t, bytes = s ++ Ascii.quote :: r ∧ x = done.reverse ++ t ∧ Unescapes s t := by
  fun_induction readContent done bytes with
  | case1 => cases h
  | case2 => cases h; exact ⟨[], [], by simp_all, by simp, .nil⟩
  | case3 => cases h
  | case4 _ _ _ _ hr _ ih =>
    obtain ⟨s, t, rfl, rfl, hs⟩ := ih h
    obtain ⟨e, rfl, he⟩ := readEscape_sound hr
    exact ⟨_, _, by simp, by simp, he s t hs⟩
  | case5 => cases h
  | case6 _ b _ hq hb hc ih =>
    obtain ⟨s, t, rfl, rfl, hs⟩ := ih h
    exact ⟨b :: s, b :: t, rfl, by simp, .plain ⟨UInt8.not_lt.1 hc, hq, hb⟩ hs⟩

theorem readContent_complete {done : List UInt8} (h : Unescapes s t) :
    readContent done (s ++ Ascii.quote :: r) = .ok (done.reverse ++ t, r) := by
  induction h generalizing done with
  | nil => simp [readContent_quote]
  | plain hb _ ih => rw [List.cons_append, readContent_plain hb, ih]; simp
  | short hx _ ih =>
    simp only [List.cons_append]
    rw [readContent_escape (readEscape_short hx), ih]
    simp
  | code hn hs _ ih =>
    simp only [List.cons_append]
    rw [readContent_escape (readEscape_unicode (readUnicode_code hn hs)), ih]
    simp
  | pair hn hh hm hl _ ih =>
    simp only [List.cons_append]
    rw [readContent_escape (readEscape_unicode (readUnicode_pair hn hh hm hl)), ih]
    simp

/-- Reading a string gives what its content spells, and leaves what follows the closing quote. -/
theorem readString_eq_ok_iff {text : String} : readString bytes = .ok (text, r) ↔
    ∃ s, bytes = s ++ Ascii.quote :: r ∧ Spells s text := by
  constructor
  · intro h
    unfold readString halt at h
    split at h
    · cases h
    · rename_i x r' hc
      obtain ⟨s, t, hb, rfl, hs⟩ := readContent_sound hc
      split at h <;> cases h
      rename_i hx
      rw [Text.ofUtf8?_eq_some_iff] at hx
      exact ⟨s, hb, by simpa [Spells, ← hx] using hs⟩
  · rintro ⟨s, rfl, hs⟩
    simp [readString, readContent_complete hs, Text.ofUtf8?_utf8]

/-! ## Contents that stand for a text -/

theorem Unescapes.content (h : Unescapes s t) : Content s := by
  induction h with
  | nil => exact .nil
  | plain hb _ ih => exact .plain hb ih
  | short hx _ ih => exact .short hx ih
  | code hn _ _ ih => exact .code hn ih
  | pair hn _ hm _ _ ih => exact .code hn (.code hm ih)

theorem Unescapes.paired (h : Unescapes s t) : Paired s := by
  induction h with
  | nil => exact .nil
  | plain hb _ ih => exact .plain hb.2.2 ih
  | short hx _ ih => exact .short (fun hb => letterU_not_short (hb ▸ hx)) ih
  | code hn hs _ ih => exact .code hn hs ih
  | pair hn hh hm hl _ ih => exact .pair hn hh hm hl ih

theorem Content.of_short (h : Content (Ascii.backslash :: b :: s)) (hb : b ≠ letterU) :
    ∃ x, (b, x) ∈ shortEscapes ∧ Content s := by
  cases h with
  | plain hp => cases hp.2.2 rfl
  | short hx hc => exact ⟨_, hx, hc⟩
  | code => cases hb rfl

theorem Content.of_code {a b c d : UInt8}
    (h : Content (Ascii.backslash :: letterU :: a :: b :: c :: d :: s)) : Content s := by
  cases h with
  | plain hp => cases hp.2.2 rfl
  | short hx => cases letterU_not_short hx
  | code _ hc => exact hc

theorem Content.unescapes (hc : Content s) (hp : Paired s) : ∃ t, Unescapes s t := by
  induction hp with
  | nil => exact ⟨[], .nil⟩
  | plain hb _ ih =>
    cases hc with
    | plain hp hc =>
      obtain ⟨t, ht⟩ := ih hc
      exact ⟨_, .plain hp ht⟩
    | short | code => cases hb rfl
  | short hb _ ih =>
    obtain ⟨x, hx, hc⟩ := hc.of_short hb
    obtain ⟨t, ht⟩ := ih hc
    exact ⟨_, .short hx ht⟩
  | code hn hs _ ih =>
    obtain ⟨t, ht⟩ := ih hc.of_code
    exact ⟨_, .code hn hs ht⟩
  | pair hn hh hm hl _ ih =>
    obtain ⟨t, ht⟩ := ih hc.of_code.of_code
    exact ⟨_, .pair hn hh hm hl ht⟩

open Text (IsUtf8 isUtf8_append_cons_iff isUtf8_cons_iff isUtf8_append_encode_append_iff)

theorem lt_of_hexDigit {a : UInt8} (h : hexDigits.lookup a = some n) : a < 0x80 := by
  have hdigits : ∀ p ∈ hexDigits, p.1 < 0x80 := by decide
  obtain ⟨l₁, l₂, hl, -⟩ := List.lookup_eq_some_iff.1 h
  exact hdigits (a, n) (hl ▸ List.mem_append_right l₁ List.mem_cons_self)

theorem isUtf8_code_iff {a c d : UInt8} (h : code? a b c d = some n) :
    IsUtf8 (a :: b :: c :: d :: s) ↔ IsUtf8 s := by
  simp only [code?, Option.bind_eq_bind, Option.bind_eq_some_iff] at h
  obtain ⟨_, ha, _, hb, _, hc, _, hd, -⟩ := h
  rw [isUtf8_cons_iff (lt_of_hexDigit ha), isUtf8_cons_iff (lt_of_hexDigit hb),
    isUtf8_cons_iff (lt_of_hexDigit hc), isUtf8_cons_iff (lt_of_hexDigit hd)]

/-- Escapes are ASCII and stand for whole characters, so a content spells as well as what it stands
for, whatever bytes come before. -/
theorem Unescapes.isUtf8_append_iff (h : Unescapes s t) (front : List UInt8) :
    IsUtf8 (front ++ s) ↔ IsUtf8 (front ++ t) := by
  have hback : Ascii.backslash < 0x80 := by decide
  have hu : letterU < 0x80 := by decide
  induction h generalizing front with
  | nil => rfl
  | @plain b _ _ _ _ ih => simpa using ih (front ++ [b])
  | short hx _ ih =>
    obtain ⟨hb, hx⟩ := lt_of_mem_shortEscapes hx
    rw [isUtf8_append_cons_iff hback, isUtf8_cons_iff hb, isUtf8_append_cons_iff hx]
    exact and_congr_right' (ih [])
  | code hn _ _ ih =>
    rw [isUtf8_append_cons_iff hback, isUtf8_cons_iff hu, isUtf8_code_iff hn,
      isUtf8_append_encode_append_iff]
    exact and_congr_right' (ih [])
  | pair hn _ hm _ _ ih =>
    rw [isUtf8_append_cons_iff hback, isUtf8_cons_iff hu, isUtf8_code_iff hn,
      isUtf8_cons_iff hback, isUtf8_cons_iff hu, isUtf8_code_iff hm,
      isUtf8_append_encode_append_iff]
    exact and_congr_right' (ih [])

/-- A content stands for a text exactly when its surrogates are paired and its bytes are UTF-8. -/
theorem exists_spells_iff (hc : Content s) : (∃ t, Spells s t) ↔ IsUtf8 s ∧ Paired s := by
  constructor
  · rintro ⟨t, h⟩
    exact ⟨(h.isUtf8_append_iff []).2 (Text.isUtf8_utf8 t), h.paired⟩
  · rintro ⟨hs, hp⟩
    obtain ⟨t, ht⟩ := hc.unescapes hp
    obtain ⟨text, rfl⟩ := (ht.isUtf8_append_iff []).1 hs
    exact ⟨text, ht⟩

end JournalSink.Json
