import JournalSink.Payload
import JournalSink.Proofs.Json.Values
import JournalSink.Proofs.Text.Utf8

/-! # Payloads in the grammar

Every character is written so that it is read back: by itself, by a short escape,
or by its code. So the source of a payload is a document of the grammar, whatever
the texts in it are, and no newline stands in it but the last byte.
-/

namespace JournalSink.Payload

open Json

variable {c : Char} {n : Nat} {s t : List UInt8}

def encode (cs : List Char) : List UInt8 :=
  cs.flatMap String.utf8EncodeChar

theorem utf8_ofList (cs : List Char) : Text.utf8 (String.ofList cs) = encode cs := by
  rw [Text.utf8, String.toList_ofList, encode]

@[simp] theorem encode_nil : encode [] = [] :=
  rfl

@[simp] theorem encode_append (cs ds : List Char) : encode (cs ++ ds) = encode cs ++ encode ds :=
  List.flatMap_append

theorem encode_cons (c : Char) (cs : List Char) :
    encode (c :: cs) = String.utf8EncodeChar c ++ encode cs :=
  List.flatMap_cons

/-! ## Characters -/

theorem isPlain_of_mem (hq : c ≠ '\x22') (hb : c ≠ '\\') (hc : 0x20 ≤ c.toNat) :
    ∀ b ∈ String.utf8EncodeChar c, IsPlain b := by
  intro b hmem
  by_cases hlt : b < 0x80
  · rw [Text.mem_utf8EncodeChar_iff hlt] at hmem
    refine ⟨?_, ?_, ?_⟩
    · rw [UInt8.le_iff_toNat_le, ← hmem]
      exact hc
    · rintro rfl
      exact hq (Char.toNat_inj.1 hmem)
    · rintro rfl
      exact hb (Char.toNat_inj.1 hmem)
  · have hle := UInt8.not_lt.1 hlt
    refine ⟨UInt8.le_trans (by decide) hle, ?_, ?_⟩ <;> rintro rfl <;> exact absurd hle (by decide)

theorem unescapes_plain_append {p : List UInt8} (hp : ∀ b ∈ p, IsPlain b) (h : Unescapes s t) :
    Unescapes (p ++ s) (p ++ t) := by
  induction p with
  | nil => exact h
  | cons b p ih =>
    obtain ⟨hb, hp⟩ := List.forall_mem_cons.1 hp
    exact .plain hb (ih hp)

theorem encode_digitChar {k : Nat} (hk : k < 0x10) :
    ∃ b, String.utf8EncodeChar (Nat.digitChar k) = [b] ∧ hexDigits.lookup b = some k := by
  have h : ∀ k < 0x10,
      String.utf8EncodeChar (Nat.digitChar k) = [UInt8.ofNat (Nat.digitChar k).toNat] ∧
        hexDigits.lookup (UInt8.ofNat (Nat.digitChar k).toNat) = some k := by
    decide
  exact ⟨_, h k hk⟩

theorem unescapes_control (hc : c.toNat < 0x20) (h : Unescapes s t) :
    Unescapes (encode ['\\', 'u', '0', '0', Nat.digitChar (c.toNat / 0x10),
      Nat.digitChar (c.toNat % 0x10)] ++ s) (String.utf8EncodeChar c ++ t) := by
  obtain ⟨a, ha, hav⟩ := encode_digitChar (k := c.toNat / 0x10) (by omega)
  obtain ⟨b, hb, hbv⟩ := encode_digitChar (k := c.toNat % 0x10) (by omega)
  have hn : code? Ascii.zero Ascii.zero a b = some c.toNat := by
    have hzero : hexDigits.lookup Ascii.zero = some 0 := rfl
    simp only [code?, hzero, hav, hbv, Option.bind_eq_bind, Option.bind_some, Option.pure_def,
      Option.some.injEq]
    omega
  have hs : ¬ IsSurrogate c.toNat := by
    unfold IsSurrogate IsHigh IsLow
    omega
  have hcode := Unescapes.code hn hs h
  rw [Char.ofNat_toNat] at hcode
  simp only [encode_cons, encode_nil, ha, hb]
  exact hcode

theorem unescapes_short {b x : UInt8} {cs : List Char} (hcs : encode cs = [Ascii.backslash, b])
    (hc : String.utf8EncodeChar c = [x]) (hx : (b, x) ∈ shortEscapes) (h : Unescapes s t) :
    Unescapes (encode cs ++ s) (String.utf8EncodeChar c ++ t) := by
  rw [hcs, hc]
  exact .short hx h

theorem unescapes_escape (c : Char) (h : Unescapes s t) :
    Unescapes (encode (escape c) ++ s) (String.utf8EncodeChar c ++ t) := by
  unfold escape
  split_ifs with h₁ h₂ h₃ h₄ h₅ h₆ h₇ h₈
  iterate 7
    · subst_vars
      exact unescapes_short rfl rfl (by decide) h
  · exact unescapes_control h₈ h
  · simpa [encode] using unescapes_plain_append (isPlain_of_mem h₁ h₂ (Nat.le_of_not_lt h₈)) h

theorem spells_escape (s : String) : Spells (encode (s.toList.flatMap escape)) s := by
  have h (cs : List Char) : Unescapes (encode (cs.flatMap escape)) (encode cs) := by
    induction cs with
    | nil => exact .nil
    | cons c cs ih =>
      rw [List.flatMap_cons, encode_append]
      exact unescapes_escape c ih
  exact h s.toList

theorem encode_string (s : String) :
    encode (string s) = quoted (encode (s.toList.flatMap escape)) := by
  rw [string, encode_append, encode_cons]
  rfl

/-! ## Numbers -/

theorem encode_digit (hc : c.isDigit = true) :
    ∃ b, String.utf8EncodeChar c = [b] ∧ IsDigit b ∧ (b = Ascii.zero → c = '0') := by
  have hc' : 0x30 ≤ c.toNat ∧ c.toNat ≤ 0x39 := by
    simpa [Char.isDigit, UInt32.le_iff_toNat_le] using hc
  have hn : (UInt8.ofNat c.toNat).toNat = c.toNat :=
    UInt8.toNat_ofNat_of_lt' (Nat.lt_of_le_of_lt hc'.2 (by decide))
  refine ⟨_, Text.utf8EncodeChar_of_lt (by omega), ?_, ?_⟩
  · simp only [IsDigit, UInt8.le_iff_toNat_le, hn]
    exact hc'
  · intro hz
    rw [hz] at hn
    have : '0'.toNat = c.toNat := hn
    exact (Char.toNat_inj.1 this).symm

theorem digits_encode {cs : List Char} (h : ∀ c ∈ cs, c.isDigit = true) : Digits (encode cs) := by
  induction cs with
  | nil => exact nofun
  | cons c cs ih =>
    obtain ⟨hc, hcs⟩ := List.forall_mem_cons.1 h
    obtain ⟨b, hb, hd, -⟩ := encode_digit hc
    rw [encode_cons, hb]
    exact List.forall_mem_cons.2 ⟨hd, ih hcs⟩

/-- A number written in decimal starts with a zero only if it is zero. -/
theorem toDigits_head (n : Nat) :
    ∃ c cs, Nat.toDigits 10 n = c :: cs ∧ (c = '0' → n = 0 ∧ cs = []) := by
  induction n using Nat.strongRecOn with
  | ind n ih =>
    rcases Nat.lt_or_ge n 10 with hn | hn
    · refine ⟨_, [], Nat.toDigits_of_lt_base hn, ?_⟩
      rw [Nat.digitChar_eq_zero]
      exact fun h => ⟨h, rfl⟩
    · obtain ⟨c, cs, h, hz⟩ := ih (n / 10) (by omega)
      refine ⟨c, cs ++ [Nat.digitChar (n % 10)], ?_, ?_⟩
      · rw [Nat.toDigits_of_base_le (by decide) hn, h]
        rfl
      · intro hc
        have := (hz hc).1
        omega

theorem whole_toDigits (n : Nat) : Whole (encode (Nat.toDigits 10 n)) := by
  have hdigits : ∀ c ∈ Nat.toDigits 10 n, c.isDigit = true :=
    fun c hc => Nat.isDigit_of_mem_toDigits (by decide) (by decide) hc
  obtain ⟨c, cs, h, hz⟩ := toDigits_head n
  rw [h] at hdigits ⊢
  obtain ⟨hc, hcs⟩ := List.forall_mem_cons.1 hdigits
  obtain ⟨b, hb, hd, hbz⟩ := encode_digit hc
  rw [encode_cons, hb]
  by_cases hzero : b = Ascii.zero
  · obtain ⟨-, rfl⟩ := hz (hbz hzero)
    exact hzero ▸ .zero
  · exact .digits hd hzero (digits_encode hcs)

theorem number_toDigits (n : Nat) : Number (encode (Nat.toDigits 10 n)) := by
  have := @Number.mk [] _ _ _ (by decide) (whole_toDigits n) .absent .absent
  simpa using this

/-! ## Members -/

/-- A member as it stands in the source. -/
def spelling (m : String × Value) : Spelling where
  key := encode (m.1.toList.flatMap escape)
  value := encode m.2.source

def Value.text : Value → String
  | .string s => s
  | .number n => toString n

/-- A member as it is read back. -/
def meaning (m : String × Value) : Member where
  key := m.1
  text := m.2.text

theorem content_key (m : String × Value) : Content (spelling m).key :=
  (spells_escape m.1).content

theorem derives_value (m : String × Value) : Derives .value (spelling m).value := by
  obtain ⟨key, value⟩ := m
  cases value with
  | string s =>
    rw [spelling, Value.source, encode_string]
    exact .string (spells_escape s).content
  | number n => exact .number (number_toDigits n)

theorem hasText_value (v : Value) : HasText (encode v.source) v.text := by
  cases v with
  | string s =>
    rw [Value.source, encode_string]
    exact .string (spells_escape s)
  | number n =>
    have h : encode (Nat.toDigits 10 n) = Text.utf8 (toString n) := by
      rw [← Nat.toList_repr]
      rfl
    rw [Value.source, h]
    apply HasText.source
    obtain ⟨d, ds, hd, hdigit⟩ := (whole_toDigits n).head
    rw [← h, hd]
    rintro ⟨⟩
    cases hdigit

theorem means_meaning (m : String × Value) : (spelling m).Means (meaning m) :=
  ⟨spells_escape m.1, hasText_value m.2⟩

theorem encode_member (m : String × Value) :
    encode (member m) = quoted (spelling m).key ++ Ascii.colon :: (spelling m).value := by
  rw [member, encode_append, encode_string, encode_cons]
  rfl

/-- What stands between the braces of a payload. -/
def body (ms : List (String × Value)) : List Char :=
  ((ms.map member).intersperse [',']).flatten

@[simp] theorem body_singleton (m : String × Value) : body [m] = member m := by
  simp [body]

@[simp] theorem body_cons_cons (m m' : String × Value) (ms : List (String × Value)) :
    body (m :: m' :: ms) = member m ++ ',' :: body (m' :: ms) := by
  simp [body]

theorem derives_members {ms : List (String × Value)} (h : ms ≠ []) :
    Derives (.members (ms.map spelling)) (encode (body ms)) := by
  induction ms with
  | nil => cases h rfl
  | cons m ms ih =>
    have hk := content_key m
    have hv := derives_value m
    cases ms with
    | nil =>
      have := Derives.lastMember blanks_nil hk blanks_nil blanks_nil hv blanks_nil
      simpa [encode_member] using this
    | cons m' ms =>
      have := Derives.member blanks_nil hk blanks_nil blanks_nil hv blanks_nil (ih nofun)
      have hcomma (cs : List Char) : encode (',' :: cs) = Ascii.comma :: encode cs := rfl
      simpa [encode_member, hcomma] using this

theorem utf8_source (ms : List (String × Value)) :
    Text.utf8 (source ms) = Ascii.openBrace :: encode (body ms) ++ [Ascii.closeBrace] ++
      [Ascii.newline] := by
  rw [source, utf8_ofList, encode_append, encode_cons]
  simp [body]
  rfl

/-- The source of a payload is a document, whatever the texts in it are. -/
theorem document_source (ms : List (String × Value)) :
    Document (Text.utf8 (source ms)) (ms.map spelling) := by
  refine ⟨[], encode (body ms), [Ascii.newline], blanks_nil, ?_, ?_, ?_⟩
  · exact List.forall_mem_singleton.2 (by decide)
  · rw [utf8_source]
    simp
  · cases ms with
    | nil => exact .inl ⟨blanks_nil, rfl⟩
    | cons m ms => exact .inr (derives_members nofun)

/-! ## Newlines -/

theorem newline_not_mem_escape (c : Char) : '\n' ∉ escape c := by
  have hdigit : ∀ k < 0x10, '\n' ≠ Nat.digitChar k := by decide
  unfold escape
  split_ifs with h₁ h₂ h₃ h₄ h₅ h₆ h₇ h₈
  iterate 7 decide
  · have h := hdigit (c.toNat / 0x10) (by omega)
    have h' := hdigit (c.toNat % 0x10) (by omega)
    simp only [List.mem_cons, List.not_mem_nil, or_false, not_or]
    exact ⟨by decide, by decide, by decide, by decide, h, h'⟩
  · simpa [eq_comm] using h₅

theorem newline_not_mem_string (s : String) : '\n' ∉ string s := by
  simp [string, newline_not_mem_escape]

theorem newline_not_mem_source (v : Value) : '\n' ∉ v.source := by
  cases v with
  | string s => exact newline_not_mem_string s
  | number n =>
    intro h
    cases Nat.isDigit_of_mem_toDigits (by decide) (by decide) h

theorem newline_not_mem_member (m : String × Value) : '\n' ∉ member m := by
  simp [member, newline_not_mem_string, newline_not_mem_source]

theorem newline_not_mem_body (ms : List (String × Value)) : '\n' ∉ body ms := by
  induction ms with
  | nil => nofun
  | cons m ms ih =>
    cases ms with
    | nil => simpa using newline_not_mem_member m
    | cons m' ms => simpa using ⟨newline_not_mem_member m, ih⟩

/-- The newline that ends a payload is the only one in it. -/
theorem newline_not_mem_front (ms : List (String × Value)) :
    Ascii.newline ∉ Ascii.openBrace :: encode (body ms) ++ [Ascii.closeBrace] := by
  have h : Ascii.newline ∉ encode (body ms) := by
    rw [← utf8_ofList, Text.mem_utf8_iff (by decide), String.toList_ofList]
    exact newline_not_mem_body ms
  simpa using ⟨by decide, h, by decide⟩

end JournalSink.Payload
