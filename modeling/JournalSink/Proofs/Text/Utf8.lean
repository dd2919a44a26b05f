import Mathlib.Tactic.SplitIfs
import JournalSink.Text.Utf8

/-! # Characters in UTF-8

An ASCII character is spelled by one byte below 0x80, any other by bytes from
0x80 on. The first byte of a character is told apart from those that continue
it, so a spelling can be cut only between characters.
-/

namespace JournalSink.Text

theorem toNat_ofNat {n : Nat} (h : n.isValidChar) : (Char.ofNat n).toNat = n := by
  rw [Char.ofNat, dif_pos h]
  exact UInt32.toNat_ofNatLT ..

theorem toNat_ofNat_byte (b : UInt8) : (Char.ofNat b.toNat).toNat = b.toNat :=
  toNat_ofNat (.inl (Nat.lt_trans b.toNat_lt (by decide)))

theorem utf8_inj {s t : String} : utf8 s = utf8 t ↔ s = t := by
  refine ⟨fun h => ?_, congrArg utf8⟩
  rw [← Option.some_inj, ← ofUtf8?_utf8 s, ← ofUtf8?_utf8 t, h]

section Bytes

variable {c : Char} {b : UInt8} {s : String}

theorem le_ofNat {n : Nat} (h : 0x80 ≤ n) (h' : n < 0x100) : 0x80 ≤ UInt8.ofNat n := by
  rw [UInt8.le_iff_toNat_le, UInt8.toNat_ofNat_of_lt' h']
  exact h

theorem utf8EncodeChar_of_lt (h : c.toNat < 0x80) :
    String.utf8EncodeChar c = [UInt8.ofNat c.toNat] := by
  simp [String.utf8EncodeChar, Nat.le_of_lt_succ h]

theorem le_of_mem_utf8EncodeChar (h : 0x80 ≤ c.toNat) :
    ∀ b ∈ String.utf8EncodeChar c, 0x80 ≤ b := by
  have hc : ¬ c.toNat ≤ 0x7F := by omega
  simp only [String.utf8EncodeChar, Char.toNat_val, hc, if_false]
  split_ifs <;>
    simp only [List.forall_mem_cons, List.not_mem_nil, false_implies, implies_true, and_true]
  · exact ⟨le_ofNat (by omega) (by omega), le_ofNat (by omega) (by omega)⟩
  · exact ⟨le_ofNat (by omega) (by omega), le_ofNat (by omega) (by omega),
      le_ofNat (by omega) (by omega)⟩
  · exact ⟨le_ofNat (by omega) (by omega), le_ofNat (by omega) (by omega),
      le_ofNat (by omega) (by omega), le_ofNat (by omega) (by omega)⟩

theorem mem_utf8EncodeChar_iff (hb : b < 0x80) :
    b ∈ String.utf8EncodeChar c ↔ c.toNat = b.toNat := by
  by_cases hc : c.toNat < 0x80
  · rw [utf8EncodeChar_of_lt hc, List.mem_singleton, ← UInt8.toNat_inj, UInt8.toNat_ofNat']
    omega
  · constructor
    · intro h
      have := le_of_mem_utf8EncodeChar (Nat.le_of_not_lt hc) b h
      exact absurd hb (UInt8.not_lt.2 this)
    · intro h
      rw [h] at hc
      exact absurd hb hc

/-- An ASCII byte stands in the spelling of a text only for its own character. -/
theorem mem_utf8_iff (hb : b < 0x80) : b ∈ utf8 s ↔ Char.ofNat b.toNat ∈ s.toList := by
  simp only [utf8, List.mem_flatMap, mem_utf8EncodeChar_iff hb]
  constructor
  · rintro ⟨c, hc, h⟩
    rwa [← h, Char.ofNat_toNat]
  · intro h
    exact ⟨_, h, toNat_ofNat_byte b⟩

end Bytes

/-- The bytes spell a text. -/
def IsUtf8 (bytes : List UInt8) : Prop :=
  ∃ s, bytes = utf8 s

section Boundaries

variable {a r : List UInt8} {b : UInt8} {c : Char}

theorem isUtf8_iff {bytes : List UInt8} :
    IsUtf8 bytes ↔ ∃ cs : List Char, bytes = cs.flatMap String.utf8EncodeChar := by
  constructor
  · rintro ⟨s, rfl⟩
    exact ⟨s.toList, rfl⟩
  · rintro ⟨cs, rfl⟩
    exact ⟨String.ofList cs, by simp [utf8]⟩

theorem isUtf8_utf8 (s : String) : IsUtf8 (utf8 s) :=
  ⟨s, rfl⟩

theorem isUtf8_nil : IsUtf8 [] :=
  isUtf8_iff.2 ⟨[], rfl⟩

theorem IsUtf8.append (ha : IsUtf8 a) (hr : IsUtf8 r) : IsUtf8 (a ++ r) := by
  obtain ⟨s, rfl⟩ := ha
  obtain ⟨t, rfl⟩ := hr
  exact ⟨s ++ t, (utf8_append s t).symm⟩

/-- Where a first byte stands, the characters divide. -/
theorem flatMap_encode_eq_append {cs : List Char} (hb : b.IsUTF8FirstByte)
    (h : cs.flatMap String.utf8EncodeChar = a ++ b :: r) :
    ∃ front back : List Char, a = front.flatMap String.utf8EncodeChar ∧
      b :: r = back.flatMap String.utf8EncodeChar := by
  induction cs generalizing a with
  | nil => simp at h
  | cons c cs ih =>
    rw [List.flatMap_cons, List.append_eq_append_iff] at h
    rcases h with ⟨a', rfl, ht⟩ | ⟨x, hc, ht⟩
    · obtain ⟨front, back, rfl, hback⟩ := ih ht
      exact ⟨c :: front, back, by simp, hback⟩
    · cases x with
      | nil => exact ⟨[c], cs, by simpa using hc.symm, by simpa using ht⟩
      | cons y x =>
        obtain ⟨rfl, -⟩ := List.cons.inj ht
        have hi : a.length < (String.utf8EncodeChar c).length := by simp [hc]
        have hf : (String.utf8EncodeChar c)[a.length].IsUTF8FirstByte := by simpa [hc] using hb
        obtain rfl := List.length_eq_zero_iff.1 (UInt8.isUTF8FirstByte_getElem_utf8EncodeChar.1 hf)
        exact ⟨[], c :: cs, rfl, by simpa [hc] using ht⟩

theorem isUtf8_append_iff (hb : b.IsUTF8FirstByte) :
    IsUtf8 (a ++ b :: r) ↔ IsUtf8 a ∧ IsUtf8 (b :: r) := by
  constructor
  · intro h
    obtain ⟨cs, h⟩ := isUtf8_iff.1 h
    obtain ⟨front, back, hf, hr⟩ := flatMap_encode_eq_append hb h.symm
    exact ⟨isUtf8_iff.2 ⟨front, hf⟩, isUtf8_iff.2 ⟨back, hr⟩⟩
  · rintro ⟨ha, hr⟩
    exact ha.append hr

theorem isUtf8_iff_isValidUTF8 {bytes : List UInt8} :
    IsUtf8 bytes ↔ bytes.toByteArray.IsValidUTF8 := by
  rw [isUtf8_iff]
  constructor
  · rintro ⟨cs, rfl⟩
    exact ⟨cs, rfl⟩
  · rintro ⟨cs, h⟩
    exact ⟨cs, by simpa [List.utf8Encode] using h⟩

theorem isUtf8_encode_append_iff : IsUtf8 (String.utf8EncodeChar c ++ r) ↔ IsUtf8 r := by
  rw [isUtf8_iff_isValidUTF8, isUtf8_iff_isValidUTF8, List.toByteArray_append,
    ← List.utf8Encode_singleton, ByteArray.isValidUTF8_utf8Encode_singleton_append_iff]

/-- A whole character can be taken out of a spelling, or put into it. -/
theorem isUtf8_append_encode_append_iff :
    IsUtf8 (a ++ (String.utf8EncodeChar c ++ r)) ↔ IsUtf8 a ∧ IsUtf8 r := by
  rw [← isUtf8_encode_append_iff (c := c) (r := r)]
  obtain ⟨b, bs, h⟩ := List.exists_cons_of_ne_nil (String.utf8EncodeChar_ne_nil (c := c))
  have hb : b.IsUTF8FirstByte := by
    simpa [h] using UInt8.isUTF8FirstByte_getElem_zero_utf8EncodeChar (c := c)
  rw [h, List.cons_append, isUtf8_append_iff hb]

theorem encode_byte (hb : b < 0x80) : String.utf8EncodeChar (Char.ofNat b.toNat) = [b] := by
  have hn := toNat_ofNat_byte b
  rw [utf8EncodeChar_of_lt (by rw [hn]; exact hb), hn, UInt8.ofNat_toNat]

theorem isUtf8_append_cons_iff (hb : b < 0x80) :
    IsUtf8 (a ++ b :: r) ↔ IsUtf8 a ∧ IsUtf8 r := by
  rw [← isUtf8_append_encode_append_iff (c := Char.ofNat b.toNat), encode_byte hb]
  rfl

theorem isUtf8_cons_iff (hb : b < 0x80) : IsUtf8 (b :: r) ↔ IsUtf8 r := by
  simpa [isUtf8_nil] using isUtf8_append_cons_iff (a := []) (r := r) hb

end Boundaries

end JournalSink.Text
