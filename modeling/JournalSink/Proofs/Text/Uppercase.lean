import JournalSink.Proofs.Text.Utf8
import JournalSink.Text.Uppercase

/-! # Separators in capitals

An equals sign or a newline stands in the capitals of a text exactly where it
stands in the text.
-/

namespace JournalSink.Text

variable {c s : Char}

/-- The characters that bound a name on the wire. -/
def IsSeparator (c : Char) : Prop :=
  c = '=' ∨ c = '\n'

theorem expansion_not_separator :
    ∀ e ∈ caseExpansions, ∀ code ∈ e.2, Char.ofNat code ≠ '=' ∧ Char.ofNat code ≠ '\n' := by
  decide +kernel

theorem lt_capital : ∀ run ∈ caseRuns, 0x3D < run.capital := by
  decide +kernel

theorem IsSeparator.toNat_le (hs : IsSeparator s) : s.toNat ≤ 0x3D := by
  rcases hs with rfl | rfl <;> decide

theorem ofNat_ne_separator (hs : IsSeparator s) {n : Nat} (hn : 0x3D < n) : Char.ofNat n ≠ s := by
  rintro rfl
  by_cases h : n.isValidChar
  · have := hs.toNat_le
    rw [toNat_ofNat h] at this
    omega
  · rw [Char.ofNat, dif_neg h] at hs
    rcases hs with hs | hs <;> cases hs

theorem mem_of_lookup {n : Nat} {codes : List Nat} (h : caseExpansions.lookup n = some codes) :
    (n, codes) ∈ caseExpansions := by
  obtain ⟨before, after, he, -⟩ := List.lookup_eq_some_iff.1 h
  simp [he]

theorem toUpper_eq_separator_iff (hs : IsSeparator s) (hc : c.toNat < 0x80) :
    c.toUpper = s ↔ c = s := by
  have h : ∀ n < 0x80, ((Char.ofNat n).toUpper = '=' ↔ Char.ofNat n = '=') ∧
      ((Char.ofNat n).toUpper = '\n' ↔ Char.ofNat n = '\n') := by
    decide +kernel
  obtain ⟨hequals, hnewline⟩ := h c.toNat hc
  rcases hs with rfl | rfl
  · simpa using hequals
  · simpa using hnewline

theorem mem_upperChar_iff (hs : IsSeparator s) : s ∈ upperChar c ↔ s = c := by
  unfold upperChar
  split_ifs with hc
  · rw [List.mem_singleton, eq_comm, toUpper_eq_separator_iff hs hc, eq_comm]
  · have hne : s ≠ c := by
      rintro rfl
      have := hs.toNat_le
      omega
    simp only [hne, iff_false]
    cases hl : caseExpansions.lookup c.toNat with
    | some codes =>
      rw [List.mem_map]
      rintro ⟨code, hcode, rfl⟩
      have := expansion_not_separator _ (mem_of_lookup hl) code hcode
      rcases hs with hs | hs
      · exact this.1 hs
      · exact this.2 hs
    | none =>
      cases hf : caseRuns.find? (·.covers c.toNat) with
      | some run =>
        have hr := lt_capital run (List.mem_of_find?_eq_some hf)
        rw [List.mem_singleton]
        exact (ofNat_ne_separator hs (Nat.lt_of_lt_of_le hr (Nat.le_add_right ..))).symm
      | none => simpa using hne

theorem mem_uppercase_iff (hs : IsSeparator s) (t : String) :
    s ∈ (uppercase t).toList ↔ s ∈ t.toList := by
  simp [uppercase, mem_upperChar_iff hs]

end JournalSink.Text
