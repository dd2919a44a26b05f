import Mathlib.Data.List.Forall2
import JournalSink.Level

/-! # Names of levels

A text names a level when it is one of nine words, but for the case of ASCII letters. No
other text gives a level.
-/

namespace JournalSink.Level

variable {s t : String} {c d : Char} {l : Level}

/-- The same character, or the capital and the small form of one ASCII letter. -/
def SameLetter (c d : Char) : Prop :=
  c = d ∨ (0x41 ≤ c.toNat ∧ c.toNat ≤ 0x5A ∧ d.toNat = c.toNat + 0x20) ∨
    (0x41 ≤ d.toNat ∧ d.toNat ≤ 0x5A ∧ c.toNat = d.toNat + 0x20)

/-- The same text but for the case of ASCII letters. -/
def SameButCase (s t : String) : Prop :=
  List.Forall₂ SameLetter s.toList t.toList

/-- A text that names a level. -/
def Names (t : String) (l : Level) : Prop :=
  ∃ word, (word, l) ∈ [("trace", trace), ("debug", debug), ("info", info), ("warn", warn),
    ("error", error), ("fatal", fatal), ("panic", panic), ("warning", warn),
    ("critical", fatal)] ∧ SameButCase t word

theorem toNat_toLower (c : Char) :
    c.toLower.toNat = if 0x41 ≤ c.toNat ∧ c.toNat ≤ 0x5A then c.toNat + 0x20 else c.toNat := by
  have hcapital : c.val ≥ 'A'.val ∧ c.val ≤ 'Z'.val ↔ 0x41 ≤ c.toNat ∧ c.toNat ≤ 0x5A := Iff.rfl
  unfold Char.toLower
  simp only [hcapital]
  split
  · rename_i h
    have hlt : c.toNat + 0x20 < UInt32.size := by
      unfold UInt32.size
      omega
    exact (UInt32.toNat_add c.val 0x20).trans (Nat.mod_eq_of_lt hlt)
  · rfl

theorem toLower_eq_iff : c.toLower = d.toLower ↔ SameLetter c d := by
  rw [← Char.toNat_inj, toNat_toLower, toNat_toLower, SameLetter, ← Char.toNat_inj]
  split_ifs <;> omega

theorem lowercase_eq_iff : lowercase s = lowercase t ↔ SameButCase s t := by
  rw [lowercase, lowercase, String.ofList_inj, ← List.forall₂_eq_eq_eq, List.forall₂_map_left_iff,
    List.forall₂_map_right_iff, SameButCase]
  simp only [toLower_eq_iff]

theorem parse?_eq_some_iff_mem : parse? t = some l ↔ (lowercase t, l) ∈ spellings := by
  unfold parse?
  generalize lowercase t = s
  constructor
  · intro h
    obtain ⟨l₁, l₂, hl, -⟩ := List.lookup_eq_some_iff.1 h
    exact hl ▸ List.mem_append_right l₁ List.mem_cons_self
  · intro h
    have : ∀ p ∈ spellings, spellings.lookup p.1 = some p.2 := by decide
    exact this _ h

/-- A text gives the level that it names, and no other. -/
theorem parse?_eq_some_iff : parse? t = some l ↔ Names t l := by
  have hsmall : ∀ p ∈ spellings, lowercase p.1 = p.1 := by decide
  rw [parse?_eq_some_iff_mem, Names, ← spellings_eq]
  constructor
  · intro h
    exact ⟨lowercase t, h, lowercase_eq_iff.1 (hsmall _ h).symm⟩
  · rintro ⟨word, hword, ht⟩
    rwa [lowercase_eq_iff.2 ht, hsmall _ hword]

end JournalSink.Level
