import Mathlib.Data.List.Basic
import JournalSink.Proofs.Text.Uppercase
import JournalSink.Wire.Encode

/-! # Capitals

A capital is its own uppercase. Where the table leads, nothing of it starts, so the
uppercase of any character is written in capitals. A name in capitals is therefore
settled, and it keeps the separators of its key.
-/

namespace JournalSink

namespace Text

variable {c d s : Char} {t : String}

/-- A character that is its own uppercase. -/
def IsCapital (c : Char) : Prop :=
  upperChar c = [c]

namespace CaseRun

/-- No capital of `r` is a character of `q`. Where the two overlap, capitals and characters take
turns. -/
def avoids (r q : CaseRun) : Bool :=
  q.last.blt r.capital || (r.capital + (r.last - r.first)).blt q.first ||
    (r.step.beq 2 || r.first.beq r.last) && q.step.beq 2 && ((r.capital + q.first) % 2).beq 1

/-- No capital of `r` is `n`. -/
def misses (r : CaseRun) (n : Nat) : Bool :=
  n.blt r.capital || (r.capital + (r.last - r.first)).blt n

variable {r q : CaseRun} {n : Nat}

theorem covers_iff :
    r.covers n = true ↔ r.first ≤ n ∧ n ≤ r.last ∧ (n - r.first) % r.step = 0 := by
  simp [covers, and_assoc]

theorem not_covers_image (h : r.avoids q = true) (hn : r.covers n = true) :
    ¬ q.covers (r.image n) = true := by
  rw [covers_iff] at hn ⊢
  simp only [avoids, Bool.or_eq_true, Bool.and_eq_true, Nat.blt_eq, Nat.beq_eq] at h
  unfold image
  obtain ⟨hfirst, hlast, hstep⟩ := hn
  rintro ⟨hfirst', hlast', hstep'⟩
  rcases h with (h | h) | ⟨⟨hr, hq⟩, hodd⟩
  · omega
  · omega
  · rw [hq] at hstep'
    rcases hr with hr | hr
    · rw [hr] at hstep
      omega
    · omega

theorem image_ne (h : r.misses n = true) {m : Nat} (hm : r.covers m = true) : r.image m ≠ n := by
  rw [covers_iff] at hm
  simp only [misses, Bool.or_eq_true, Nat.blt_eq] at h
  unfold image
  omega

end CaseRun

/-! ## The table leads to capitals -/

theorem avoids_of_mem : ∀ r ∈ caseRuns, ∀ q ∈ caseRuns, r.avoids q = true := by
  decide +kernel

theorem misses_of_mem : ∀ r ∈ caseRuns, ∀ e ∈ caseExpansions, r.misses e.1 = true := by
  decide +kernel

theorem isCapital_expansion :
    ∀ e ∈ caseExpansions, ∀ code ∈ e.2, upperChar (Char.ofNat code) = [Char.ofNat code] := by
  decide +kernel

theorem expansion_ne_nil : ∀ e ∈ caseExpansions, e.2 ≠ [] := by
  decide +kernel

/-- No small letter of ASCII is a capital in the table. -/
theorem image_not_small :
    ∀ r ∈ caseRuns, r.capital + (r.last - r.first) < 0x61 ∨ 0x7A < r.capital := by
  decide +kernel

theorem toUpper_small (hc : c.toNat < 0x80) :
    upperChar c.toUpper = [c.toUpper] ∧ (c.toUpper = c ↔ ¬ (0x61 ≤ c.toNat ∧ c.toNat ≤ 0x7A)) := by
  have h : ∀ n < 0x80, upperChar (Char.ofNat n).toUpper = [(Char.ofNat n).toUpper] ∧
      ((Char.ofNat n).toUpper = Char.ofNat n ↔ ¬ (0x61 ≤ n ∧ n ≤ 0x7A)) := by
    decide +kernel
  simpa using h c.toNat hc

theorem isCapital_of_uncovered (hc : 0x80 ≤ c.toNat) (he : ∀ e ∈ caseExpansions, c.toNat ≠ e.1)
    (hr : ∀ r ∈ caseRuns, ¬ r.covers c.toNat = true) : IsCapital c := by
  have hlookup : caseExpansions.lookup c.toNat = none := by
    rw [List.lookup_eq_none_iff]
    intro e hmem
    simpa using he e hmem
  have hfind : caseRuns.find? (·.covers c.toNat) = none := List.find?_eq_none.2 hr
  rw [IsCapital, upperChar, if_neg (Nat.not_lt.2 hc), hlookup, hfind]

theorem isCapital_image {r : CaseRun} {n : Nat} (hr : r ∈ caseRuns) (hn : r.covers n = true) :
    IsCapital (Char.ofNat (r.image n)) := by
  by_cases hvalid : (r.image n).isValidChar
  · have himage := toNat_ofNat hvalid
    by_cases hsmall : r.image n < 0x80
    · have hc : (Char.ofNat (r.image n)).toNat < 0x80 := by rwa [himage]
      obtain ⟨hupper, hself⟩ := toUpper_small hc
      rw [himage] at hself
      have hne : ¬ (0x61 ≤ r.image n ∧ r.image n ≤ 0x7A) := by
        have := image_not_small r hr
        rw [CaseRun.covers_iff] at hn
        unfold CaseRun.image
        omega
      rwa [hself.2 hne] at hupper
    · apply isCapital_of_uncovered
      · omega
      · intro e he
        rw [himage]
        exact CaseRun.image_ne (misses_of_mem r hr e he) hn
      · intro q hq
        rw [himage]
        exact CaseRun.not_covers_image (avoids_of_mem r hr q hq) hn
  · rw [Char.ofNat, dif_neg hvalid]
    rfl

theorem isCapital_of_mem_upperChar (h : d ∈ upperChar c) : IsCapital d := by
  unfold upperChar at h
  split_ifs at h with hc
  · rw [List.mem_singleton] at h
    exact h ▸ (toUpper_small hc).1
  · split at h
    · rename_i hl
      obtain ⟨code, hcode, rfl⟩ := List.mem_map.1 h
      exact isCapital_expansion _ (mem_of_lookup hl) code hcode
    · split at h
      · rename_i hf
        rw [List.mem_singleton] at h
        have hcovers := List.find?_some hf
        exact h ▸ isCapital_image (List.mem_of_find?_eq_some hf) hcovers
      · rename_i hl _ hf
        rw [List.mem_singleton] at h
        rw [h, IsCapital, upperChar, if_neg hc, hl, hf]

theorem upperChar_ne_nil : upperChar c ≠ [] := by
  unfold upperChar
  split_ifs
  · exact List.cons_ne_nil _ _
  · split
    · rename_i hl
      simpa using expansion_ne_nil _ (mem_of_lookup hl)
    · split <;> exact List.cons_ne_nil _ _

theorem IsCapital.not_small (h : IsCapital c) : ¬ ('a' ≤ c ∧ c ≤ 'z') := by
  rintro ⟨ha, hz⟩
  have ha' : 0x61 ≤ c.toNat := ha
  have hz' : c.toNat ≤ 0x7A := hz
  have hc : c.toNat < 0x80 := by omega
  rw [IsCapital, upperChar, if_pos hc, List.singleton_inj] at h
  exact (toUpper_small hc).2.1 h ⟨ha', hz'⟩

theorem IsSeparator.isCapital (hs : IsSeparator s) : IsCapital s := by
  rcases hs with rfl | rfl <;> rfl

theorem count_upperChar (hs : IsSeparator s) (c : Char) : (upperChar c).count s = [c].count s := by
  by_cases h : s = c
  · subst h
    rw [hs.isCapital]
  · have hmem : s ∉ upperChar c := mt (mem_upperChar_iff hs).1 h
    rw [List.count_eq_zero.2 hmem, List.count_eq_zero.2 (by simpa using h)]

/-! ## Texts -/

theorem isCapital_uppercase (t : String) : ∀ c ∈ (uppercase t).toList, IsCapital c := by
  simp only [uppercase, String.toList_ofList, List.mem_flatMap]
  rintro d ⟨c, -, hd⟩
  exact isCapital_of_mem_upperChar hd

theorem uppercase_of_capitals (h : ∀ c ∈ t.toList, IsCapital c) : uppercase t = t := by
  have : t.toList.flatMap upperChar = t.toList.flatMap fun c => [c] := List.flatMap_congr h
  rw [uppercase, this, List.flatMap_singleton', String.ofList_toList]

theorem count_uppercase (hs : IsSeparator s) (t : String) :
    (uppercase t).toList.count s = t.toList.count s := by
  have (cs : List Char) : (cs.flatMap upperChar).count s = cs.count s := by
    induction cs with
    | nil => rfl
    | cons c cs ih =>
      rw [List.flatMap_cons, List.count_append, count_upperChar hs, ih, ← List.count_append,
        List.singleton_append]
  simpa [uppercase] using this t.toList

theorem uppercase_eq_empty_iff : uppercase t = "" ↔ t = "" := by
  constructor
  · intro h
    have hnil : t.toList.flatMap upperChar = [] := by
      simpa [uppercase] using h
    rw [List.flatMap_eq_nil_iff] at hnil
    rw [← String.toList_eq_nil_iff]
    exact List.eq_nil_iff_forall_not_mem.2 fun c hc => upperChar_ne_nil (hnil c hc)
  · rintro rfl
    rfl

end Text

namespace Wire

/-- A name stands for a key in capitals: made again it stays the same, it is bounded where the key
is, and nothing of it is small. -/
structure Capitalizes (key name : String) : Prop where
  settled : fieldName name = name
  equalsSigns : name.toList.count '=' = key.toList.count '='
  newlines : name.toList.count '\n' = key.toList.count '\n'
  not_small : ∀ c ∈ name.toList, ¬ ('a' ≤ c ∧ c ≤ 'z')
  empty : name = "" ↔ key = ""

/-- The name of a key is made part by part, and capitalizes the key. -/
theorem capitalizes_fieldName : (∀ a b, fieldName (a ++ b) = fieldName a ++ fieldName b) ∧
    ∀ key, Capitalizes key (fieldName key) := by
  refine ⟨Text.uppercase_append, fun key => ?_⟩
  have hcapitals := Text.isCapital_uppercase key
  constructor
  · exact Text.uppercase_of_capitals hcapitals
  · exact Text.count_uppercase (.inl rfl) key
  · exact Text.count_uppercase (.inr rfl) key
  · exact fun c hc => (hcapitals c hc).not_small
  · exact Text.uppercase_eq_empty_iff

end Wire

end JournalSink
