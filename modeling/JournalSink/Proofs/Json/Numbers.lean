import Mathlib.Tactic.SplitIfs
import JournalSink.Proofs.Json.Grammar

/-! # Numbers against the grammar

Passing over a number takes one of the grammar. It takes the whole of it when
what follows could not carry the number on.
-/

namespace JournalSink.Json

variable {bytes r s w f e : List UInt8}

theorem bind_eq_ok_iff {ε α β : Type} {x : Except ε α} {f : α → Except ε β} {b : β} :
    (x >>= f) = .ok b ↔ ∃ a, x = .ok a ∧ f a = .ok b := by
  cases x <;> simp [bind, Except.bind]

theorem skipDigits_sound (bytes : List UInt8) :
    ∃ s, bytes = s ++ skipDigits bytes ∧ Digits s :=
  ⟨bytes.takeWhile Ascii.isDigit, List.takeWhile_append_dropWhile.symm,
    fun b hb => Ascii.isDigit_iff.1 (List.all_eq_true.1 List.all_takeWhile b hb)⟩

theorem skipDigits_append (hs : Digits s) (hr : startsWithDigit r = false) :
    skipDigits (s ++ r) = r := by
  unfold skipDigits
  rw [List.dropWhile_append_of_pos fun b hb => Ascii.isDigit_iff.2 (hs b hb)]
  cases r with
  | nil => rfl
  | cons b r => rw [List.dropWhile_cons_of_neg (by simpa [startsWithDigit] using hr)]

theorem skipWhole_sound (h : skipWhole bytes = .ok r) : ∃ w, bytes = w ++ r ∧ Whole w := by
  cases bytes with
  | nil => cases h
  | cons b bytes =>
    simp only [skipWhole, halt] at h
    split_ifs at h with hz hd hd
    · cases h
      exact ⟨[b], rfl, hz ▸ .zero⟩
    · cases h
      obtain ⟨s, hs, hds⟩ := skipDigits_sound bytes
      exact ⟨b :: s, by rw [List.cons_append, ← hs], .digits (Ascii.isDigit_iff.1 hd) hz hds⟩

theorem skipFraction_sound (h : skipFraction bytes = .ok r) :
    ∃ f, bytes = f ++ r ∧ Fraction f := by
  cases bytes with
  | nil => cases h; exact ⟨[], rfl, .absent⟩
  | cons b bytes =>
    simp only [skipFraction, halt] at h
    split_ifs at h with hb hd
    · cases h
      cases bytes with
      | nil => cases hd
      | cons d bytes =>
        obtain ⟨s, hs, hds⟩ := skipDigits_sound bytes
        refine ⟨b :: d :: s, ?_, hb ▸ .digits (Ascii.isDigit_iff.1 hd) hds⟩
        have : skipDigits (d :: bytes) = skipDigits bytes := List.dropWhile_cons_of_pos hd
        rw [List.cons_append, List.cons_append, this, ← hs]
    · cases h
      exact ⟨[], rfl, .absent⟩

theorem skipSign_sound (bytes : List UInt8) :
    ∃ sign, bytes = sign ++ skipSign bytes ∧ sign ∈ [[], [Ascii.plus], [Ascii.minus]] := by
  cases bytes with
  | nil => exact ⟨[], rfl, by simp⟩
  | cons b bytes =>
    simp only [skipSign]
    split_ifs with hb
    · exact ⟨[b], rfl, by simpa using hb⟩
    · exact ⟨[], rfl, by simp⟩

theorem skipExponent_sound (h : skipExponent bytes = .ok r) :
    ∃ e, bytes = e ++ r ∧ Exponent e := by
  cases bytes with
  | nil => cases h; exact ⟨[], rfl, .absent⟩
  | cons b bytes =>
    simp only [skipExponent, halt] at h
    split_ifs at h with hb
    · obtain ⟨sign, hsign, hm⟩ := skipSign_sound bytes
      split at h
      · cases h
      · rename_i d rest hd
        split_ifs at h with hdigit
        cases h
        obtain ⟨s, hs, hds⟩ := skipDigits_sound rest
        refine ⟨b :: sign ++ d :: s, ?_,
          .digits (isExponentMark_iff.1 hb) hm (Ascii.isDigit_iff.1 hdigit) hds⟩
        rw [hsign, hd]
        simp [← hs]
    · cases h
      exact ⟨[], rfl, .absent⟩

theorem skipNumber_sound (h : skipNumber bytes = .ok r) :
    ∃ w f e, bytes = w ++ (f ++ (e ++ r)) ∧ Whole w ∧ Fraction f ∧ Exponent e := by
  unfold skipNumber at h
  obtain ⟨r₁, hw, h⟩ := bind_eq_ok_iff.1 h
  obtain ⟨r₂, hf, he⟩ := bind_eq_ok_iff.1 h
  obtain ⟨w, rfl, hw'⟩ := skipWhole_sound hw
  obtain ⟨f, rfl, hf'⟩ := skipFraction_sound hf
  obtain ⟨e, rfl, he'⟩ := skipExponent_sound he
  exact ⟨w, f, e, rfl, hw', hf', he'⟩

/-- Nothing stands in front that could carry a number on. -/
def EndsNumber (r : List UInt8) : Prop :=
  ∀ b ∈ r.head?, Ascii.isDigit b = false ∧ b ≠ Ascii.dot ∧ isExponentMark b = false

theorem startsWithDigit_eq_false_iff :
    startsWithDigit r = false ↔ ∀ b ∈ r.head?, Ascii.isDigit b = false := by
  cases r <;> simp [startsWithDigit]

theorem EndsNumber.startsWithDigit (h : EndsNumber r) : startsWithDigit r = false :=
  startsWithDigit_eq_false_iff.2 fun b hb => (h b hb).1

/-- What an exponent starts with ends digits and fractions. -/
theorem Exponent.head (he : Exponent e) (hr : EndsNumber r) :
    ∀ b ∈ (e ++ r).head?, Ascii.isDigit b = false ∧ b ≠ Ascii.dot := by
  cases he with
  | absent => exact fun b hb => ⟨(hr b hb).1, (hr b hb).2.1⟩
  | digits hm =>
    simp only [List.mem_cons, List.not_mem_nil, or_false] at hm
    rcases hm with rfl | rfl <;> simp <;> decide

theorem Fraction.head (hf : Fraction f) (hr : ∀ b ∈ r.head?, Ascii.isDigit b = false) :
    startsWithDigit (f ++ r) = false := by
  cases hf with
  | absent => exact startsWithDigit_eq_false_iff.2 hr
  | digits => rfl

theorem skipWhole_append (hw : Whole w) (hr : startsWithDigit r = false) :
    skipWhole (w ++ r) = .ok r := by
  cases hw with
  | zero => simp [skipWhole, hr]
  | digits hd hz hs =>
    rw [IsDigit, ← Ascii.isDigit_iff] at hd
    simp [skipWhole, hd, hz, skipDigits_append hs hr]

theorem skipFraction_append (hf : Fraction f)
    (hr : ∀ b ∈ r.head?, Ascii.isDigit b = false ∧ b ≠ Ascii.dot) :
    skipFraction (f ++ r) = .ok r := by
  cases hf with
  | absent =>
    cases r with
    | nil => rfl
    | cons b r => simp [skipFraction, (hr b rfl).2]
  | @digits d s hd hs =>
    have hend : startsWithDigit r = false :=
      startsWithDigit_eq_false_iff.2 fun b hb => (hr b hb).1
    have hds : Digits (d :: s) := List.forall_mem_cons.2 ⟨hd, hs⟩
    have := skipDigits_append hds hend
    simp only [List.cons_append] at this
    simp [skipFraction, startsWithDigit, Ascii.isDigit_iff.2 hd, this]

theorem skipSign_append {sign : List UInt8} {d : UInt8} (hd : IsDigit d)
    (hm : sign ∈ [[], [Ascii.plus], [Ascii.minus]]) : skipSign (sign ++ d :: r) = d :: r := by
  have hp : d ≠ Ascii.plus := by rintro rfl; exact absurd hd.1 (by decide)
  have hm' : d ≠ Ascii.minus := by rintro rfl; exact absurd hd.1 (by decide)
  simp only [List.mem_cons, List.not_mem_nil, or_false] at hm
  rcases hm with rfl | rfl | rfl <;> simp [skipSign, hp, hm']

theorem skipExponent_append (he : Exponent e) (hr : EndsNumber r) :
    skipExponent (e ++ r) = .ok r := by
  cases he with
  | absent =>
    cases r with
    | nil => rfl
    | cons b r => simp [skipExponent, (hr b rfl).2.2]
  | digits hm hsign hd hs =>
    simp [skipExponent, isExponentMark_iff.2 hm, skipSign_append hd hsign,
      Ascii.isDigit_iff.2 hd, skipDigits_append hs hr.startsWithDigit]

theorem skipNumber_append (hw : Whole w) (hf : Fraction f) (he : Exponent e) (hr : EndsNumber r) :
    skipNumber (w ++ (f ++ (e ++ r))) = .ok r := by
  have hhead := he.head hr
  have hdigit := hf.head fun b hb => (hhead b hb).1
  simp [skipNumber, skipWhole_append hw hdigit, skipFraction_append hf hhead,
    skipExponent_append he hr, bind, Except.bind]

end JournalSink.Json
