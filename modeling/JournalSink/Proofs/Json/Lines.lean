import Mathlib.Data.List.Chain
import JournalSink.Proofs.Entry.Decoding

/-! # The lines of documents

A newline stands only between the tokens of a document, and no token starts with
a capital letter. So no line of a document starts like the name of a field.
-/

namespace JournalSink

def Ascii.isCapital (b : UInt8) : Bool :=
  0x41 ≤ b && b ≤ 0x5A

namespace Json

variable {raw s t a : List UInt8} {b : UInt8} {ms : List Spelling}

/-- No line starts with a capital letter, the first one included. -/
def Uncapitalized (s : List UInt8) : Prop :=
  (Ascii.newline :: s).IsChain fun x y => x = Ascii.newline → Ascii.isCapital y = false

namespace Uncapitalized

theorem nil : Uncapitalized [] :=
  .singleton _

theorem append (hs : Uncapitalized s) (ht : Uncapitalized t) : Uncapitalized (s ++ t) := by
  obtain ⟨hhead, ht⟩ := List.isChain_cons.1 ht
  exact List.isChain_append.2 ⟨hs, ht, fun _ _ y hy _ => hhead y hy rfl⟩

theorem of_forall (h : ∀ b ∈ s, Ascii.isCapital b = false) : Uncapitalized s := by
  induction s with
  | nil => exact nil
  | cons b s ih =>
    obtain ⟨hb, hs⟩ := List.forall_mem_cons.1 h
    obtain ⟨hhead, hchain⟩ := List.isChain_cons.1 (ih hs)
    refine List.isChain_cons_cons.2 ⟨fun _ => hb, List.isChain_cons.2 ⟨?_, hchain⟩⟩
    exact fun y hy _ => hhead y hy rfl

theorem cons (hb : Ascii.isCapital b = false) (hs : Uncapitalized s) : Uncapitalized (b :: s) :=
  append (of_forall (List.forall_mem_singleton.2 hb)) hs

/-- Where there is one line, only its start counts. -/
theorem of_not_mem (hb : Ascii.isCapital b = false) (h : Ascii.newline ∉ b :: s) :
    Uncapitalized (b :: s) := by
  refine List.isChain_cons_cons.2
    ⟨fun _ => hb, List.isChain_iff_forall_rel_of_append_cons_cons.2 ?_⟩
  rintro x y l l' hl rfl
  exact absurd (hl ▸ by simp) h

theorem behind_newline (h : Uncapitalized (a ++ Ascii.newline :: b :: s)) :
    Ascii.isCapital b = false := by
  rw [Uncapitalized, ← List.cons_append] at h
  exact (List.isChain_append_cons_cons.1 h).2.1 rfl

end Uncapitalized

theorem Blanks.uncapitalized (ha : Blanks a) : Uncapitalized a := by
  refine .of_forall fun b hb => ?_
  have h := ha b hb
  simp only [List.mem_cons, List.not_mem_nil, or_false] at h
  rcases h with rfl | rfl | rfl | rfl <;> rfl

/-! ## Tokens -/

theorem IsDigit.newline_ne (hb : IsDigit b) : Ascii.newline ≠ b := by
  rintro rfl
  exact absurd hb.1 (by decide)

theorem Digits.newline_not_mem (h : Digits s) : Ascii.newline ∉ s :=
  fun hm => (h _ hm).newline_ne rfl

theorem Whole.newline_not_mem (h : Whole s) : Ascii.newline ∉ s := by
  cases h with
  | zero => decide
  | digits hd _ hs => simp [hd.newline_ne, hs.newline_not_mem]

theorem Fraction.newline_not_mem (h : Fraction s) : Ascii.newline ∉ s := by
  cases h with
  | absent => nofun
  | digits hd hs =>
    have hdot : Ascii.newline ≠ Ascii.dot := by decide
    simp [hdot, hd.newline_ne, hs.newline_not_mem]

theorem Exponent.newline_not_mem (h : Exponent s) : Ascii.newline ∉ s := by
  cases h with
  | absent => nofun
  | @digits e _ sign _ he hsign hd hs =>
    have hmark : Ascii.newline ≠ e := by rintro rfl; exact absurd he (by decide)
    have hsigns : ∀ s ∈ [[], [Ascii.plus], [Ascii.minus]], Ascii.newline ∉ s := by decide
    simp [hmark, hsigns _ hsign, hd.newline_ne, hs.newline_not_mem]

theorem Number.newline_not_mem (h : Number s) : Ascii.newline ∉ s := by
  obtain ⟨hsign, hw, hf, he⟩ := h
  have hsigns : ∀ sign ∈ [[], [Ascii.minus]], Ascii.newline ∉ sign := by decide
  simp [hsigns _ hsign, hw.newline_not_mem, hf.newline_not_mem, he.newline_not_mem]

theorem newline_ne_of_hexDigit {n : Nat} (h : hexDigits.lookup b = some n) :
    Ascii.newline ≠ b := by
  rintro rfl
  cases h

theorem Content.newline_not_mem (h : Content s) : Ascii.newline ∉ s := by
  have hback : Ascii.newline ≠ Ascii.backslash := by decide
  have hu : Ascii.newline ≠ letterU := by decide
  induction h with
  | nil => nofun
  | @plain b _ hb _ ih =>
    have hne : Ascii.newline ≠ b := by
      rintro rfl
      exact absurd hb.1 (by decide)
    simp [hne, ih]
  | @short b _ _ hx _ ih =>
    have hletters : Ascii.newline ∉ shortEscapes.map Prod.fst := by decide
    have hne : Ascii.newline ≠ b := fun h => hletters (List.mem_map.2 ⟨_, hx, h.symm⟩)
    simp [hback, hne, ih]
  | code hn _ ih =>
    simp only [code?, Option.bind_eq_bind, Option.bind_eq_some_iff] at hn
    obtain ⟨_, ha, _, hb, _, hc, _, hd, -⟩ := hn
    simp [hback, hu, newline_ne_of_hexDigit ha, newline_ne_of_hexDigit hb,
      newline_ne_of_hexDigit hc, newline_ne_of_hexDigit hd, ih]

theorem Content.uncapitalized_quoted (h : Content s) : Uncapitalized (quoted s) := by
  have hq : Ascii.newline ≠ Ascii.quote := by decide
  exact .of_not_mem rfl (by simp [hq, h.newline_not_mem])

theorem Number.uncapitalized (h : Number s) : Uncapitalized s := by
  have hn := h.newline_not_mem
  obtain ⟨d, s', rfl, rfl | hd⟩ := h.head
  · exact .of_not_mem rfl hn
  · refine .of_not_mem ?_ hn
    simp only [Ascii.isDigit, Bool.and_eq_true, decide_eq_true_eq] at hd
    have hlt : ¬ 0x41 ≤ d := UInt8.not_le.2 (UInt8.lt_of_le_of_lt hd.2 (by decide))
    simp [Ascii.isCapital, hlt]

theorem uncapitalized_of_mem_words (h : s ∈ words) : Uncapitalized s := by
  have hwords : ∀ w ∈ words, w.any Ascii.isCapital = false := by decide
  exact .of_forall (by simpa using hwords s h)

/-! ## Values and documents -/

section Parts

open Uncapitalized

theorem uncapitalized_enclosed {x y : UInt8} (hx : Ascii.isCapital x = false)
    (hs : Uncapitalized s) (hy : Ascii.isCapital y = false) : Uncapitalized (x :: s ++ [y]) :=
  append (cons hx hs) (cons hy nil)

theorem uncapitalized_member {k c v d b : List UInt8} (ha : Blanks a) (hk : Content k)
    (hb : Blanks b) (hc : Blanks c) (hv : Uncapitalized v) (hd : Blanks d) :
    Uncapitalized (a ++ quoted k ++ b ++ Ascii.colon :: c ++ v ++ d) := by
  have hkey := append (append ha.uncapitalized hk.uncapitalized_quoted) hb.uncapitalized
  exact append (append (append hkey (cons rfl hc.uncapitalized)) hv) hd.uncapitalized

theorem Derives.uncapitalized {p : Phrase} (h : Derives p s) : Uncapitalized s := by
  induction h with
  | word hs => exact uncapitalized_of_mem_words hs
  | number hs => exact hs.uncapitalized
  | string hs => exact hs.uncapitalized_quoted
  | emptyList ha | emptyObject ha => exact uncapitalized_enclosed rfl ha.uncapitalized rfl
  | list _ ih | object _ ih => exact uncapitalized_enclosed rfl ih rfl
  | lastElement ha _ hb ih => exact append (append ha.uncapitalized ih) hb.uncapitalized
  | element ha _ hb _ ih ihs =>
    exact append (append (append ha.uncapitalized ih) hb.uncapitalized) (cons rfl ihs)
  | lastMember ha hk hb hc _ hd ih => exact uncapitalized_member ha hk hb hc ih hd
  | member ha hk hb hc _ hd _ ih ihs =>
    exact append (uncapitalized_member ha hk hb hc ih hd) (cons rfl ihs)

end Parts

theorem Document.uncapitalized (h : Document raw ms) : Uncapitalized raw := by
  obtain ⟨a, body, b, ha, hb, rfl, hbody⟩ := h
  have hs : Uncapitalized body := by
    rcases hbody with ⟨hs, -⟩ | hs
    · exact hs.uncapitalized
    · exact hs.uncapitalized
  exact .append (.append ha.uncapitalized (.cons rfl hs)) (.cons rfl hb.uncapitalized)

end Json

theorem Entry.uncapitalized_of_decode {raw : List UInt8} {e : Entry} (h : decode raw = .ok e) :
    Json.Uncapitalized raw := by
  obtain ⟨members, hread, -⟩ := decode_eq_ok_iff.1 h
  obtain ⟨ms, hdoc, -⟩ := Json.readDocument_eq_ok_iff.1 hread
  exact hdoc.uncapitalized

end JournalSink
