import JournalSink.Proofs.Json.Numbers
import JournalSink.Proofs.Json.Strings

/-! # Values against the grammar

The stack holds the lists and objects that are open. What is passed over while it
empties is what the grammar derives for a value, followed by what each open list
or object still demands; and a value of the grammar is passed over whole.
-/

namespace JournalSink.Json

variable {bytes r s t a v rest : List UInt8} {b : UInt8} {f : Frame} {stack : List Frame}

/-! ## Blanks -/

theorem blanks_nil : Blanks [] := by
  simp [Blanks]

theorem Blanks.append (ha : Blanks a) (hs : Blanks s) : Blanks (a ++ s) :=
  List.forall_mem_append.2 ⟨ha, hs⟩

theorem skipBlank_sound (h : skipBlank bytes = r) : ∃ a, bytes = a ++ r ∧ Blanks a := by
  refine ⟨bytes.takeWhile isBlank, ?_,
    fun b hb => isBlank_iff.1 (List.all_eq_true.1 List.all_takeWhile b hb)⟩
  rw [← h]
  exact List.takeWhile_append_dropWhile.symm

theorem skipBlank_append (ha : Blanks a) : skipBlank (a ++ r) = skipBlank r :=
  List.dropWhile_append_of_pos fun b hb => isBlank_iff.2 (ha b hb)

theorem skipBlank_of_not (h : isBlank b = false) : skipBlank (b :: r) = b :: r :=
  List.dropWhile_cons_of_neg (by simp [h])

theorem skipBlank_eq (ha : Blanks a) (hb : isBlank b = false) :
    skipBlank (a ++ b :: r) = b :: r := by
  rw [skipBlank_append ha, skipBlank_of_not hb]

/-! ## Words, numbers and strings -/

theorem skipWord_sound {word : List UInt8} (h : skipWord word bytes = .ok r) :
    bytes = word ++ r := by
  induction word generalizing bytes with
  | nil => cases h; rfl
  | cons w word ih =>
    cases bytes with
    | nil => cases h
    | cons b bytes =>
      simp only [skipWord, halt] at h
      split_ifs at h with hb
      rw [hb, List.cons_append, ← ih h]

theorem skipWord_append (word : List UInt8) : skipWord word (word ++ r) = .ok r := by
  induction word with
  | nil => rfl
  | cons w word ih => simp [skipWord, ih]

theorem wordTail?_eq_some_iff {word : List UInt8} :
    wordTail? b = some word ↔ b :: word ∈ words := by
  constructor
  · intro h
    unfold wordTail? at h
    split_ifs at h <;> subst_vars <;> cases h <;> decide
  · intro h
    have : ∀ w ∈ words, wordTail? (w.headD 0) = some w.tail := by decide
    exact this _ h

/-- The grammar's words, numbers and strings. -/
theorem skipScalar_sound (h : skipScalar b bytes = .ok r) :
    ∃ v, b :: bytes = v ++ r ∧ Derives .value v := by
  unfold skipScalar halt at h
  split at h
  · rename_i word hw
    have := skipWord_sound h
    subst this
    exact ⟨b :: word, rfl, .word (wordTail?_eq_some_iff.1 hw)⟩
  · split_ifs at h with hm hd hq
    · obtain ⟨w, f, e, rfl, hw, hf, he⟩ := skipNumber_sound h
      refine ⟨[b] ++ (w ++ (f ++ e)), by simp, .number (.mk ?_ hw hf he)⟩
      simp [hm]
    · obtain ⟨w, f, e, hb, hw, hf, he⟩ := skipNumber_sound h
      exact ⟨[] ++ (w ++ (f ++ e)), by simp [hb], .number (.mk (by simp) hw hf he)⟩
    · obtain ⟨s, rfl, hs⟩ := skipString_sound h
      exact ⟨quoted s, by simp [hq, quoted], .string hs⟩

/-! ## What open lists and objects demand -/

namespace Frame

/-- What stands between the brackets or braces of a frame that is not empty. -/
def Items : Frame → List UInt8 → Prop
  | list, s => Derives .elements s
  | object, s => ∃ ms, Derives (.members ms) s

/-- What stands before a value in a frame. -/
def Label : Frame → List UInt8 → Prop
  | list, s => s = []
  | object, s =>
    ∃ a k b, s = a ++ quoted k ++ b ++ [Ascii.colon] ∧ Blanks a ∧ Content k ∧ Blanks b

/-- What stands between a value and the closer of its frame. -/
def Tail (f : Frame) (s : List UInt8) : Prop :=
  Blanks s ∨ ∃ b items, s = b ++ Ascii.comma :: items ∧ Blanks b ∧ f.Items items

def opener : Frame → UInt8
  | list => Ascii.openBracket
  | object => Ascii.openBrace

theorem items_of {l a' : List UInt8} (ha : Blanks a) (hl : f.Label l) (ha' : Blanks a')
    (hv : Derives .value v) (ht : f.Tail t) : f.Items (a ++ l ++ a' ++ v ++ t) := by
  cases f with
  | list =>
    cases hl
    rcases ht with ht | ⟨b, items, rfl, hb, hi⟩
    · simpa [Items] using Derives.lastElement (ha.append ha') hv ht
    · simpa [Items] using Derives.element (ha.append ha') hv hb hi
  | object =>
    obtain ⟨c, k, d, rfl, hc, hk, hd⟩ := hl
    rcases ht with ht | ⟨b, items, rfl, hb, ms, hi⟩
    · exact ⟨_, by simpa using Derives.lastMember (ha.append hc) hk hd ha' hv ht⟩
    · exact ⟨_, by simpa using Derives.member (ha.append hc) hk hd ha' hv hb hi⟩

theorem value_of_items (h : Blanks s ∨ f.Items s) :
    Derives .value (f.opener :: s ++ [f.closer]) := by
  cases f with
  | list => exact h.elim .emptyList .list
  | object => exact h.elim .emptyObject fun ⟨_, hs⟩ => .object hs

theorem skipLabel_sound (h : f.skipLabel bytes = .ok r) : ∃ l, bytes = l ++ r ∧ f.Label l := by
  cases f with
  | list => cases h; exact ⟨[], rfl, rfl⟩
  | object =>
    change skipKey bytes = .ok r at h
    unfold skipKey halt at h
    split at h
    · cases h
    · rename_i hblank
      obtain ⟨a, rfl, ha⟩ := skipBlank_sound hblank
      split_ifs at h with hquote
      split at h
      · cases h
      · rename_i hs
        obtain ⟨k, rfl, hk⟩ := skipString_sound hs
        split at h
        · cases h
        · rename_i hblank'
          obtain ⟨b, rfl, hb⟩ := skipBlank_sound hblank'
          split_ifs at h with hcolon
          cases h
          subst hquote hcolon
          exact ⟨_, by simp [quoted], a, k, b, rfl, ha, hk, hb⟩

end Frame

/-- What open frames still demand, innermost first. -/
def Pending : List Frame → List UInt8 → Prop
  | [], s => s = []
  | f :: stack, s => ∃ tail t, s = tail ++ f.closer :: t ∧ f.Tail tail ∧ Pending stack t

/-- What is taken when something is due inside open frames. -/
def Closes : Due → List Frame → List UInt8 → Prop
  | .value, stack, s => ∃ a v t, s = a ++ v ++ t ∧ Blanks a ∧ Derives .value v ∧ Pending stack t
  | .first f, stack, s =>
    ∃ body t, s = body ++ f.closer :: t ∧ (Blanks body ∨ f.Items body) ∧ Pending stack t
  | .next, stack, s => Pending stack s

theorem skipDue_sound {due : Due} (h : skipDue due stack bytes = .ok r) :
    ∃ s, bytes = s ++ r ∧ Closes due stack s := by
  -- Each step puts what it took itself in front of what the rest of the run took.
  fun_induction skipDue due stack bytes with
  | case1 | case4 | case6 | case8 | case11 | case12 | case15 => cases h
  | case2 _ _ _ hb ih | case3 _ _ _ hb _ ih =>
    obtain ⟨a, rfl, ha⟩ := skipBlank_sound hb
    obtain ⟨s, rfl, body, t, rfl, hbody, ht⟩ := ih h
    exact ⟨_, by simp [Frame.opener], a, _, t, rfl, ha, Frame.value_of_items hbody, ht⟩
  | case5 _ _ _ _ hb _ _ _ hs ih =>
    obtain ⟨a, rfl, ha⟩ := skipBlank_sound hb
    obtain ⟨t, rfl, ht⟩ := ih h
    obtain ⟨v, hx, hv⟩ := skipScalar_sound hs
    exact ⟨_, by simp [hx], a, v, t, rfl, ha, hv, ht⟩
  | case7 _ _ _ _ hb ih =>
    obtain ⟨a, rfl, ha⟩ := skipBlank_sound hb
    obtain ⟨t, rfl, ht⟩ := ih h
    exact ⟨_, by simp, a, t, rfl, .inl ha, ht⟩
  | case9 _ _ _ _ _ hb _ _ hl ih =>
    obtain ⟨a, rfl, ha⟩ := skipBlank_sound hb
    obtain ⟨l, hx, hlabel⟩ := Frame.skipLabel_sound hl
    obtain ⟨s, rfl, a', v, _, rfl, ha', hv, tail, t, rfl, htail, ht⟩ := ih h
    have hitems := Frame.items_of ha hlabel ha' hv htail
    exact ⟨_, by simp [hx], _, t, rfl, .inr hitems, ht⟩
  | case10 => cases h; exact ⟨[], rfl, rfl⟩
  | case13 _ _ _ _ _ hl hb ih =>
    obtain ⟨b, rfl, hblank⟩ := skipBlank_sound hb
    obtain ⟨l, rfl, hlabel⟩ := Frame.skipLabel_sound hl
    obtain ⟨s, rfl, a', v, _, rfl, ha', hv, tail, t, rfl, htail, ht⟩ := ih h
    have hitems := Frame.items_of blanks_nil hlabel ha' hv htail
    exact ⟨_, by simp, _, t, rfl, .inr ⟨b, _, rfl, hblank, hitems⟩, ht⟩
  | case14 _ _ _ _ hb _ ih =>
    obtain ⟨b, rfl, hblank⟩ := skipBlank_sound hb
    obtain ⟨t, rfl, ht⟩ := ih h
    exact ⟨_, by simp, b, t, rfl, .inl hblank, ht⟩

theorem skipValue_sound (h : skipValue bytes = .ok r) :
    ∃ a v, bytes = a ++ v ++ r ∧ Blanks a ∧ Derives .value v := by
  obtain ⟨s, rfl, a, v, t, rfl, ha, hv, rfl⟩ := skipDue_sound h
  exact ⟨a, v, by simp, ha, hv⟩


/-! ## Taking what the grammar derives -/

/-- One step where a value is due. -/
theorem skipDue_value (hb : skipBlank bytes = b :: r) : skipDue .value stack bytes =
    if b = Ascii.openBracket then skipDue (.first .list) stack r
    else if b = Ascii.openBrace then skipDue (.first .object) stack r
    else skipScalar b r >>= skipDue .next stack := by
  conv => lhs; rw [skipDue]
  split
  · rename_i h
    cases hb.symm.trans h
  · rename_i h
    cases hb.symm.trans h
    split_ifs
    · rfl
    · rfl
    · split <;> simp_all [bind, Except.bind]

/-- One step behind an opening bracket. -/
theorem skipDue_first (hb : skipBlank bytes = b :: r) : skipDue (.first f) stack bytes =
    if b = f.closer then skipDue .next stack r
    else f.skipLabel (b :: r) >>= skipDue .value (f :: stack) := by
  conv => lhs; rw [skipDue]
  split
  · rename_i h
    cases hb.symm.trans h
  · rename_i h
    cases hb.symm.trans h
    split_ifs
    · rfl
    · split <;> simp_all [bind, Except.bind]

/-- One step behind a value of an open frame. -/
theorem skipDue_next (hb : skipBlank bytes = b :: r) : skipDue .next (f :: stack) bytes =
    if b = Ascii.comma then f.skipLabel r >>= skipDue .value (f :: stack)
    else if b = f.closer then skipDue .next stack r
    else halt f.separatorCause r := by
  conv => lhs; rw [skipDue]
  split
  · rename_i h
    cases hb.symm.trans h
  · rename_i h
    cases hb.symm.trans h
    split_ifs
    · split <;> simp_all [bind, Except.bind]
    · rfl
    · rfl


theorem Frame.skipBlank_closer (ha : Blanks a) :
    skipBlank (a ++ f.closer :: r) = f.closer :: r := by
  cases f <;> exact skipBlank_eq ha rfl

theorem skipDue_first_close (ha : Blanks a) :
    skipDue (.first f) stack (a ++ f.closer :: r) = skipDue .next stack r := by
  rw [skipDue_first (Frame.skipBlank_closer ha), if_pos rfl]

theorem skipDue_next_close (ha : Blanks a) :
    skipDue .next (f :: stack) (a ++ f.closer :: r) = skipDue .next stack r := by
  have hc : f.closer ≠ Ascii.comma := by cases f <;> decide
  rw [skipDue_next (Frame.skipBlank_closer ha), if_neg hc, if_pos rfl]

/-! ## Words, numbers and strings taken -/

/-- A word, a number or a string. -/
def Scalar (v : List UInt8) : Prop :=
  v ∈ words ∨ Number v ∨ ∃ s, Content s ∧ v = quoted s

/-- A byte that a word, a number or a string may start with. -/
def IsStart (b : UInt8) : Prop :=
  isBlank b = false ∧ b ∉ [Ascii.openBracket, Ascii.openBrace, Ascii.closeBracket]

theorem isStart_of_isDigit (hd : Ascii.isDigit b = true) : IsStart b := by
  simp only [IsStart, isBlank, Bool.or_eq_false_iff, beq_eq_false_iff_ne, List.mem_cons,
    List.not_mem_nil, or_false, not_or]
  refine ⟨⟨⟨⟨?_, ?_⟩, ?_⟩, ?_⟩, ?_, ?_, ?_⟩ <;> rintro rfl <;> cases hd

theorem skipScalar_word {w : List UInt8} (h : b :: w ∈ words) :
    skipScalar b (w ++ r) = .ok r := by
  simp [skipScalar, wordTail?_eq_some_iff.2 h, skipWord_append]

theorem skipScalar_minus (h : skipNumber bytes = .ok r) :
    skipScalar Ascii.minus bytes = .ok r :=
  h

theorem skipScalar_digit (hd : Ascii.isDigit b = true) (h : skipNumber (b :: bytes) = .ok r) :
    skipScalar b bytes = .ok r := by
  have hw : wordTail? b = none := by
    unfold wordTail?
    split_ifs with h₁ h₂ h₃ <;> first | rfl | (subst_vars; cases hd)
  have hm : b ≠ Ascii.minus := by rintro rfl; cases hd
  simp [skipScalar, hw, hm, hd, h]

theorem skipScalar_string (hs : Content s) :
    skipScalar Ascii.quote (s ++ Ascii.quote :: r) = .ok r :=
  skipString_complete hs

theorem Whole.head (h : Whole w) : ∃ d w', w = d :: w' ∧ Ascii.isDigit d = true := by
  cases h with
  | zero => exact ⟨_, _, rfl, rfl⟩
  | digits hd => exact ⟨_, _, rfl, Ascii.isDigit_iff.2 hd⟩

theorem Number.head (h : Number v) :
    ∃ d v', v = d :: v' ∧ (d = Ascii.minus ∨ Ascii.isDigit d = true) := by
  obtain ⟨hsign, hw, -, -⟩ := h
  simp only [List.mem_cons, List.not_mem_nil, or_false] at hsign
  rcases hsign with rfl | rfl
  · obtain ⟨d, w', rfl, hd⟩ := hw.head
    exact ⟨d, _, rfl, .inr hd⟩
  · exact ⟨_, _, rfl, .inl rfl⟩

theorem skipScalar_complete (h : Scalar v) (hr : EndsNumber r) :
    ∃ d v', v = d :: v' ∧ IsStart d ∧ skipScalar d (v' ++ r) = .ok r := by
  rcases h with hw | ⟨hsign, hw, hf, he⟩ | ⟨s, hs, rfl⟩
  · have hstart : ∀ w ∈ words, w ≠ [] ∧ isBlank (w.headD 0) = false ∧
      w.headD 0 ∉ [Ascii.openBracket, Ascii.openBrace, Ascii.closeBracket] := by decide
    cases v with
    | nil => cases (hstart _ hw).1 rfl
    | cons d v => exact ⟨d, v, rfl, (hstart _ hw).2, skipScalar_word hw⟩
  · have hn := skipNumber_append hw hf he hr
    simp only [List.mem_cons, List.not_mem_nil, or_false] at hsign
    rcases hsign with rfl | rfl
    · obtain ⟨d, w', rfl, hd⟩ := hw.head
      exact ⟨d, _, rfl, isStart_of_isDigit hd, skipScalar_digit hd (by simpa using hn)⟩
    · exact ⟨_, _, rfl, ⟨rfl, by decide⟩, skipScalar_minus (by simpa using hn)⟩
  · exact ⟨_, _, rfl, ⟨rfl, by decide⟩, by simpa using skipScalar_string hs⟩

/-! ## Lists and objects taken -/

theorem endsNumber_of_blanks {x : UInt8} (ha : Blanks a)
    (hx : x ∈ [Ascii.comma, Ascii.closeBracket, Ascii.closeBrace]) : EndsNumber (a ++ x :: r) := by
  cases a with
  | nil =>
    simp only [List.mem_cons, List.not_mem_nil, or_false] at hx
    rcases hx with rfl | rfl | rfl <;> simp [EndsNumber] <;> decide
  | cons b a =>
    have hb := ha _ List.mem_cons_self
    simp only [List.mem_cons, List.not_mem_nil, or_false] at hb
    rcases hb with rfl | rfl | rfl | rfl <;> simp [EndsNumber] <;> decide

namespace Frame

theorem closer_mem (f : Frame) :
    f.closer ∈ [Ascii.comma, Ascii.closeBracket, Ascii.closeBrace] := by
  cases f <;> decide

theorem skipLabel_append {l : List UInt8} (hl : f.Label l) : f.skipLabel (l ++ r) = .ok r := by
  cases f with
  | list => cases hl; rfl
  | object =>
    obtain ⟨a, k, b, rfl, ha, hk, hb⟩ := hl
    have hq : skipBlank (a ++ Ascii.quote :: (k ++ Ascii.quote :: (b ++ Ascii.colon :: r))) = _ :=
      skipBlank_eq ha rfl
    have hc : skipBlank (b ++ Ascii.colon :: r) = _ := skipBlank_eq hb rfl
    simp [skipLabel, skipKey, quoted, hq, skipString_complete hk, hc]

theorem skipLabel_skipBlank (h : skipBlank bytes = b :: r) :
    f.skipLabel (b :: r) >>= skipDue .value stack = f.skipLabel bytes >>= skipDue .value stack := by
  have hidem : skipBlank (b :: r) = b :: r := by
    obtain ⟨a, rfl, ha⟩ := skipBlank_sound h
    rw [← skipBlank_append ha, h]
  cases f with
  | list =>
    change skipDue .value stack (b :: r) = skipDue .value stack bytes
    rw [skipDue_value h, skipDue_value hidem]
  | object => simp only [skipLabel, skipKey, h, hidem]

/-- Inside an open frame the items are taken, and the closer after them. -/
def Takes (f : Frame) (s : List UInt8) : Prop :=
  (∃ a b s', s = a ++ b :: s' ∧ Blanks a ∧ isBlank b = false ∧ b ≠ f.closer) ∧
    ∀ stack rest, f.skipLabel (s ++ f.closer :: rest) >>= skipDue .value (f :: stack) =
      skipDue .next stack rest

/-- A value is taken after blanks, if it ends where what follows starts. -/
def TakesValue (v : List UInt8) : Prop :=
  (∃ b v', v = b :: v' ∧ isBlank b = false ∧ b ≠ Ascii.closeBracket) ∧
    ∀ stack a rest, Blanks a → EndsNumber rest →
      skipDue .value stack (a ++ (v ++ rest)) = skipDue .next stack rest

theorem takes_of {l : List UInt8} (hl : f.Label l) (ha : Blanks a) (hv : TakesValue v)
    (ht : Blanks t ∨ ∃ b s, t = b ++ Ascii.comma :: s ∧ Blanks b ∧ f.Takes s) :
    f.Takes (l ++ (a ++ (v ++ t))) := by
  obtain ⟨⟨b, v', hbv, hblank, hb⟩, hv⟩ := hv
  constructor
  · cases f with
    | list =>
      cases hl
      subst hbv
      exact ⟨a, b, v' ++ t, by simp, ha, hblank, hb⟩
    | object =>
      obtain ⟨c, k, d, rfl, hc, -, -⟩ := hl
      exact ⟨c, Ascii.quote, k ++ Ascii.quote :: (d ++ Ascii.colon :: (a ++ (v ++ t))),
        by simp [quoted], hc, rfl, by decide⟩
  · intro stack rest
    have hends : EndsNumber (t ++ f.closer :: rest) := by
      rcases ht with ht | ⟨c, s, rfl, hc, -⟩
      · exact endsNumber_of_blanks ht f.closer_mem
      · simpa using endsNumber_of_blanks hc (by decide)
    have hlabel := skipLabel_append (r := a ++ (v ++ (t ++ f.closer :: rest))) hl
    simp only [List.append_assoc, hlabel]
    change skipDue .value (f :: stack) _ = _
    rw [hv _ _ _ ha hends]
    rcases ht with ht | ⟨c, s, rfl, hc, -, hs⟩
    · exact skipDue_next_close ht
    · have hcomma : skipBlank (c ++ Ascii.comma :: (s ++ f.closer :: rest)) = _ :=
        skipBlank_eq hc rfl
      simp only [List.append_assoc, List.cons_append]
      rw [skipDue_next hcomma, if_pos rfl, hs]

theorem takesValue_of (h : Blanks s ∨ f.Takes s) :
    TakesValue (f.opener :: s ++ [f.closer]) := by
  constructor
  · cases f <;> exact ⟨_, _, rfl, rfl, by decide⟩
  · intro stack a rest ha _
    have ho : skipBlank (a ++ f.opener :: (s ++ f.closer :: rest)) = _ :=
      skipBlank_eq ha (by cases f <;> rfl)
    have hfirst : skipDue .value stack (a ++ f.opener :: (s ++ f.closer :: rest)) =
        skipDue (.first f) stack (s ++ f.closer :: rest) := by
      rw [skipDue_value ho]
      cases f <;> rfl
    simp only [List.cons_append, List.append_assoc, List.nil_append, hfirst]
    rcases h with hs | ⟨⟨c, b, s', rfl, hc, hblank, hb⟩, hs⟩
    · exact skipDue_first_close hs
    · have hskip :
          skipBlank (c ++ b :: s' ++ f.closer :: rest) = b :: (s' ++ f.closer :: rest) := by
        simpa using skipBlank_eq hc hblank
      rw [skipDue_first hskip, if_neg hb, skipLabel_skipBlank hskip, hs]

end Frame

theorem takesValue_of_scalar (h : Scalar v) : Frame.TakesValue v := by
  constructor
  · obtain ⟨d, v', rfl, ⟨hblank, hd⟩, -⟩ := skipScalar_complete (r := []) h nofun
    exact ⟨d, v', rfl, hblank, by rintro rfl; simp at hd⟩
  · intro stack a rest ha hrest
    obtain ⟨d, v', rfl, ⟨hblank, hd⟩, hs⟩ := skipScalar_complete h hrest
    simp only [List.mem_cons, List.not_mem_nil, or_false, not_or] at hd
    have hskip : skipBlank (a ++ (d :: v' ++ rest)) = d :: (v' ++ rest) := skipBlank_eq ha hblank
    rw [skipDue_value hskip, if_neg hd.1, if_neg hd.2.1, hs]
    rfl

/-- What is taken of a phrase of the grammar. -/
def Phrase.Takes : Phrase → List UInt8 → Prop
  | .value => Frame.TakesValue
  | .elements => Frame.list.Takes
  | .members _ => Frame.object.Takes

theorem Derives.takes {p : Phrase} (h : Derives p s) : p.Takes s := by
  induction h with
  | word hs => exact takesValue_of_scalar (.inl hs)
  | number hs => exact takesValue_of_scalar (.inr (.inl hs))
  | string hs => exact takesValue_of_scalar (.inr (.inr ⟨_, hs, rfl⟩))
  | emptyList ha => exact Frame.takesValue_of (f := .list) (.inl ha)
  | list _ ih => exact Frame.takesValue_of (f := .list) (.inr ih)
  | emptyObject ha => exact Frame.takesValue_of (f := .object) (.inl ha)
  | object _ ih => exact Frame.takesValue_of (f := .object) (.inr ih)
  | lastElement ha _ hb ih =>
    simpa using! Frame.takes_of (f := .list) (l := []) rfl ha ih (.inl hb)
  | element ha _ hb _ ih ihs =>
    simpa using! Frame.takes_of (f := .list) (l := []) rfl ha ih (.inr ⟨_, _, rfl, hb, ihs⟩)
  | lastMember ha hk hb hc _ hd ih =>
    simpa using! Frame.takes_of (f := .object) ⟨_, _, _, rfl, ha, hk, hb⟩ hc ih (.inl hd)
  | member ha hk hb hc _ hd _ ih ihs =>
    simpa using! Frame.takes_of (f := .object) ⟨_, _, _, rfl, ha, hk, hb⟩ hc ih
      (.inr ⟨_, _, rfl, hd, ihs⟩)

theorem skipValue_append (ha : Blanks a) (hv : Derives .value v) (hr : EndsNumber rest) :
    skipValue (a ++ (v ++ rest)) = .ok rest := by
  have := hv.takes.2 [] a rest ha hr
  rw [skipValue, this, skipDue]

end JournalSink.Json
