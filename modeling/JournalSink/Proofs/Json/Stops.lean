import Mathlib.Tactic.SplitIfs
import JournalSink.Json.Object

/-! # What is left where reading stops

A reader that stops leaves no more than it was given, so the place where it stopped
lies in what it read.
-/

namespace JournalSink.Json

variable {bytes r : List UInt8} {b : UInt8} {h : Halt}

/-! ## Strings -/

theorem hex4_rest_le (hx : hex4 bytes = .error h) : h.rest.length ≤ bytes.length := by
  unfold hex4 halt at hx
  split at hx
  · split at hx <;> cases hx
    simp only [List.length_cons]
    omega
  · cases hx
    exact Nat.zero_le _

theorem skipEscape_rest_le (hx : skipEscape bytes = .error h) : h.rest.length ≤ bytes.length := by
  cases bytes with
  | nil => cases hx; exact Nat.le_refl _
  | cons b r =>
    simp only [skipEscape, halt] at hx
    split_ifs at hx
    · split at hx <;> cases hx
      exact Nat.le_succ_of_le (hex4_rest_le ‹_›)
    · cases hx
      exact Nat.le_succ _

theorem skipString_rest_le (hx : skipString bytes = .error h) : h.rest.length ≤ bytes.length := by
  fun_induction skipString bytes with
  | case1 => cases hx; exact Nat.le_refl _
  | case2 => cases hx
  | case3 _ _ he => cases hx; exact Nat.le_succ_of_le (skipEscape_rest_le he)
  | case4 _ _ hr _ ih =>
    have := skipEscape_length hr
    have := ih hx
    simp only [List.length_cons]
    omega
  | case5 => cases hx; exact Nat.le_refl _
  | case6 _ _ _ _ _ ih => exact Nat.le_succ_of_le (ih hx)

theorem readUnicode_rest_le (hx : readUnicode bytes = .error h) : h.rest.length ≤ bytes.length := by
  unfold readUnicode halt at hx
  split at hx
  · cases hx
    exact hex4_rest_le ‹_›
  · rename_i hn
    have := hex4_length hn
    split_ifs at hx
    · cases hx
      exact Nat.le_of_lt this
    · split at hx
      · cases hx
        exact Nat.zero_le _
      · split_ifs at hx
        · split at hx
          · cases hx
            exact Nat.zero_le _
          · split_ifs at hx
            · split at hx
              · cases hx
                have := hex4_rest_le ‹_›
                simp only [List.length_cons] at *
                omega
              · rename_i hm
                have := hex4_length hm
                split_ifs at hx
                cases hx
                simp only [List.length_cons] at *
                omega
            · cases hx
              simp only [List.length_cons] at *
              omega
        · cases hx
          simp only [List.length_cons] at *
          omega

theorem readEscape_rest_le (hx : readEscape bytes = .error h) : h.rest.length ≤ bytes.length := by
  cases bytes with
  | nil => cases hx; exact Nat.le_refl _
  | cons b r =>
    simp only [readEscape, halt] at hx
    split_ifs at hx
    · split at hx <;> cases hx
      exact Nat.le_succ_of_le (readUnicode_rest_le ‹_›)
    · split at hx <;> cases hx
      exact Nat.le_succ _

theorem readContent_rest_le {done : List UInt8} (hx : readContent done bytes = .error h) :
    h.rest.length ≤ bytes.length := by
  fun_induction readContent done bytes with
  | case1 => cases hx; exact Nat.le_refl _
  | case2 => cases hx
  | case3 _ _ _ he => cases hx; exact Nat.le_succ_of_le (readEscape_rest_le he)
  | case4 _ _ _ _ hr _ ih =>
    have := readEscape_length hr
    have := ih hx
    simp only [List.length_cons]
    omega
  | case5 => cases hx; exact Nat.le_succ _
  | case6 _ _ _ _ _ _ ih => exact Nat.le_succ_of_le (ih hx)

theorem readString_rest_le (hx : readString bytes = .error h) : h.rest.length ≤ bytes.length := by
  unfold readString halt at hx
  split at hx
  · cases hx
    exact readContent_rest_le ‹_›
  · split at hx <;> cases hx
    simp only [List.length_drop]
    omega

/-! ## Values passed over -/

theorem skipWhole_rest_le (hx : skipWhole bytes = .error h) : h.rest.length ≤ bytes.length := by
  cases bytes with
  | nil => cases hx; exact Nat.le_refl _
  | cons b r =>
    simp only [skipWhole, halt] at hx
    split_ifs at hx <;> cases hx
    · simp only [List.length_tail, List.length_cons]
      omega
    · exact Nat.le_succ _

theorem skipFraction_rest_le (hx : skipFraction bytes = .error h) :
    h.rest.length ≤ bytes.length := by
  cases bytes with
  | nil => cases hx
  | cons b r =>
    simp only [skipFraction, halt] at hx
    split_ifs at hx
    cases hx
    simp only [List.length_tail, List.length_cons]
    omega

theorem skipExponent_rest_le (hx : skipExponent bytes = .error h) :
    h.rest.length ≤ bytes.length := by
  cases bytes with
  | nil => cases hx
  | cons b r =>
    have hs := skipSign_length_le r
    simp only [skipExponent, halt] at hx
    split_ifs at hx
    split at hx
    · cases hx
      exact Nat.zero_le _
    · rename_i heq
      rw [heq] at hs
      split_ifs at hx
      cases hx
      simp only [List.length_cons] at *
      omega

theorem skipNumber_rest_le (hx : skipNumber bytes = .error h) : h.rest.length ≤ bytes.length := by
  unfold skipNumber at hx
  cases hw : skipWhole bytes with
  | error e =>
    rw [hw] at hx
    cases hx
    exact skipWhole_rest_le hw
  | ok r₁ =>
    have := skipWhole_length hw
    rw [hw] at hx
    cases hf : skipFraction r₁ with
    | error e =>
      simp only [hf, bind, Except.bind] at hx
      cases hx
      have := skipFraction_rest_le hf
      omega
    | ok r₂ =>
      simp only [hf, bind, Except.bind] at hx
      have := skipFraction_length_le hf
      have := skipExponent_rest_le hx
      omega

theorem skipWord_rest_le {word : List UInt8} (hx : skipWord word bytes = .error h) :
    h.rest.length ≤ bytes.length := by
  induction word generalizing bytes with
  | nil => cases hx
  | cons w word ih =>
    cases bytes with
    | nil => cases hx; exact Nat.le_refl _
    | cons b r =>
      simp only [skipWord, halt] at hx
      split_ifs at hx
      · exact Nat.le_succ_of_le (ih hx)
      · cases hx
        exact Nat.le_succ _

theorem skipScalar_rest_le (hx : skipScalar b r = .error h) : h.rest.length ≤ (b :: r).length := by
  unfold skipScalar halt at hx
  split at hx
  · exact Nat.le_succ_of_le (skipWord_rest_le hx)
  · split_ifs at hx
    · exact Nat.le_succ_of_le (skipNumber_rest_le hx)
    · exact skipNumber_rest_le hx
    · exact Nat.le_succ_of_le (skipString_rest_le hx)
    · cases hx
      exact Nat.le_succ _

theorem skipKey_rest_le (hx : skipKey bytes = .error h) : h.rest.length ≤ bytes.length := by
  unfold skipKey halt at hx
  split at hx
  · cases hx
    exact Nat.zero_le _
  · rename_i hb
    have := skipBlank_tail_length hb
    split_ifs at hx
    · split at hx
      · cases hx
        have := skipString_rest_le ‹_›
        omega
      · rename_i hs
        have := skipString_length hs
        split at hx
        · cases hx
          exact Nat.zero_le _
        · rename_i hc
          have := skipBlank_tail_length hc
          split_ifs at hx
          cases hx
          simp only
          omega
    · cases hx
      exact Nat.le_of_lt this

theorem Frame.skipLabel_rest_le {f : Frame} (hx : f.skipLabel bytes = .error h) :
    h.rest.length ≤ bytes.length := by
  cases f with
  | list => cases hx
  | object => exact skipKey_rest_le hx

theorem skipDue_rest_le {due : Due} {stack : List Frame} (hx : skipDue due stack bytes = .error h) :
    h.rest.length ≤ bytes.length := by
  fun_induction skipDue due stack bytes with
  | case1 | case6 | case11 => cases hx; exact Nat.zero_le _
  | case10 => cases hx
  | case2 _ _ _ hb ih | case3 _ _ _ hb _ ih | case7 _ _ _ _ hb ih | case14 _ _ _ _ hb _ ih =>
    exact Nat.le_trans (ih hx) (Nat.le_of_lt (skipBlank_tail_length hb))
  | case4 _ _ _ _ hb _ _ _ hs =>
    cases hx
    exact Nat.le_trans (skipScalar_rest_le hs) (skipBlank_tail_length hb)
  | case5 _ _ _ _ hb _ _ _ hs ih =>
    exact Nat.le_trans (ih hx) (Nat.le_trans (skipScalar_length_le hs)
      (Nat.le_of_lt (skipBlank_tail_length hb)))
  | case8 _ _ _ _ _ hb _ _ hl =>
    cases hx
    exact Nat.le_trans (Frame.skipLabel_rest_le hl) (skipBlank_tail_length hb)
  | case9 _ _ _ _ _ hb _ _ hl ih =>
    exact Nat.le_trans (ih hx) (Nat.le_trans (Frame.skipLabel_length_le hl)
      (skipBlank_tail_length hb))
  | case12 _ _ _ _ _ hl hb =>
    cases hx
    exact Nat.le_trans (Frame.skipLabel_rest_le hl) (Nat.le_of_lt (skipBlank_tail_length hb))
  | case13 _ _ _ _ _ hl hb ih =>
    exact Nat.le_trans (ih hx) (Nat.le_trans (Frame.skipLabel_length_le hl)
      (Nat.le_of_lt (skipBlank_tail_length hb)))
  | case15 _ _ _ _ _ hb =>
    cases hx
    exact Nat.le_of_lt (skipBlank_tail_length hb)

/-! ## Numbers found

What such a reader leaves is bounded in the same way whether it stops or goes on. -/

/-- The bytes that a reader leaves. -/
def unread {α : Type} : Except Halt (α × List UInt8) → List UInt8
  | .ok (_, r) => r
  | .error h => h.rest

theorem unread_halt {α : Type} (cause : Cause) : unread (halt cause r : Except Halt (α × _)) = r :=
  rfl

theorem takeDigits_length_le (limit n count : Nat) (bytes : List UInt8) :
    (takeDigits limit n count bytes).2.2.length ≤ bytes.length := by
  fun_induction takeDigits limit n count bytes with
  | case1 => exact Nat.le_refl _
  | case2 _ _ _ _ _ _ ih => exact Nat.le_succ_of_le ih
  | case3 => exact Nat.le_refl _

theorem unread_scaled (digits : Nat) (exponent : Int) : unread (scaled digits exponent r) = r := by
  unfold scaled
  split <;> rfl

theorem unread_signed (negative : Bool) (x : Except Halt (Float × List UInt8)) :
    unread (signed negative x) = unread x := by
  rcases x with _ | ⟨_, _⟩ <;> rfl

theorem unread_readExponent_le (digits : Nat) (exponent : Int) (bytes : List UInt8) :
    (unread (readExponent digits exponent bytes)).length ≤ bytes.length := by
  have hs := skipSign_length_le bytes
  unfold readExponent
  dsimp only
  split
  · exact Nat.zero_le _
  · rename_i b r heq
    rw [heq, List.length_cons] at hs
    have ht := takeDigits_length_le exponentLimit (Ascii.digitValue b) 0 r
    generalize takeDigits exponentLimit (Ascii.digitValue b) 0 r = t at ht ⊢
    obtain ⟨n, count, rest⟩ := t
    have hd := skipDigits_length_le rest
    dsimp only at ht ⊢
    split_ifs
    · simp only [unread]
      omega
    · rw [unread_halt, List.length_tail]
      omega
    · rw [unread_scaled]
      omega
    · rw [unread_scaled]
      omega
    · rw [unread_halt]
      omega

theorem unread_readScale_le (digits : Nat) (exponent : Int) (bytes : List UInt8) :
    (unread (readScale digits exponent bytes)).length ≤ bytes.length := by
  cases bytes with
  | nil =>
    rw [readScale]
    exact Nat.le_of_eq (by rw [unread_scaled])
  | cons b r =>
    rw [readScale]
    split_ifs
    · exact Nat.le_succ_of_le (unread_readExponent_le ..)
    · exact Nat.le_of_eq (by rw [unread_scaled])

theorem unread_readFraction_le (digits : Nat) (exponent : Int) (bytes : List UInt8) :
    (unread (readFraction digits exponent bytes)).length ≤ bytes.length := by
  unfold readFraction
  have ht := takeDigits_length_le UInt64.size digits 0 bytes
  generalize takeDigits UInt64.size digits 0 bytes = t at ht ⊢
  obtain ⟨digits, count, rest⟩ := t
  dsimp only at ht ⊢
  split_ifs
  · exact Nat.le_trans (unread_readScale_le ..) (Nat.le_trans (skipDigits_length_le _) ht)
  · cases rest with
    | nil => exact Nat.zero_le _
    | cons b r => exact Nat.le_of_lt ht
  · exact Nat.le_trans (unread_readScale_le ..) ht

theorem unread_readParts_le (digits : Nat) (exponent : Int) (bytes : List UInt8) :
    (unread (readParts digits exponent bytes)).length ≤ bytes.length := by
  cases bytes with
  | nil =>
    rw [readParts]
    exact Nat.le_of_eq (by rw [unread_scaled])
  | cons b r =>
    rw [readParts]
    split_ifs
    · exact Nat.le_succ_of_le (unread_readFraction_le ..)
    · exact unread_readScale_le ..

theorem unread_readNumber_le (negative : Bool) (bytes : List UInt8) :
    (unread (readNumber negative bytes)).length ≤ bytes.length := by
  cases bytes with
  | nil => exact Nat.le_refl _
  | cons b r =>
    rw [readNumber]
    have ht := takeDigits_length_le UInt64.size 0 0 (b :: r)
    generalize takeDigits UInt64.size 0 0 (b :: r) = t at ht ⊢
    obtain ⟨n, count, rest⟩ := t
    dsimp only at ht ⊢
    split_ifs
    · simp only [unread_halt, List.length_tail, List.length_cons]
      omega
    · rw [unread_signed]
      exact Nat.le_trans (unread_readParts_le ..) (Nat.le_trans (skipDigits_length_le _) ht)
    · rw [unread_signed]
      exact Nat.le_trans (unread_readParts_le ..) ht
    · exact ht
    · exact ht
    · exact ht
    · exact Nat.le_succ _

theorem unread_readFound_le (b : UInt8) (r : List UInt8) :
    (unread (readFound b r)).length ≤ (b :: r).length := by
  unfold readFound
  split
  · split
    · exact Nat.le_succ_of_le (skipWord_rest_le ‹_›)
    · exact Nat.le_succ_of_le (skipWord_length_le ‹_›)
  · split_ifs
    · exact Nat.le_succ_of_le (unread_readNumber_le ..)
    · exact unread_readNumber_le ..
    · split
      · exact Nat.le_succ_of_le (readString_rest_le ‹_›)
      · exact Nat.le_succ_of_le (Nat.le_of_lt (readString_length ‹_›))
    · exact Nat.le_refl _
    · exact Nat.le_succ _

end JournalSink.Json
