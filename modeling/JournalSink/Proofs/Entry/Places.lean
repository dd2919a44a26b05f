import Mathlib.Data.List.TakeWhile
import JournalSink.Proofs.Json.Lines
import JournalSink.Proofs.Json.Stops

/-! # The places of faults

What stands before a record moves its faults along, for a fault is placed by what is
left behind it. Only a string value is read by itself: a fault in it is placed from
the opening quote, wherever the value stands.
-/

namespace JournalSink

namespace Json

variable {bytes bytes' source rest raw : List UInt8} {e : Refusal} {text : String}

namespace Position

/-- The same place when the first line starts with `k` more bytes. -/
def indented (p : Position) (k : Nat) : Position :=
  if p.line = 1 then { p with column := p.column + k } else p

theorem behind_eq_of_not_mem (h : Ascii.newline ∉ bytes) : behind bytes = ⟨1, bytes.length⟩ := by
  have hall : ∀ b ∈ bytes.reverse, (b != Ascii.newline) = true := by
    intro b hb
    rw [bne_iff_ne]
    rintro rfl
    exact h (List.mem_reverse.1 hb)
  rw [behind, List.count_eq_zero.2 h, List.takeWhile_eq_self_iff.2 hall, List.length_reverse]

theorem behind_append_of_not_mem (h : Ascii.newline ∉ bytes) (read : List UInt8) :
    behind (bytes ++ read) = (behind read).indented bytes.length := by
  by_cases hread : Ascii.newline ∈ read
  · have hline : (behind read).line ≠ 1 := by
      have := List.count_pos_iff.2 hread
      simp only [behind]
      omega
    have hshort : (read.reverse.takeWhile (· != Ascii.newline)).length ≠ read.reverse.length := by
      intro hlength
      have hself := (List.takeWhile_prefix _).eq_of_length hlength
      have hne := List.takeWhile_eq_self_iff.1 hself _ (List.mem_reverse.2 hread)
      exact bne_iff_ne.1 hne rfl
    rw [indented, if_neg hline, behind, List.count_append, List.count_eq_zero.2 h, Nat.zero_add,
      List.reverse_append, List.takeWhile_append, if_neg hshort, behind]
  · have hall : Ascii.newline ∉ bytes ++ read := by
      simp [h, hread]
    rw [behind_eq_of_not_mem hread, behind_eq_of_not_mem hall, indented, if_pos rfl,
      List.length_append, Nat.add_comm]

/-- A place in a document is found again behind what is put in front of the first line. -/
theorem before_append (h : Ascii.newline ∉ bytes) (hrest : rest.length ≤ raw.length) :
    before (bytes ++ raw) rest = (before raw rest).indented bytes.length := by
  have hlength : (bytes ++ raw).length - rest.length =
      bytes.length + (raw.length - rest.length) := by
    rw [List.length_append]
    omega
  rw [before, hlength, List.take_length_add_append, behind_append_of_not_mem h, before]

end Position

/-! ## Where refusals lie -/

/-- A refusal leaves no more than was read, or lies in a string value among what was read. -/
def Refusal.LiesIn (bytes : List UInt8) : Refusal → Prop
  | malformed h => h.rest.length ≤ bytes.length
  | noObject _ rest => rest.length ≤ bytes.length
  | badValue source h => (∃ s, source = quoted s ∧ Content s ∧ ¬ Paired s) ∧ source <:+: bytes ∧
      h.rest.length ≤ source.length

theorem Refusal.LiesIn.mono (h : e.LiesIn bytes) (hs : bytes <:+ bytes') : e.LiesIn bytes' := by
  cases e with
  | malformed => exact Nat.le_trans h hs.length_le
  | noObject => exact Nat.le_trans h hs.length_le
  | badValue =>
    obtain ⟨hsource, hinfix, hrest⟩ := h
    exact ⟨hsource, hinfix.trans hs.isInfix, hrest⟩

theorem skipBlank_suffix (bytes : List UInt8) : skipBlank bytes <:+ bytes :=
  List.dropWhile_suffix _

theorem length_dropText_le (bytes : List UInt8) : (Text.dropText bytes).length ≤ bytes.length := by
  fun_induction Text.dropText bytes with
  | case1 => exact Nat.le_refl _
  | case2 b r c _ ih =>
    rw [List.length_drop] at ih
    omega
  | case3 => exact Nat.le_refl _

theorem valueText_liesIn {v : List UInt8} (hv : Derives .value v)
    (h : valueText v rest = .error e) : e.LiesIn (v ++ rest) := by
  unfold valueText refuse at h
  split at h
  · cases h
    have := length_dropText_le v
    simp only [Refusal.LiesIn, List.length_append, List.length_tail]
    omega
  · rename_i text htext
    split at h
    · cases h
    · rename_i b r _
      split_ifs at h with hquote
      split at h <;> cases h
      rename_i hread
      subst hquote
      obtain ⟨s, rfl, hs⟩ := hv.quoted_of_quote
      refine ⟨⟨s, rfl, hs, fun hp => ?_⟩, (List.prefix_append _ _).isInfix,
        Nat.le_succ_of_le (readString_rest_le hread)⟩
      have hutf : Text.IsUtf8 (quoted s) := ⟨text, Text.ofUtf8?_eq_some_iff.1 htext⟩
      obtain ⟨t, ht⟩ := (exists_spells_iff hs).2 ⟨isUtf8_quoted_iff.1 hutf, hp⟩
      cases hread.symm.trans (readString_eq_ok_iff.2 ⟨s, rfl, ht⟩)

theorem readKey_liesIn (h : readKey bytes = .error e) : e.LiesIn bytes := by
  cases bytes with
  | nil => cases h; exact Nat.le_refl _
  | cons b r =>
    simp only [readKey, refuse] at h
    split_ifs at h
    · split at h
      · cases h
        exact Nat.le_succ_of_le (readString_rest_le ‹_›)
      · rename_i hkey
        have := readString_length hkey
        split at h
        · cases h
          exact Nat.zero_le _
        · rename_i hblank
          have := skipBlank_tail_length hblank
          split_ifs at h
          cases h
          simp only [Refusal.LiesIn, List.length_cons]
          omega
    · cases h
      exact Nat.le_succ _
    · cases h
      exact Nat.le_succ _

theorem readMember_liesIn (h : readMember bytes = .error e) : e.LiesIn bytes := by
  unfold readMember at h
  split at h
  · cases h
    exact readKey_liesIn ‹_›
  · rename_i r hkey
    obtain ⟨k, b, rfl, -, -⟩ := readKey_eq_ok_iff.1 hkey
    have hsuffix : r <:+ quoted k ++ (b ++ Ascii.colon :: r) :=
      ⟨quoted k ++ (b ++ [Ascii.colon]), by simp⟩
    dsimp only at h
    split at h
    · cases h
      rename_i hskip
      exact Nat.le_trans (skipDue_rest_le hskip)
        (Nat.le_trans (skipBlank_length_le r) hsuffix.length_le)
    · rename_i rest hskip
      obtain ⟨c, v, rfl, hc, hv⟩ := skipValue_skipBlank_sound hskip
      rw [skipBlank_append_value hc hv, List.length_append, Nat.add_sub_cancel,
        List.take_left] at h
      split at h <;> cases h
      exact (valueText_liesIn hv ‹_›).mono ((List.suffix_append _ _).trans hsuffix)

theorem readMember_suffix {m : Member} (h : readMember bytes = .ok (m, rest)) : rest <:+ bytes := by
  obtain ⟨k, b, c, v, rfl, -⟩ := readMember_sound h
  exact ⟨quoted k ++ (b ++ Ascii.colon :: (c ++ v)), by simp⟩

theorem readMembers_liesIn {done : List Member} (h : readMembers done bytes = .error e) :
    e.LiesIn bytes := by
  fun_induction readMembers done bytes with
  | case1 _ _ _ hm => cases h; exact readMember_liesIn hm
  | case2 => cases h; exact Nat.zero_le _
  | case3 => cases h
  | case4 _ _ _ r hm r' hb _ ih =>
    have hsuffix : r' <:+ r := (List.suffix_cons _ _).trans (hb ▸ skipBlank_suffix r)
    exact (ih h).mono ((skipBlank_suffix r').trans (hsuffix.trans (readMember_suffix hm)))
  | case5 _ _ _ _ hm _ _ hb =>
    cases h
    exact Nat.le_of_lt (Nat.lt_trans (skipBlank_tail_length hb) (readMember_length hm))

theorem readObject_liesIn (h : readObject bytes = .error e) : e.LiesIn bytes := by
  unfold readObject refuse at h
  split at h
  · cases h
    exact Nat.zero_le _
  · rename_i hb
    split_ifs at h
    exact (readMembers_liesIn h).mono (hb ▸ skipBlank_suffix bytes)

theorem readDocument_liesIn (h : readDocument bytes = .error e) : e.LiesIn bytes := by
  unfold readDocument refuse at h
  split at h
  · cases h
    exact Nat.zero_le _
  · rename_i b r hb
    have hsuffix : b :: r <:+ bytes := hb ▸ skipBlank_suffix bytes
    split_ifs at h
    · split at h
      · cases h
        exact (readObject_liesIn ‹_›).mono ((List.suffix_cons _ _).trans hsuffix)
      · rename_i rest hread
        obtain ⟨ms, s, rfl, -⟩ := readObject_sound hread
        split at h <;> cases h
        rename_i hrest
        have := skipBlank_tail_length hrest
        have := hsuffix.length_le
        simp only [Refusal.LiesIn, List.length_append, List.length_cons] at *
        omega
    · have hfound := Nat.le_trans (unread_readFound_le b r) hsuffix.length_le
      split at h <;> cases h
      · rename_i hread
        rw [hread] at hfound
        exact hfound
      · rename_i hread
        rw [hread] at hfound
        exact hfound

theorem blanks_spaces (k : Nat) : Blanks (List.replicate k Ascii.space) := by
  intro b hb
  rw [List.eq_of_mem_replicate hb]
  decide

theorem readDocument_append_blanks {a : List UInt8} (ha : Blanks a) :
    readDocument (a ++ raw) = readDocument raw := by
  rw [readDocument, skipBlank_append ha, readDocument]

/-! ## Members that are refused -/

theorem readContent_escape_error {done r : List UInt8} {h : Halt} (he : readEscape r = .error h) :
    readContent done (Ascii.backslash :: r) = .error h := by
  rw [readContent, if_neg (by decide), if_pos rfl]
  split
  · rename_i he'
    rw [he] at he'
    cases he'
    rfl
  · rename_i he'
    rw [he] at he'
    cases he'

theorem readString_of_readContent {h : Halt} (hc : readContent [] bytes = .error h) :
    readString bytes = .error h := by
  rw [readString, hc]

/-- A document whose first member is refused is refused for the same reason. -/
theorem readDocument_first {r : List UInt8} (h : readMember (Ascii.quote :: r) = .error e) :
    readDocument (Ascii.openBrace :: Ascii.quote :: r) = .error e := by
  have hmembers : readMembers [] (Ascii.quote :: r) = .error e := by
    rw [readMembers]
    split
    · rename_i h'
      cases h.symm.trans h'
      rfl
    · rename_i h'
      cases h.symm.trans h'
  have hobject : readObject (Ascii.quote :: r) = .error e := by
    rw [readObject, skipBlank_of_not rfl]
    exact hmembers
  rw [readDocument, skipBlank_of_not rfl]
  dsimp only
  rw [if_pos rfl, hobject]

end Json

namespace DecodeError

open Json (Position Refusal quoted)

variable {raw : List UInt8} {fault fault' : DecodeError} {k : Nat}

/-- The fault is in a string value, which is read by itself. -/
def InValue (fault : DecodeError) : Prop :=
  ∃ source h, fault.refusal = .badValue source h

/-- How a fault of a record looks when `k` spaces stand before the record. -/
structure MovedBy (k : Nat) (raw : List UInt8) (fault fault' : DecodeError) : Prop where
  category : fault'.category = fault.category
  reason : reason fault'.refusal = reason fault.refusal
  position : fault'.position = fault.position.indented k ↔ k = 0 ∨ ¬ fault.InValue
  /-- The surrogates of a value are to blame, and the place is counted from its opening quote. -/
  value : fault.InValue → fault'.position = fault.position ∧
    ∃ front s behind read rest, raw = front ++ quoted s ++ behind ∧ ¬ Json.Paired s ∧
      quoted s = read ++ rest ∧ fault.position = ⟨1, read.length⟩

variable {e : Refusal}

theorem position_locate_append {a : List UInt8} (ha : Ascii.newline ∉ a) (h : e.LiesIn raw)
    (hv : ¬ (locate raw e).InValue) :
    (locate (a ++ raw) e).position = (locate raw e).position.indented a.length := by
  cases e with
  | malformed => exact Position.before_append ha h
  | noObject => exact Position.before_append ha h
  | badValue source halt => exact absurd ⟨source, halt, rfl⟩ hv

/-- A fault in a value is placed by the value alone. -/
theorem position_locate_value (h : e.LiesIn raw) (hv : (locate raw e).InValue) :
    (∀ document, (locate document e).position = (locate raw e).position) ∧
      ∃ front s behind read rest, raw = front ++ quoted s ++ behind ∧ ¬ Json.Paired s ∧
        quoted s = read ++ rest ∧ (locate raw e).position = ⟨1, read.length⟩ := by
  obtain ⟨source, halt, rfl : e = .badValue source halt⟩ := hv
  obtain ⟨⟨s, rfl, hs, hpaired⟩, ⟨front, behind, hraw⟩, -⟩ := h
  have hline : Ascii.newline ∉ quoted s := by
    have hquote : Ascii.newline ≠ Ascii.quote := by decide
    simp [quoted, hs.newline_not_mem, hquote]
  have hsplit := List.take_append_drop ((quoted s).length - halt.rest.length) (quoted s)
  refine ⟨fun _ => rfl, front, s, behind, _, _, hraw.symm, hpaired, hsplit.symm, ?_⟩
  exact Position.behind_eq_of_not_mem fun hm => hline (List.mem_of_mem_take hm)

end DecodeError

namespace Entry

open Json (Position Refusal quoted)
open Text (utf8)

variable {raw : List UInt8} {fault : DecodeError}

theorem decode_eq_error_iff : decode raw = .error fault ↔
    ∃ e, Json.readDocument raw = .error e ∧ .locate raw e = fault := by
  unfold decode
  cases Json.readDocument raw <;> simp

/-- A record that is refused is refused behind spaces too, for the same reason. The place moves with
the record, unless the fault is in a string value. -/
theorem decode_behind_spaces (k : Nat) (h : decode raw = .error fault) :
    ∃ fault', decode (List.replicate k Ascii.space ++ raw) = .error fault' ∧
      DecodeError.MovedBy k raw fault fault' := by
  obtain ⟨e, hread, rfl⟩ := decode_eq_error_iff.1 h
  have hlies := Json.readDocument_liesIn hread
  have hspaces : Ascii.newline ∉ List.replicate k Ascii.space := by
    simp [List.mem_replicate, Ascii.newline, Ascii.space]
  have hread' := (Json.readDocument_append_blanks (Json.blanks_spaces k)).trans hread
  refine ⟨_, decode_eq_error_iff.2 ⟨e, hread', rfl⟩, rfl, rfl, ?_, ?_⟩
  · by_cases hv : (DecodeError.locate raw e).InValue
    · obtain ⟨hsame, front, s, behind, read, rest, -, -, -, hplace⟩ :=
        DecodeError.position_locate_value hlies hv
      rw [hsame, hplace, Position.indented, if_pos rfl]
      simp [hv]
    · rw [DecodeError.position_locate_append hspaces hlies hv, List.length_replicate]
      simp [hv]
  · intro hv
    obtain ⟨hsame, hplace⟩ := DecodeError.position_locate_value hlies hv
    exact ⟨hsame _, hplace⟩

theorem decode_behind_spaces_key :
    let raw := utf8 "\x7b\"k\\ud800\":1\x7d"
    ∃ fault, decode raw = .error fault ∧ ¬ fault.InValue ∧ fault.position = ⟨1, 10⟩ ∧
      ∃ fault', decode (List.replicate 3 Ascii.space ++ raw) = .error fault' ∧
        DecodeError.MovedBy 3 raw fault fault' ∧ fault'.position = ⟨1, 13⟩ := by
  intro raw
  have hescape : Json.readEscape (utf8 "ud800\":1\x7d") =
      .error ⟨.noSecondSurrogate, utf8 ":1\x7d"⟩ :=
    rfl
  have hstring : Json.readString (utf8 "k\\ud800\":1\x7d") =
      .error ⟨.noSecondSurrogate, utf8 ":1\x7d"⟩ :=
    Json.readString_of_readContent
      ((Json.readContent_plain ⟨by decide, by decide, by decide⟩).trans
        (Json.readContent_escape_error hescape))
  have hmember : Json.readMember (Ascii.quote :: utf8 "k\\ud800\":1\x7d") =
      .error (.malformed ⟨.noSecondSurrogate, utf8 ":1\x7d"⟩) := by
    rw [Json.readMember, Json.readKey, if_pos rfl, hstring]
  have h : decode raw = .error (.locate raw (.malformed ⟨.noSecondSurrogate, utf8 ":1\x7d"⟩)) :=
    decode_eq_error_iff.2 ⟨_, Json.readDocument_first hmember, rfl⟩
  have hvalue : ¬ (DecodeError.locate raw
      (.malformed ⟨.noSecondSurrogate, utf8 ":1\x7d"⟩)).InValue := by
    rintro ⟨_, _, hv⟩
    cases hv
  have hplace : (DecodeError.locate raw
      (.malformed ⟨.noSecondSurrogate, utf8 ":1\x7d"⟩)).position = ⟨1, 10⟩ := by
    decide
  obtain ⟨fault', h', hmoved⟩ := decode_behind_spaces 3 h
  refine ⟨_, h, hvalue, hplace, fault', h', hmoved, ?_⟩
  rw [hmoved.position.2 (.inr hvalue), hplace]
  rfl

/-- A lone surrogate in a value is placed in the eighth column, counted from the value's opening
quote, with and without a space before the record. -/
theorem decode_value_unmoved :
    let raw := utf8 "\x7b\"a\":\"\\ud800\"\x7d"
    ∃ fault fault', decode raw = .error fault ∧
      decode (List.replicate 1 Ascii.space ++ raw) = .error fault' ∧
      fault.position = ⟨1, 8⟩ ∧ fault'.position ≠ ⟨1, 8 + 1⟩ := by
  intro raw
  have hescape : Json.readEscape (utf8 "ud800\"") = .error ⟨.noSecondSurrogate, []⟩ :=
    rfl
  have hstring : Json.readString (utf8 "\\ud800\"") = .error ⟨.noSecondSurrogate, []⟩ :=
    Json.readString_of_readContent (Json.readContent_escape_error hescape)
  have hsource : utf8 "\"\\ud800\"" = quoted (utf8 "\\ud800") := by decide
  have htext : Json.valueText (quoted (utf8 "\\ud800")) [Ascii.closeBrace] =
      .error (.badValue (quoted (utf8 "\\ud800")) ⟨.noSecondSurrogate, []⟩) := by
    have hread : Json.readString (utf8 "\\ud800" ++ [Ascii.quote]) = _ := hstring
    rw [Json.valueText, ← hsource, Text.ofUtf8?_utf8, hsource]
    simp [quoted, hread]
  have hkey : Json.Spells (utf8 "a") "a" := .plain ⟨by decide, by decide, by decide⟩ .nil
  have hcontent : Json.Content (utf8 "\\ud800") := .code rfl .nil
  have hends : Json.EndsNumber [Ascii.closeBrace] :=
    Json.endsNumber_of_blanks Json.blanks_nil (by simp)
  have hmember := Json.readMember_eq hkey Json.blanks_nil Json.blanks_nil (.string hcontent) hends
  rw [htext] at hmember
  have hread := Json.readDocument_first hmember
  have hread' := (Json.readDocument_append_blanks (Json.blanks_spaces 1)).trans hread
  exact ⟨_, _, decode_eq_error_iff.2 ⟨_, hread, rfl⟩, decode_eq_error_iff.2 ⟨_, hread', rfl⟩,
    by decide, by decide⟩

end Entry

end JournalSink
