import Mathlib.Data.List.Forall2
import JournalSink.Proofs.Json.Values

/-! # Documents against the grammar

A document is read exactly when the grammar derives it and every key and value in
it has a text. The members read are the members of the grammar, in their order.
-/

namespace JournalSink.Json

variable {bytes body r rest s a b c k v : List UInt8} {m : Member} {ms ms' : List Spelling}
  {members : List Member} {key t : String}

/-- Induction over the members alone. -/
@[elab_as_elim]
theorem Derives.members_rec {motive : List Spelling → List UInt8 → Prop}
    (last : ∀ {a k b c v d}, Blanks a → Content k → Blanks b → Blanks c → Derives .value v →
      Blanks d → motive [⟨k, v⟩] (a ++ (quoted k ++ (b ++ Ascii.colon :: (c ++ (v ++ d))))))
    (more : ∀ {a k b c v d s ms}, Blanks a → Content k → Blanks b → Blanks c → Derives .value v →
      Blanks d → Derives (.members ms) s → motive ms s → motive (⟨k, v⟩ :: ms)
        (a ++ (quoted k ++ (b ++ Ascii.colon :: (c ++ (v ++ (d ++ Ascii.comma :: s)))))))
    (h : Derives (.members ms) s) : motive ms s := by
  generalize hp : Phrase.members ms = p at h
  induction h generalizing ms with
  | word | number | string | emptyList | list | emptyObject | object | lastElement | element =>
    cases hp
  | lastMember ha hk hb hc hv hd => cases hp; simpa using last ha hk hb hc hv hd
  | member ha hk hb hc hv hd hs _ ih => cases hp; simpa using more ha hk hb hc hv hd hs (ih rfl)

/-! ## The bytes of a document -/

open Text (IsUtf8 isUtf8_append_cons_iff isUtf8_cons_iff isUtf8_nil)

theorem lt_of_blank {x : UInt8}
    (h : x ∈ [Ascii.space, Ascii.newline, Ascii.tab, Ascii.carriageReturn]) : x < 0x80 := by
  simp only [List.mem_cons, List.not_mem_nil, or_false] at h
  rcases h with rfl | rfl | rfl | rfl <;> decide

theorem Blanks.isUtf8_append_iff (ha : Blanks a) : IsUtf8 (a ++ r) ↔ IsUtf8 r := by
  induction a with
  | nil => rfl
  | cons x a ih =>
    obtain ⟨hx, ha⟩ := List.forall_mem_cons.1 ha
    rw [List.cons_append, isUtf8_cons_iff (lt_of_blank hx), ih ha]

theorem Blanks.isUtf8 (ha : Blanks a) : IsUtf8 a := by
  simpa [isUtf8_nil] using ha.isUtf8_append_iff (r := [])

theorem isUtf8_quoted_append_iff : IsUtf8 (quoted k ++ r) ↔ IsUtf8 k ∧ IsUtf8 r := by
  have hq : Ascii.quote < 0x80 := by decide
  simp [quoted, isUtf8_cons_iff hq, isUtf8_append_cons_iff hq]

theorem isUtf8_quoted_iff : IsUtf8 (quoted k) ↔ IsUtf8 k := by
  simpa [isUtf8_nil] using isUtf8_quoted_append_iff (k := k) (r := [])

/-! ## The text of a value -/

theorem Derives.head (hv : Derives .value v) :
    ∃ x v', v = x :: v' ∧ isBlank x = false ∧ x ≠ Ascii.closeBracket :=
  hv.takes.1

theorem skipBlank_value (hv : Derives .value v) : skipBlank (v ++ r) = v ++ r := by
  obtain ⟨x, v', rfl, hx, -⟩ := hv.head
  exact skipBlank_of_not hx

theorem content_unique {s' r' : List UInt8} (hs : Content s) (hs' : Content s')
    (h : s ++ Ascii.quote :: r = s' ++ Ascii.quote :: r') : s = s' ∧ r = r' := by
  have hr : r = r' := by
    have := skipString_complete (r := r) hs
    rw [h, skipString_complete hs'] at this
    cases this
    rfl
  subst hr
  exact ⟨List.append_cancel_right h, rfl⟩

/-- A value that starts with a quote is a string. -/
theorem Derives.quoted_of_quote (h : Derives .value (Ascii.quote :: r)) :
    ∃ s, r = s ++ [Ascii.quote] ∧ Content s := by
  generalize hv : Ascii.quote :: r = v at h
  generalize hp : Phrase.value = p at h
  cases h with
  | word hs =>
    subst hv
    have hne : ∀ w ∈ words, w.head? ≠ some Ascii.quote := by decide
    cases hne _ hs rfl
  | number hn =>
    subst hv
    obtain ⟨_, _, hd, hstart⟩ := hn.head
    cases hd
    rcases hstart with hm | hd
    · cases hm
    · cases hd
  | string hs => cases hv; exact ⟨_, rfl, hs⟩
  | emptyList | list | emptyObject | object => cases hv
  | lastElement | element | lastMember | member => cases hp

theorem valueText_eq_ok_iff (hv : Derives .value v) : valueText v rest = .ok t ↔ HasText v t := by
  constructor
  · intro h
    unfold valueText refuse at h
    split at h
    · cases h
    · rename_i source hs
      rw [Text.ofUtf8?_eq_some_iff] at hs
      split at h
      · cases h
        exact hs ▸ .source (by simp [← hs])
      · split_ifs at h with hq
        · split at h <;> cases h
          rename_i hr
          obtain ⟨s', hr', hs'⟩ := readString_eq_ok_iff.1 hr
          subst hq
          obtain ⟨s, rfl, hc⟩ := hv.quoted_of_quote
          obtain ⟨rfl, -⟩ := content_unique hc hs'.content hr'
          exact .string hs'
        · cases h
          rw [hs]
          exact .source (by simp [← hs, hq])
  · intro h
    cases h with
    | @string s _ hs =>
      have hread : readString (s ++ [Ascii.quote]) = .ok (t, []) :=
        readString_eq_ok_iff.2 ⟨s, rfl, hs⟩
      obtain ⟨hutf, -⟩ := (exists_spells_iff hs.content).1 ⟨t, hs⟩
      obtain ⟨source, hsource⟩ := isUtf8_quoted_iff.2 hutf
      unfold valueText
      rw [Text.ofUtf8?_eq_some_iff.2 hsource]
      simp [quoted, hread]
    | source hq =>
      unfold valueText
      rw [Text.ofUtf8?_utf8]
      dsimp only
      split
      · rfl
      · rename_i hb
        rw [hb] at hq
        rw [if_neg (by simpa using hq)]

/-! ## Keys and members -/

theorem readKey_eq_ok_iff : readKey bytes = .ok (key, r) ↔
    ∃ k b, bytes = quoted k ++ (b ++ Ascii.colon :: r) ∧ Spells k key ∧ Blanks b := by
  constructor
  · intro h
    cases bytes with
    | nil => cases h
    | cons x bytes =>
      simp only [readKey, refuse] at h
      split_ifs at h with hq
      split at h
      · cases h
      · rename_i hr
        obtain ⟨k, rfl, hk⟩ := readString_eq_ok_iff.1 hr
        split at h
        · cases h
        · rename_i hblank
          obtain ⟨b, rfl, hb⟩ := skipBlank_sound hblank
          split_ifs at h with hcolon
          cases h
          subst hq hcolon
          exact ⟨k, b, by simp [quoted], hk, hb⟩
  · rintro ⟨k, b, rfl, hk, hb⟩
    have hread : readString (k ++ Ascii.quote :: (b ++ Ascii.colon :: r)) = _ :=
      readString_eq_ok_iff.2 ⟨k, rfl, hk⟩
    have hc : skipBlank (b ++ Ascii.colon :: r) = _ := skipBlank_eq hb rfl
    simp [quoted, readKey, hread, hc]

theorem skipBlank_append_value (ha : Blanks a) (hv : Derives .value v) :
    skipBlank (a ++ (v ++ r)) = v ++ r := by
  rw [skipBlank_append ha, skipBlank_value hv]

theorem skipValue_skipBlank_sound (h : skipValue (skipBlank r) = .ok rest) :
    ∃ c v, r = c ++ (v ++ rest) ∧ Blanks c ∧ Derives .value v := by
  obtain ⟨a, v, hstart, ha, hv⟩ := skipValue_sound h
  obtain ⟨c, rfl, hc⟩ := skipBlank_sound hstart
  exact ⟨c ++ a, v, by simp, hc.append ha, hv⟩

theorem readMember_sound (h : readMember bytes = .ok (m, rest)) :
    ∃ k b c v, bytes = quoted k ++ (b ++ Ascii.colon :: (c ++ (v ++ rest))) ∧ Blanks b ∧
      Blanks c ∧ Derives .value v ∧ Spelling.Means ⟨k, v⟩ m := by
  unfold readMember at h
  split at h
  · cases h
  · rename_i hkey
    obtain ⟨k, b, rfl, hk, hb⟩ := readKey_eq_ok_iff.1 hkey
    dsimp only at h
    split at h
    · cases h
    · rename_i hskip
      obtain ⟨c, v, rfl, hc, hv⟩ := skipValue_skipBlank_sound hskip
      rw [skipBlank_append_value hc hv] at h
      split at h <;> cases h
      rename_i ht
      rw [List.length_append, Nat.add_sub_cancel, List.take_left, valueText_eq_ok_iff hv] at ht
      exact ⟨k, b, c, v, rfl, hb, hc, hv, hk, ht⟩

/-- A member whose form is right is what the text of its value makes of it. -/
theorem readMember_eq (hk : Spells k key) (hb : Blanks b) (hc : Blanks c)
    (hv : Derives .value v) (hr : EndsNumber rest) :
    readMember (quoted k ++ (b ++ Ascii.colon :: (c ++ (v ++ rest)))) =
      (valueText v rest).map fun text => (⟨key, text⟩, rest) := by
  have hkey : readKey (quoted k ++ (b ++ Ascii.colon :: (c ++ (v ++ rest)))) = _ :=
    readKey_eq_ok_iff.2 ⟨k, b, rfl, hk, hb⟩
  have hstart : skipBlank (c ++ (v ++ rest)) = v ++ rest := skipBlank_append_value hc hv
  have hskip : skipValue (v ++ rest) = .ok rest := skipValue_append blanks_nil hv hr
  cases htext : valueText v rest <;> simp [readMember, hkey, hstart, hskip, htext, Except.map]

theorem readMember_complete {c : List UInt8} (hb : Blanks b) (hc : Blanks c)
    (hv : Derives .value v) (hm : Spelling.Means ⟨k, v⟩ m) (hr : EndsNumber rest) :
    readMember (quoted k ++ (b ++ Ascii.colon :: (c ++ (v ++ rest)))) = .ok (m, rest) := by
  rw [readMember_eq hm.1 hb hc hv hr, (valueText_eq_ok_iff hv).2 hm.2]
  rfl

theorem Derives.blanks_append (h : Derives (.members ms) s) (ha : Blanks a) :
    Derives (.members ms) (a ++ s) := by
  revert ha
  refine h.members_rec ?_ ?_
  · intro _ _ _ _ _ _ ha' hk hb hc hv hd ha
    simpa using Derives.lastMember (ha.append ha') hk hb hc hv hd
  · intro _ _ _ _ _ _ _ _ ha' hk hb hc hv hd hs _ ha
    simpa using Derives.member (ha.append ha') hk hb hc hv hd hs

theorem readMembers_sound {done : List Member} (h : readMembers done bytes = .ok (members, r)) :
    ∃ ms xs s, bytes = s ++ Ascii.closeBrace :: r ∧ Derives (.members ms) s ∧
      members = done.reverse ++ xs ∧ List.Forall₂ Spelling.Means ms xs := by
  fun_induction readMembers done bytes with
  | case1 | case2 | case5 => cases h
  | case3 _ _ _ _ hread _ hb =>
    cases h
    obtain ⟨k, b, c, v, rfl, hb', hc, hv, hm⟩ := readMember_sound hread
    obtain ⟨d, rfl, hd⟩ := skipBlank_sound hb
    have hms := Derives.lastMember blanks_nil hm.1.content hb' hc hv hd
    exact ⟨_, _, _, by simp, hms, by simp, .cons hm .nil⟩
  | case4 _ _ _ _ hread _ hb _ ih =>
    obtain ⟨ms, xs, s, hs, hms, rfl, hxs⟩ := ih h
    obtain ⟨k, b, c, v, rfl, hb', hc, hv, hm⟩ := readMember_sound hread
    obtain ⟨d, rfl, hd⟩ := skipBlank_sound hb
    obtain ⟨a, rfl, ha⟩ := skipBlank_sound hs
    have hms' := Derives.member blanks_nil hm.1.content hb' hc hv hd (hms.blanks_append ha)
    exact ⟨_, _, _, by simp, hms', by simp, .cons hm hxs⟩

/-- What follows a member decides how its reading goes on. -/
theorem readMembers_step {done : List Member} {x : UInt8} (h : readMember bytes = .ok (m, rest))
    (hb : skipBlank rest = x :: r) : readMembers done bytes =
      if x = Ascii.closeBrace then .ok ((m :: done).reverse, r)
      else if x = Ascii.comma then readMembers (m :: done) (skipBlank r)
      else refuse .noObjectSeparator r := by
  conv => lhs; rw [readMembers]
  split
  · rename_i h'
    cases h.symm.trans h'
  · rename_i h'
    cases h.symm.trans h'
    split
    · rename_i hb'
      cases hb.symm.trans hb'
    · rename_i hb'
      cases hb.symm.trans hb'
      rfl

theorem skipBlank_quoted (ha : Blanks a) : skipBlank (a ++ (quoted k ++ r)) = quoted k ++ r :=
  skipBlank_eq ha rfl

theorem readMembers_complete (h : Derives (.members ms) s) (members done : List Member)
    (hm : List.Forall₂ Spelling.Means ms members) :
    readMembers done (skipBlank (s ++ Ascii.closeBrace :: r)) =
      .ok (done.reverse ++ members, r) := by
  revert members done
  refine h.members_rec ?_ ?_
  · rintro a k b c v d ha - hb hc hv hd _ done (_ | ⟨hm, ⟨⟩⟩)
    have hread := readMember_complete hb hc hv hm
      (endsNumber_of_blanks (x := Ascii.closeBrace) (r := r) hd (by decide))
    simp only [List.append_assoc, List.cons_append]
    rw [skipBlank_quoted ha, readMembers_step hread (skipBlank_eq hd rfl), if_pos rfl]
    simp
  · rintro a k b c v d s ms ha - hb hc hv hd - ih _ done (_ | ⟨hm, hms⟩)
    have hread := readMember_complete hb hc hv hm
      (endsNumber_of_blanks (r := s ++ Ascii.closeBrace :: r) hd List.mem_cons_self)
    simp only [List.append_assoc, List.cons_append]
    rw [skipBlank_quoted ha, readMembers_step hread (skipBlank_eq hd rfl), if_neg (by decide),
      if_pos rfl, ih _ _ hms]
    simp

/-! ## Objects and documents -/

theorem readObject_sound (h : readObject bytes = .ok (members, r)) :
    ∃ ms s, bytes = s ++ Ascii.closeBrace :: r ∧ (Blanks s ∧ ms = [] ∨ Derives (.members ms) s) ∧
      List.Forall₂ Spelling.Means ms members := by
  unfold readObject refuse at h
  split at h
  · cases h
  · rename_i hblank
    obtain ⟨a, rfl, ha⟩ := skipBlank_sound hblank
    split_ifs at h with hx
    · cases h
      exact ⟨[], a, by rw [hx], .inl ⟨ha, rfl⟩, .nil⟩
    · obtain ⟨ms, xs, s, hs, hms, rfl, hxs⟩ := readMembers_sound h
      exact ⟨ms, a ++ s, by rw [hs, List.append_assoc], .inr (hms.blanks_append ha), hxs⟩

theorem readObject_complete (h : Blanks s ∧ ms = [] ∨ Derives (.members ms) s)
    (hm : List.Forall₂ Spelling.Means ms members) :
    readObject (s ++ Ascii.closeBrace :: r) = .ok (members, r) := by
  unfold readObject
  rcases h with ⟨hs, rfl⟩ | h
  · cases hm
    rw [skipBlank_eq hs rfl]
    rfl
  · obtain ⟨⟨a, x, s', hs, ha, hx, hne⟩, -⟩ := h.takes
    have hskip : skipBlank (s ++ Ascii.closeBrace :: r) = x :: (s' ++ Ascii.closeBrace :: r) := by
      rw [hs, List.append_assoc]
      exact skipBlank_eq ha hx
    have hread := readMembers_complete (r := r) h members [] hm
    rw [hskip] at hread ⊢
    exact (if_neg hne).trans hread

/-- A document is read exactly when the grammar derives it and its keys and values have texts. -/
theorem readDocument_eq_ok_iff : readDocument bytes = .ok members ↔
    ∃ ms, Document bytes ms ∧ List.Forall₂ Spelling.Means ms members := by
  constructor
  · intro h
    unfold readDocument refuse at h
    split at h
    · cases h
    · rename_i hblank
      obtain ⟨a, rfl, ha⟩ := skipBlank_sound hblank
      split_ifs at h with hx
      · split at h
        · cases h
        · rename_i hr
          obtain ⟨ms, s, rfl, hs, hm⟩ := readObject_sound hr
          split at h <;> cases h
          rename_i hend
          obtain ⟨b, rfl, hb⟩ := skipBlank_sound hend
          exact ⟨ms, ⟨a, s, b, ha, hb, by simp [hx], hs⟩, hm⟩
      · split at h <;> cases h
  · rintro ⟨ms, ⟨a, s, b, ha, hb, rfl, hs⟩, hm⟩
    have hopen : skipBlank (a ++ Ascii.openBrace :: (s ++ Ascii.closeBrace :: b)) = _ :=
      skipBlank_eq ha rfl
    have hend : skipBlank b = [] := by
      have := skipBlank_append (r := []) hb
      rwa [List.append_nil] at this
    simp [readDocument, hopen, readObject_complete hs hm, hend]

end JournalSink.Json
