import JournalSink.Proofs.Entry.Decoding

/-! # The size of entries

No escape is shorter than what it stands for. So no text of an entry takes more
bytes than the record it was decoded from.
-/

namespace JournalSink

open Json (Member)
open Text (utf8)

namespace Json

variable {bytes s t v : List UInt8} {text : String} {m : Spelling} {ms : List Spelling}
  {members : List Member}

theorem length_encodeChar_le (c : Char) : (String.utf8EncodeChar c).length ≤ 4 := by
  rw [String.length_utf8EncodeChar]
  exact c.utf8Size_le_four

theorem Unescapes.length_le (h : Unescapes s t) : t.length ≤ s.length := by
  induction h with
  | nil => exact Nat.le_refl _
  | plain _ _ ih => exact Nat.succ_le_succ ih
  | short _ _ ih => exact Nat.succ_le_succ (Nat.le_succ_of_le ih)
  | @code _ _ _ _ n _ _ _ _ _ ih =>
    have := length_encodeChar_le (Char.ofNat n)
    simp only [List.length_append, List.length_cons]
    omega
  | pair _ _ _ _ _ ih =>
    rw [List.length_append]
    refine Nat.le_trans (Nat.add_le_add (length_encodeChar_le _) ih) ?_
    simp only [List.length_cons]
    omega

theorem HasText.length_le (h : HasText v text) : (utf8 text).length ≤ v.length := by
  cases h with
  | string hs =>
    have := hs.length_le
    simp only [quoted, List.length_append, List.length_cons]
    omega
  | source => exact Nat.le_refl _

theorem Derives.value_length_le (h : Derives (.members ms) s) :
    ∀ m ∈ ms, m.value.length ≤ s.length := by
  refine h.members_rec ?_ ?_
  · intro a k b c v d _ _ _ _ _ _
    rw [List.forall_mem_singleton]
    simp only [List.length_append, List.length_cons]
    omega
  · intro a k b c v d s ms _ _ _ _ _ _ _ ih
    rw [List.forall_mem_cons]
    simp only [List.length_append, List.length_cons]
    refine ⟨by omega, fun m hm => ?_⟩
    have := ih m hm
    omega

theorem Document.value_length_le (h : Document bytes ms) :
    ∀ m ∈ ms, m.value.length ≤ bytes.length := by
  obtain ⟨a, body, b, -, -, rfl, ⟨-, rfl⟩ | hbody⟩ := h
  · exact nofun
  · intro m hm
    have := hbody.value_length_le m hm
    simp only [List.length_append, List.length_cons]
    omega

theorem text_length_le (h : readDocument bytes = .ok members) :
    ∀ x ∈ members, (utf8 x.text).length ≤ bytes.length := by
  obtain ⟨ms, hdoc, hmeans⟩ := readDocument_eq_ok_iff.1 h
  intro x hx
  obtain ⟨i, hi, rfl⟩ := List.getElem_of_mem hx
  have hi' : i < ms.length := hmeans.length_eq ▸ hi
  exact Nat.le_trans (hmeans.get hi' hi).2.length_le (hdoc.value_length_le _ (List.getElem_mem hi'))

end Json

namespace Entry

variable {raw : List UInt8} {e : Entry} {keys : List String} {members : List Member}
  {text : String}

theorem exists_of_lastText? (h : lastText? keys members = some text) :
    ∃ m ∈ members, m.text = text := by
  obtain ⟨m, hm, rfl⟩ := Option.map_eq_some_iff.1 h
  exact ⟨m, List.mem_of_mem_filter (List.mem_of_getLast? hm), rfl⟩

/-- The texts of an entry are no longer than the record. -/
theorem length_le_of_decode (h : decode raw = .ok e) :
    (utf8 e.message).length ≤ raw.length ∧ ∀ f ∈ e.fields, (utf8 f.2).length ≤ raw.length := by
  obtain ⟨members, hread, rfl⟩ := decode_eq_ok_iff.1 h
  have htext := Json.text_length_le hread
  rw [ofMembers_eq]
  constructor
  · dsimp only
    cases hm : lastText? ["message", "msg"] members with
    | none => exact Nat.zero_le _
    | some text =>
      obtain ⟨m, hmem, rfl⟩ := exists_of_lastText? hm
      exact htext m hmem
  · dsimp only
    rw [List.forall_mem_map]
    exact fun m hm => htext m (List.mem_of_mem_filter hm)

end Entry

end JournalSink
