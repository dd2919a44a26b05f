import JournalSink.Proofs.Text.Uppercase
import JournalSink.Wire.Encode
import JournalSink.Wire.Read

/-! # Reading what was written

A field whose name holds no separator is read back as it was written, whatever
its value is, and whatever follows it. No other name is ever read, so an entry
is read back field by field exactly when its keys hold no separator.
-/

namespace JournalSink.Wire

open Text

/-- A name that the reader can give: no byte in it ends the name. -/
def IsName (name : List UInt8) : Prop :=
  Ascii.equals ∉ name ∧ Ascii.newline ∉ name

theorem cut?_eq_some {b : UInt8} {bytes before after : List UInt8}
    (h : cut? b bytes = some (before, after)) : b ∉ before ∧ bytes = before ++ b :: after := by
  induction bytes generalizing before with
  | nil => cases h
  | cons x r ih =>
    unfold cut? at h
    split at h
    · rename_i hx
      cases h
      exact ⟨List.not_mem_nil, by rw [hx]; rfl⟩
    · rename_i hx
      obtain ⟨⟨p, q⟩, hpq, he⟩ := Option.map_eq_some_iff.1 h
      cases he
      obtain ⟨hn, rfl⟩ := ih hpq
      exact ⟨by simp [Ne.symm hx, hn], rfl⟩

theorem readFramed?_append {value rest : List UInt8} (h : value.length < UInt64.size) :
    readFramed? (littleEndian 8 value.length ++ (value ++ Ascii.newline :: rest)) =
      some (value, rest) := by
  have hl := littleEndian_length 8 value.length
  have hn : ofLittleEndian (littleEndian 8 value.length) = value.length :=
    ofLittleEndian_littleEndian h
  unfold readFramed?
  rw [List.take_left' hl, List.drop_left' hl, hn]
  simp [hl]

theorem readField?_field {name : String} {value rest : List UInt8} (hn : IsName (utf8 name))
    (h : value.length < UInt64.size) :
    readField? (field name value ++ rest) = some ((utf8 name, value), rest) := by
  unfold readField? field
  split_ifs with hv
  · have hc := cut?_append (littleEndian 8 value.length ++ (value ++ Ascii.newline :: rest)) hn.2
    have he := cut?_eq_none_iff.2 hn.1
    simp [hc, he, readFramed?_append h]
  · have hl : Ascii.newline ∉ utf8 name ++ Ascii.equals :: value := by
      simp [hn.2, hv, Ascii.newline, Ascii.equals]
    have hc := cut?_append rest hl
    have he := cut?_append value hn.1
    simp only [List.append_assoc, List.cons_append] at hc
    simp [hc, he]

theorem readField?_name {bytes rest : List UInt8} {f : List UInt8 × List UInt8}
    (h : readField? bytes = some (f, rest)) : IsName f.1 := by
  unfold readField? at h
  split at h
  · cases h
  · rename_i line _ hc
    obtain ⟨hl, -⟩ := cut?_eq_some hc
    split at h
    · rename_i hf
      cases h
      obtain ⟨he, rfl⟩ := cut?_eq_some hf
      exact ⟨he, fun hm => hl (List.mem_append_left _ hm)⟩
    · rename_i hf
      split at h <;> cases h
      exact ⟨cut?_eq_none_iff.1 hf, hl⟩

theorem read?_of_readField? {bytes rest : List UInt8} {f : List UInt8 × List UInt8}
    (h : readField? bytes = some (f, rest)) : read? bytes = (read? rest).map (f :: ·) := by
  cases bytes with
  | nil => cases h
  | cons b r =>
    rw [read?]
    split
    · rename_i h'
      rw [h] at h'
      cases h'
    · rename_i h'
      rw [h] at h'
      cases h'
      rfl

/-- Fields are read back in order. -/
theorem read?_flatMap_field {fs : List (String × List UInt8)}
    (h : ∀ f ∈ fs, IsName (utf8 f.1) ∧ f.2.length < UInt64.size) :
    read? (fs.flatMap fun (name, value) => field name value) =
      some (fs.map fun (name, value) => (utf8 name, value)) := by
  induction fs with
  | nil => simp [read?]
  | cons f fs ih =>
    obtain ⟨⟨hn, hv⟩, hfs⟩ := List.forall_mem_cons.1 h
    rw [List.flatMap_cons, read?_of_readField? (readField?_field hn hv), ih hfs]
    rfl

theorem isName_of_read? {bytes : List UInt8} {fs : List (List UInt8 × List UInt8)}
    (h : read? bytes = some fs) : ∀ f ∈ fs, IsName f.1 := by
  fun_induction read? bytes generalizing fs with
  | case1 => cases h; simp
  | case2 => cases h
  | case3 b r f rest hf ih =>
    obtain ⟨fs, hfs, rfl⟩ := Option.map_eq_some_iff.1 h
    exact List.forall_mem_cons.2 ⟨readField?_name hf, ih hfs⟩

theorem isName_utf8_iff {s : String} : IsName (utf8 s) ↔ '=' ∉ s.toList ∧ '\n' ∉ s.toList := by
  rw [IsName, mem_utf8_iff (by decide), mem_utf8_iff (by decide)]
  rfl

theorem isName_fieldName_iff {key : String} :
    IsName (utf8 (fieldName key)) ↔ '=' ∉ key.toList ∧ '\n' ∉ key.toList := by
  rw [isName_utf8_iff, fieldName, mem_uppercase_iff (.inl rfl), mem_uppercase_iff (.inr rfl)]

theorem isName_own :
    IsName (utf8 "PRIORITY") ∧ IsName (utf8 "MESSAGE") ∧ IsName (utf8 "JSON") := by
  simp only [isName_utf8_iff]
  decide

theorem forall_mem_fields_iff {e : Entry} {raw : List UInt8} {P : String × List UInt8 → Prop} :
    (∀ f ∈ fields e raw, P f) ↔ P ("PRIORITY", [(Priority.ofLevel e.level).digit]) ∧
      P ("MESSAGE", utf8 e.message) ∧ (∀ f ∈ e.fields, P (fieldName f.1, utf8 f.2)) ∧
      P ("JSON", raw) := by
  simp only [fields, List.cons_append, List.forall_mem_cons, List.forall_mem_append,
    List.forall_mem_map, List.not_mem_nil, false_implies, implies_true, and_true]

/-- The names of an entry's own fields are plain, so only its keys decide. -/
theorem forall_mem_fields {e : Entry} {raw : List UInt8}
    (hm : (utf8 e.message).length < UInt64.size)
    (hf : ∀ f ∈ e.fields, (utf8 f.2).length < UInt64.size) (hr : raw.length < UInt64.size)
    (hk : ∀ f ∈ e.fields, IsName (utf8 (fieldName f.1))) :
    ∀ f ∈ fields e raw, IsName (utf8 f.1) ∧ f.2.length < UInt64.size := by
  obtain ⟨hp, hm', hj⟩ := isName_own
  have h1 : 1 < UInt64.size := by decide
  exact forall_mem_fields_iff.2
    ⟨⟨hp, h1⟩, ⟨hm', hm⟩, fun f h => ⟨hk f h, hf f h⟩, hj, hr⟩

/-- The reader gives the entry back, with its keys in capitals, exactly when no key could be taken
for more than a name. What the buffer held before stays in front, and nothing depends on it. -/
theorem read?_putEntry_iff (buffer : List UInt8) (e : Entry) (raw : List UInt8)
    (hm : (utf8 e.message).length < UInt64.size)
    (hf : ∀ f ∈ e.fields, (utf8 f.2).length < UInt64.size) (hr : raw.length < UInt64.size) :
    putEntry buffer e raw = buffer ++ putEntry [] e raw ∧
      (read? (putEntry [] e raw) = some (
          (utf8 "PRIORITY", [Priority.levelDigit e.level]) ::
          (utf8 "MESSAGE", utf8 e.message) ::
          e.fields.map (fun (key, value) => (utf8 (uppercase key), utf8 value)) ++
          [(utf8 "JSON", raw)]) ↔
        ∀ f ∈ e.fields, '=' ∉ f.1.toList ∧ '\n' ∉ f.1.toList) := by
  refine ⟨?_, ?_, ?_⟩
  · rw [putEntry_eq, putEntry_eq [], List.nil_append]
  · intro h f hmem
    rw [← isName_fieldName_iff]
    refine isName_of_read? h (utf8 (uppercase f.1), utf8 f.2) ?_
    simp only [List.cons_append, List.mem_cons, List.mem_append, List.mem_map]
    exact .inr (.inr (.inl ⟨f, hmem, rfl⟩))
  · intro h
    have hs := forall_mem_fields hm hf hr fun f hmem => isName_fieldName_iff.2 (h f hmem)
    have := read?_flatMap_field hs
    simpa [putEntry_eq, fields, fieldName, Function.comp_def, Priority.digit_ofLevel] using this

theorem read?_putEntry_framed :
    let e : Entry :=
      ⟨some .fatal, "first\nPRIORITY=0", [("straße", "a=b\n"), ("k", "1"), ("k", "2")]⟩
    (utf8 e.message).length < UInt64.size ∧ (∀ f ∈ e.fields, (utf8 f.2).length < UInt64.size) ∧
      [0x7B, 0x7D, 0x0A].length < UInt64.size ∧
      read? (putEntry [] e [0x7B, 0x7D, 0x0A]) = some [
        (utf8 "PRIORITY", [0x32]), (utf8 "MESSAGE", utf8 "first\nPRIORITY=0"),
        (utf8 "STRASSE", utf8 "a=b\n"), (utf8 "K", [0x31]), (utf8 "K", [0x32]),
        (utf8 "JSON", [0x7B, 0x7D, 0x0A])] := by
  intro e
  have hm : (utf8 e.message).length < UInt64.size := by decide
  have hf : ∀ f ∈ e.fields, (utf8 f.2).length < UInt64.size := by decide
  have hr : [(0x7B : UInt8), 0x7D, 0x0A].length < UInt64.size := by decide
  exact ⟨hm, hf, hr, (read?_putEntry_iff [0x21] e _ hm hf hr).2.2 (by decide)⟩

end JournalSink.Wire
