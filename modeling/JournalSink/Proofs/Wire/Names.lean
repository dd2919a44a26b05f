import JournalSink.Proofs.Entry.Size
import JournalSink.Proofs.Payload.RoundTrip
import JournalSink.Proofs.Wire.RoundTrip

/-! # Separators in names

Names are written as they are. An equals sign in one only moves the place where its
line is split, so the raw record is still read as the last field; behind a newline in
a name, or a framed value under a name with an equals sign, nothing need be read.
-/

namespace JournalSink.Wire

open Text (utf8 mem_utf8_iff mem_uppercase_iff)

variable {name key : String} {value rest raw : List UInt8} {e : Entry}

/-- What a field is read as: its name ends at the first equals sign. -/
def readAs (name : String) (value : List UInt8) : List UInt8 × List UInt8 :=
  match cut? Ascii.equals (utf8 name) with
  | none => (utf8 name, value)
  | some (before, after) => (before, after ++ Ascii.equals :: value)

/-- A field that is read back as one field. -/
def StaysWhole (name : String) (value : List UInt8) : Prop :=
  Ascii.newline ∉ utf8 name ∧ (Ascii.equals ∉ utf8 name ∨ Ascii.newline ∉ value)

theorem readAs_of_not_mem (h : Ascii.equals ∉ utf8 name) (value : List UInt8) :
    readAs name value = (utf8 name, value) := by
  rw [readAs, cut?_eq_none_iff.2 h]

theorem cut?_line (h : Ascii.equals ∈ utf8 name) (value : List UInt8) :
    cut? Ascii.equals (utf8 name ++ Ascii.equals :: value) = some (readAs name value) := by
  cases hc : cut? Ascii.equals (utf8 name) with
  | none => cases cut?_eq_none_iff.1 hc h
  | some cut =>
    obtain ⟨before, after⟩ := cut
    obtain ⟨hb, hname⟩ := cut?_eq_some hc
    rw [readAs, hc, hname, List.append_assoc, List.cons_append]
    exact cut?_append _ hb

theorem readField?_of_staysWhole (h : StaysWhole name value) (hv : value.length < UInt64.size) :
    readField? (field name value ++ rest) = some (readAs name value, rest) := by
  obtain ⟨hn, hsplit⟩ := h
  by_cases he : Ascii.equals ∈ utf8 name
  · have hvalue := hsplit.resolve_left (not_not_intro he)
    have hline : Ascii.newline ∉ utf8 name ++ Ascii.equals :: value := by
      simp [hn, hvalue, Ascii.newline, Ascii.equals]
    have hcut := cut?_append rest hline
    rw [List.append_assoc, List.cons_append] at hcut
    rw [field, if_neg hvalue, readField?]
    simp [hcut, cut?_line he value]
  · rw [readAs_of_not_mem he]
    exact readField?_field ⟨he, hn⟩ hv

/-- What is read is a line split at an equals sign, or starts with a line that is a name. -/
theorem readField?_cases {bytes : List UInt8} {f : List UInt8 × List UInt8}
    (h : readField? bytes = some (f, rest)) :
    Ascii.newline ∉ f.2 ∨ ∃ behind, bytes = f.1 ++ Ascii.newline :: behind := by
  unfold readField? at h
  split at h
  · cases h
  · rename_i line behind hc
    obtain ⟨hline, rfl⟩ := cut?_eq_some hc
    split at h
    · rename_i hf
      cases h
      obtain ⟨-, rfl⟩ := cut?_eq_some hf
      exact .inl fun hm => hline (by simp [hm])
    · split at h <;> cases h
      exact .inr ⟨behind, rfl⟩

/-- A field that is read as one field was written in one piece. -/
theorem staysWhole_of_readField? {after : List UInt8}
    (h : readField? (field name value ++ rest) = some (readAs name value, after)) :
    StaysWhole name value := by
  have hname := (readField?_name h).2
  cases hc : cut? Ascii.equals (utf8 name) with
  | none =>
    have he := cut?_eq_none_iff.1 hc
    rw [readAs_of_not_mem he] at hname
    exact ⟨hname, .inl he⟩
  | some cut =>
    obtain ⟨front, back⟩ := cut
    obtain ⟨-, hsplit⟩ := cut?_eq_some hc
    have hread : readAs name value = (front, back ++ Ascii.equals :: value) := by
      rw [readAs, hc]
    rw [hread] at h hname
    rcases readField?_cases h with hvalue | ⟨behind, hbytes⟩
    · simp only [List.mem_append, List.mem_cons, not_or] at hvalue
      obtain ⟨hback, hequals, hv⟩ := hvalue
      refine ⟨?_, .inr hv⟩
      rw [hsplit]
      simp [hname, hback, hequals]
    · rw [field, hsplit] at hbytes
      simp [Ascii.equals, Ascii.newline] at hbytes

theorem read?_eq_none {bytes : List UInt8} (hb : bytes ≠ []) (h : readField? bytes = none) :
    read? bytes = none := by
  cases bytes with
  | nil => cases hb rfl
  | cons b r =>
    rw [read?]
    split
    · rfl
    · rename_i h'
      cases h.symm.trans h'

theorem exists_readField? {bytes : List UInt8} {f : List UInt8 × List UInt8}
    {fs : List (List UInt8 × List UInt8)} (h : read? bytes = some (f :: fs)) :
    ∃ rest, readField? bytes = some (f, rest) ∧ read? rest = some fs := by
  have hb : bytes ≠ [] := by
    rintro rfl
    rw [read?] at h
    cases h
  cases hf : readField? bytes with
  | none => cases (read?_eq_none hb hf).symm.trans h
  | some read =>
    rw [read?_of_readField? hf] at h
    obtain ⟨_, hrest, he⟩ := Option.map_eq_some_iff.1 h
    cases he
    exact ⟨_, rfl, hrest⟩

/-- Fields are read back one by one, with their names split, exactly when all of them stay whole. -/
theorem read?_eq_readAs_iff {fs : List (String × List UInt8)}
    (hv : ∀ f ∈ fs, f.2.length < UInt64.size) :
    read? (fs.flatMap fun (name, value) => field name value) =
        some (fs.map fun (name, value) => readAs name value) ↔
      ∀ f ∈ fs, StaysWhole f.1 f.2 := by
  induction fs with
  | nil => simp [read?]
  | cons f fs ih =>
    obtain ⟨hf, hfs⟩ := List.forall_mem_cons.1 hv
    rw [List.flatMap_cons, List.map_cons, List.forall_mem_cons]
    constructor
    · intro h
      obtain ⟨rest, hfield, hrest⟩ := exists_readField? h
      have hwhole := staysWhole_of_readField? hfield
      rw [readField?_of_staysWhole hwhole hf] at hfield
      cases hfield
      exact ⟨hwhole, (ih hfs).1 hrest⟩
    · rintro ⟨hwhole, h⟩
      rw [read?_of_readField? (readField?_of_staysWhole hwhole hf), (ih hfs).2 h]
      rfl

theorem IsName.staysWhole (h : IsName (utf8 name)) (value : List UInt8) : StaysWhole name value :=
  ⟨h.2, .inl h.1⟩

theorem staysWhole_utf8_iff {text : String} : StaysWhole name (utf8 text) ↔
    '\n' ∉ name.toList ∧ ('=' ∉ name.toList ∨ '\n' ∉ text.toList) := by
  rw [StaysWhole, mem_utf8_iff (by decide), mem_utf8_iff (by decide), mem_utf8_iff (by decide)]
  rfl

theorem staysWhole_fieldName_iff {text : String} : StaysWhole (fieldName key) (utf8 text) ↔
    '\n' ∉ key.toList ∧ ('=' ∉ key.toList ∨ '\n' ∉ text.toList) := by
  rw [staysWhole_utf8_iff, fieldName, mem_uppercase_iff (.inl rfl), mem_uppercase_iff (.inr rfl)]

theorem length_lt_of_decode (hd : Entry.decode raw = .ok e) (hr : raw.length < UInt64.size) :
    ∀ f ∈ fields e raw, f.2.length < UInt64.size := by
  obtain ⟨hm, hf⟩ := Entry.length_le_of_decode hd
  have h1 : 1 < UInt64.size := by decide
  exact forall_mem_fields_iff.2
    ⟨h1, Nat.lt_of_le_of_lt hm hr, fun f hmem => Nat.lt_of_le_of_lt (hf f hmem) hr, hr⟩

/-- An accepted record is read back field by field exactly when no newline stands in a key, and none
in a text whose key holds an equals sign. The raw record is then the last field. -/
theorem read?_putEntry_split_iff (hd : Entry.decode raw = .ok e) (hr : raw.length < UInt64.size) :
    read? (putEntry [] e raw) = some (
        (utf8 "PRIORITY", [Priority.levelDigit e.level]) ::
        (utf8 "MESSAGE", utf8 e.message) ::
        e.fields.map (fun (key, text) => readAs (fieldName key) (utf8 text)) ++
        [(utf8 "JSON", raw)]) ↔
      ∀ f ∈ e.fields, '\n' ∉ f.1.toList ∧ ('=' ∉ f.1.toList ∨ '\n' ∉ f.2.toList) := by
  obtain ⟨hp, hm, hj⟩ := isName_own
  have hread := read?_eq_readAs_iff (length_lt_of_decode hd hr)
  simp only [forall_mem_fields_iff, staysWhole_fieldName_iff, hp.staysWhole, hm.staysWhole,
    hj.staysWhole, true_and, and_true] at hread
  rw [← hread]
  simp [putEntry_eq, fields, readAs_of_not_mem, hp.1, hm.1, hj.1, Function.comp_def,
    Priority.digit_ofLevel]

theorem read?_putEntry_split :
    let raw := utf8 (Payload.source [("a=b", .string "c"), ("k", .string "x\ny")])
    let e : Entry := { fields := [("a=b", "c"), ("k", "x\ny")] }
    Entry.decode raw = .ok e ∧ raw.length < UInt64.size ∧
      read? (putEntry [] e raw) = some [(utf8 "PRIORITY", [0x35]), (utf8 "MESSAGE", []),
        (utf8 "A", utf8 "B=c"), (utf8 "K", utf8 "x\ny"), (utf8 "JSON", raw)] := by
  intro raw e
  have hd : Entry.decode raw = .ok e :=
    Entry.decode_eq_ok_iff.2 ⟨_, Payload.readDocument_source _, rfl⟩
  have hr : raw.length < UInt64.size := by decide
  exact ⟨hd, hr, (read?_putEntry_split_iff hd hr).2 (by decide)⟩

/-- A newline in a key hides all that follows, the raw record included. -/
theorem read?_putEntry_newline_key :
    let raw := utf8 (Payload.source [("a\nb", .string "c")])
    let e : Entry := { fields := [("a\nb", "c")] }
    Entry.decode raw = .ok e ∧ raw.length < UInt64.size ∧ read? (putEntry [] e raw) = none := by
  intro raw e
  have hd : Entry.decode raw = .ok e :=
    Entry.decode_eq_ok_iff.2 ⟨_, Payload.readDocument_source _, rfl⟩
  have hr : raw.length < UInt64.size := by decide
  refine ⟨hd, hr, ?_⟩
  have hpriority : readField? (putEntry [] e raw) =
      some ((utf8 "PRIORITY", [0x35]), (putEntry [] e raw).drop 11) := by
    decide +kernel
  have hmessage : readField? ((putEntry [] e raw).drop 11) =
      some ((utf8 "MESSAGE", []), (putEntry [] e raw).drop 20) := by
    decide +kernel
  have hkey : readField? ((putEntry [] e raw).drop 20) = none := by
    decide +kernel
  have hne : (putEntry [] e raw).drop 20 ≠ [] := by
    decide +kernel
  rw [read?_of_readField? hpriority, read?_of_readField? hmessage]
  simp only [read?_eq_none hne hkey, Option.map_none]

end JournalSink.Wire
