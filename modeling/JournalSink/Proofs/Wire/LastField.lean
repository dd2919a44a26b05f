import JournalSink.Proofs.Json.Lines
import JournalSink.Proofs.Payload.RoundTrip
import JournalSink.Wire.Encode
import JournalSink.Wire.Read

/-! # The last field

Keys are written as they are, so the fields in front can look like anything. The
raw record is found from the end instead: behind the last newline if it holds
none itself, else behind its length, which the two forms of a field and the
lengths below 2 ^ 32 allow in one place only.
-/

namespace JournalSink.Wire

variable {a s t raw raw' before before' : List UInt8} {n n' : Nat}

/-! ## The end of an entry -/

theorem flatMap_field_ends (fs : List (String × List UInt8)) (h : fs ≠ []) :
    ∃ bytes, (fs.flatMap fun (name, value) => field name value) = bytes ++ [Ascii.newline] := by
  obtain rfl | ⟨init, ⟨name, value⟩, rfl⟩ := fs.eq_nil_or_concat
  · cases h rfl
  · rw [List.concat_eq_append, List.flatMap_append, List.flatMap_singleton]
    dsimp only
    rw [field, ← List.append_assoc]
    exact ⟨_, rfl⟩

/-- Whatever an entry holds, its last field starts on a line of its own. -/
theorem putEntry_ends (buffer : List UInt8) (e : Entry) (raw : List UInt8) :
    ∃ before, putEntry buffer e raw = before ++ Ascii.newline :: field "JSON" raw := by
  obtain ⟨fs, hne, hfs⟩ : ∃ fs, fs ≠ [] ∧ fields e raw = fs ++ [("JSON", raw)] :=
    ⟨_, List.cons_ne_nil _ _, rfl⟩
  obtain ⟨bytes, hbytes⟩ := flatMap_field_ends fs hne
  refine ⟨buffer ++ bytes, ?_⟩
  rw [putEntry_eq, hfs, List.flatMap_append, hbytes, List.flatMap_singleton]
  simp

/-- What stands before a framed record: its name, and its length. -/
def frame (n : Nat) : List UInt8 :=
  Ascii.newline :: Text.utf8 "JSON" ++ Ascii.newline :: littleEndian 8 n

theorem field_framed (h : Ascii.newline ∈ raw) :
    Ascii.newline :: field "JSON" raw = frame raw.length ++ raw ++ [Ascii.newline] := by
  simp [field, frame, h]

theorem field_plain (h : Ascii.newline ∉ raw) :
    Ascii.newline :: field "JSON" raw =
      Ascii.newline :: (Text.utf8 "JSON" ++ Ascii.equals :: raw) ++ [Ascii.newline] := by
  simp [field, h]

theorem utf8_json : Text.utf8 "JSON" = [0x4A, 0x53, 0x4F, 0x4E] := by
  decide

/-! ## Frames -/

/-- A number below 2 ^ 32 leaves four of its eight bytes zero. -/
theorem littleEndian_of_lt (h : n < UInt32.size) :
    ∃ a b c d, littleEndian 8 n = [a, b, c, d, 0, 0, 0, 0] := by
  have h' : n / 256 / 256 / 256 / 256 = 0 := by
    have : n < 4294967296 := h
    omega
  exact ⟨.ofNat n, .ofNat (n / 256), .ofNat (n / 256 / 256), .ofNat (n / 256 / 256 / 256),
    by simp only [littleEndian, h']; rfl⟩

/-- Two frames overlap wholly or not at all. -/
theorem frame_overlap (hn : n' < UInt32.size) (hp : s <+: frame n) (hs : s <:+ frame n') :
    s = [] ∨ s = frame n' := by
  obtain ⟨_, _, _, _, hzero⟩ := littleEndian_of_lt hn
  rw [frame, hzero, utf8_json] at hs ⊢
  rw [frame, utf8_json] at hp
  simp only [List.cons_append, List.nil_append, List.suffix_cons_iff, List.suffix_nil] at hs
  rcases hs with h | h | h | h | h | h | h | h | h | h | h | h | h | h | h
  · exact .inr h
  -- In every other place a letter of the name or a newline falls on a zero, or on another letter.
  iterate 13
    · subst h
      simp [Ascii.newline] at hp
  · exact .inl h

/-! ## The record behind it -/

/-- No line of the record could be the start of a last field. -/
def Headless (raw : List UInt8) : Prop :=
  ∀ a t, raw ≠ a ++ Ascii.newline :: (Text.utf8 "JSON" ++ t)

theorem headless_of_decode {e : Entry} (h : Entry.decode raw = .ok e) : Headless raw := by
  rintro a t rfl
  rw [utf8_json] at h
  cases (Entry.uncapitalized_of_decode h).behind_newline

theorem lastLine_unique (hs : Ascii.newline ∉ s) (ht : Ascii.newline ∉ t)
    (h : before ++ Ascii.newline :: s = before' ++ Ascii.newline :: t) : s = t := by
  have hcut (b l : List UInt8) (hl : Ascii.newline ∉ l) :
      cut? Ascii.newline (b ++ Ascii.newline :: l).reverse = some (l.reverse, b.reverse) := by
    simpa using cut?_append b.reverse (by simpa using hl : Ascii.newline ∉ l.reverse)
  have := (hcut before s hs).symm.trans (h ▸ hcut before' t ht)
  simpa using congrArg (Option.map Prod.fst) this

theorem exists_lastLine (h : Ascii.newline ∈ s) :
    ∃ a t, s = a ++ Ascii.newline :: t ∧ Ascii.newline ∉ t := by
  obtain ⟨t, a, hs, ht⟩ := List.eq_append_cons_of_mem (List.mem_reverse.2 h)
  refine ⟨a.reverse, t.reverse, ?_, by simpa using ht⟩
  simpa using congrArg List.reverse hs

theorem newline_not_mem_plain (h : Ascii.newline ∉ raw) :
    Ascii.newline ∉ Text.utf8 "JSON" ++ Ascii.equals :: raw := by
  have hname : Ascii.newline ∉ Text.utf8 "JSON" := by decide
  have hequals : Ascii.newline ≠ Ascii.equals := by decide
  simp [hname, hequals, h]

/-- A record without a newline is not taken for the end of another. -/
theorem plain_ne_framed (hr : Headless raw') (h : Ascii.newline ∉ raw)
    (h' : Ascii.newline ∈ raw') :
    before ++ Ascii.newline :: (Text.utf8 "JSON" ++ Ascii.equals :: raw) ≠
      before' ++ (frame n ++ raw') := by
  obtain ⟨a, t, rfl, ht⟩ := exists_lastLine h'
  intro heq
  rw [← List.append_assoc, ← List.append_assoc] at heq
  obtain rfl := lastLine_unique (newline_not_mem_plain h) ht heq
  exact hr a _ rfl

theorem length_frame (n : Nat) : (frame n).length = 14 := by
  simp [frame, utf8_json, littleEndian_length]

theorem Headless.ne_frame (hr : Headless raw) : raw ≠ a ++ (frame n ++ s) := by
  have := hr a (Ascii.newline :: littleEndian 8 n ++ s)
  simpa [frame] using this

theorem framed_unique_of_le (hr : Headless raw') (hn : raw'.length < UInt32.size)
    (hlen : raw.length ≤ raw'.length)
    (h : before ++ (frame raw.length ++ raw) = before' ++ (frame raw'.length ++ raw')) :
    raw = raw' := by
  rw [← List.append_assoc, ← List.append_assoc] at h
  have hsuffix : raw <:+ before' ++ frame raw'.length ++ raw' := h ▸ List.suffix_append ..
  obtain ⟨d, rfl⟩ := List.suffix_of_suffix_length_le hsuffix (List.suffix_append ..) hlen
  rw [← List.append_assoc, List.append_left_inj] at h
  -- The frame of `raw` either stands in `raw'`, or reaches over the frame of `raw'`.
  rcases List.append_eq_append_iff.1 h with ⟨s, hs, hframe⟩ | ⟨t, -, rfl⟩
  · have hle : s.length ≤ (frame (d ++ raw).length).length := by
      rw [length_frame, ← length_frame raw.length, hframe, List.length_append]
      exact Nat.le_add_right ..
    have hsuffix : s <:+ before' ++ frame (d ++ raw).length := hs ▸ List.suffix_append ..
    have hoverlap := List.suffix_of_suffix_length_le hsuffix (List.suffix_append ..) hle
    rcases frame_overlap hn ⟨d, hframe.symm⟩ hoverlap with rfl | rfl
    · cases hr.ne_frame (a := []) (n := raw.length) (s := raw) (by rw [hframe]; rfl)
    · have hd := congrArg List.length hframe
      rw [List.length_append, length_frame, length_frame, Nat.left_eq_add] at hd
      rw [List.eq_nil_of_length_eq_zero hd, List.nil_append]
  · cases hr.ne_frame (List.append_assoc ..)

theorem framed_unique (hr : Headless raw) (hr' : Headless raw') (hn : raw.length < UInt32.size)
    (hn' : raw'.length < UInt32.size)
    (h : before ++ (frame raw.length ++ raw) = before' ++ (frame raw'.length ++ raw')) :
    raw = raw' := by
  rcases Nat.le_total raw.length raw'.length with hlen | hlen
  · exact framed_unique_of_le hr' hn' hlen h
  · exact (framed_unique_of_le hr hn hlen h.symm).symm

theorem append_cancel_end {c : UInt8} (h : before ++ (s ++ [c]) = before' ++ (t ++ [c])) :
    before ++ s = before' ++ t := by
  rw [← List.append_assoc, ← List.append_assoc] at h
  exact List.append_cancel_right h

/-- The last field tells the record, whatever the fields in front of it are. -/
theorem lastField_unique (hr : Headless raw) (hr' : Headless raw') (hn : raw.length < UInt32.size)
    (hn' : raw'.length < UInt32.size)
    (h : before ++ Ascii.newline :: field "JSON" raw =
      before' ++ Ascii.newline :: field "JSON" raw') : raw = raw' := by
  by_cases hmem : Ascii.newline ∈ raw <;> by_cases hmem' : Ascii.newline ∈ raw'
  · rw [field_framed hmem, field_framed hmem'] at h
    exact framed_unique hr hr' hn hn' (append_cancel_end h)
  · rw [field_framed hmem, field_plain hmem'] at h
    cases plain_ne_framed hr hmem' hmem (append_cancel_end h.symm)
  · rw [field_plain hmem, field_framed hmem'] at h
    cases plain_ne_framed hr' hmem hmem' (append_cancel_end h)
  · rw [field_plain hmem, field_plain hmem'] at h
    have := lastLine_unique (newline_not_mem_plain hmem) (newline_not_mem_plain hmem')
      (append_cancel_end h)
    simpa using this

/-- No two different records share a wire form. -/
theorem putEntry_eq_iff (buffer : List UInt8) {e e' : Entry} (h : Entry.decode raw = .ok e)
    (h' : Entry.decode raw' = .ok e') (hn : raw.length < UInt32.size)
    (hn' : raw'.length < UInt32.size) :
    putEntry buffer e raw = putEntry buffer e' raw' ↔ raw = raw' := by
  constructor
  · intro heq
    obtain ⟨before, hb⟩ := putEntry_ends buffer e raw
    obtain ⟨before', hb'⟩ := putEntry_ends buffer e' raw'
    rw [hb, hb'] at heq
    exact lastField_unique (headless_of_decode h) (headless_of_decode h') hn hn' heq
  · rintro rfl
    cases h.symm.trans h'
    rfl

/-- Two records whose fields in front both look like a last field. -/
theorem putEntry_ne_of_imitation :
    let raw := Text.utf8 (Payload.source [("a\nJSON=b", .string "c")])
    let raw' := Text.utf8 (Payload.source [("a", .string "\nJSON=b=c")])
    let e : Entry := { fields := [("a\nJSON=b", "c")] }
    let e' : Entry := { fields := [("a", "\nJSON=b=c")] }
    Entry.decode raw = .ok e ∧ Entry.decode raw' = .ok e' ∧ raw.length < UInt32.size ∧
      raw'.length < UInt32.size ∧ putEntry [] e raw ≠ putEntry [] e' raw' := by
  intro raw raw' e e'
  have h : Entry.decode raw = .ok e :=
    Entry.decode_eq_ok_iff.2 ⟨_, Payload.readDocument_source _, rfl⟩
  have h' : Entry.decode raw' = .ok e' :=
    Entry.decode_eq_ok_iff.2 ⟨_, Payload.readDocument_source _, rfl⟩
  have hn : raw.length < UInt32.size := by decide
  have hn' : raw'.length < UInt32.size := by decide
  have hne : raw ≠ raw' := by decide
  exact ⟨h, h', hn, hn', (putEntry_eq_iff [] h h' hn hn').not.2 hne⟩

end JournalSink.Wire
