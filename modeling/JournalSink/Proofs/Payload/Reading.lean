import JournalSink.Proofs.Entry.Size
import JournalSink.Proofs.Payload.RoundTrip
import JournalSink.Proofs.Wire.RoundTrip

/-! # Records on the wire

A record goes through its payload, its entry and the wire form, and is read back
field by field. Its texts may hold anything; only the keys of its pairs become
names, so only they have to be plain.
-/

namespace JournalSink

open Text (utf8)

namespace Wire

variable {e : Entry} {raw : List UInt8}

/-- Plain keys are enough: no text of an entry is too long for its frame. -/
theorem read?_of_decode (hd : Entry.decode raw = .ok e) (hr : raw.length < UInt64.size)
    (hk : ∀ f ∈ e.fields, '=' ∉ f.1.toList ∧ '\n' ∉ f.1.toList) :
    read? (putEntry [] e raw) =
      some ((fields e raw).map fun (name, value) => (utf8 name, value)) := by
  obtain ⟨hm, hf⟩ := Entry.length_le_of_decode hd
  rw [putEntry_eq, List.nil_append]
  apply read?_flatMap_field
  apply forall_mem_fields
  · exact Nat.lt_of_le_of_lt hm hr
  · exact fun f hmem => Nat.lt_of_le_of_lt (hf f hmem) hr
  · exact hr
  · exact fun f hmem => isName_fieldName_iff.2 (hk f hmem)

end Wire

namespace Payload

variable {r : LogRecord}

/-- The payload of a record whose time can be written. -/
def bytes (r : LogRecord) : List UInt8 :=
  utf8 (source (members r r.timestamp.text))

/-- The entry of a record, as its payload gives it. -/
def entry (r : LogRecord) : Entry where
  level := some r.level
  message := r.message
  fields := fields r

theorem ofRecord?_eq (r : LogRecord) :
    ofRecord? r = if r.timestamp.isWritable then some (bytes r) else none := by
  unfold ofRecord? Timestamp.text?
  split_ifs <;> rfl

theorem decode_bytes (r : LogRecord) : Entry.decode (bytes r) = .ok (entry r) := by
  rw [Entry.decode_eq_ok_iff]
  exact ⟨_, readDocument_source _, ofMembers_members r⟩

theorem bytes_ends (r : LogRecord) : ∃ line, bytes r = line ++ [Ascii.newline] :=
  ⟨_, utf8_source _⟩

theorem plain_fields (h : ∀ p ∈ r.pairs, '=' ∉ p.1.toList ∧ '\n' ∉ p.1.toList) :
    ∀ f ∈ fields r, '=' ∉ f.1.toList ∧ '\n' ∉ f.1.toList := by
  have hown : ∀ key ∈ ["time", "logger", "code_module", "code_file", "code_line"],
      '=' ∉ key.toList ∧ '\n' ∉ key.toList := by
    decide
  simp only [List.forall_mem_cons, List.not_mem_nil, false_implies, implies_true, and_true] at hown
  obtain ⟨htime, hlogger, hmodule, hfile, hline⟩ := hown
  simp only [fields, List.forall_mem_append, List.forall_mem_cons, List.forall_mem_map]
  refine ⟨⟨⟨⟨htime, hlogger, List.forall_mem_nil _⟩, ?_⟩, ?_⟩, ?_⟩
  · split_ifs
    · exact List.forall_mem_nil _
    · exact List.forall_mem_singleton.2 hmodule
  · split_ifs
    · exact List.forall_mem_nil _
    · exact List.forall_mem_cons.2 ⟨hfile, List.forall_mem_singleton.2 hline⟩
  · intro p hp
    obtain ⟨he, hn⟩ := h p hp
    split_ifs
    · simp [he, hn]
    · exact ⟨he, hn⟩

/-- What is read from the wire form of a record with plain keys. -/
theorem read?_entry (hr : (bytes r).length < UInt64.size)
    (hk : ∀ p ∈ r.pairs, '=' ∉ p.1.toList ∧ '\n' ∉ p.1.toList) :
    Wire.read? (Wire.putEntry [] (entry r) (bytes r)) =
      some ((utf8 "PRIORITY", [Priority.levelDigit (some r.level)]) ::
        (utf8 "MESSAGE", utf8 r.message) ::
        (fields r).map (fun (key, value) => (utf8 (Wire.fieldName key), utf8 value)) ++
        [(utf8 "JSON", bytes r)]) := by
  rw [Wire.read?_of_decode (decode_bytes r) hr (plain_fields hk)]
  simp [Wire.fields, entry, Function.comp_def, Priority.digit_ofLevel]

end Payload

end JournalSink
