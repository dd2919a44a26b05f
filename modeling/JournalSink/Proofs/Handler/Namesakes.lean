import JournalSink.Proofs.Handler.Parts
import JournalSink.Proofs.Payload.Reading
import JournalSink.Proofs.Writer.Submission

/-! # Namesakes of a record's own fields

A pair is written under its key in capitals, and only the exact spelling of a reserved
key is changed before. So a pair can share its name with the priority, the message or
the raw record. It stands between them: the first priority, the first message and the
last raw record are always the record's own.
-/

namespace JournalSink

open Text (utf8 uppercase)

namespace Wire

/-- The names of the fields that every entry has. -/
def ownNames : List String :=
  ["PRIORITY", "MESSAGE", "JSON"]

/-- The values of the fields of one name, in order. -/
def valuesOf (name : String) (fs : List (List UInt8 × List UInt8)) : List (List UInt8) :=
  (fs.filter (·.1 = utf8 name)).map (·.2)

theorem valuesOf_cons (name other : String) (value : List UInt8)
    (fs : List (List UInt8 × List UInt8)) :
    valuesOf name ((utf8 other, value) :: fs) =
      (if other = name then [value] else []) ++ valuesOf name fs := by
  split_ifs with h <;> simp [valuesOf, Text.utf8_inj, h]

theorem valuesOf_append (name : String) (fs gs : List (List UInt8 × List UInt8)) :
    valuesOf name (fs ++ gs) = valuesOf name fs ++ valuesOf name gs := by
  rw [valuesOf, List.filter_append, List.map_append, valuesOf, valuesOf]

theorem valuesOf_map (name : String) (fields : List (String × String)) :
    valuesOf name (fields.map fun (key, value) => (utf8 (fieldName key), utf8 value)) =
      (fields.filter (fieldName ·.1 = name)).map (utf8 ·.2) := by
  rw [valuesOf, List.filter_map, List.map_map]
  simp only [Function.comp_def, Text.utf8_inj]

end Wire

namespace Payload

open Wire (ownNames valuesOf fieldName)

variable {r : LogRecord} {name key : String}

/-- The values of the pairs that are written under one of the names of the record's own fields. -/
def namesakes (r : LogRecord) (name : String) : List (List UInt8) :=
  (r.pairs.filter fun p => p.1 ≠ "message" ∧ uppercase p.1 = name).map (utf8 ·.2)

/-- Of the reserved keys one alone would be a name of the record's own. -/
theorem fieldName_pairKey (hn : name ∈ ownNames) :
    fieldName (pairKey key) = name ↔ key ≠ "message" ∧ uppercase key = name := by
  have hreserved : ∀ k ∈ reservedKeys, fieldName (pairKey k) ∉ ownNames ∧
      (k ≠ "message" → uppercase k ∉ ownNames) := by
    decide
  by_cases hk : key ∈ reservedKeys
  · -- The capitals of `message` alone are such a name, and it is written under another key.
    obtain ⟨h, h'⟩ := hreserved key hk
    exact iff_of_false (fun he => h (he ▸ hn)) fun ⟨hm, he⟩ => h' hm (he ▸ hn)
  · have hm : key ≠ "message" := by
      rintro rfl
      exact hk (by decide)
    rw [pairKey, if_neg hk, and_iff_right hm]
    rfl

/-- The time, the logger and the location have names apart from those. -/
theorem filter_fields (hn : name ∈ ownNames) :
    (fields r).filter (fieldName ·.1 = name) =
      (r.pairs.map fun (key, value) => (pairKey key, value)).filter (fieldName ·.1 = name) := by
  have hother : ∀ key ∈ ["time", "logger", "code_module", "code_file", "code_line"],
      fieldName key ∉ ownNames := by
    decide
  have hne : ∀ key ∈ ["time", "logger", "code_module", "code_file", "code_line"],
      fieldName key ≠ name :=
    fun key hk he => hother key hk (he ▸ hn)
  simp only [List.forall_mem_cons, List.not_mem_nil, false_implies, implies_true, and_true] at hne
  obtain ⟨htime, hlogger, hmodule, hfile, hline⟩ := hne
  unfold fields
  split_ifs <;> simp [htime, hlogger, hmodule, hfile, hline, pairKey, reservedKeys]

theorem valuesOf_fields (hn : name ∈ ownNames) :
    valuesOf name ((fields r).map fun (key, value) => (utf8 (fieldName key), utf8 value)) =
      namesakes r name := by
  rw [Wire.valuesOf_map, filter_fields hn, List.filter_map, List.map_map, namesakes]
  simp only [Function.comp_def, fieldName_pairKey hn]

theorem namesakes_eq_nil_iff :
    namesakes r name = [] ↔ ∀ p ∈ r.pairs, p.1 ≠ "message" → uppercase p.1 ≠ name := by
  simp [namesakes, List.filter_eq_nil_iff]

/-- What is read under each of these names: the record's own value, with its namesakes behind the
priority and the message, and before the payload. -/
structure Owns (r : LogRecord) (payload : List UInt8) (fs : List (List UInt8 × List UInt8)) :
    Prop where
  priority : valuesOf "PRIORITY" fs =
    [Priority.levelDigit (some r.level)] :: namesakes r "PRIORITY"
  message : valuesOf "MESSAGE" fs = utf8 r.message :: namesakes r "MESSAGE"
  raw : valuesOf "JSON" fs = namesakes r "JSON" ++ [payload]

theorem valuesOf_own (hn : name ∈ ownNames) (priority message raw : List UInt8) :
    valuesOf name ((utf8 "PRIORITY", priority) :: (utf8 "MESSAGE", message) ::
        (fields r).map (fun (key, value) => (utf8 (fieldName key), utf8 value)) ++
        [(utf8 "JSON", raw)]) =
      (if "PRIORITY" = name then [priority] else []) ++
        (if "MESSAGE" = name then [message] else []) ++ namesakes r name ++
        (if "JSON" = name then [raw] else []) := by
  rw [List.cons_append, List.cons_append, Wire.valuesOf_cons, Wire.valuesOf_cons,
    Wire.valuesOf_append, Wire.valuesOf_cons, valuesOf_fields hn]
  simp [valuesOf]

theorem owns_of_record (hw : r.timestamp.isWritable = true)
    (hk : ∀ p ∈ r.pairs, '=' ∉ p.1.toList ∧ '\n' ∉ p.1.toList) :
    ∃ payload entry, ofRecord? r = some payload ∧ Entry.decode payload = .ok entry ∧
      (payload.length < UInt64.size →
        ∃ fs, Wire.read? (Wire.putEntry [] entry payload) = some fs ∧ Owns r payload fs) := by
  refine ⟨bytes r, entry r, (ofRecord?_eq r).trans (if_pos hw), decode_bytes r, ?_⟩
  intro hlength
  refine ⟨_, read?_entry hlength hk, ?_, ?_, ?_⟩
  · rw [valuesOf_own (by decide)]
    simp
  · rw [valuesOf_own (by decide)]
    simp
  · rw [valuesOf_own (by decide)]
    simp

/-- No pair shares a name with the record's own fields exactly when each is read once. -/
theorem Owns.single_iff {payload : List UInt8} {fs : List (List UInt8 × List UInt8)}
    (h : Owns r payload fs) :
    (∀ name ∈ ownNames, ∃ value, valuesOf name fs = [value]) ↔
      ∀ p ∈ r.pairs, p.1 ≠ "message" → uppercase p.1 ∉ ownNames := by
  have hsingle : (∀ name ∈ ownNames, ∃ value, valuesOf name fs = [value]) ↔
      ∀ name ∈ ownNames, namesakes r name = [] := by
    simp [ownNames, h.priority, h.message, h.raw, List.append_eq_singleton_iff]
  rw [hsingle]
  simp only [namesakes_eq_nil_iff]
  exact ⟨fun h p hp hm hn => h _ hn p hp hm rfl, fun h _ hn p hp hm he => h p hp hm (he ▸ hn)⟩

end Payload

namespace Handler

theorem transmitted_handle {h : Handler} {r : LogRecord} {payload : List UInt8} {entry : Entry}
    (hp : Payload.ofRecord? r = some payload) (hd : Entry.decode payload = .ok entry) :
    ∃ fallback : Option String, (h.handle r).2.2.writer.transmitted =
      h.writer.transmitted ++ ((h.writer.session.connect.1.toOption.map
        (.send · (Wire.putEntry [] entry payload))).toList ++
          (fallback.map (.handOver · (Wire.putEntry [] entry payload))).toList) := by
  rw [handle_of_some hp]
  exact Writer.transmitted_write_decoded hd

/-- What is submitted for a record is read back with its own priority and message first and its
payload last. Each is the only field of its name exactly when no pair takes such a name. -/
theorem owns_of_handle (h : Handler) (r : LogRecord) (hw : r.timestamp.isWritable = true)
    (hk : ∀ p ∈ r.pairs, '=' ∉ p.1.toList ∧ '\n' ∉ p.1.toList) :
    ∃ payload entry, Payload.ofRecord? r = some payload ∧ Entry.decode payload = .ok entry ∧
      (∃ fallback : Option String, (h.handle r).2.2.writer.transmitted =
        h.writer.transmitted ++ ((h.writer.session.connect.1.toOption.map
          (.send · (Wire.putEntry [] entry payload))).toList ++
            (fallback.map (.handOver · (Wire.putEntry [] entry payload))).toList)) ∧
      (payload.length < UInt64.size →
        ∃ fs, Wire.read? (Wire.putEntry [] entry payload) = some fs ∧
          Payload.Owns r payload fs ∧
          ((∀ name ∈ Wire.ownNames, ∃ value, Wire.valuesOf name fs = [value]) ↔
            ∀ p ∈ r.pairs, p.1 ≠ "message" → uppercase p.1 ∉ Wire.ownNames)) := by
  obtain ⟨payload, entry, hp, hd, hread⟩ := Payload.owns_of_record hw hk
  refine ⟨payload, entry, hp, hd, transmitted_handle hp hd, ?_⟩
  intro hlength
  obtain ⟨fs, hfs, howns⟩ := hread hlength
  exact ⟨fs, hfs, howns, howns.single_iff⟩

theorem owns_of_handle_dotless :
    let h : Handler := .ofSettings {} .usable {}
    let r : LogRecord :=
      { logger := "core", level := .error, message := "disk failure", timestamp := .epoch
        pairs := [("message", "a"), ("meſſage", "b"), ("prıority", "0"), ("user", "x")] }
    r.timestamp.isWritable = true ∧ (∀ p ∈ r.pairs, '=' ∉ p.1.toList ∧ '\n' ∉ p.1.toList) ∧
      ∃ payload entry, Payload.ofRecord? r = some payload ∧ Entry.decode payload = .ok entry ∧
        (∃ fallback : Option String, (h.handle r).2.2.writer.transmitted =
          .send "/run/systemd/journal/socket" (Wire.putEntry [] entry payload) ::
            (fallback.map (.handOver · (Wire.putEntry [] entry payload))).toList) ∧
        payload.length < UInt64.size ∧
        ∃ fs, Wire.read? (Wire.putEntry [] entry payload) = some fs ∧
          Wire.valuesOf "PRIORITY" fs = [[0x33], utf8 "0"] ∧
          Wire.valuesOf "MESSAGE" fs = [utf8 "disk failure", utf8 "b"] ∧
          Wire.valuesOf "JSON" fs = [payload] := by
  intro h r
  have hw : r.timestamp.isWritable = true := by decide
  have hk : ∀ p ∈ r.pairs, '=' ∉ p.1.toList ∧ '\n' ∉ p.1.toList := by decide
  obtain ⟨payload, entry, hp, hd, hsubmitted, hread⟩ := owns_of_handle h r hw hk
  have hlength : ((Payload.ofRecord? r).getD []).length < UInt64.size := by
    decide +kernel
  rw [hp] at hlength
  obtain ⟨fs, hfs, howns, -⟩ := hread hlength
  have hnames : ["PRIORITY", "MESSAGE", "JSON"].map (Payload.namesakes r) =
      [[utf8 "0"], [utf8 "b"], []] := by
    decide +kernel
  simp only [List.map_cons, List.map_nil, List.cons.injEq, and_true] at hnames
  obtain ⟨hpriority, hmessage, hraw⟩ := hnames
  refine ⟨hw, hk, payload, entry, hp, hd, hsubmitted, hlength, fs, hfs, ?_, ?_, ?_⟩
  · rw [howns.priority, hpriority]
    rfl
  · rw [howns.message, hmessage]
  · rw [howns.raw, hraw, List.nil_append]

/-- The pair's key is not the reserved one, but its capitals are those of the message. -/
theorem handle_second_message :
    let h : Handler := .ofSettings {} .usable {}
    let r : LogRecord :=
      { logger := "core", level := .error, message := "disk failure", timestamp := .epoch
        pairs := [("Message", "all is well")] }
    r.timestamp.isWritable = true ∧ (∀ p ∈ r.pairs, '=' ∉ p.1.toList ∧ '\n' ∉ p.1.toList) ∧
      ∃ payload entry, Payload.ofRecord? r = some payload ∧ Entry.decode payload = .ok entry ∧
        (∃ fallback : Option String, (h.handle r).2.2.writer.transmitted =
          .send "/run/systemd/journal/socket" (Wire.putEntry [] entry payload) ::
            (fallback.map (.handOver · (Wire.putEntry [] entry payload))).toList) ∧
        ∃ fs, Wire.read? (Wire.putEntry [] entry payload) = some fs ∧
          Wire.valuesOf "MESSAGE" fs = [utf8 "disk failure", utf8 "all is well"] ∧
          ¬ ∃ value, Wire.valuesOf "MESSAGE" fs = [value] := by
  intro h r
  have hw : r.timestamp.isWritable = true := by decide
  have hk : ∀ p ∈ r.pairs, '=' ∉ p.1.toList ∧ '\n' ∉ p.1.toList := by decide
  obtain ⟨payload, entry, hp, hd, hread⟩ := Payload.owns_of_record hw hk
  obtain ⟨fallback, hsubmitted⟩ := transmitted_handle (h := h) hp hd
  have hlength : ((Payload.ofRecord? r).getD []).length < UInt64.size := by
    decide +kernel
  rw [hp] at hlength
  obtain ⟨fs, hfs, howns⟩ := hread hlength
  have hnamesakes : Payload.namesakes r "MESSAGE" = [utf8 "all is well"] := by
    decide +kernel
  have hvalues : Wire.valuesOf "MESSAGE" fs = [utf8 "disk failure", utf8 "all is well"] := by
    rw [howns.message, hnamesakes]
  refine ⟨hw, hk, payload, entry, hp, hd, ⟨fallback, hsubmitted⟩, fs, hfs, hvalues, ?_⟩
  rintro ⟨value, hvalue⟩
  rw [hvalues] at hvalue
  cases hvalue

end Handler

end JournalSink
