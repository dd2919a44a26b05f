import JournalSink.Proofs.Entry.Decoding
import JournalSink.Proofs.Payload.Source

/-! # Records through their payloads

A record whose time can be written is read back from its payload as it was: no
text in it is changed, and no pair stands in for the level or the message.
-/

namespace JournalSink.Payload

open Json (Member)
open Entry (lastText?)

variable {keys : List String} {l l' : List Member}

theorem readDocument_source (ms : List (String × Value)) :
    Json.readDocument (Text.utf8 (source ms)) = .ok (ms.map meaning) := by
  refine Json.readDocument_eq_ok_iff.2 ⟨_, document_source ms, ?_⟩
  rw [List.forall₂_map_left_iff, List.forall₂_map_right_iff, List.forall₂_same]
  exact fun m _ => means_meaning m

theorem lastText?_append (h : ∀ m ∈ l', m.key ∉ keys) :
    lastText? keys (l ++ l') = lastText? keys l := by
  have : l'.filter (·.key ∈ keys) = [] := by simpa [List.filter_eq_nil_iff] using h
  rw [lastText?, List.filter_append, this, List.append_nil, lastText?]

theorem pairKey_not_mem (key : String) : pairKey key ∉ reservedKeys := by
  unfold pairKey
  split_ifs with h
  · simp only [reservedKeys, List.mem_cons, List.not_mem_nil, or_false] at h
    rcases h with rfl | rfl | rfl <;> decide
  · exact h

/-- The members that follow the message. -/
def behind (r : LogRecord) : List (String × Value) :=
  (if r.modulePath.isEmpty then [] else [("code_module", .string r.modulePath)]) ++
    (if r.file.isEmpty then []
      else [("code_file", .string r.file), ("code_line", .number r.line)]) ++
    r.pairs.map fun (key, value) => (pairKey key, .string value)

theorem members_eq (r : LogRecord) (time : String) :
    members r time = [("time", .string time), ("level", .string r.level.name),
      ("logger", .string r.logger), ("message", .string r.message)] ++ behind r := by
  simp [members, behind]

theorem key_behind (r : LogRecord) : ∀ m ∈ (behind r).map meaning, m.key ∉ reservedKeys := by
  simp only [behind, List.map_append, List.forall_mem_append]
  refine ⟨⟨?_, ?_⟩, ?_⟩
  · split_ifs <;> simp [meaning, reservedKeys]
  · split_ifs <;> simp [meaning, reservedKeys]
  · simp only [List.mem_map]
    rintro _ ⟨_, ⟨⟨key, value⟩, -, rfl⟩, rfl⟩
    exact pairKey_not_mem key

/-- The fields of a record, in the order in which they are read back. -/
def fields (r : LogRecord) : List (String × String) :=
  [("time", r.timestamp.text), ("logger", r.logger)] ++
    (if r.modulePath = "" then [] else [("code_module", r.modulePath)]) ++
    (if r.file = "" then [] else [("code_file", r.file), ("code_line", toString r.line)]) ++
    r.pairs.map fun (key, value) =>
      (if key ∈ ["level", "message", "msg"] then "field_" ++ key else key, value)

theorem lastText?_members {text : String} (keys : List String) (r : LogRecord) (time : String)
    (hkeys : ∀ k ∈ keys, k ∈ reservedKeys)
    (h : lastText? keys ([("time", .string time), ("level", .string r.level.name),
      ("logger", .string r.logger), ("message", .string r.message)].map meaning) = some text) :
    lastText? keys ((members r time).map meaning) = some text := by
  rw [members_eq, List.map_append, lastText?_append, h]
  exact fun m hm hk => key_behind r m hm (hkeys _ hk)

theorem fields_behind (r : LogRecord) :
    ((behind r).map meaning).map (fun m => (m.key, m.text)) =
      (if r.modulePath = "" then [] else [("code_module", r.modulePath)]) ++
      (if r.file = "" then [] else [("code_file", r.file), ("code_line", toString r.line)]) ++
      r.pairs.map fun (key, value) =>
        (if key ∈ ["level", "message", "msg"] then "field_" ++ key else key, value) := by
  simp only [behind, List.map_append, String.isEmpty_iff]
  congr 1
  · congr 1
    · split_ifs <;> rfl
    · split_ifs <;> rfl
  · rw [List.map_map, List.map_map]
    rfl

theorem ofMembers_members (r : LogRecord) :
    Entry.ofMembers ((members r r.timestamp.text).map meaning) =
      { level := some r.level, message := r.message, fields := fields r } := by
  have hlevel := lastText?_members ["level"] r r.timestamp.text (by decide) rfl
  have hmessage := lastText?_members ["message", "msg"] r r.timestamp.text (by decide) rfl
  have hbehind : ((behind r).map meaning).filter (·.key ∉ ["level", "message", "msg"]) = _ :=
    List.filter_eq_self.2 fun m hm => decide_eq_true (key_behind r m hm)
  rw [Entry.ofMembers_eq, hlevel, hmessage, members_eq, List.map_append, List.filter_append,
    hbehind, List.map_append, fields_behind, fields]
  simp [meaning, Value.text, Level.parse?_name]

/-- Every record whose time can be written has a payload, of one line, and is read back from it. -/
theorem decode_ofRecord (r : LogRecord) (h : r.timestamp.isWritable = true) :
    ∃ line, ofRecord? r = some (line ++ [Ascii.newline]) ∧ Ascii.newline ∉ line ∧
      Entry.decode (line ++ [Ascii.newline]) =
        .ok { level := some r.level, message := r.message, fields := fields r } := by
  refine ⟨Ascii.openBrace :: encode (body (members r r.timestamp.text)) ++ [Ascii.closeBrace],
    ?_, newline_not_mem_front _, ?_⟩
  · rw [ofRecord?, Timestamp.text?, if_pos h, Option.map_some, utf8_source]
  · rw [← utf8_source, Entry.decode_eq_ok_iff]
    exact ⟨_, readDocument_source _, ofMembers_members r⟩

theorem decode_ofRecord_escaped :
    let r : LogRecord :=
      { logger := "a\"b\\c", level := .warn, message := "two\nlines\x01", file := "é.rs", line := 10
        timestamp := .epoch, pairs := [("level", "fatal"), ("k", "😀"), ("k", ""), ("msg", "\t")] }
    r.timestamp.isWritable = true ∧
      ∃ line, ofRecord? r = some (line ++ [Ascii.newline]) ∧ Ascii.newline ∉ line ∧
        Entry.decode (line ++ [Ascii.newline]) =
          .ok
            { level := some .warn
              message := "two\nlines\x01"
              fields := [("time", "1970-01-01T00:00:00.000000Z"), ("logger", "a\"b\\c"),
                ("code_file", "é.rs"), ("code_line", "10"), ("field_level", "fatal"), ("k", "😀"),
                ("k", ""), ("field_msg", "\t")] } := by
  intro r
  have h : r.timestamp.isWritable = true := by decide
  have hfields : fields r = [("time", "1970-01-01T00:00:00.000000Z"), ("logger", "a\"b\\c"),
      ("code_file", "é.rs"), ("code_line", "10"), ("field_level", "fatal"), ("k", "😀"),
      ("k", ""), ("field_msg", "\t")] := by
    decide
  refine ⟨h, ?_⟩
  rw [← hfields]
  exact decode_ofRecord r h

end JournalSink.Payload
