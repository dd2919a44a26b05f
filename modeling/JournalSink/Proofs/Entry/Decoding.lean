import Mathlib.Data.List.Induction
import JournalSink.Entry
import JournalSink.Proofs.Json.Acceptance
import JournalSink.Proofs.Level.Names

/-! # What an entry tells of a document

An entry is decoded from the documents whose texts can be read, whatever their
members are. The last member that gives the level or the message counts, and the
others become the fields, in their order.
-/

namespace JournalSink

open Json (Member Document Spelling)
open Text (IsUtf8)

namespace Entry

/-- The text of the last member with one of the keys. -/
def lastText? (keys : List String) (members : List Member) : Option String :=
  (members.filter (·.key ∈ keys)).getLast?.map (·.text)

/-- An entry tells what members say: each part of it follows from their texts and their order. -/
structure Tells (members : List Member) (e : Entry) : Prop where
  level : ∀ l, e.level = some l ↔
    ∃ t, lastText? ["level"] members = some t ∧ Level.Names t l
  message : e.message = (lastText? ["message", "msg"] members).getD ""
  fields : e.fields =
    (members.filter (·.key ∉ ["level", "message", "msg"])).map fun m => (m.key, m.text)

theorem lastText?_concat {keys : List String} {members : List Member} {m : Member} :
    lastText? keys (members ++ [m]) =
      if m.key ∈ keys then some m.text else lastText? keys members := by
  by_cases hm : m.key ∈ keys <;> simp [lastText?, hm]

theorem foldl_gather (members : List Member) :
    members.foldl gather {} =
      { level := (lastText? ["level"] members).bind Level.parse?
        message := (lastText? ["message", "msg"] members).getD ""
        fields := ((members.filter (·.key ∉ ["level", "message", "msg"])).map
          fun m => (m.key, m.text)).reverse } := by
  induction members using List.reverseRecOn with
  | nil => rfl
  | append_singleton members m ih =>
    rw [List.foldl_append, ih, lastText?_concat, lastText?_concat]
    by_cases hl : m.key = "level"
    · simp [gather, hl]
    · by_cases hm : m.key = "message" ∨ m.key = "msg"
      · rcases hm with hm | hm <;> simp [gather, hm]
      · obtain ⟨hmessage, hmsg⟩ := not_or.1 hm
        simp [gather, hl, hmessage, hmsg]

theorem ofMembers_eq (members : List Member) :
    ofMembers members =
      { level := (lastText? ["level"] members).bind Level.parse?
        message := (lastText? ["message", "msg"] members).getD ""
        fields := (members.filter (·.key ∉ ["level", "message", "msg"])).map
          fun m => (m.key, m.text) } := by
  simp [ofMembers, foldl_gather]

theorem tells_ofMembers (members : List Member) : Tells members (ofMembers members) := by
  rw [ofMembers_eq]
  constructor
  · intro l
    simp [Option.bind_eq_some_iff, Level.parse?_eq_some_iff]
  · rfl
  · rfl

theorem decode_eq_ok_iff {raw : List UInt8} {e : Entry} : decode raw = .ok e ↔
    ∃ members, Json.readDocument raw = .ok members ∧ ofMembers members = e := by
  unfold decode
  cases Json.readDocument raw <;> simp

/-- Decoded is what is UTF-8, has the form of a document and has its surrogates paired in keys and
in values that are strings; and the entry tells what the members of the document mean. -/
theorem decode_document (raw : List UInt8) :
    ((∃ e, decode raw = .ok e) ↔
      IsUtf8 raw ∧ ∃ ms, Document raw ms ∧ ∀ m ∈ ms, m.IsPaired) ∧
    ∀ e ms, decode raw = .ok e → Document raw ms →
      (∃ members, List.Forall₂ Spelling.Means ms members) ∧
        ∀ members, List.Forall₂ Spelling.Means ms members → Tells members e := by
  constructor
  · rw [← Json.exists_readDocument_iff]
    constructor
    · rintro ⟨e, he⟩
      obtain ⟨members, h, -⟩ := decode_eq_ok_iff.1 he
      exact ⟨members, h⟩
    · rintro ⟨members, h⟩
      exact ⟨_, decode_eq_ok_iff.2 ⟨members, h, rfl⟩⟩
  · intro e ms he hdoc
    obtain ⟨members, hread, rfl⟩ := decode_eq_ok_iff.1 he
    constructor
    · obtain ⟨ms', hdoc', hm⟩ := Json.readDocument_eq_ok_iff.1 hread
      exact ⟨members, hdoc.unique hdoc' ▸ hm⟩
    · intro members' hm
      have hread' := Json.readDocument_eq_ok_iff.2 ⟨ms, hdoc, hm⟩
      cases hread.symm.trans hread'
      exact tells_ofMembers members

end Entry

end JournalSink
