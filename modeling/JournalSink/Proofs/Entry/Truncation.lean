import JournalSink.Proofs.Payload.RoundTrip
import JournalSink.Proofs.Writer.Acceptance

/-! # Truncated records

The object of a record ends at one brace, whatever follows it. So nothing that is
cut before that brace is read, and nothing but blanks may follow it.
-/

namespace JournalSink

namespace Json

variable {object object' p r r' t : List UInt8} {members members' : List Member}

/-- Blanks, and an object with these members up to its closing brace. -/
def Encloses (object : List UInt8) (members : List Member) : Prop :=
  ∃ ms a body, Blanks a ∧ object = a ++ Ascii.openBrace :: (body ++ [Ascii.closeBrace]) ∧
    (Blanks body ∧ ms = [] ∨ Derives (.members ms) body) ∧ List.Forall₂ Spelling.Means ms members

theorem readDocument_eq_ok_iff_encloses {bytes : List UInt8} : readDocument bytes = .ok members ↔
    ∃ object b, bytes = object ++ b ∧ Encloses object members ∧ Blanks b := by
  rw [readDocument_eq_ok_iff]
  constructor
  · rintro ⟨ms, ⟨a, body, b, ha, hb, rfl, hbody⟩, hm⟩
    exact ⟨a ++ Ascii.openBrace :: (body ++ [Ascii.closeBrace]), b, by simp,
      ⟨ms, a, body, ha, rfl, hbody, hm⟩, hb⟩
  · rintro ⟨_, b, rfl, ⟨ms, a, body, ha, rfl, hbody, hm⟩, hb⟩
    exact ⟨ms, ⟨a, body, b, ha, hb, by simp, hbody⟩, hm⟩

namespace Encloses

/-- What follows an object does not change where it ends. -/
theorem unique (h : Encloses object members) (h' : Encloses object' members')
    (heq : object ++ r = object' ++ r') : members = members' ∧ r = r' := by
  obtain ⟨ms, a, body, ha, rfl, hbody, hm⟩ := h
  obtain ⟨ms', a', body', ha', rfl, hbody', hm'⟩ := h'
  simp only [List.append_assoc, List.cons_append, List.nil_append] at heq
  obtain ⟨-, hbehind⟩ := separator_unique ha rfl ha' rfl heq
  have hread := readObject_complete (r := r) hbody hm
  rw [hbehind, readObject_complete hbody' hm'] at hread
  cases hread
  exact ⟨rfl, rfl⟩

theorem readDocument_append_iff (h : Encloses object members) :
    readDocument (object ++ t) = .ok members' ↔ members' = members ∧ Blanks t := by
  rw [readDocument_eq_ok_iff_encloses]
  constructor
  · rintro ⟨object', b, heq, h', hb⟩
    obtain ⟨rfl, rfl⟩ := h.unique h' heq
    exact ⟨rfl, hb⟩
  · rintro ⟨rfl, ht⟩
    exact ⟨object, t, rfl, h, ht⟩

theorem not_readDocument (h : Encloses object members) (hp : p <+: object)
    (hlt : p.length < object.length) : readDocument p ≠ .ok members' := by
  intro hread
  obtain ⟨object', b, rfl, h', -⟩ := readDocument_eq_ok_iff_encloses.1 hread
  obtain ⟨t, ht⟩ := hp
  have heq : object ++ [] = object' ++ (b ++ t) := by simp [← ht]
  obtain ⟨-, hnil⟩ := h.unique h' heq
  obtain ⟨-, rfl⟩ := List.append_eq_nil_iff.1 hnil.symm
  rw [← ht, List.append_nil] at hlt
  exact Nat.lt_irrefl _ hlt

end Encloses

end Json

namespace Writer

variable {raw : List UInt8} {fault : DecodeError}

/-- A writer that stops at a record: nothing goes out, and the fault is told where an endpoint is
to be had. -/
structure StopsAt (w : Writer) (raw : List UInt8) (fault : DecodeError) : Prop where
  transmitted : (w.write raw).2.transmitted = w.transmitted
  refused : ∀ n, (w.write raw).1 ≠ .ok n
  told : ∀ target, w.session.connect.1 = .ok target → (w.write raw).1 = .error (.decode fault)

theorem stopsAt_of_decode (hd : Entry.decode raw = .error fault) (w : Writer) :
    w.StopsAt raw fault := by
  have ht := Session.transmitted_connect w.session
  rcases hc : w.session.connect with ⟨e | target, s⟩
  · have hw : w.write raw = (.error e, { w with session := s }) := by simp only [write, hc]
    rw [hc] at ht
    exact ⟨by rw [hw]; exact ht, by simp [hw], by simp [hc]⟩
  · have hw : w.write raw = (.error (.decode fault), { w with session := s }) := by
      simp only [write, hc, hd]
    rw [hc] at ht
    exact ⟨by rw [hw]; exact ht, by simp [hw], by simp [hw]⟩

end Writer

namespace Entry

open Json (Blanks Encloses)

variable {raw : List UInt8} {e : Entry}

/-- How a record that gives `e` may be cut and continued, if its object ends where `object` does. -/
structure EndsAt (raw object : List UInt8) (e : Entry) : Prop where
  opens : object <+: raw
  /-- Cut before the closing brace, nothing is decoded or sent. -/
  cut : ∀ p, p <+: raw → p.length < object.length →
    ∃ fault, decode p = .error fault ∧ ∀ w : Writer, w.StopsAt p fault
  reached : ∀ p, p <+: raw → object.length ≤ p.length → decode p = .ok e
  followed : ∀ t, (∃ e', decode (raw ++ t) = .ok e') ↔ Blanks t
  blank : ∀ t, Blanks t → decode (raw ++ t) = .ok e

/-- A record that is accepted ends at the closing brace of its object. -/
theorem decode_truncated (h : decode raw = .ok e) :
    ∃ object members, Encloses object members ∧ EndsAt raw object e := by
  obtain ⟨members, hread, rfl⟩ := decode_eq_ok_iff.1 h
  obtain ⟨object, b, rfl, hobject, hb⟩ := Json.readDocument_eq_ok_iff_encloses.1 hread
  have hblank {t : List UInt8} (ht : Blanks t) : decode (object ++ t) = .ok (ofMembers members) :=
    decode_eq_ok_iff.2 ⟨members, hobject.readDocument_append_iff.2 ⟨rfl, ht⟩, rfl⟩
  have hopens : object <+: object ++ b := List.prefix_append _ _
  refine ⟨object, members, hobject, hopens, ?_, ?_, ?_, ?_⟩
  · intro p hp hlt
    have hp' := List.prefix_of_prefix_length_le hp hopens (Nat.le_of_lt hlt)
    cases hd : decode p with
    | error fault => exact ⟨fault, rfl, Writer.stopsAt_of_decode hd⟩
    | ok e' =>
      obtain ⟨members', hread', -⟩ := decode_eq_ok_iff.1 hd
      exact absurd hread' (hobject.not_readDocument hp' hlt)
  · intro p hp hle
    obtain ⟨b', rfl⟩ := List.prefix_of_prefix_length_le hopens hp hle
    have hb' : b' <+: b := (List.prefix_append_right_inj _).1 hp
    exact hblank fun x hx => hb x (hb'.subset hx)
  · intro t
    rw [List.append_assoc]
    constructor
    · rintro ⟨e', he'⟩
      obtain ⟨members', hread', -⟩ := decode_eq_ok_iff.1 he'
      obtain ⟨-, hbt⟩ := hobject.readDocument_append_iff.1 hread'
      exact fun x hx => hbt x (List.mem_append_right _ hx)
    · exact fun ht => ⟨_, hblank (hb.append ht)⟩
  · intro t ht
    rw [List.append_assoc]
    exact hblank (hb.append ht)

/-- Braces in a key and in a text end no object. -/
theorem decode_truncated_braces :
    let raw := Text.utf8 (Payload.source [("a\x7d", .string "\x7b\x7d\"\x7d"), ("n", .number 1)])
    let e : Entry := { fields := [("a\x7d", "\x7b\x7d\"\x7d"), ("n", "1")] }
    decode raw = .ok e ∧ ∃ object members, Encloses object members ∧ EndsAt raw object e := by
  intro raw e
  have h : decode raw = .ok e := decode_eq_ok_iff.2 ⟨_, Payload.readDocument_source _, rfl⟩
  exact ⟨h, decode_truncated h⟩

end Entry

end JournalSink
