import JournalSink.Json.Object
import JournalSink.Level

/-! # Journal entries

An entry is what the journal is to be told about a raw record: its level, its
message and its further fields. It is decoded from one JSON object; members with
a reserved key give level and message, and the last one of each kind counts.
-/

namespace JournalSink

structure Entry where
  level : Option Level := none
  message : String := ""
  fields : List (String × String) := []
deriving DecidableEq, Repr

structure DecodeError where
  refusal : Json.Refusal
  position : Json.Position

namespace DecodeError

/-- What kind of fault it is: the text breaks a rule, holds the wrong thing, or ends early. -/
inductive Category
  | malformed
  | mismatch
  | incomplete
deriving DecidableEq, Repr

open Json (Refusal Position)

def category (e : DecodeError) : Category :=
  match e.refusal with
  | .malformed h => if h.cause.isEnd then .incomplete else .malformed
  | .noObject _ _ => .mismatch
  | .badValue _ _ => .mismatch

def reason : Refusal → String
  | .malformed h => h.cause.text
  | .noObject found _ =>
    "invalid type: " ++ found.text ++ ", expected a JSON object describing a log record"
  | .badValue _ h => h.cause.text

def message (e : DecodeError) : String :=
  reason e.refusal ++ " at line " ++ toString e.position.line ++ " column " ++
    toString e.position.column

/-- Puts a refusal of `document` in its place. -/
def locate (document : List UInt8) (r : Refusal) : DecodeError where
  refusal := r
  position :=
    match r with
    | .malformed h => .before document h.rest
    | .noObject _ rest => .before document rest
    | .badValue source h => .before source h.rest

end DecodeError

namespace Entry

/-- Takes in one more member. Fields are gathered last one first. -/
def gather (e : Entry) (m : Json.Member) : Entry :=
  if m.key = "level" then { e with level := Level.parse? m.text }
  else if m.key = "message" ∨ m.key = "msg" then { e with message := m.text }
  else { e with fields := (m.key, m.text) :: e.fields }

def ofMembers (members : List Json.Member) : Entry :=
  let e := members.foldl gather {}
  { e with fields := e.fields.reverse }

def decode (raw : List UInt8) : Except DecodeError Entry :=
  match Json.readDocument raw with
  | .error r => .error (.locate raw r)
  | .ok members => .ok (ofMembers members)

end Entry

end JournalSink
