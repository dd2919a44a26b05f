import JournalSink.Session

/-! # Sessions against a script

A script is what a peer will answer to each kind of request, in order. A session
that follows it has used up one answer for each request that its trace shows, and
its endpoint is what the first answer to a bind made of it.
-/

namespace JournalSink

namespace Event

def isSend : Event → Bool
  | send _ _ => true
  | _ => false

def isHandOver : Event → Bool
  | handOver _ _ => true
  | _ => false

end Event

namespace Peer

variable {p : Peer} {destination : String} {data : List UInt8}

/-- The datagrams and descriptors sent so far. -/
def transmitted (p : Peer) : List Event :=
  p.trace.filter fun e => e.isSend || e.isHandOver

def sent (p : Peer) : Nat :=
  p.transmitted.countP Event.isSend

def handedOver (p : Peer) : Nat :=
  p.transmitted.countP Event.isHandOver

@[simp] theorem transmitted_bind : p.bind.2.transmitted = p.transmitted := by
  simp [bind, transmitted, Event.isSend, Event.isHandOver]

@[simp] theorem transmitted_send :
    (p.send destination data).2.transmitted = p.transmitted ++ [.send destination data] := by
  simp [send, transmitted, Event.isSend]

@[simp] theorem transmitted_handOver : (p.handOver destination data).2.transmitted =
    p.transmitted ++ [.handOver destination data] := by
  simp [handOver, transmitted, Event.isHandOver]

@[simp] theorem sent_send : (p.send destination data).2.sent = p.sent + 1 := by
  simp [sent, Event.isSend]

@[simp] theorem handedOver_send : (p.send destination data).2.handedOver = p.handedOver := by
  simp [handedOver, Event.isHandOver]

@[simp] theorem sent_handOver : (p.handOver destination data).2.sent = p.sent := by
  simp [sent, Event.isSend]

@[simp] theorem handedOver_handOver :
    (p.handOver destination data).2.handedOver = p.handedOver + 1 := by
  simp [handedOver, Event.isHandOver]

@[simp] theorem transmitted_unbind : p.unbind.transmitted = p.transmitted := by
  simp [unbind, transmitted, Event.isSend, Event.isHandOver]

end Peer

/-- The answers that a peer starts with. -/
structure Script where
  binds : List Answer := []
  sends : List Answer := []
  handOvers : List Answer := []
deriving DecidableEq, Repr

namespace Script

variable {script : Script} {p : Peer} {destination : String} {data : List UInt8}

def peer (s : Script) : Peer where
  binds := s.binds
  sends := s.sends
  handOvers := s.handOvers

/-- The only answer to a bind that counts is the first. -/
def bindAnswer (s : Script) : Except IoError Nat :=
  (s.binds.headD .success).result 0

/-- The answer to a datagram of the given size, behind what was transmitted before it. -/
def sendAnswer (s : Script) (before : List Event) (size : Nat) : Except IoError Nat :=
  (s.sends.getD (before.countP Event.isSend) .success).result size

def handOverAnswer (s : Script) (before : List Event) : Except IoError Nat :=
  (s.handOvers.getD (before.countP Event.isHandOver) .success).result 0

theorem handOverAnswer_send (before : List Event) :
    script.handOverAnswer (before ++ [.send destination data]) = script.handOverAnswer before := by
  simp [handOverAnswer, Event.isHandOver]

/-- The answers that a peer has left are those behind the ones it gave. -/
structure Answers (script : Script) (p : Peer) : Prop where
  sends : p.sends = script.sends.drop p.sent
  handOvers : p.handOvers = script.handOvers.drop p.handedOver

theorem headD_drop {α : Type} {l : List α} {n : Nat} {a : α} :
    (l.drop n).headD a = l.getD n a := by
  simp [List.headD_eq_head?_getD, List.head?_drop]

namespace Answers

theorem peer (script : Script) : script.Answers script.peer :=
  ⟨rfl, rfl⟩

theorem of_eq {q : Peer} (h : script.Answers p) (ht : q.transmitted = p.transmitted)
    (hs : q.sends = p.sends) (hh : q.handOvers = p.handOvers) : script.Answers q := by
  constructor
  · rw [hs, Peer.sent, ht]
    exact h.sends
  · rw [hh, Peer.handedOver, ht]
    exact h.handOvers

theorem bind (h : script.Answers p) : script.Answers p.bind.2 :=
  h.of_eq Peer.transmitted_bind rfl rfl

theorem unbind (h : script.Answers p) : script.Answers p.unbind :=
  h.of_eq Peer.transmitted_unbind rfl rfl

theorem send (h : script.Answers p) (destination : String) (data : List UInt8) :
    script.Answers (p.send destination data).2 := by
  constructor
  · rw [Peer.sent_send, ← List.tail_drop, ← h.sends]
    rfl
  · rw [Peer.handedOver_send]
    exact h.handOvers

theorem handOver (h : script.Answers p) (destination : String) (data : List UInt8) :
    script.Answers (p.handOver destination data).2 := by
  constructor
  · rw [Peer.sent_handOver]
    exact h.sends
  · rw [Peer.handedOver_handOver, ← List.tail_drop, ← h.handOvers]
    rfl

theorem send_fst (h : script.Answers p) :
    (p.send destination data).1 = script.sendAnswer p.transmitted data.length := by
  rw [Peer.send, h.sends, headD_drop]
  rfl

theorem handOver_fst (h : script.Answers p) :
    (p.handOver destination data).1 = script.handOverAnswer p.transmitted := by
  rw [Peer.handOver, h.handOvers, headD_drop]
  rfl

end Answers

end Script

namespace Session

variable {script : Script} {s : Session} {e : IoError} {n : Nat} {data : List UInt8}

/-- The endpoint of a session is what the first answer to a bind made of it. -/
structure Follows (script : Script) (s : Session) : Prop where
  answers : script.Answers s.peer
  untried : s.isClosed = false → s.endpoint = .untried → s.peer.binds = script.binds
  bound : ∀ d, s.endpoint = .bound d → d = s.destination ∧ ∃ n, script.bindAnswer = .ok n
  failed : ∀ e, s.endpoint = .failed e → script.bindAnswer = .error e

/-- The same session at another time of its run, not closed in between. -/
structure Resembles (s' s : Session) : Prop where
  socket : s'.socket = s.socket
  isClosed : s'.isClosed = s.isClosed

theorem Resembles.refl (s : Session) : s.Resembles s :=
  ⟨rfl, rfl⟩

theorem Resembles.trans {s₁ s₂ s₃ : Session} (h : s₁.Resembles s₂) (h' : s₂.Resembles s₃) :
    s₁.Resembles s₃ :=
  ⟨h.socket.trans h'.socket, h.isClosed.trans h'.isClosed⟩

theorem Resembles.destination {s' : Session} (h : s'.Resembles s) :
    s'.destination = s.destination := by
  rw [Session.destination, h.socket, Session.destination]

theorem follows_start (script : Script) (socket : Option String) :
    Follows script { socket := socket, peer := script.peer } :=
  ⟨.peer script, fun _ _ => rfl, nofun, nofun⟩

theorem connect_of_isClosed (hc : s.isClosed = true) : s.connect = (.error .closed, s) := by
  simp [connect, hc]

theorem connect_of_bound {d : String} (hc : s.isClosed = false) (h : s.endpoint = .bound d) :
    s.connect = (.ok d, s) := by
  simp [connect, hc, h]

theorem connect_of_untried (hc : s.isClosed = false) (he : s.endpoint = .untried) :
    s.connect = match s.peer.bind.1 with
      | .ok _ => (.ok s.destination,
          { s with endpoint := .bound s.destination, peer := s.peer.bind.2 })
      | .error e => (.error (.initialization e),
          { s with endpoint := .failed e, peer := s.peer.bind.2 }) := by
  rw [connect, if_neg (by simp [hc]), he]
  rcases s.peer.bind with ⟨_ | _, peer⟩ <;> rfl

/-- Only an open session that was not tried yet is changed. -/
theorem connect_snd (s : Session) :
    s.connect.2 = s ∨ s.isClosed = false ∧ s.endpoint = .untried := by
  cases hc : s.isClosed with
  | true => exact .inl (by rw [connect_of_isClosed hc])
  | false =>
    cases he : s.endpoint with
    | bound d => exact .inl (by rw [connect_of_bound hc he])
    | failed e => exact .inl (by simp [connect, hc, he])
    | untried => exact .inr ⟨rfl, rfl⟩

namespace Follows

theorem bind_fst (h : s.Follows script) (hc : s.isClosed = false) (he : s.endpoint = .untried) :
    s.peer.bind.1 = script.bindAnswer.map fun _ => () := by
  rw [Peer.bind, h.untried hc he, Script.bindAnswer]
  cases (script.binds.headD .success).result 0 <;> rfl

theorem connect_error (h : s.Follows script) (hc : s.isClosed = false)
    (hb : script.bindAnswer = .error e) :
    ∃ s', s.connect = (.error (.initialization e), s') ∧ s'.Follows script ∧ s'.Resembles s ∧
      s'.peer.transmitted = s.peer.transmitted := by
  cases he : s.endpoint with
  | bound d =>
    obtain ⟨-, n, hn⟩ := h.bound d he
    cases hb.symm.trans hn
  | failed e' =>
    cases hb.symm.trans (h.failed e' he)
    exact ⟨s, by simp [connect, hc, he], h, .refl s, rfl⟩
  | untried =>
    refine ⟨{ s with endpoint := .failed e, peer := s.peer.bind.2 }, ?_, ?_, ⟨rfl, rfl⟩,
      Peer.transmitted_bind⟩
    · rw [connect_of_untried hc he, h.bind_fst hc he, hb]
      rfl
    · exact ⟨h.answers.bind, nofun, nofun, fun _ h' => by cases h'; exact hb⟩

theorem connect_ok (h : s.Follows script) (hc : s.isClosed = false)
    (hb : script.bindAnswer = .ok n) :
    ∃ s', s.connect = (.ok s.destination, s') ∧ s'.endpoint = .bound s.destination ∧
      s'.Follows script ∧ s'.Resembles s ∧ s'.peer.transmitted = s.peer.transmitted := by
  cases he : s.endpoint with
  | bound d =>
    obtain ⟨rfl, -⟩ := h.bound d he
    exact ⟨s, connect_of_bound hc he, he, h, .refl s, rfl⟩
  | failed e =>
    cases hb.symm.trans (h.failed e he)
  | untried =>
    refine ⟨{ s with endpoint := .bound s.destination, peer := s.peer.bind.2 }, ?_, rfl, ?_,
      ⟨rfl, rfl⟩, Peer.transmitted_bind⟩
    · rw [connect_of_untried hc he, h.bind_fst hc he, hb]
      rfl
    · exact ⟨h.answers.bind, nofun, fun _ h' => by cases h'; exact ⟨rfl, n, hb⟩, nofun⟩

/-- What a bound session asks of its peer leaves it bound. -/
theorem advance {d : String} {p : Peer} (h : s.Follows script) (he : s.endpoint = .bound d)
    (hp : script.Answers p) : Follows script { s with peer := p } :=
  ⟨hp, (fun _ h' => nomatch he.symm.trans h'), h.bound, h.failed⟩

theorem send_eq (h : s.Follows script) (hc : s.isClosed = false)
    (he : s.endpoint = .bound s.destination) :
    s.send data = ((script.sendAnswer s.peer.transmitted data.length).mapError .transmission,
      { s with peer := (s.peer.send s.destination data).2 }) := by
  rw [← h.answers.send_fst, Session.send, connect_of_bound hc he]

theorem handOver_eq (h : s.Follows script) (hc : s.isClosed = false)
    (he : s.endpoint = .bound s.destination) :
    s.handOver data = ((script.handOverAnswer s.peer.transmitted).mapError .fallback,
      { s with peer := (s.peer.handOver s.destination data).2 }) := by
  rw [← h.answers.handOver_fst, Session.handOver, connect_of_bound hc he]

theorem close (h : s.Follows script) : s.close.Follows script := by
  unfold Session.close release
  split
  · exact ⟨h.answers.unbind, nofun, nofun, nofun⟩
  · exact ⟨h.answers, nofun, nofun, nofun⟩

end Follows

theorem socket_close : s.close.socket = s.socket := by
  unfold close release
  split <;> rfl

end Session

end JournalSink
