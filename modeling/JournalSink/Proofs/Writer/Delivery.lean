import Mathlib.Data.List.Induction
import JournalSink.Proofs.Session.Tracking
import JournalSink.Writer

/-! # What a write comes to

Whatever was written, refused or closed before, a write stops at the first fault
that applies, or sends the wire form of its own record once. What follows the
datagram depends on its answer: the same bytes are handed over in a file only if
the datagram was too large.
-/

namespace JournalSink

section Outcome

variable (script : Script) (scratch : Scratch) (destination : String) (before : List Event)

/-- What comes of data that is sent: a result, and what goes out to the peer. -/
inductive Delivers (data : List UInt8) : Except WriteError Nat → List Event → Prop
  | sent {n : Nat} : script.sendAnswer before data.length = .ok n →
      Delivers data (.ok n) [.send destination data]
  | refused {e : IoError} : script.sendAnswer before data.length = .error e →
      e ≠ .messageTooLong → e ≠ .noBufferSpace →
      Delivers data (.error (.transmission e)) [.send destination data]
  | noFile {e cause : IoError} : script.sendAnswer before data.length = .error e →
      e = .messageTooLong ∨ e = .noBufferSpace → scratch = .unusable cause →
      Delivers data (.error (.fallback cause)) [.send destination data]
  | handedOver {e : IoError} {n : Nat} : script.sendAnswer before data.length = .error e →
      e = .messageTooLong ∨ e = .noBufferSpace → scratch = .usable →
      script.handOverAnswer before = .ok n →
      Delivers data (.ok data.length) [.send destination data, .handOver destination data]
  | notTaken {e cause : IoError} : script.sendAnswer before data.length = .error e →
      e = .messageTooLong ∨ e = .noBufferSpace → scratch = .usable →
      script.handOverAnswer before = .error cause →
      Delivers data (.error (.fallback cause)) [.send destination data, .handOver destination data]

/-- What comes of a write: the first fault that applies, or a delivery. -/
inductive Writes (closed : Prop) (raw : List UInt8) : Except WriteError Nat → List Event → Prop
  | closed : closed → Writes closed raw (.error .closed) []
  | initialization {e : IoError} : ¬ closed → script.bindAnswer = .error e →
      Writes closed raw (.error (.initialization e)) []
  | decode {n : Nat} {e : DecodeError} : ¬ closed → script.bindAnswer = .ok n →
      Entry.decode raw = .error e → Writes closed raw (.error (.decode e)) []
  | delivered {n : Nat} {entry : Entry} {result : Except WriteError Nat} {events : List Event} :
      ¬ closed → script.bindAnswer = .ok n → Entry.decode raw = .ok entry →
      Delivers script scratch destination before (Wire.putEntry [] entry raw) result events →
      Writes closed raw result events

end Outcome

theorem IoError.isSizeLimit_iff {e : IoError} :
    e.isSizeLimit = true ↔ e = .messageTooLong ∨ e = .noBufferSpace := by
  simp [isSizeLimit]

namespace Session.Follows

variable {script : Script} {s : Session}

theorem deliver (h : s.Follows script) (hc : s.isClosed = false)
    (he : s.endpoint = .bound s.destination) (scratch : Scratch) (data : List UInt8) :
    ∃ result s' events, Writer.deliver s scratch data = (result, s') ∧
      Delivers script scratch s.destination s.peer.transmitted data result events ∧
      s'.peer.transmitted = s.peer.transmitted ++ events ∧ s'.Follows script ∧ s'.Resembles s := by
  have hsend := h.advance he (h.answers.send s.destination data)
  unfold Writer.deliver
  rw [h.send_eq hc he]
  cases ha : script.sendAnswer s.peer.transmitted data.length with
  | ok n => exact ⟨_, _, _, rfl, .sent ha, Peer.transmitted_send, hsend, ⟨rfl, rfl⟩⟩
  | error e =>
    dsimp only [Except.mapError]
    by_cases hl : e.isSizeLimit = true
    · rw [if_pos hl]
      rw [IoError.isSizeLimit_iff] at hl
      cases hs : scratch with
      | unusable cause =>
        exact ⟨_, _, _, rfl, .noFile ha hl rfl, Peer.transmitted_send, hsend, ⟨rfl, rfl⟩⟩
      | usable =>
        have hhand := hsend.advance he (hsend.answers.handOver s.destination data)
        have ht : (((s.peer.send s.destination data).2.handOver s.destination data).2).transmitted =
            s.peer.transmitted ++ [.send s.destination data, .handOver s.destination data] := by
          simp
        unfold sendOversized
        rw [hsend.handOver_eq hc he, Peer.transmitted_send, Script.handOverAnswer_send]
        cases hb : script.handOverAnswer s.peer.transmitted with
        | ok n => exact ⟨_, _, _, rfl, .handedOver ha hl rfl hb, ht, hhand, ⟨rfl, rfl⟩⟩
        | error cause => exact ⟨_, _, _, rfl, .notTaken ha hl rfl hb, ht, hhand, ⟨rfl, rfl⟩⟩
    · rw [if_neg hl]
      rw [IoError.isSizeLimit_iff, not_or] at hl
      exact ⟨_, _, _, rfl, .refused ha hl.1 hl.2, Peer.transmitted_send, hsend, ⟨rfl, rfl⟩⟩

end Session.Follows

namespace Writer

inductive Step
  | write (raw : List UInt8)
  | close
deriving DecidableEq, Repr

def step (w : Writer) : Step → Writer
  | .write raw => (w.write raw).2
  | .close => w.close

def run (w : Writer) (steps : List Step) : Writer :=
  steps.foldl step w

/-- What has gone out to the peer so far. -/
def transmitted (w : Writer) : List Event :=
  w.session.peer.transmitted

variable {script : Script} {w : Writer}

theorem write_spec (h : w.session.Follows script) (raw : List UInt8) :
    ∃ result w' events, w.write raw = (result, w') ∧
      Writes script w.scratch w.session.destination w.transmitted (w.isClosed = true) raw result
        events ∧
      w'.transmitted = w.transmitted ++ events ∧ w'.session.Follows script ∧
      w'.session.Resembles w.session ∧ w'.scratch = w.scratch := by
  unfold write transmitted isClosed
  cases hc : w.session.isClosed with
  | true =>
    rw [Session.connect_of_isClosed hc]
    exact ⟨_, _, _, rfl, .closed rfl, (List.append_nil _).symm, h, .refl _, rfl⟩
  | false =>
    cases hb : script.bindAnswer with
    | error e =>
      obtain ⟨s, hconnect, hs, hr, ht⟩ := h.connect_error hc hb
      rw [hconnect]
      exact ⟨_, _, [], rfl, .initialization nofun hb, by simpa using ht, hs, hr, rfl⟩
    | ok n =>
      obtain ⟨s, hconnect, he, hs, hr, ht⟩ := h.connect_ok hc hb
      rw [hconnect]
      cases hd : Entry.decode raw with
      | error e =>
        exact ⟨_, _, [], rfl, .decode nofun hb hd, by simpa using ht, hs, hr, rfl⟩
      | ok entry =>
        -- Connecting transmits nothing, so the answers due are those from before the call.
        rw [← hr.destination] at he
        obtain ⟨result, s', events, hdeliver, hdel, ht', hs', hr'⟩ :=
          hs.deliver (hr.isClosed.trans hc) he w.scratch (Wire.putEntry [] entry raw)
        simp only [Pool.checkout_fst, hdeliver]
        rw [hr.destination, ht] at hdel
        exact ⟨_, _, _, rfl, .delivered nofun hb hd hdel, ht ▸ ht', hs', hr'.trans hr, rfl⟩

/-- A point of a run: what the steps so far cannot have changed, and whether one closed the
writer. -/
structure Reached (start : Writer) (script : Script) (closed : Prop) (w : Writer) : Prop where
  follows : w.session.Follows script
  scratch : w.scratch = start.scratch
  socket : w.session.socket = start.session.socket
  isClosed : w.isClosed = true ↔ closed

namespace Reached

variable {start : Writer} {closed : Prop}

theorem ofSettings (settings : Settings) (scratch : Scratch) (script : Script) :
    Reached (ofSettings settings scratch script.peer) script False
      (ofSettings settings scratch script.peer) :=
  ⟨Session.follows_start script settings.socket, rfl, rfl, nofun, nofun⟩

theorem destination (h : Reached start script closed w) :
    w.session.destination = start.session.destination := by
  rw [Session.destination, h.socket, Session.destination]

theorem write (h : Reached start script closed w) (raw : List UInt8) :
    Reached start script closed (w.write raw).2 := by
  obtain ⟨result, w', events, hw, -, -, hf, hr, hs⟩ := write_spec h.follows raw
  rw [hw]
  refine ⟨hf, hs.trans h.scratch, hr.socket.trans h.socket, ?_⟩
  rw [Writer.isClosed, hr.isClosed]
  exact h.isClosed

theorem close (h : Reached start script closed w) : Reached start script True w.close :=
  ⟨h.follows.close, h.scratch, Session.socket_close.trans h.socket, iff_of_true rfl trivial⟩

theorem run (h : Reached start script False start) (steps : List Step) :
    Reached start script (.close ∈ steps) (start.run steps) := by
  induction steps using List.reverseRecOn with
  | nil => simpa [Writer.run] using h
  | append_singleton steps st ih =>
    rw [Writer.run, List.foldl_append]
    cases st with
    | write raw => simpa using! ih.write raw
    | close => simpa using! ih.close

end Reached

/-- At every point of a run a write comes to what its own record and the answers to it make of
it. -/
theorem write_after_run (settings : Settings) (scratch : Scratch) (script : Script)
    (steps : List Step) (raw : List UInt8) :
    let start := ofSettings settings scratch script.peer
    let w := start.run steps
    ∃ events, (w.write raw).2.transmitted = w.transmitted ++ events ∧
      Writes script scratch start.session.destination w.transmitted (.close ∈ steps) raw
        (w.write raw).1 events := by
  intro start w
  have h : Reached start script (.close ∈ steps) w := (Reached.ofSettings ..).run steps
  obtain ⟨result, w', events, hwrite, hw, ht, -⟩ := write_spec h.follows raw
  rw [hwrite]
  refine ⟨events, ht, ?_⟩
  rw [h.scratch, h.destination, propext h.isClosed] at hw
  exact hw

end Writer

end JournalSink
