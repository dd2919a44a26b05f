import JournalSink.Entry
import JournalSink.Transport.Peer

/-! # Journal sessions

A session binds its endpoint when it is first needed, once and for all: the
outcome is kept and every later use is given the same. Closing releases the
endpoint, and a closed session stays closed.
-/

namespace JournalSink

inductive WriteError
  | initialization (e : IoError)
  | decode (e : DecodeError)
  | transmission (e : IoError)
  | fallback (e : IoError)
  | closed

def WriteError.message : WriteError → String
  | initialization e => "journal endpoint initialisation failed: " ++ e.message
  | decode e => "failed to decode log record: " ++ e.message
  | transmission e => "journal send failed: " ++ e.message
  | fallback e => "journal fd fallback failed: " ++ e.message
  | closed => "journal writer is closed"

inductive Endpoint
  | untried
  | bound (destination : String)
  | failed (e : IoError)
deriving DecidableEq, Repr

structure Session where
  socket : Option String := none
  endpoint : Endpoint := .untried
  isClosed : Bool := false
  peer : Peer := {}
deriving DecidableEq, Repr

namespace Session

/-- Where the journal listens. -/
def defaultSocket : String :=
  "/run/systemd/journal/socket"

/-- An empty path counts as none. -/
def destination (s : Session) : String :=
  match s.socket with
  | some path => if path.isEmpty then defaultSocket else path
  | none => defaultSocket

/-- The address to send to, binding the endpoint if that was not tried yet. -/
def connect (s : Session) : Except WriteError String × Session :=
  if s.isClosed then (.error .closed, s)
  else
    match s.endpoint with
    | .bound destination => (.ok destination, s)
    | .failed e => (.error (.initialization e), s)
    | .untried =>
      match s.peer.bind with
      | (.ok (), peer) =>
        (.ok s.destination, { s with endpoint := .bound s.destination, peer := peer })
      | (.error e, peer) =>
        (.error (.initialization e), { s with endpoint := .failed e, peer := peer })

def send (s : Session) (data : List UInt8) : Except WriteError Nat × Session :=
  match s.connect with
  | (.error e, s) => (.error e, s)
  | (.ok destination, s) =>
    let (result, peer) := s.peer.send destination data
    (result.mapError .transmission, { s with peer := peer })

/-- Passes on a descriptor of a file with the given content. -/
def handOver (s : Session) (data : List UInt8) : Except WriteError Nat × Session :=
  match s.connect with
  | (.error e, s) => (.error e, s)
  | (.ok destination, s) =>
    let (result, peer) := s.peer.handOver destination data
    (result.mapError .fallback, { s with peer := peer })

/-- Gives the endpoint back, if there is one. -/
def release (s : Session) : Session :=
  match s.endpoint with
  | .bound _ => { s with endpoint := .untried, peer := s.peer.unbind }
  | _ => { s with endpoint := .untried }

def close (s : Session) : Session :=
  { s.release with isClosed := true }

end Session

end JournalSink
