import JournalSink.Settings
import JournalSink.Wire.Encode

/-! # Journal writers

A writer takes raw records, one JSON object each. It sees to its endpoint first
and to the record second, and sends what it decoded as one datagram. A datagram
refused for its size goes by the fallback instead; nothing else is tried twice.
-/

namespace JournalSink

structure Writer where
  session : Session
  pool : Pool
  directory : String
  scratch : Scratch

namespace Writer

def ofSettings (s : Settings) (scratch : Scratch) (peer : Peer) : Writer where
  session := { socket := s.socket, peer := peer }
  pool := { capacity := s.poolCapacity }
  directory := s.directory
  scratch := scratch

/-- Sends a datagram, or hands it over when it is too large for one. -/
def deliver (s : Session) (scratch : Scratch) (data : List UInt8) :
    Except WriteError Nat × Session :=
  match s.send data with
  | (.error (.transmission e), s) =>
    if e.isSizeLimit then s.sendOversized scratch data else (.error (.transmission e), s)
  | (result, s) => (result, s)

def write (w : Writer) (raw : List UInt8) : Except WriteError Nat × Writer :=
  match w.session.connect with
  | (.error e, s) => (.error e, { w with session := s })
  | (.ok _, s) =>
    match Entry.decode raw with
    | .error e => (.error (.decode e), { w with session := s })
    | .ok entry =>
      let (buffer, pool) := w.pool.checkout
      let data := Wire.putEntry buffer entry raw
      let (result, s) := deliver s w.scratch data
      (result, { w with session := s, pool := pool.release data })

def close (w : Writer) : Writer :=
  { w with session := w.session.close }

def isClosed (w : Writer) : Bool :=
  w.session.isClosed

/-- Lets go of a writer that is no longer used. -/
def drop (w : Writer) : Writer :=
  { w with session := w.session.release }

end Writer

end JournalSink
