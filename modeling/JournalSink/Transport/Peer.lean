import JournalSink.Transport.IoError

/-! # The other side of a socket

All that a session asks of the system is asked of its peer. A peer answers each
kind of request in the order of a list, and with success behind its end. It
keeps the requests, oldest first.
-/

namespace JournalSink

inductive Answer
  | success
  /-- Success, reporting a number of bytes of its own. -/
  | accepted (bytes : Nat)
  | failure (e : IoError)
deriving DecidableEq, Repr

inductive Event
  | bind
  | send (destination : String) (data : List UInt8)
  /-- A descriptor is passed on; `data` is the whole content of its file. -/
  | handOver (destination : String) (data : List UInt8)
  | unbind
deriving DecidableEq, Repr

structure Peer where
  binds : List Answer := []
  sends : List Answer := []
  handOvers : List Answer := []
  trace : List Event := []
deriving DecidableEq, Repr

namespace Answer

def result (a : Answer) (size : Nat) : Except IoError Nat :=
  match a with
  | success => .ok size
  | accepted bytes => .ok bytes
  | failure e => .error e

end Answer

namespace Peer

def bind (p : Peer) : Except IoError Unit × Peer :=
  let result :=
    match (p.binds.headD .success).result 0 with
    | .ok _ => .ok ()
    | .error e => .error e
  (result, { p with binds := p.binds.tail, trace := p.trace ++ [.bind] })

def send (p : Peer) (destination : String) (data : List UInt8) : Except IoError Nat × Peer :=
  ((p.sends.headD .success).result data.length,
    { p with sends := p.sends.tail, trace := p.trace ++ [.send destination data] })

def handOver (p : Peer) (destination : String) (data : List UInt8) : Except IoError Nat × Peer :=
  ((p.handOvers.headD .success).result 0,
    { p with handOvers := p.handOvers.tail, trace := p.trace ++ [.handOver destination data] })

def unbind (p : Peer) : Peer :=
  { p with trace := p.trace ++ [.unbind] }

end Peer

end JournalSink
