import Mathlib.Data.List.Induction
import JournalSink.Fallback
import JournalSink.Proofs.Session.Tracking

/-! # The life of a session

The whole trace of a session is one bind at most, then what was sent, then one
release if the bind succeeded. Nothing is sent unless it did, and all goes to one
destination; a closed session asks for nothing any more.
-/

namespace JournalSink

/-- A datagram or a descriptor for the given destination. -/
def Event.GoesTo (destination : String) (ev : Event) : Prop :=
  ∃ data, ev = .send destination data ∨ ev = .handOver destination data

/-- What a peer is told when an endpoint is let go of. -/
def Endpoint.farewell : Endpoint → List Event
  | .bound _ => [.unbind]
  | _ => []

namespace Session

variable {script : Script} {s s' : Session} {e : IoError} {w : WriteError} {data : List UInt8}

inductive Step
  | connect
  | send (data : List UInt8)
  | handOver (data : List UInt8)
  | sendOversized (scratch : Scratch) (data : List UInt8)
  | close
deriving DecidableEq, Repr

def step (s : Session) : Step → Session
  | .connect => s.connect.2
  | .send data => (s.send data).2
  | .handOver data => (s.handOver data).2
  | .sendOversized scratch data => (s.sendOversized scratch data).2
  | .close => s.close

def run (s : Session) (steps : List Step) : Session :=
  steps.foldl step s

/-! ## Stages -/

/-- Whether a session is closed, its endpoint, and the trace that it has left so far. -/
inductive Stage (script : Script) (target : String) : Bool → Endpoint → List Event → Prop
  | unused {closed : Bool} : Stage script target closed .untried []
  | failed {e : IoError} : script.bindAnswer = .error e →
      Stage script target false (.failed e) [.bind]
  | failedClosed {e : IoError} : script.bindAnswer = .error e →
      Stage script target true .untried [.bind]
  | bound {n : Nat} {events : List Event} : script.bindAnswer = .ok n →
      (∀ ev ∈ events, ev.GoesTo target) →
      Stage script target false (.bound target) (.bind :: events)
  | released {n : Nat} {events : List Event} : script.bindAnswer = .ok n →
      (∀ ev ∈ events, ev.GoesTo target) →
      Stage script target true .untried (.bind :: events ++ [.unbind])

namespace Stage

variable {target : String} {closed : Bool} {ep : Endpoint} {trace : List Event} {n : Nat}

theorem of_bound {d : String} (h : Stage script target closed (.bound d) trace) :
    d = target ∧ closed = false ∧ ∃ n events, script.bindAnswer = .ok n ∧
      (∀ ev ∈ events, ev.GoesTo target) ∧ trace = .bind :: events := by
  cases h with
  | bound hb hev => exact ⟨rfl, rfl, _, _, hb, hev, rfl⟩

theorem of_untried (h : Stage script target false .untried trace) : trace = [] := by
  cases h
  rfl

theorem endpoint_of_closed (h : Stage script target true ep trace) : ep = .untried := by
  cases h <;> rfl

theorem close (h : Stage script target closed ep trace) :
    Stage script target true .untried (trace ++ ep.farewell) := by
  cases h with
  | unused => exact .unused
  | failed hb | failedClosed hb => exact .failedClosed hb
  | bound hb hev => exact .released hb hev
  | released hb hev => simpa [Endpoint.farewell] using .released hb hev

theorem count_bind (h : Stage script target closed ep trace) :
    (trace ++ ep.farewell).count .bind ≤ 1 := by
  have hsent {events : List Event} (hev : ∀ ev ∈ events, ev.GoesTo target) :
      events.count .bind = 0 := by
    rw [List.count_eq_zero]
    intro hm
    obtain ⟨_, h | h⟩ := hev _ hm <;> cases h
  cases h with
  | unused | failed | failedClosed => simp [Endpoint.farewell]
  | bound _ hev | released _ hev => simp [Endpoint.farewell, hsent hev]

theorem unused_of_bind_not_mem (h : Stage script target closed ep trace)
    (hm : .bind ∉ trace) : trace ++ ep.farewell = [] := by
  cases h with
  | unused => rfl
  | failed | failedClosed | bound | released => cases hm (by simp)

theorem of_error (h : Stage script target closed ep trace) (hb : script.bindAnswer = .error e) :
    ∀ ev ∈ trace ++ ep.farewell, ev = .bind := by
  cases h with
  | unused => nofun
  | failed | failedClosed => simp [Endpoint.farewell]
  | bound hb' | released hb' => cases hb.symm.trans hb'

theorem of_ok (h : Stage script target closed ep trace) (hb : script.bindAnswer = .ok n)
    (hm : .bind ∈ trace) : ∃ events, (∀ ev ∈ events, ev.GoesTo target) ∧
      (closed = false → trace = .bind :: events) ∧
      (closed = true → trace = .bind :: events ++ [.unbind]) ∧
      trace ++ ep.farewell = .bind :: events ++ [.unbind] := by
  cases h with
  | unused => cases hm
  | failed hb' | failedClosed hb' => cases hb.symm.trans hb'
  | bound _ hev => exact ⟨_, hev, fun _ => rfl, nofun, rfl⟩
  | released _ hev => exact ⟨_, hev, nofun, fun _ => rfl, by simp [Endpoint.farewell]⟩

end Stage

/-! ## Single steps -/

theorem trace_release : s.release.peer.trace = s.peer.trace ++ s.endpoint.farewell := by
  unfold release
  cases s.endpoint <;> simp [Endpoint.farewell, Peer.unbind]

theorem bound_of_connect {d : String} (h : s.connect = (.ok d, s')) : s'.endpoint = .bound d := by
  unfold connect at h
  split at h
  · cases h
  · split at h
    · cases h; assumption
    · cases h
    · split at h <;> cases h
      rfl

theorem sendOversized_usable_snd : (s.sendOversized .usable data).2 = (s.handOver data).2 := by
  unfold sendOversized
  rcases s.handOver data with ⟨_ | _, _⟩ <;> rfl

theorem sendOversized_of_isClosed (hc : s.isClosed = true) (scratch : Scratch) :
    s.sendOversized scratch data =
      (match scratch with
        | .usable => .error .closed
        | .unusable e => .error (.fallback e), s) := by
  cases scratch with
  | usable => simp [sendOversized, handOver, connect_of_isClosed hc]
  | unusable e => rfl

theorem step_of_isClosed (hc : s.isClosed = true) (he : s.endpoint = .untried) (st : Step) :
    s.step st = s := by
  cases st with
  | connect => rw [step, connect_of_isClosed hc]
  | send data => simp [step, send, connect_of_isClosed hc]
  | handOver data => simp [step, handOver, connect_of_isClosed hc]
  | sendOversized scratch data => rw [step, sendOversized_of_isClosed hc]
  | close =>
    obtain ⟨socket, endpoint, isClosed, peer⟩ := s
    cases hc
    cases he
    rfl

theorem Follows.connect (h : s.Follows script) :
    s.connect.2.Follows script ∧ s.connect.2.Resembles s := by
  cases hc : s.isClosed with
  | true =>
    rw [connect_of_isClosed hc]
    exact ⟨h, .refl s⟩
  | false =>
    cases hb : script.bindAnswer with
    | error e =>
      obtain ⟨s', hconnect, hf, hr, -⟩ := h.connect_error hc hb
      rw [hconnect]
      exact ⟨hf, hr⟩
    | ok n =>
      obtain ⟨s', hconnect, -, hf, hr, -⟩ := h.connect_ok hc hb
      rw [hconnect]
      exact ⟨hf, hr⟩

/-! ## Runs -/

/-- A session at some point of a run, and whether a step closed it before. -/
structure Reached (script : Script) (socket : Option String) (closed : Prop) (s : Session) :
    Prop where
  follows : s.Follows script
  socket : s.socket = socket
  isClosed : s.isClosed = true ↔ closed
  stage : Stage script s.destination s.isClosed s.endpoint s.peer.trace

namespace Reached

variable {socket : Option String} {closed : Prop}

theorem start (script : Script) (socket : Option String) :
    Reached script socket False { socket := socket, peer := script.peer } :=
  ⟨follows_start script socket, rfl, ⟨nofun, nofun⟩, .unused⟩

theorem not_isClosed (h : Reached script socket closed s) (hc : ¬ closed) : s.isClosed = false := by
  rw [← Bool.not_eq_true, h.isClosed]
  exact hc

theorem stage_connect (h : Reached script socket closed s) :
    Stage script s.connect.2.destination s.connect.2.isClosed s.connect.2.endpoint
      s.connect.2.peer.trace := by
  rcases connect_snd s with hs | ⟨hc, he⟩
  · rw [hs]
    exact h.stage
  · have hs := h.stage
    rw [hc, he] at hs
    rw [connect_of_untried hc he, h.follows.bind_fst hc he]
    cases hb : script.bindAnswer with
    | error e => simpa [Except.map, Peer.bind, hc, hs.of_untried] using .failed hb
    | ok n => simpa [Except.map, Peer.bind, hc, hs.of_untried] using .bound hb (by simp)

theorem connect (h : Reached script socket closed s) :
    Reached script socket closed s.connect.2 := by
  obtain ⟨hf, hr⟩ := h.follows.connect
  exact ⟨hf, hr.socket.trans h.socket, by rw [hr.isClosed]; exact h.isClosed, h.stage_connect⟩

/-- What is sent from a bound endpoint keeps it at its stage. -/
theorem transmit {d : String} {ev : Event} {p : Peer} (h : Reached script socket closed s)
    (he : s.endpoint = .bound d) (hp : script.Answers p) (hev : ev.GoesTo d)
    (ht : p.trace = s.peer.trace ++ [ev]) : Reached script socket closed { s with peer := p } := by
  refine ⟨h.follows.advance he hp, h.socket, h.isClosed, ?_⟩
  have hs := h.stage
  rw [he] at hs
  obtain ⟨rfl, hc, n, events, hb, hevents, htrace⟩ := hs.of_bound
  rw [htrace] at ht
  dsimp only
  rw [he, hc, ht]
  exact .bound hb (List.forall_mem_append.2 ⟨hevents, List.forall_mem_singleton.2 hev⟩)

theorem send (h : Reached script socket closed s) (data : List UInt8) :
    Reached script socket closed (s.send data).2 := by
  have h' := h.connect
  unfold Session.send
  rcases hconnect : s.connect with ⟨_ | d, s'⟩ <;> rw [hconnect] at h'
  · exact h'
  · exact h'.transmit (bound_of_connect hconnect) (h'.follows.answers.send ..) ⟨data, .inl rfl⟩ rfl

theorem handOver (h : Reached script socket closed s) (data : List UInt8) :
    Reached script socket closed (s.handOver data).2 := by
  have h' := h.connect
  unfold Session.handOver
  rcases hconnect : s.connect with ⟨_ | d, s'⟩ <;> rw [hconnect] at h'
  · exact h'
  · exact h'.transmit (bound_of_connect hconnect) (h'.follows.answers.handOver ..)
      ⟨data, .inr rfl⟩ rfl

theorem sendOversized (h : Reached script socket closed s) (scratch : Scratch)
    (data : List UInt8) : Reached script socket closed (s.sendOversized scratch data).2 := by
  cases scratch with
  | usable =>
    rw [sendOversized_usable_snd]
    exact h.handOver data
  | unusable e => exact h

theorem close (h : Reached script socket closed s) : Reached script socket True s.close := by
  refine ⟨h.follows.close, socket_close.trans h.socket, iff_of_true rfl trivial, ?_⟩
  have hs := h.stage.close
  rw [← trace_release] at hs
  have hd : s.close.destination = s.destination := by
    rw [destination, socket_close, destination]
  have he : s.close.endpoint = .untried := by
    unfold Session.close release
    split <;> rfl
  rw [hd, he]
  exact hs

theorem run (h : Reached script socket False s) (steps : List Step) :
    Reached script socket (.close ∈ steps) (s.run steps) := by
  induction steps using List.reverseRecOn with
  | nil => simpa [Session.run] using h
  | append_singleton steps st ih =>
    rw [Session.run, List.foldl_append]
    cases st with
    | connect => simpa using! ih.connect
    | send data => simpa using! ih.send data
    | handOver data => simpa using! ih.handOver data
    | sendOversized scratch data => simpa using! ih.sendOversized scratch data
    | close => simpa using! ih.close

end Reached

/-! ## The whole life -/

/-- Whoever needs the endpoint is given the same error. -/
def Refuses (s : Session) (w : WriteError) : Prop :=
  s.connect.1 = .error w ∧ ∀ data, (s.send data).1 = .error w ∧ (s.handOver data).1 = .error w

theorem refuses_of_connect (h : s.connect = (.error w, s')) : s.Refuses w := by
  simp [Refuses, send, handOver, h]

/-- How a session conducts itself from a point of a run on; `s.release` is what becomes of it if it
is let go of there. -/
structure Conduct (script : Script) (target : String) (closed : Prop) (s : Session) : Prop where
  bindOnce : s.release.peer.trace.count .bind ≤ 1
  unused : .bind ∉ s.peer.trace → s.release.peer.trace = []
  failed : ∀ e, script.bindAnswer = .error e →
    (∀ ev ∈ s.release.peer.trace, ev = .bind) ∧ (¬ closed → s.Refuses (.initialization e))
  /-- The endpoint is released by the first close after the bind, or else in the end. -/
  bound : ∀ n, script.bindAnswer = .ok n → .bind ∈ s.peer.trace →
    ∃ events, (∀ ev ∈ events, ev.GoesTo target) ∧
      (¬ closed → s.peer.trace = .bind :: events) ∧
      (closed → s.peer.trace = .bind :: events ++ [.unbind]) ∧
      s.release.peer.trace = .bind :: events ++ [.unbind]
  sends : ∀ n, script.bindAnswer = .ok n → ¬ closed → s.connect.1 = .ok target ∧
    ∀ data, (s.send data).2.peer.trace = s.connect.2.peer.trace ++ [.send target data] ∧
      (s.handOver data).2.peer.trace = s.connect.2.peer.trace ++ [.handOver target data]
  closed : closed → s.isClosed = true ∧ (∀ st, s.step st = s) ∧
    s.release.peer.trace = s.peer.trace ∧ s.Refuses .closed ∧
    ∀ scratch data, (s.sendOversized scratch data).1 =
      match scratch with
      | .usable => .error .closed
      | .unusable e => .error (.fallback e)

theorem Reached.conduct {socket : Option String} {closed : Prop}
    (h : Reached script socket closed s) : Conduct script s.destination closed s := by
  constructor
  · rw [trace_release]
    exact h.stage.count_bind
  · rw [trace_release]
    exact h.stage.unused_of_bind_not_mem
  · intro e hb
    rw [trace_release]
    refine ⟨h.stage.of_error hb, fun hc => ?_⟩
    obtain ⟨s', hconnect, -⟩ := h.follows.connect_error (h.not_isClosed hc) hb
    exact refuses_of_connect hconnect
  · intro n hb hm
    rw [trace_release]
    obtain ⟨events, hev, hopen, hclosed, hwhole⟩ := h.stage.of_ok hb hm
    exact ⟨events, hev, fun hc => hopen (h.not_isClosed hc), fun hc => hclosed (h.isClosed.2 hc),
      hwhole⟩
  · intro n hb hc
    obtain ⟨s', hconnect, -⟩ := h.follows.connect_ok (h.not_isClosed hc) hb
    unfold Session.send Session.handOver
    rw [hconnect]
    exact ⟨rfl, fun data => ⟨rfl, rfl⟩⟩
  · intro hc
    have hclosed := h.isClosed.2 hc
    have he : s.endpoint = .untried := (hclosed ▸ h.stage).endpoint_of_closed
    refine ⟨hclosed, step_of_isClosed hclosed he, ?_,
      refuses_of_connect (connect_of_isClosed hclosed), fun scratch data => ?_⟩
    · rw [trace_release, he]
      exact List.append_nil _
    · rw [sendOversized_of_isClosed hclosed]

/-- At every point of every run, a session has bound its endpoint once at most, has sent nothing
but to its one destination, and releases the endpoint once. -/
theorem conduct_of_run (socket : Option String) (script : Script) (steps : List Step) :
    let start : Session := { socket := socket, peer := script.peer }
    let target := if socket.getD "" = "" then "/run/systemd/journal/socket" else socket.getD ""
    Conduct script target (.close ∈ steps) (start.run steps) := by
  intro start target
  have h := (Reached.start script socket).run steps
  have hd : (start.run steps).destination = target := by
    rw [destination, h.socket]
    cases socket <;> simp [target, defaultSocket, String.isEmpty_iff]
  exact hd ▸ h.conduct

end Session

end JournalSink
