import JournalSink.Proofs.Writer.Delivery

/-! # Accepted datagrams

A datagram that is accepted is sent once, to where the session is connected, and
nothing else goes out with it.
-/

namespace JournalSink

namespace Session

variable {s : Session} {data : List UInt8} {n : Nat}

/-- The outcome of the first attempt is kept. -/
theorem connect_connect (s : Session) : s.connect.2.connect = s.connect := by
  rcases connect_snd s with h | ⟨hc, he⟩
  · rw [h]
  · rw [connect_of_untried hc he]
    cases s.peer.bind.1 <;> simp [connect, hc]

theorem send_connect (s : Session) (data : List UInt8) : s.connect.2.send data = s.send data := by
  rw [send, connect_connect, send]

theorem transmitted_connect (s : Session) :
    s.connect.2.peer.transmitted = s.peer.transmitted := by
  rcases connect_snd s with h | ⟨hc, he⟩
  · rw [h]
  · rw [connect_of_untried hc he]
    cases s.peer.bind.1 <;> exact Peer.transmitted_bind

theorem transmitted_of_send (h : (s.send data).1 = .ok n) :
    ∃ target, s.connect.1 = .ok target ∧
      (s.send data).2.peer.transmitted = s.peer.transmitted ++ [.send target data] := by
  have ht := transmitted_connect s
  unfold send at h ⊢
  rcases hc : s.connect with ⟨_ | target, s'⟩ <;> rw [hc] at h ht
  · cases h
  · refine ⟨target, rfl, ?_⟩
    rw [← ht]
    exact Peer.transmitted_send

end Session

namespace Writer

variable {w : Writer} {s : Session} {data raw : List UInt8} {entry : Entry} {n : Nat}

theorem deliver_of_send {scratch : Scratch} (h : (s.send data).1 = .ok n) :
    deliver s scratch data = s.send data := by
  unfold deliver
  rcases hs : s.send data with ⟨_ | _, _⟩
  · rw [hs] at h
    cases h
  · rfl

/-- What is accepted is sent once, to where the session is connected. -/
theorem transmitted_write (hd : Entry.decode raw = .ok entry)
    (h : (w.session.send (Wire.putEntry [] entry raw)).1 = .ok n) :
    ∃ target, w.session.connect.1 = .ok target ∧
      (w.write raw).2.transmitted =
        w.transmitted ++ [.send target (Wire.putEntry [] entry raw)] := by
  obtain ⟨target, hconnect, ht⟩ := Session.transmitted_of_send h
  refine ⟨target, hconnect, ?_⟩
  rw [← Session.send_connect] at h ht
  unfold write transmitted
  rcases hc : w.session.connect with ⟨result, s⟩
  rw [hc] at h ht hconnect
  cases hconnect
  simp only [hd, Pool.checkout_fst, deliver_of_send h]
  exact ht

end Writer

end JournalSink
