import JournalSink.Proofs.Session.Lifecycle
import JournalSink.Proofs.Writer.Acceptance

/-! # What is submitted

Where an endpoint is to be had, the wire form of a record goes out in one datagram while
the record is written. All that may follow is one descriptor of a file with the same bytes.
Whether there is an endpoint is settled by the first write, so a list of records goes out
in as many datagrams, or not at all.
-/

namespace JournalSink

namespace Session

theorem transmitted_send (s : Session) (data : List UInt8) :
    (s.send data).2.peer.transmitted =
      s.peer.transmitted ++ (s.connect.1.toOption.map (.send · data)).toList := by
  have ht := transmitted_connect s
  unfold send
  generalize s.connect = c at ht ⊢
  rcases c with ⟨_ | target, s'⟩
  · simpa [Except.toOption] using ht
  · simpa [Except.toOption] using ht

theorem transmitted_handOver (s : Session) (data : List UInt8) :
    (s.handOver data).2.peer.transmitted =
      s.peer.transmitted ++ (s.connect.1.toOption.map (.handOver · data)).toList := by
  have ht := transmitted_connect s
  unfold handOver
  generalize s.connect = c at ht ⊢
  rcases c with ⟨_ | target, s'⟩
  · simpa [Except.toOption] using ht
  · simpa [Except.toOption] using ht

theorem transmitted_sendOversized (s : Session) (scratch : Scratch) (data : List UInt8) :
    ∃ fallback : Option String, (s.sendOversized scratch data).2.peer.transmitted =
      s.peer.transmitted ++ (fallback.map (.handOver · data)).toList := by
  cases scratch with
  | unusable => exact ⟨none, (List.append_nil _).symm⟩
  | usable =>
    rw [sendOversized_usable_snd, transmitted_handOver]
    exact ⟨_, rfl⟩

/-! ## Attempts -/

/-- A session that was connected, or could not be, answers so whatever becomes of its peer. -/
theorem connect_peer (s : Session) (p : Peer) :
    ({ s.connect.2 with peer := p } : Session).connect.1 = s.connect.1 := by
  cases hc : s.isClosed with
  | true => simp [connect, hc]
  | false =>
    cases he : s.endpoint with
    | bound d => simp [connect, hc, he]
    | failed e => simp [connect, hc, he]
    | untried =>
      rw [connect_of_untried hc he]
      cases s.peer.bind.1 <;> simp [connect, hc]

theorem send_snd (s : Session) (data : List UInt8) :
    ∃ p, (s.send data).2 = { s.connect.2 with peer := p } := by
  unfold send
  rcases s.connect with ⟨_ | target, s'⟩
  · exact ⟨s'.peer, rfl⟩
  · exact ⟨_, rfl⟩

theorem handOver_snd (s : Session) (data : List UInt8) :
    ∃ p, (s.handOver data).2 = { s.connect.2 with peer := p } := by
  unfold handOver
  rcases s.connect with ⟨_ | target, s'⟩
  · exact ⟨s'.peer, rfl⟩
  · exact ⟨_, rfl⟩

theorem connect_send (s : Session) (data : List UInt8) :
    (s.send data).2.connect.1 = s.connect.1 := by
  obtain ⟨p, hp⟩ := send_snd s data
  rw [hp, connect_peer]

theorem connect_handOver (s : Session) (data : List UInt8) :
    (s.handOver data).2.connect.1 = s.connect.1 := by
  obtain ⟨p, hp⟩ := handOver_snd s data
  rw [hp, connect_peer]

theorem connect_sendOversized (s : Session) (scratch : Scratch) (data : List UInt8) :
    (s.sendOversized scratch data).2.connect.1 = s.connect.1 := by
  cases scratch with
  | unusable => rfl
  | usable => rw [sendOversized_usable_snd, connect_handOver]

end Session

namespace Writer

variable {w : Writer} {raw : List UInt8} {entry : Entry}

theorem deliver_snd (s : Session) (scratch : Scratch) (data : List UInt8) :
    (deliver s scratch data).2 = (s.send data).2 ∨
      (deliver s scratch data).2 = ((s.send data).2.sendOversized scratch data).2 := by
  unfold deliver
  rcases s.send data with ⟨e | n, s'⟩
  · cases e with
    | transmission e =>
      dsimp only
      split_ifs
      · exact .inr rfl
      · exact .inl rfl
    | _ => exact .inl rfl
  · exact .inl rfl

theorem transmitted_deliver (s : Session) (scratch : Scratch) (data : List UInt8) :
    ∃ fallback : Option String, (deliver s scratch data).2.peer.transmitted =
      s.peer.transmitted ++ ((s.connect.1.toOption.map (.send · data)).toList ++
        (fallback.map (.handOver · data)).toList) := by
  rcases deliver_snd s scratch data with h | h
  · exact ⟨none, by rw [h, Session.transmitted_send]; simp⟩
  · obtain ⟨fallback, hf⟩ := Session.transmitted_sendOversized (s.send data).2 scratch data
    exact ⟨fallback, by rw [h, hf, Session.transmitted_send, List.append_assoc]⟩

/-- A write sends the wire form of its record to where the session is connected, once; what follows
the datagram is one descriptor for the same bytes at most. Without an endpoint nothing goes out. -/
theorem transmitted_write_decoded (hd : Entry.decode raw = .ok entry) :
    ∃ fallback : Option String, (w.write raw).2.transmitted =
      w.transmitted ++ ((w.session.connect.1.toOption.map
        (.send · (Wire.putEntry [] entry raw))).toList ++
          (fallback.map (.handOver · (Wire.putEntry [] entry raw))).toList) := by
  have ht := Session.transmitted_connect w.session
  have hagain := Session.connect_connect w.session
  unfold write transmitted
  generalize w.session.connect = c at ht hagain ⊢
  rcases c with ⟨_ | target, s⟩
  · exact ⟨none, by simpa [Except.toOption] using ht⟩
  · dsimp only at ht hagain
    obtain ⟨fallback, hf⟩ := transmitted_deliver s w.scratch (Wire.putEntry [] entry raw)
    simp only [hd, Pool.checkout_fst]
    exact ⟨fallback, by rw [hf, hagain, ht]⟩

theorem connect_deliver (s : Session) (scratch : Scratch) (data : List UInt8) :
    (deliver s scratch data).2.connect.1 = s.connect.1 := by
  rcases deliver_snd s scratch data with h | h
  · rw [h, Session.connect_send]
  · rw [h, Session.connect_sendOversized, Session.connect_send]

theorem connect_write (w : Writer) (raw : List UInt8) :
    (w.write raw).2.session.connect.1 = w.session.connect.1 := by
  have hagain := Session.connect_connect w.session
  unfold write
  generalize w.session.connect = c at hagain ⊢
  rcases c with ⟨_ | target, s⟩
  · rw [hagain]
  · cases Entry.decode raw with
    | error e => exact congrArg Prod.fst hagain
    | ok entry => exact (connect_deliver ..).trans (congrArg Prod.fst hagain)

theorem sent_write (hd : Entry.decode raw = .ok entry) : (w.write raw).2.session.peer.sent =
    w.session.peer.sent + if w.session.connect.1.isOk then 1 else 0 := by
  obtain ⟨fallback, ht⟩ := transmitted_write_decoded (w := w) hd
  have hfallback : (fallback.map (Event.handOver · (Wire.putEntry [] entry raw))).toList.countP
      Event.isSend = 0 := by
    cases fallback <;> rfl
  unfold transmitted at ht
  rw [Peer.sent, ht, List.countP_append, List.countP_append, hfallback, Peer.sent]
  cases w.session.connect.1 <;> rfl

/-- One datagram goes out for each record, whatever the answers, or none for any of them. -/
theorem sent_foldl_write (payloads : List (List UInt8)) (w : Writer)
    (hd : ∀ payload ∈ payloads, ∃ entry, Entry.decode payload = .ok entry) :
    (payloads.foldl (fun w payload => (w.write payload).2) w).session.peer.sent =
      w.session.peer.sent + if w.session.connect.1.isOk then payloads.length else 0 := by
  induction payloads generalizing w with
  | nil => simp
  | cons payload payloads ih =>
    obtain ⟨⟨entry, hentry⟩, hd⟩ := List.forall_mem_cons.1 hd
    rw [List.foldl_cons, ih _ hd, connect_write, sent_write hentry]
    split_ifs
    · rw [List.length_cons, Nat.add_assoc, Nat.add_comm 1]
    · rfl

end Writer

end JournalSink
