import JournalSink.Bridge
import JournalSink.Proofs.Handler.Parts
import JournalSink.Proofs.LogCall.Points
import JournalSink.Proofs.Payload.Reading
import JournalSink.Proofs.Writer.Acceptance

/-! # A log call as a datagram

A call is one datagram, and the datagram is read back as the fields that the call
stands for. No text in it can begin a field of its own.
-/

namespace JournalSink

open Text (utf8)

/-- The digit that a call of each verbosity is filed under. -/
def Verbosity.digit : Verbosity → UInt8
  | error => 0x33
  | warn => 0x34
  | info => 0x36
  | debug => 0x37
  | trace => 0x37

theorem Verbosity.levelDigit_level (v : Verbosity) :
    Priority.levelDigit (some v.level) = v.digit := by
  cases v <;> rfl

namespace Bridge

variable {b : Bridge} {c : LogCall} {now : Timestamp}

theorem log_of_isEnabled (h : b.isEnabled c = true) :
    b.log now c = ((b.handler.handle (c.toRecord now)).2.1,
      { b with handler := (b.handler.handle (c.toRecord now)).2.2 }) := by
  rw [log, if_pos h]

theorem map_fields_toRecord (c : LogCall) (now : Timestamp) :
    (Payload.fields (c.toRecord now)).map (fun (key, value) =>
        (utf8 (Wire.fieldName key), utf8 value)) =
      [(utf8 "TIME", utf8 now.text), (utf8 "LOGGER", utf8 (LogCall.loggerName c.target))] ++
      (if c.modulePath.getD "" = "" then []
        else [(utf8 "CODE_MODULE", utf8 (c.modulePath.getD ""))]) ++
      (if c.file.getD "" = "" then []
        else [(utf8 "CODE_FILE", utf8 (c.file.getD "")),
          (utf8 "CODE_LINE", utf8 (toString (c.line.getD 0)))]) := by
  have hnames : ["time", "logger", "code_module", "code_file", "code_line"].map Wire.fieldName =
      ["TIME", "LOGGER", "CODE_MODULE", "CODE_FILE", "CODE_LINE"] := by
    decide
  simp only [List.map_cons, List.map_nil, List.cons.injEq, and_true] at hnames
  obtain ⟨htime, hlogger, hmodule, hfile, hline⟩ := hnames
  unfold Payload.fields LogCall.toRecord
  split_ifs <;> simp [htime, hlogger, hmodule, hfile, hline]

/-- Every call that is let through is one datagram, sent once if it is accepted, and its texts are
read back as the values they were given as. -/
theorem datagram_of_log (b : Bridge) (now : Timestamp) (c : LogCall) (he : b.isEnabled c = true)
    (hw : now.isWritable = true) :
    ∃ line datagram pieces, Payload.ofRecord? (c.toRecord now) = some (line ++ [Ascii.newline]) ∧
      LogCall.Cut pieces c.target.toList ∧
      (∀ n, (b.handler.writer.session.send datagram).1 = .ok n →
        ∃ target, b.handler.writer.session.connect.1 = .ok target ∧
          (b.log now c).2.handler.writer.transmitted =
            b.handler.writer.transmitted ++ [.send target datagram]) ∧
      ((line ++ [Ascii.newline]).length < UInt64.size →
        Wire.read? datagram = some (
          [(utf8 "PRIORITY", [c.verbosity.digit]), (utf8 "MESSAGE", utf8 c.message),
            (utf8 "TIME", utf8 now.text),
            (utf8 "LOGGER", utf8 (String.ofList (pieces.map LogCall.Piece.image)))] ++
          (if c.modulePath.getD "" = "" then []
            else [(utf8 "CODE_MODULE", utf8 (c.modulePath.getD ""))]) ++
          (if c.file.getD "" = "" then []
            else [(utf8 "CODE_FILE", utf8 (c.file.getD "")),
              (utf8 "CODE_LINE", utf8 (toString (c.line.getD 0)))]) ++
          [(utf8 "JSON", line ++ [Ascii.newline])])) := by
  obtain ⟨line, hline⟩ := Payload.bytes_ends (c.toRecord now)
  obtain ⟨pieces, hcut⟩ := LogCall.exists_cut c.target.toList
  have hp := (Payload.ofRecord?_eq (c.toRecord now)).trans (if_pos hw)
  refine ⟨line, Wire.putEntry [] (Payload.entry (c.toRecord now)) (Payload.bytes (c.toRecord now)),
    pieces, hp.trans (congrArg some hline), hcut, ?_, ?_⟩
  · intro n hn
    rw [log_of_isEnabled he, Handler.handle_of_some hp]
    exact Writer.transmitted_write (Payload.decode_bytes _) hn
  · rw [← hline]
    intro hlength
    rw [Payload.read?_entry hlength nofun, map_fields_toRecord, LogCall.loggerName_eq,
      hcut.dotted_eq]
    simp [LogCall.toRecord, Verbosity.levelDigit_level]

theorem datagram_of_log_imitation :
    let b : Bridge := { handler := .ofSettings {} .usable {}, ceiling := .upTo .debug }
    let c : LogCall :=
      { verbosity := .debug, target := "a:::b::c\nJSON=\x7b", message := "first\nPRIORITY=0"
        modulePath := some "", file := some "\"é\"=" }
    b.isEnabled c = true ∧ Timestamp.epoch.isWritable = true ∧
      ∃ line datagram, Payload.ofRecord? (c.toRecord .epoch) = some (line ++ [Ascii.newline]) ∧
        (b.handler.writer.session.send datagram).1 = .ok datagram.length ∧
        (b.log .epoch c).2.handler.writer.transmitted =
          [.send "/run/systemd/journal/socket" datagram] ∧
        (line ++ [Ascii.newline]).length < UInt64.size ∧
        Wire.read? datagram = some [(utf8 "PRIORITY", [0x37]),
          (utf8 "MESSAGE", utf8 "first\nPRIORITY=0"),
          (utf8 "TIME", utf8 "1970-01-01T00:00:00.000000Z"),
          (utf8 "LOGGER", utf8 "a.:b.c\nJSON=\x7b"), (utf8 "CODE_FILE", utf8 "\"é\"="),
          (utf8 "CODE_LINE", utf8 "0"), (utf8 "JSON", line ++ [Ascii.newline])] := by
  intro b c
  have he : b.isEnabled c = true := by decide
  have hw : Timestamp.epoch.isWritable = true := by decide
  obtain ⟨line, datagram, pieces, hp, hcut, hsend, hread⟩ := datagram_of_log b .epoch c he hw
  have haccepted : (b.handler.writer.session.send datagram).1 = .ok datagram.length := rfl
  obtain ⟨target, hconnect, ht⟩ := hsend _ haccepted
  obtain rfl : "/run/systemd/journal/socket" = target := Except.ok.inj hconnect
  have hlength : ((Payload.ofRecord? (c.toRecord .epoch)).getD []).length < UInt64.size := by
    decide +kernel
  rw [hp] at hlength
  have htime : Timestamp.epoch.text = "1970-01-01T00:00:00.000000Z" := by decide
  have hlogger : String.ofList (pieces.map LogCall.Piece.image) = "a.:b.c\nJSON=\x7b" := by
    rw [← hcut.dotted_eq]
    decide
  have hmodule : c.modulePath.getD "" = "" := rfl
  have hfile : c.file.getD "" ≠ "" := by decide
  have hline : toString (c.line.getD 0) = "0" := by decide
  have hfields := hread hlength
  rw [htime, hlogger, if_pos hmodule, if_neg hfile, hline] at hfields
  exact ⟨he, hw, line, datagram, hp, haccepted, ht, hlength, hfields⟩

end Bridge

end JournalSink
