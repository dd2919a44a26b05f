import JournalSink.Proofs.Payload.Reading
import JournalSink.Proofs.Timestamp.Moment

/-! # The order of times

Numbers in a fixed layout are in the order of their texts. The texts of timestamps are laid
out in this way while their years have four digits, so they are sorted byte by byte as the
instants are that they stand for.
-/

namespace JournalSink

open Text (utf8)
open Payload (encode encode_append encode_cons)

namespace Timestamp

variable {a b width : Nat} {cs : List Char} {formats : List (Nat × Char)} {ns ns' : List Nat}
  {t t' : Timestamp}

/-! ## Fixed layouts -/

theorem append_lt_append {l l' : List UInt8} (hlength : l.length = l'.length) (h : l < l')
    (s s' : List UInt8) : l ++ s < l' ++ s' := by
  induction l generalizing l' with
  | nil =>
    rw [List.eq_nil_of_length_eq_zero hlength.symm] at h
    exact absurd h (List.lt_irrefl _)
  | cons x l ih =>
    obtain ⟨x', l', rfl⟩ := List.exists_cons_of_length_eq_add_one hlength.symm
    rw [List.cons_append, List.cons_append, List.cons_lt_cons_iff]
    rcases List.cons_lt_cons_iff.1 h with hx | ⟨hx, hl⟩
    · exact .inl hx
    · exact .inr ⟨hx, ih (Nat.succ.inj hlength) hl⟩

theorem length_encode (h : ∀ c ∈ cs, c.isDigit = true) : (encode cs).length = cs.length := by
  induction cs with
  | nil => rfl
  | cons c cs ih =>
    obtain ⟨hc, hcs⟩ := List.forall_mem_cons.1 h
    obtain ⟨x, hx, -⟩ := Payload.encode_digit hc
    rw [encode_cons, hx, List.length_append, ih hcs, List.length_singleton, List.length_cons,
      Nat.add_comm]

theorem length_encode_padded (hw : 0 < width) (ha : a < 10 ^ width) :
    (encode (padded width a)).length = width := by
  rw [length_encode isDigit_of_mem_padded, length_padded hw ha]

/-- The last digit comes off the end. -/
theorem padded_succ (hw : 0 < width) (a : Nat) :
    padded (width + 1) a = padded width (a / 10) ++ [Nat.digitChar (a % 10)] := by
  rcases Nat.lt_or_ge a 10 with ha | ha
  · rw [padded, padded, Nat.toDigits_of_lt_base ha, Nat.div_eq_of_lt ha, Nat.mod_eq_of_lt ha]
    obtain ⟨w, rfl⟩ := Nat.exists_eq_add_one.2 hw
    simp [List.replicate_succ', Nat.digitChar]
  · rw [padded, padded, Nat.toDigits_of_base_le (by decide) ha]
    simp

theorem encode_padded_lt (hw : 0 < width) (hb : b < 10 ^ width) (h : a < b) :
    encode (padded width a) < encode (padded width b) := by
  have hdigit : ∀ b < 10, ∀ a < b, encode [Nat.digitChar a] < encode [Nat.digitChar b] := by
    decide
  induction width generalizing a b with
  | zero => cases hw
  | succ width ih =>
    rcases Nat.eq_zero_or_pos width with rfl | hpos
    · rw [zero_add, pow_one] at hb
      rw [padded, padded, Nat.toDigits_of_lt_base hb, Nat.toDigits_of_lt_base (h.trans hb)]
      exact hdigit b hb a h
    · rw [padded_succ hpos, padded_succ hpos, encode_append, encode_append]
      rw [pow_succ] at hb
      rcases Nat.lt_or_ge (a / 10) (b / 10) with hlt | hge
      · have hlength : (encode (padded width (a / 10))).length =
            (encode (padded width (b / 10))).length := by
          rw [length_encode_padded hpos (by omega), length_encode_padded hpos (by omega)]
        exact append_lt_append hlength (ih hpos (by omega) hlt) _ _
      · rw [show a / 10 = b / 10 by omega]
        exact List.append_left_lt (hdigit _ (by omega) _ (by omega))

/-- Numbers in a layout: each is as wide as it says, with a mark behind it. -/
def layout : List (Nat × Char) → List Nat → List Char
  | (width, mark) :: formats, n :: ns => padded width n ++ mark :: layout formats ns
  | _, _ => []

def Fits (formats : List (Nat × Char)) (ns : List Nat) : Prop :=
  List.Forall₂ (fun format n => 0 < format.1 ∧ n < 10 ^ format.1) formats ns

theorem encode_layout_lt (h : Fits formats ns) (h' : Fits formats ns') (hlt : ns < ns') :
    encode (layout formats ns) < encode (layout formats ns') := by
  induction h generalizing ns' with
  | nil =>
    cases h'
    exact absurd hlt (List.lt_irrefl _)
  | cons hn _ ih =>
    obtain _ | ⟨hn', h'⟩ := h'
    rw [layout, layout, encode_append, encode_append, encode_cons, encode_cons]
    rcases List.cons_lt_cons_iff.1 hlt with hhead | ⟨rfl, htail⟩
    · have hlength := (length_encode_padded hn.1 hn.2).trans (length_encode_padded hn'.1 hn'.2).symm
      exact append_lt_append hlength (encode_padded_lt hn.1 hn'.2 hhead) _ _
    · exact List.append_left_lt (List.append_left_lt (ih h' htail))

/-! ## Times in a layout -/

def timeFormats : List (Nat × Char) :=
  [(4, '-'), (2, '-'), (2, 'T'), (2, ':'), (2, ':'), (2, '.'), (6, 'Z')]

def numbers (t : Timestamp) : List Nat :=
  [t.date.year.toNat, t.date.month, t.date.day, t.moment.hour, t.moment.minute, t.moment.second,
    t.moment.micro]

/-- Years that are written with four digits. -/
def HasPlainYear (t : Timestamp) : Prop :=
  0 ≤ t.date.year ∧ t.date.year ≤ 9999

theorem HasPlainYear.text (h : t.HasPlainYear) :
    t.text.toList = layout timeFormats t.numbers := by
  simp [Timestamp.text, yearText, if_pos (show _ ∧ _ from h), layout, timeFormats, numbers, moment]

theorem HasPlainYear.fits (h : t.HasPlainYear) : Fits timeFormats t.numbers := by
  have hvalid := t.isValid_moment
  have hyear : t.date.year.toNat < 10 ^ 4 := by
    have := h.2
    omega
  have hhour : t.moment.hour < 10 ^ 2 := Nat.lt_trans hvalid.hour (by decide)
  have hminute : t.moment.minute < 10 ^ 2 := Nat.lt_trans hvalid.minute (by decide)
  have hsecond : t.moment.second < 10 ^ 2 := Nat.lt_trans hvalid.second (by decide)
  have hmicro : t.moment.micro < 10 ^ 6 := hvalid.micro
  simp only [Fits, timeFormats, numbers, List.forall₂_cons, List.forall₂_nil_left_iff, and_true]
  exact ⟨⟨by decide, hyear⟩, ⟨by decide, t.month_lt⟩, ⟨by decide, t.day_lt⟩, ⟨by decide, hhour⟩,
    ⟨by decide, hminute⟩, ⟨by decide, hsecond⟩, by decide, hmicro⟩

/-- The parts of a timestamp that its text is made of. -/
theorem micros_eq (t : Timestamp) : t.micros =
    (t.seconds / 86400 * 86400 + t.secondOfDay) * 1000000 + (t.nanos / 1000 : Nat) := by
  unfold micros secondOfDay
  omega

theorem text_congr (h : t.micros = t'.micros) : t.text = t'.text := by
  have hs := t.secondOfDay_lt
  have hs' := t'.secondOfDay_lt
  have hn := t.nanos.isLt
  have hn' := t'.nanos.isLt
  rw [micros_eq, micros_eq] at h
  have hday : t.seconds / 86400 = t'.seconds / 86400 := by omega
  have hsecond : t.secondOfDay = t'.secondOfDay := by omega
  have hmicro : t.nanos.val / 1000 = t'.nanos.val / 1000 := by omega
  rw [text, text, date, date, hday, hsecond, hmicro]

theorem micros_congr (h : t.text = t'.text) : t.micros = t'.micros := by
  have hread := t.read?_text
  rw [h, read?_text, Option.some.injEq] at hread
  rw [← toMicros_moment, ← toMicros_moment, hread]

theorem numbers_lt (h : t.HasPlainYear) (h' : t'.HasPlainYear) (hlt : t.micros < t'.micros) :
    t.numbers < t'.numbers := by
  have hs := t.secondOfDay_lt
  have hs' := t'.secondOfDay_lt
  have hn := t.nanos.isLt
  have hn' := t'.nanos.isLt
  rw [micros_eq, micros_eq] at hlt
  simp only [numbers, List.cons_lt_cons_iff]
  rcases Int.lt_trichotomy (t.seconds / 86400) (t'.seconds / 86400) with hday | hday | hday
  · have hprec : t.date.Precedes t'.date := by
      refine Date.precedes_of_toDays_lt ?_ t.isValid_moment.date t'.isValid_moment.date
      rwa [date, date, (Date.ofDays_spec _).2, (Date.ofDays_spec _).2]
    obtain ⟨hyear, -⟩ := h
    obtain ⟨hyear', -⟩ := h'
    unfold Date.Precedes at hprec
    omega
  · have hdate : t.date = t'.date := congrArg Date.ofDays hday
    rw [hdate]
    simp only [moment, lt_irrefl, true_and, false_or]
    omega
  · omega

theorem utf8_text_lt (h : t.HasPlainYear) (h' : t'.HasPlainYear) (hlt : t.micros < t'.micros) :
    utf8 t.text < utf8 t'.text := by
  rw [utf8, utf8, h.text, h'.text]
  exact encode_layout_lt h.fits h'.fits (numbers_lt h h' hlt)

theorem utf8_text_lt_iff (h : t.HasPlainYear) (h' : t'.HasPlainYear) :
    utf8 t.text < utf8 t'.text ↔ t.micros < t'.micros := by
  refine ⟨fun hlt => ?_, utf8_text_lt h h'⟩
  rcases Int.lt_trichotomy t.micros t'.micros with hm | hm | hm
  · exact hm
  · rw [text_congr hm] at hlt
    exact absurd hlt (List.lt_irrefl _)
  · exact absurd hlt (List.lt_asymm (utf8_text_lt h' h hm))

/-- The time of a record says its timestamp, rounded down to a microsecond; and times with years of
four digits are in the order of their texts. -/
theorem time_of_record :
    (∀ r : LogRecord, -8334601228800 ≤ r.timestamp.seconds → r.timestamp.seconds ≤ 8210266876799 →
      ∃ payload fields m, Payload.ofRecord? r = some payload ∧
        Entry.decode payload = .ok
          { level := some r.level
            message := r.message
            fields := ("time", r.timestamp.text) :: fields } ∧
        Moment.read? r.timestamp.text.toList = some m ∧ m.IsValid ∧ m.date = r.timestamp.date ∧
        m.toMicros = r.timestamp.micros) ∧
    ∀ t t' : Timestamp, t.HasPlainYear → t'.HasPlainYear →
      (utf8 t.text < utf8 t'.text ↔ t.micros < t'.micros) ∧
        (t.text = t'.text ↔ t.micros = t'.micros) := by
  constructor
  · intro r hlo hhi
    have hwritable : r.timestamp.isWritable = true := by simp [isWritable, hlo, hhi]
    exact ⟨Payload.bytes r, _, r.timestamp.moment,
      (Payload.ofRecord?_eq r).trans (if_pos hwritable), Payload.decode_bytes r,
      r.timestamp.read?_text, r.timestamp.isValid_moment, rfl, r.timestamp.toMicros_moment⟩
  · intro t t' h h'
    exact ⟨utf8_text_lt_iff h h', micros_congr, text_congr⟩

/-- Half a microsecond before the epoch, and the leap day of the year 2000. -/
theorem time_of_record_before_epoch :
    let r : LogRecord :=
      { logger := "app", level := .info, message := "", timestamp := ⟨-1, 999999500⟩ }
    let t : Timestamp := ⟨951782400, 0⟩
    (-8334601228800 ≤ r.timestamp.seconds ∧ r.timestamp.seconds ≤ 8210266876799 ∧
      ∃ payload fields m, Payload.ofRecord? r = some payload ∧
        Entry.decode payload = .ok
          { level := some .info
            message := ""
            fields := ("time", "1969-12-31T23:59:59.999999Z") :: fields } ∧
        Moment.read? "1969-12-31T23:59:59.999999Z".toList = some m ∧ m.IsValid ∧
        m.date = ⟨1969, 12, 31⟩ ∧ m.toMicros = -1) ∧
    r.timestamp.HasPlainYear ∧ t.HasPlainYear ∧
      utf8 "1969-12-31T23:59:59.999999Z" < utf8 "2000-02-29T00:00:00.000000Z" := by
  intro r t
  have hr : r.timestamp.text = "1969-12-31T23:59:59.999999Z" := by decide
  have ht : t.text = "2000-02-29T00:00:00.000000Z" := by decide
  have hyear : r.timestamp.HasPlainYear := by
    unfold HasPlainYear
    decide
  have hyear' : t.HasPlainYear := by
    unfold HasPlainYear
    decide
  have hlo : -8334601228800 ≤ r.timestamp.seconds := by decide
  have hhi : r.timestamp.seconds ≤ 8210266876799 := by decide
  refine ⟨⟨hlo, hhi, ?_⟩, hyear, hyear', ?_⟩
  · have hdate : r.timestamp.date = ⟨1969, 12, 31⟩ := by decide
    have hmicros : r.timestamp.micros = -1 := by decide
    rw [← hr, ← hdate, ← hmicros]
    exact time_of_record.1 r hlo hhi
  · rw [← hr, ← ht]
    exact (time_of_record.2 _ _ hyear hyear').1.2 (by decide)

end Timestamp

end JournalSink
