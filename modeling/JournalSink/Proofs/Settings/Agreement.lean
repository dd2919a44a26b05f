import JournalSink.Proofs.Ini.Layout
import JournalSink.Settings

/-! # Three ways to the same settings

The settings that are given in a document, set one by one, or chosen for a build come
to the same. A number that is none, or a pool without room, is refused.
-/

namespace JournalSink

open Ini (Plain Spells)

/-- One setting with its value. -/
inductive Setting
  | socket (path : String)
  | directory (path : String)
  | poolCapacity (n : Nat)
  | warnInterval (milliseconds : Nat)
deriving DecidableEq, Repr

/-- Decimal digits for a number of 64 bits. A plus sign in front is allowed. -/
def IsNumeral (raw : String) (n : Nat) : Prop :=
  ∃ digits, (raw.toList = digits ∨ raw.toList = '+' :: digits) ∧ digits ≠ [] ∧
    (∀ c ∈ digits, c.isDigit = true) ∧ Nat.ofDigitChars 10 digits 0 = n ∧ n < UInt64.size

namespace Setting

def key : Setting → String
  | socket _ => "socket"
  | directory _ => "shm_dir"
  | poolCapacity _ => "pool_capacity"
  | warnInterval _ => "warn_interval_ms"

/-- The text under the key says the value. -/
def IsWritten : Setting → String → Prop
  | socket path, raw => raw = path
  | directory path, raw => raw = path
  | poolCapacity n, raw => IsNumeral raw n
  | warnInterval n, raw => IsNumeral raw n

def HoldsIn (config : Settings) : Setting → Prop
  | socket path => config.socket = some path
  | directory path => config.directory = path
  | poolCapacity n => config.poolCapacity = n
  | warnInterval n => config.warnInterval = n

def apply (config : Settings) : Setting → Settings
  | socket path => config.withSocket path
  | directory path => config.withDirectory path
  | poolCapacity n => config.withPoolCapacity n
  | warnInterval n => config.withWarnInterval n

def choose (o : Overrides) : Setting → Overrides
  | socket path => { o with socket := some path }
  | directory path => { o with directory := some path }
  | poolCapacity n => { o with poolCapacity := some n }
  | warnInterval n => { o with warnInterval := some n }

def keys : List String :=
  ["socket", "shm_dir", "pool_capacity", "warn_interval_ms"]

variable {s t : Setting} {config : Settings} {chosen : List Setting} {o : Overrides}

/-! ## Setting by setting -/

theorem holdsIn_apply : s.HoldsIn (t.apply config) ↔ s = t ∨ s.key ≠ t.key ∧ s.HoldsIn config := by
  cases s <;> cases t <;>
    simp [key, HoldsIn, apply, Settings.withSocket, Settings.withDirectory,
      Settings.withPoolCapacity, Settings.withWarnInterval, eq_comm]

/-- What is set holds, and what is not set is left alone. -/
theorem holdsIn_foldl (h : (chosen.map key).Nodup) : s.HoldsIn (chosen.foldl apply config) ↔
    s ∈ chosen ∨ s.key ∉ chosen.map key ∧ s.HoldsIn config := by
  induction chosen generalizing config with
  | nil => simp
  | cons t chosen ih =>
    obtain ⟨ht, hnodup⟩ := List.nodup_cons.1 h
    rw [List.foldl_cons, ih hnodup, holdsIn_apply, List.mem_cons, List.map_cons, List.mem_cons]
    constructor
    · rintro (h | ⟨h, rfl | ⟨hne, hs⟩⟩)
      · exact .inl (.inr h)
      · exact .inl (.inl rfl)
      · exact .inr ⟨not_or.2 ⟨hne, h⟩, hs⟩
    · rintro ((rfl | h) | ⟨h, hs⟩)
      · exact .inr ⟨ht, .inl rfl⟩
      · exact .inl h
      · exact .inr ⟨(not_or.1 h).2, .inr ⟨(not_or.1 h).1, hs⟩⟩

theorem overlay_foldl (chosen : List Setting) (o : Overrides) :
    (chosen.foldl choose o).overlay = chosen.foldl apply o.overlay := by
  have hstep (o : Overrides) (s : Setting) : (s.choose o).overlay = s.apply o.overlay := by
    cases s <;> rfl
  induction chosen generalizing o with
  | nil => rfl
  | cons s chosen ih => rw [List.foldl_cons, List.foldl_cons, ih, hstep]

end Setting

theorem Overrides.build_eq_ok {o : Overrides} (h : o.overlay.validate = .ok ()) :
    o.build = .ok o.overlay := by
  rw [build, h]
  rfl

namespace Settings

open Setting (keys)

variable {entries : List (String × String)} {chosen : List Setting} {key raw text : String}
  {n : Nat} {before after : Ini.Document} {part : Ini.Section} {config : Settings}
  {fallback : Nat}

theorem validate_eq_ok (hcapacity : config.poolCapacity ≠ 0)
    (hdirectory : config.directory ≠ "") : config.validate = .ok () := by
  simp [validate, hcapacity, hdirectory]

/-! ## Numbers -/

theorem number?_eq_some_iff (h : Plain raw) : number? raw = some n ↔ IsNumeral raw n := by
  have hvalue (digits : List Char) :
      digits.foldl (fun n c => n * 10 + (c.toNat - '0'.toNat)) 0 =
        Nat.ofDigitChars 10 digits 0 := by
    simp only [Nat.ofDigitChars_eq_foldl, Nat.mul_comm]
  simp only [number?, h.trim, hvalue, IsNumeral]
  constructor
  · intro hn
    split_ifs at hn with hplus hdigits hlt hdigits hlt
    · obtain ⟨r, hr⟩ : ∃ r, raw.toList = '+' :: r := List.head?_eq_some_iff.1 hplus
      rw [hr] at hdigits hn hlt
      cases hn
      exact ⟨r, .inr hr, hdigits.1, List.all_eq_true.1 hdigits.2, rfl, hlt⟩
    · cases hn
      exact ⟨raw.toList, .inl rfl, hdigits.1, List.all_eq_true.1 hdigits.2, rfl, hlt⟩
  · rintro ⟨digits, hraw, hne, hdigits, rfl, hlt⟩
    have hunsigned :
        (if raw.toList.head? = some '+' then raw.toList.tail else raw.toList) = digits := by
      rcases hraw with hraw | hraw
      · rw [hraw, if_neg]
        intro hplus
        exact absurd (hdigits _ (List.mem_of_mem_head? hplus)) (by decide)
      · simp [hraw]
    rw [hunsigned, if_pos ⟨hne, List.all_eq_true.2 hdigits⟩, if_pos hlt]

/-! ## Entries -/

theorem lookup_of_mem (h : (key, raw) ∈ entries) (honce : (entries.map Prod.fst).count key ≤ 1) :
    entries.lookup key = some raw := by
  obtain ⟨l, r, rfl⟩ := List.append_of_mem h
  rw [List.lookup_eq_some_iff]
  refine ⟨l, r, rfl, fun e he => ?_⟩
  have hcount : (l.map Prod.fst).count key = 0 := by
    simp only [List.map_append, List.map_cons, List.count_append, List.count_cons_self] at honce
    omega
  have hmem : e.1 ∈ l.map Prod.fst := List.mem_map_of_mem he
  rw [bne_iff_ne]
  rintro rfl
  exact List.count_eq_zero.1 hcount hmem

theorem mem_of_lookup (h : entries.lookup key = some raw) : (key, raw) ∈ entries := by
  obtain ⟨l, r, rfl, -⟩ := List.lookup_eq_some_iff.1 h
  simp

theorem lookup_eq_none (h : key ∉ entries.map Prod.fst) : entries.lookup key = none := by
  rw [List.lookup_eq_none_iff]
  intro e he
  rw [bne_iff_ne]
  rintro rfl
  exact h (List.mem_map_of_mem he)

/-- The entries give the chosen settings and, of the keys that mean one, no other. -/
structure Gives (entries : List (String × String)) (chosen : List Setting) : Prop where
  distinct : (chosen.map Setting.key).Nodup
  written : ∀ s ∈ chosen, ∃ raw, (s.key, raw) ∈ entries ∧ s.IsWritten raw
  only : ∀ key ∈ keys, key ∈ entries.map Prod.fst → key ∈ chosen.map Setting.key

def numberKeys : List String :=
  ["pool_capacity", "warn_interval_ms"]

/-- Why a value among the entries is refused. -/
inductive Faulty (entries : List (String × String)) : SettingsError → Prop
  | notAnInteger {key raw : String} : key ∈ numberKeys → (key, raw) ∈ entries →
      (∀ n, ¬IsNumeral raw n) → Faulty entries (.notAnInteger key raw)
  | zeroCapacity {raw : String} : ("pool_capacity", raw) ∈ entries → IsNumeral raw 0 →
      Faulty entries .zeroCapacity

theorem ofText_eq_ofSection (hname : part.name = some sectionName)
    (htext : Spells [] (before ++ part :: after) text.toList)
    (hbefore : ∀ s ∈ before, s.name ≠ some sectionName) : ofText text = ofSection part := by
  have hfind : Ini.Document.find? (before ++ part :: after) sectionName = some part := by
    have hnone : List.find? (·.name == some sectionName) before = none := by
      simpa [List.find?_eq_none] using hbefore
    rw [Ini.Document.find?, List.find?_append, hnone, Option.none_or]
    exact List.find?_cons_of_pos (by simp [hname])
  rw [ofText, Ini.Document.parse_eq_ok htext]
  simp only [ofDocument, hfind]

/-! ## Reading a section -/

/-- The entry under the key says what holds, or there is none and the default holds. -/
def Matches (part : Ini.Section) (config : Settings) (key : String) : Prop :=
  (∃ s : Setting, s.key = key ∧ s.HoldsIn config ∧
    ∃ raw, part.get? key = some raw ∧ s.IsWritten raw) ∨
  part.get? key = none ∧ ∀ s : Setting, s.key = key → (s.HoldsIn config ↔ s.HoldsIn {})

theorem Gives.matches (h : Gives part.entries chosen)
    (honce : ∀ key ∈ keys, (part.entries.map Prod.fst).count key ≤ 1) (hkey : key ∈ keys) :
    Matches part (chosen.foldl Setting.apply {}) key := by
  by_cases hset : key ∈ chosen.map Setting.key
  · obtain ⟨s, hs, rfl⟩ := List.mem_map.1 hset
    obtain ⟨raw, hraw, hwritten⟩ := h.written s hs
    exact .inl ⟨s, rfl, (Setting.holdsIn_foldl h.distinct).2 (.inl hs), raw,
      lookup_of_mem hraw (honce _ hkey), hwritten⟩
  · refine .inr ⟨lookup_eq_none fun hin => hset (h.only key hkey hin), ?_⟩
    rintro s rfl
    rw [Setting.holdsIn_foldl h.distinct, or_iff_right fun hs => hset (List.mem_map_of_mem hs)]
    exact and_iff_right hset

theorem readNumber_of_matches (hplain : ∀ e ∈ part.entries, Plain e.2)
    (setting : Nat → Setting) (field : Settings → Nat)
    (hkey : ∀ s, s.key = key ↔ ∃ n, s = setting n)
    (hwritten : ∀ n raw, (setting n).IsWritten raw → IsNumeral raw n)
    (hholds : ∀ config n, (setting n).HoldsIn config ↔ field config = n)
    (h : Matches part config key) : readNumber part key (field {}) = .ok (field config) := by
  rcases h with ⟨s, hs, hc, raw, hraw, hw⟩ | ⟨hnone, hdefault⟩
  · obtain ⟨n, rfl⟩ := (hkey s).1 hs
    have hn : number? raw = some n :=
      (number?_eq_some_iff (hplain _ (mem_of_lookup hraw))).2 (hwritten n raw hw)
    simp only [readNumber, hraw, hn, (hholds config n).1 hc]
  · have hc := (hdefault (setting (field {})) ((hkey _).2 ⟨_, rfl⟩)).2 ((hholds {} _).2 rfl)
    simp only [readNumber, hnone, (hholds config _).1 hc]

theorem get?_socket_of_matches (h : Matches part config "socket") :
    part.get? "socket" = config.socket := by
  rcases h with ⟨s, hs, hc, raw, hraw, hw⟩ | ⟨hnone, hdefault⟩
  · cases s with
    | socket path =>
      rw [hraw, hw]
      exact hc.symm
    | _ => simp [Setting.key] at hs
  · rw [hnone, eq_comm, Option.eq_none_iff_forall_ne_some]
    intro path hc
    cases (hdefault (.socket path) rfl).1 hc

theorem get?_directory_of_matches (h : Matches part config "shm_dir") :
    (part.get? "shm_dir").getD Scratch.defaultDirectory = config.directory := by
  rcases h with ⟨s, hs, hc, raw, hraw, hw⟩ | ⟨hnone, hdefault⟩
  · cases s with
    | directory path =>
      rw [hraw]
      exact hw.trans hc.symm
    | _ => simp [Setting.key] at hs
  · rw [hnone]
    exact ((hdefault (.directory Scratch.defaultDirectory) rfl).2 rfl).symm

theorem ofSection_eq_ok (h : ∀ key ∈ keys, Matches part config key)
    (hplain : ∀ e ∈ part.entries, Plain e.2) (hvalid : config.validate = .ok ()) :
    ofSection part = .ok config := by
  have hcapacity : readNumber part "pool_capacity" Pool.defaultCapacity =
      .ok config.poolCapacity :=
    readNumber_of_matches hplain .poolCapacity Settings.poolCapacity
      (by intro s; cases s <;> simp [Setting.key]) (fun _ _ => id) (fun _ _ => .rfl)
      (h _ (by decide))
  have hinterval : readNumber part "warn_interval_ms" Warner.defaultInterval =
      .ok config.warnInterval :=
    readNumber_of_matches hplain .warnInterval Settings.warnInterval
      (by intro s; cases s <;> simp [Setting.key]) (fun _ _ => id) (fun _ _ => .rfl)
      (h _ (by decide))
  have hsocket := get?_socket_of_matches (h _ (by decide))
  have hdirectory := get?_directory_of_matches (h _ (by decide))
  simp only [ofSection, hcapacity, hinterval, hsocket, hdirectory, bind, Except.bind]
  rw [hvalid]
  rfl

theorem readNumber_cases (hkey : key ∈ numberKeys) (hplain : ∀ e ∈ part.entries, Plain e.2)
    (fallback : Nat) :
    (∃ n, readNumber part key fallback = .ok n) ∨
      ∃ e, Faulty part.entries e ∧ readNumber part key fallback = .error e := by
  cases hraw : part.get? key with
  | none => exact .inl ⟨fallback, by simp only [readNumber, hraw]⟩
  | some raw =>
    have hmem := mem_of_lookup hraw
    cases hn : number? raw with
    | some n => exact .inl ⟨n, by simp only [readNumber, hraw, hn]⟩
    | none =>
      refine .inr ⟨_, .notAnInteger hkey hmem fun n h => ?_, by simp only [readNumber, hraw, hn]⟩
      rw [← number?_eq_some_iff (hplain _ hmem), hn] at h
      cases h

theorem number?_of_mem (honce : (part.entries.map Prod.fst).count key ≤ 1)
    (hmem : (key, raw) ∈ part.entries) (h : readNumber part key fallback = .ok n) :
    number? raw = some n := by
  have hraw : part.get? key = some raw := lookup_of_mem hmem honce
  simp only [readNumber, hraw] at h
  split at h
  · rename_i m hm
    cases h
    exact hm
  · cases h

theorem ofSection_eq_error {e : SettingsError} (h : Faulty part.entries e)
    (honce : ∀ key ∈ keys, (part.entries.map Prod.fst).count key ≤ 1)
    (hplain : ∀ e ∈ part.entries, Plain e.2) :
    ∃ e, Faulty part.entries e ∧ ofSection part = .error e := by
  have hcapacityKey : "pool_capacity" ∈ numberKeys := by decide
  have hintervalKey : "warn_interval_ms" ∈ numberKeys := by decide
  rcases readNumber_cases hcapacityKey hplain Pool.defaultCapacity with
    ⟨capacity, hcapacity⟩ | ⟨e, he, hcapacity⟩
  · rcases readNumber_cases hintervalKey hplain Warner.defaultInterval with
      ⟨interval, hinterval⟩ | ⟨e, he, hinterval⟩
    · cases h with
      | @notAnInteger key raw hkey hmem hnot =>
        have hread {fallback n : Nat} (honce : (part.entries.map Prod.fst).count key ≤ 1)
            (h : readNumber part key fallback = .ok n) : False :=
          hnot n ((number?_eq_some_iff (hplain _ hmem)).1 (number?_of_mem honce hmem h))
        have hkey' : key = "pool_capacity" ∨ key = "warn_interval_ms" := by
          simpa [numberKeys] using hkey
        rcases hkey' with rfl | rfl
        · exact (hread (honce _ (by decide)) hcapacity).elim
        · exact (hread (honce _ (by decide)) hinterval).elim
      | @zeroCapacity raw hmem hzero =>
        have hread := number?_of_mem (honce _ (by decide)) hmem hcapacity
        rw [(number?_eq_some_iff (hplain _ hmem)).2 hzero] at hread
        cases hread
        refine ⟨_, .zeroCapacity hmem hzero, ?_⟩
        simp only [ofSection, hcapacity, hinterval, bind, Except.bind]
        rfl
    · exact ⟨e, he, by simp only [ofSection, hcapacity, hinterval, bind, Except.bind]⟩
  · exact ⟨e, he, by simp only [ofSection, hcapacity, bind, Except.bind]⟩

/-! ## Agreement -/

theorem Gives.perm {order : List Setting} (h : Gives entries chosen) (hperm : order.Perm chosen) :
    Gives entries order where
  distinct := (hperm.map _).nodup_iff.2 h.distinct
  written s hs := h.written s (hperm.mem_iff.1 hs)
  only key hkey hin := (hperm.map _).mem_iff.2 (h.only key hkey hin)

theorem Gives.validate_eq_ok (h : Gives entries chosen) (hcapacity : .poolCapacity 0 ∉ chosen)
    (hdirectory : .directory "" ∉ chosen) : (chosen.foldl Setting.apply {}).validate = .ok () := by
  have hholds (s : Setting) : s.HoldsIn (chosen.foldl Setting.apply {}) ↔ _ :=
    Setting.holdsIn_foldl h.distinct
  refine Settings.validate_eq_ok (fun h => ?_) (fun h => ?_)
  · rcases (hholds (.poolCapacity 0)).1 h with h | ⟨-, h⟩
    · exact hcapacity h
    · exact absurd h (by decide : Pool.defaultCapacity ≠ 0)
  · rcases (hholds (.directory "")).1 h with h | ⟨-, h⟩
    · exact hdirectory h
    · exact absurd h (by decide : Scratch.defaultDirectory ≠ "")

theorem Gives.ofSection_eq_ok (h : Gives part.entries chosen)
    (honce : ∀ key ∈ keys, (part.entries.map Prod.fst).count key ≤ 1)
    (hplain : ∀ e ∈ part.entries, Plain e.2) (hcapacity : .poolCapacity 0 ∉ chosen)
    (hdirectory : .directory "" ∉ chosen) :
    ofSection part = .ok (chosen.foldl Setting.apply {}) :=
  Settings.ofSection_eq_ok (fun _ hkey => h.matches honce hkey) hplain
    (h.validate_eq_ok hcapacity hdirectory)

/-- The settings of a text, those set one by one and those built are `config`. -/
structure Agreement (text : String) (chosen : List Setting) (config : Settings) : Prop where
  read : ofText text = .ok config
  set : ∀ order : List Setting, order.Perm chosen → order.foldl Setting.apply {} = config
  built : ∀ order : List Setting, order.Perm chosen →
    (order.foldl Setting.choose {}).build = .ok config
  rebuilt : ({ base := some config } : Overrides).build = .ok config
  /-- What is chosen holds, and the rest is as it was. -/
  holds : ∀ s : Setting, s.HoldsIn config ↔
    s ∈ chosen ∨ s.key ∉ chosen.map Setting.key ∧ s.HoldsIn {}

/-- A text gives the settings that its section lists, whatever its other sections and keys say. -/
theorem ofText_agreement (htext : Spells [] (before ++ part :: after) text.toList)
    (hname : part.name = some sectionName) (hbefore : ∀ s ∈ before, s.name ≠ some sectionName)
    (honce : ∀ key ∈ keys, (part.entries.map Prod.fst).count key ≤ 1) :
    (∀ chosen, Gives part.entries chosen → .poolCapacity 0 ∉ chosen → .directory "" ∉ chosen →
      ∃ config, Agreement text chosen config) ∧
    ((∃ e, Faulty part.entries e) → ∃ e, Faulty part.entries e ∧ ofText text = .error e) := by
  have hread := ofText_eq_ofSection hname htext hbefore
  have hplain : ∀ e ∈ part.entries, Plain e.2 := htext.plain.2 part (by simp)
  constructor
  · intro chosen hgives hcapacity hdirectory
    have hsection := hgives.ofSection_eq_ok honce hplain hcapacity hdirectory
    have hvalid := hgives.validate_eq_ok hcapacity hdirectory
    have hset {order : List Setting} (hperm : order.Perm chosen) :
        order.foldl Setting.apply {} = chosen.foldl Setting.apply {} := by
      have horder := (hgives.perm hperm).ofSection_eq_ok honce hplain
        (fun h => hcapacity (hperm.mem_iff.1 h)) (fun h => hdirectory (hperm.mem_iff.1 h))
      exact Except.ok.inj (horder.symm.trans hsection)
    refine ⟨_, hread.trans hsection, fun order hperm => hset hperm, fun order hperm => ?_,
      Overrides.build_eq_ok hvalid, fun s => Setting.holdsIn_foldl hgives.distinct⟩
    have hoverlay : (order.foldl Setting.choose {}).overlay = chosen.foldl Setting.apply {} :=
      (Setting.overlay_foldl order {}).trans (hset hperm)
    rw [Overrides.build_eq_ok (by rw [hoverlay, hvalid]), hoverlay]
  · rintro ⟨e, he⟩
    rw [hread]
    exact ofSection_eq_error he honce hplain

theorem ofText_agreement_among_others :
    (∃ config, Agreement ("[other]\nsocket = /o\n\n" ++
        "[handler_journal]\nwarn_interval_ms = 0250\nnote = x\nsocket = /s")
      [.socket "/s", .warnInterval 250] config) ∧
    ∃ e, Faulty [("pool_capacity", "00")] e ∧
      ofText "[handler_journal]\npool_capacity = 00" = .error e := by
  constructor
  · have htext : Spells [] ([⟨some "other", [("socket", "/o")]⟩] ++
        ⟨some sectionName, [("warn_interval_ms", "0250"), ("note", "x"), ("socket", "/s")]⟩ :: [])
        ("[other]\nsocket = /o\n\n" ++
          "[handler_journal]\nwarn_interval_ms = 0250\nnote = x\nsocket = /s").toList :=
      .header (by decide) (.inl rfl) <| .entry (by decide) (by decide) (by decide) (.inl rfl) <|
      .blank <| .header (by decide) (.inl rfl) <|
      .entry (by decide) (by decide) (by decide) (.inl rfl) <|
      .entry (by decide) (by decide) (by decide) (.inl rfl) <|
      .entry (by decide) (by decide) (by decide) (.inr ⟨rfl, rfl⟩) .nil
    have hnumeral : IsNumeral "0250" 250 :=
      ⟨"0250".toList, .inl rfl, by decide, List.all_eq_true.1 (by decide), by decide, by decide⟩
    refine (ofText_agreement htext rfl (by decide) (by decide)).1 _ ⟨by decide, ?_, by decide⟩
      (by decide) (by decide)
    simp only [List.forall_mem_cons]
    exact ⟨⟨"/s", by decide, rfl⟩, ⟨"0250", by decide, hnumeral⟩, by simp⟩
  · have htext : Spells [] ([] ++ ⟨some sectionName, [("pool_capacity", "00")]⟩ :: [])
        "[handler_journal]\npool_capacity = 00".toList :=
      .header (by decide) (.inl rfl) <|
      .entry (by decide) (by decide) (by decide) (.inr ⟨rfl, rfl⟩) .nil
    have hzero : IsNumeral "00" 0 :=
      ⟨"00".toList, .inl rfl, by decide, List.all_eq_true.1 (by decide), by decide, by decide⟩
    exact (ofText_agreement htext rfl (by decide) (by decide)).2
      ⟨_, .zeroCapacity (List.mem_singleton.2 rfl) hzero⟩

end Settings

end JournalSink
