import Mathlib.Data.List.Infix
import JournalSink.LogCall

/-! # Points for pairs of colons

A target is cut from the left into pairs of colons and other characters, in one way
only. The pairs become points and nothing else changes, so no pair is left, and a name
is not changed again.
-/

namespace JournalSink.LogCall

inductive Piece
  | pair
  | other (c : Char)
deriving DecidableEq, Repr

def Piece.image : Piece → Char
  | pair => '.'
  | other c => c

/-- A text cut from the left: a colon is a piece by itself only where no colon follows it. -/
inductive Cut : List Piece → List Char → Prop
  | nil : Cut [] []
  | pair {ps : List Piece} {cs : List Char} : Cut ps cs → Cut (.pair :: ps) (':' :: ':' :: cs)
  | other {c : Char} {ps : List Piece} {cs : List Char} : (c = ':' → cs.head? ≠ some ':') →
      Cut ps cs → Cut (.other c :: ps) (c :: cs)

/-- A pair of colons stands somewhere in the text. -/
def HasPair (cs : List Char) : Prop :=
  [':', ':'] <:+: cs

variable {c : Char} {cs front back : List Char} {ps qs : List Piece}

theorem dotted_other (h : c = ':' → cs.head? ≠ some ':') : dotted (c :: cs) = c :: dotted cs := by
  rw [dotted]
  rintro r hc rfl
  exact h hc rfl

/-! ## Cutting -/

namespace Cut

theorem dotted_eq (h : Cut ps cs) : dotted cs = ps.map Piece.image := by
  induction h with
  | nil => rfl
  | pair _ ih => simp [dotted, ih, Piece.image]
  | other hc _ ih => simp [dotted_other hc, ih, Piece.image]

theorem unique (h : Cut ps cs) (h' : Cut qs cs) : qs = ps := by
  induction h generalizing qs with
  | nil => cases h'; rfl
  | pair _ ih =>
    cases h' with
    | pair h' => rw [ih h']
    | other hc _ => cases hc rfl rfl
  | other hc _ ih =>
    cases h' with
    | pair => cases hc rfl rfl
    | other _ h' => rw [ih h']

end Cut

theorem exists_cut (cs : List Char) : ∃ ps, Cut ps cs := by
  fun_induction dotted cs with
  | case1 => exact ⟨[], .nil⟩
  | case2 r ih =>
    obtain ⟨ps, h⟩ := ih
    exact ⟨.pair :: ps, .pair h⟩
  | case3 c r hc ih =>
    obtain ⟨ps, h⟩ := ih
    refine ⟨.other c :: ps, .other ?_ h⟩
    intro hcolon hhead
    obtain ⟨r', rfl⟩ := List.head?_eq_some_iff.1 hhead
    exact hc r' hcolon rfl

/-! ## Pairs that are left -/

theorem hasPair_cons_iff : HasPair (c :: cs) ↔ c = ':' ∧ cs.head? = some ':' ∨ HasPair cs := by
  rw [HasPair, List.infix_cons_iff, List.cons_prefix_cons, List.singleton_prefix_iff_head?_eq_some,
    eq_comm, HasPair]

theorem not_hasPair_nil : ¬ HasPair [] := by
  simp [HasPair]

theorem head?_dotted (h : (dotted cs).head? = some ':') : cs.head? = some ':' := by
  fun_cases dotted cs with
  | case1 => cases h
  | case2 => rfl
  | case3 c r hc => rwa [dotted.eq_3 c r hc] at h

theorem not_hasPair_dotted (cs : List Char) : ¬ HasPair (dotted cs) := by
  fun_induction dotted cs with
  | case1 => exact not_hasPair_nil
  | case2 r ih =>
    rw [hasPair_cons_iff]
    rintro (⟨hpoint, -⟩ | h)
    · cases hpoint
    · exact ih h
  | case3 c r hc ih =>
    rw [hasPair_cons_iff]
    rintro (⟨hcolon, hhead⟩ | h)
    · obtain ⟨r', rfl⟩ := List.head?_eq_some_iff.1 (head?_dotted hhead)
      exact hc r' hcolon rfl
    · exact ih h

theorem dotted_eq_self_iff : dotted cs = cs ↔ ¬ HasPair cs := by
  constructor
  · intro h
    rw [← h]
    exact not_hasPair_dotted cs
  · intro h
    induction cs with
    | nil => rfl
    | cons c cs ih =>
      rw [hasPair_cons_iff, not_or, not_and] at h
      rw [dotted_other h.1, ih h.2]

theorem containsPair_iff : containsPair cs = true ↔ HasPair cs := by
  fun_induction containsPair cs with
  | case1 => simp [not_hasPair_nil]
  | case2 r => simp [hasPair_cons_iff]
  | case3 c r hc ih =>
    have hne : ¬ (c = ':' ∧ r.head? = some ':') := by
      rintro ⟨hcolon, hhead⟩
      obtain ⟨r', rfl⟩ := List.head?_eq_some_iff.1 hhead
      exact hc r' hcolon rfl
    rw [ih, hasPair_cons_iff, or_iff_right hne]

/-- A target without a pair needs no cutting, and the name is the same. -/
theorem loggerName_eq (target : String) :
    loggerName target = String.ofList (dotted target.toList) := by
  unfold loggerName
  split_ifs with h
  · rfl
  · rw [containsPair_iff, ← dotted_eq_self_iff] at h
    rw [h, String.ofList_toList]

/-! ## Runs of colons -/

/-- A text may be taken apart wherever no pair stands across the place. -/
theorem dotted_append (h : front.getLast? = some ':' → back.head? ≠ some ':') :
    dotted (front ++ back) = dotted front ++ dotted back := by
  fun_induction dotted front with
  | case1 => rfl
  | case2 r ih =>
    rw [List.cons_append, List.cons_append, dotted, List.cons_append]
    congr 1
    apply ih
    intro hlast
    apply h
    rw [List.getLast?_cons, List.getLast?_cons, hlast]
    rfl
  | case3 c r hc ih =>
    have hother : c = ':' → (r ++ back).head? ≠ some ':' := by
      rintro rfl
      cases r with
      | nil => exact h rfl
      | cons d r =>
        intro hd
        cases hd
        exact hc r rfl rfl
    rw [List.cons_append, dotted_other hother, List.cons_append]
    congr 1
    apply ih
    intro hlast
    apply h
    rw [List.getLast?_cons, hlast]
    rfl

theorem dotted_replicate (m : Nat) : dotted (List.replicate m ':') =
    List.replicate (m / 2) '.' ++ List.replicate (m % 2) ':' := by
  induction m using Nat.twoStepInduction with
  | zero => rfl
  | one => rfl
  | more m ih _ =>
    have hhalf : (m + 2) / 2 = m / 2 + 1 := by omega
    have hrest : (m + 2) % 2 = m % 2 := by omega
    rw [List.replicate_succ, List.replicate_succ, dotted, ih, hhalf, hrest, List.replicate_succ,
      List.cons_append]

/-- A run of colons becomes points, two colons each, and a colon if their number is odd. -/
theorem dotted_run {m : Nat} (hfront : front.getLast? ≠ some ':') (hback : back.head? ≠ some ':') :
    dotted (front ++ (List.replicate m ':' ++ back)) =
      dotted front ++
        (List.replicate (m / 2) '.' ++ List.replicate (m % 2) ':' ++ dotted back) := by
  rw [dotted_append fun h => absurd h hfront, dotted_append fun _ => hback, dotted_replicate]

/-- Neither a colon nor a point. -/
def isOther (c : Char) : Bool :=
  c != ':' && c != '.'

theorem filter_dotted (cs : List Char) : (dotted cs).filter isOther = cs.filter isOther := by
  fun_induction dotted cs with
  | case1 => rfl
  | case2 r ih => exact ih
  | case3 c r _ ih => rw [List.filter_cons, List.filter_cons, ih]

/-! ## Names -/

/-- What a target is called: its pairs of colons, cut from the left, are points, and all else in it
is as it was. -/
structure Names (target name : String) : Prop where
  cut : ∃ ps, Cut ps target.toList ∧ (∀ qs, Cut qs target.toList → qs = ps) ∧
    name.toList = ps.map Piece.image
  no_pair : ¬ HasPair name.toList
  same : name = target ↔ ¬ HasPair target.toList
  settled : loggerName name = name
  run : ∀ front m back, target = front ++ String.ofList (List.replicate m ':') ++ back →
    front.toList.getLast? ≠ some ':' → back.toList.head? ≠ some ':' →
    name = loggerName front ++
      String.ofList (List.replicate (m / 2) '.' ++ List.replicate (m % 2) ':') ++ loggerName back
  others : name.toList.filter isOther = target.toList.filter isOther

/-- Every target has such a name. One without a pair may be taken as it is. -/
theorem names_loggerName (target : String) : Names target (loggerName target) := by
  have hname : (loggerName target).toList = dotted target.toList := by
    rw [loggerName_eq, String.toList_ofList]
  have hpair := not_hasPair_dotted target.toList
  rw [← hname] at hpair
  constructor
  · obtain ⟨ps, hps⟩ := exists_cut target.toList
    exact ⟨ps, hps, fun _ => hps.unique, hname.trans hps.dotted_eq⟩
  · exact hpair
  · rw [← dotted_eq_self_iff, ← hname, String.toList_inj]
  · rw [← String.toList_inj, loggerName_eq, String.toList_ofList]
    exact dotted_eq_self_iff.2 hpair
  · rintro front m back rfl hfront hback
    rw [← String.toList_inj, hname]
    simpa [loggerName_eq] using dotted_run hfront hback
  · rw [hname, filter_dotted]

end JournalSink.LogCall
