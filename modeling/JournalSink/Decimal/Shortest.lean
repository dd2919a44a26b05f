import JournalSink.Decimal.Binary

/-! # Shortest decimals

The decimal with the fewest digits that reads back as a given binary value. On
each grid of powers of ten only the two neighbours of the value are candidates;
of two candidates the nearer wins, and an even last digit settles a tie.
-/

namespace JournalSink.Decimal

/-- How often `num` can be multiplied by ten while it stays below `den`. -/
def zerosBelow (num den : Nat) : Nat → Nat
  | 0 => 0
  | fuel + 1 => if num * 10 < den then zerosBelow (num * 10) den fuel + 1 else 0

/-- The least power of ten above `num / den`. -/
def magnitude (num den : Nat) : Int :=
  if num < den then -(zerosBelow num den 400 : Int)
  else ((Nat.toDigits 10 (num / den)).length : Int)

namespace Binary

def numerator (x : Binary) : Nat :=
  x.mantissa * power 2 x.exponent

def denominator (x : Binary) : Nat :=
  power 2 (-x.exponent)

def onGrid? (x : Binary) (grid : Int) : Option Scaled :=
  let num := x.numerator * power 10 (-grid)
  let den := x.denominator * power 10 grid
  let low : Scaled := ⟨num / den, grid⟩
  let high : Scaled := ⟨num / den + 1, grid⟩
  match x.readsBack low, x.readsBack high with
  | false, false => none
  | true, false => some low
  | false, true => some high
  | true, true =>
    match compare (2 * (num % den)) den with
    | .lt => some low
    | .gt => some high
    | .eq => some (if low.digits % 2 = 0 then low else high)

end Binary

def dropZeros (d : Scaled) : Nat → Scaled
  | 0 => d
  | fuel + 1 =>
    if d.digits ≠ 0 ∧ d.digits % 10 = 0 then dropZeros ⟨d.digits / 10, d.exponent + 1⟩ fuel else d

/-- Seventeen digits are always enough; the exact value stands in beyond them. -/
def shortest (x : Binary) : Scaled :=
  let top := magnitude x.numerator x.denominator
  let grids := (List.range 17).map fun (n : Nat) => top - ((n : Int) + 1)
  match grids.findSome? x.onGrid? with
  | some d => dropZeros d 20
  | none => ⟨x.numerator * power 5 (-x.exponent), -((-x.exponent).toNat : Int)⟩

end JournalSink.Decimal
