import JournalSink.Decimal.Shortest

/-! # Decimal notation

The text of a finite binary64 value: positional from `1e-5` up to `1e16` with at
least one digit after the point, scientific with a signed exponent outside.
-/

namespace JournalSink.Decimal

def zeros (n : Nat) : List Char :=
  List.replicate n '0'

/-- `digits` with the point after the first `point` of them. -/
def positional (digits : List Char) (point : Int) : List Char :=
  if point ≤ 0 then
    ['0', '.'] ++ zeros (-point).toNat ++ digits
  else if digits.length ≤ point.toNat then
    digits ++ zeros (point.toNat - digits.length) ++ ['.', '0']
  else
    digits.take point.toNat ++ ['.'] ++ digits.drop point.toNat

def scientific (digits : List Char) (exponent : Int) : List Char :=
  digits.take 1 ++ (if digits.length = 1 then [] else '.' :: digits.drop 1) ++
    ['e', if exponent < 0 then '-' else '+'] ++ Nat.toDigits 10 exponent.natAbs

def layout (d : Scaled) : List Char :=
  let digits := Nat.toDigits 10 d.digits
  let lead := d.exponent + digits.length - 1
  if -5 ≤ lead ∧ lead < 16 then positional digits (lead + 1) else scientific digits lead

def text (x : Float) : String :=
  let bits := x.toBits
  let magnitude := bits &&& 0x7FFFFFFFFFFFFFFF
  let body := if magnitude = 0 then ['0', '.', '0'] else layout (shortest (Binary.ofBits magnitude))
  String.ofList (if bits = magnitude then body else '-' :: body)

end JournalSink.Decimal
