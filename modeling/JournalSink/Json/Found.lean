import JournalSink.Decimal.Notation
import JournalSink.Json.Text
import JournalSink.Json.Number
import JournalSink.Json.Value
import JournalSink.Text.Quoted

/-! # Values found instead of an object

A document that is no object is read up to the end of its first token, so that
the complaint can name what was found. Whole numbers are read exactly while they
fit in 64 bits. Other numbers keep the leading digits that fit, and are scaled
by one power of ten in floating point.
-/

namespace JournalSink.Json

inductive Found
  | null
  | boolean (b : Bool)
  | integer (n : Int)
  | float (x : Float)
  | string (s : String)
  | list

namespace Found

def text : Found → String
  | null => "null"
  | boolean b => "boolean `" ++ (if b then "true" else "false") ++ "`"
  | integer n => "integer `" ++ toString n ++ "`"
  | float x => "floating point `" ++ Decimal.text x ++ "`"
  | string s => "string " ++ Text.quoted s
  | list => "sequence"

end Found

/-- Digits taken into `n` while it stays below `limit`, how many they were, and the rest. -/
def takeDigits (limit n count : Nat) : List UInt8 → Nat × Nat × List UInt8
  | [] => (n, count, [])
  | b :: r =>
    let next := n * 10 + Ascii.digitValue b
    if Ascii.isDigit b && next < limit then takeDigits limit next (count + 1) r
    else (n, count, b :: r)

def powerOfTen (n : Nat) : Float :=
  Float.ofScientific 1 false n

/-- `x * 10 ^ exponent`, unless it is infinite. -/
def scale? (x : Float) (exponent : Int) : Option Float :=
  if 0 ≤ exponent then
    if exponent ≤ 308 then
      let y := x * powerOfTen exponent.toNat
      if y.isInf then none else some y
    else if x == 0 then some x
    else none
  else if -308 ≤ exponent then some (x / powerOfTen exponent.natAbs)
  else if x == 0 then some x
  else scale? (x / powerOfTen 308) (exponent + 308)
termination_by exponent.natAbs

def scaled (digits : Nat) (exponent : Int) (rest : List UInt8) : Except Halt (Float × List UInt8) :=
  match scale? (Float.ofNat digits) exponent with
  | some x => .ok (x, rest)
  | none => halt .numberOutOfRange rest

/-- Exponents from here on are too large to compute with. -/
def exponentLimit : Nat :=
  0x80000000

/-- Reads what follows the exponent mark. -/
def readExponent (digits : Nat) (exponent : Int) (bytes : List UInt8) :
    Except Halt (Float × List UInt8) :=
  let negative := bytes.head? == some Ascii.minus
  match skipSign bytes with
  | [] => halt .endInValue []
  | b :: r =>
    if Ascii.isDigit b then
      match takeDigits exponentLimit (Ascii.digitValue b) 0 r with
      | (n, _, r) =>
        if startsWithDigit r then
          if digits = 0 ∨ negative then .ok (0, skipDigits r)
          else halt .numberOutOfRange r.tail
        else scaled digits (if negative then exponent - n else exponent + n) r
    else halt .badNumber r

def readScale (digits : Nat) (exponent : Int) : List UInt8 → Except Halt (Float × List UInt8)
  | [] => scaled digits exponent []
  | b :: r => if isExponentMark b then readExponent digits exponent r
    else scaled digits exponent (b :: r)

/-- Reads what follows the point. -/
def readFraction (digits : Nat) (exponent : Int) (bytes : List UInt8) :
    Except Halt (Float × List UInt8) :=
  match takeDigits UInt64.size digits 0 bytes with
  | (digits, count, r) =>
    if startsWithDigit r then readScale digits (exponent - count) (skipDigits r)
    else if count = 0 then
      match r with
      | [] => halt .endInValue []
      | _ :: r => halt .badNumber r
    else readScale digits (exponent - count) r

/-- Reads what follows the whole part of a number that is no whole number of 64 bits. -/
def readParts (digits : Nat) (exponent : Int) : List UInt8 → Except Halt (Float × List UInt8)
  | [] => scaled digits exponent []
  | b :: r => if b = Ascii.dot then readFraction digits exponent r
    else readScale digits exponent (b :: r)

def isPart (b : UInt8) : Bool :=
  b == Ascii.dot || isExponentMark b

def signed (negative : Bool) : Except Halt (Float × List UInt8) → Except Halt (Found × List UInt8)
  | .ok (x, r) => .ok (.float (if negative then -x else x), r)
  | .error h => .error h

/-- Reads a number behind its sign. -/
def readNumber (negative : Bool) : List UInt8 → Except Halt (Found × List UInt8)
  | [] => halt .endInValue []
  | b :: r =>
    if b = Ascii.zero && startsWithDigit r then halt .badNumber r.tail
    else if Ascii.isDigit b then
      match takeDigits UInt64.size 0 0 (b :: r) with
      | (n, _, r) =>
        if startsWithDigit r then
          let rest := skipDigits r
          signed negative (readParts n (r.length - rest.length) rest)
        else if r.head?.any isPart then signed negative (readParts n 0 r)
        else if negative then
          if n = 0 ∨ 0x8000000000000000 < n then .ok (.float (-Float.ofNat n), r)
          else .ok (.integer (-n), r)
        else .ok (.integer n, r)
    else halt .badNumber r

/-- Reads the first token of a document that does not start with a brace. -/
def readFound (b : UInt8) (r : List UInt8) : Except Halt (Found × List UInt8) :=
  match wordTail? b with
  | some word =>
    match skipWord word r with
    | .error h => .error h
    | .ok r => .ok (if b = 0x6E then .null else .boolean (b == 0x74), r)
  | none =>
    if b = Ascii.minus then readNumber true r
    else if Ascii.isDigit b then readNumber false (b :: r)
    else if b = Ascii.quote then
      match readString r with
      | .error h => .error h
      | .ok (s, r) => .ok (.string s, r)
    else if b = Ascii.openBracket then .ok (.list, b :: r)
    else halt .noValue r

end JournalSink.Json
