import WebForm.Number.Double
/-!
# Decimal numerals

A numeral is a sign, a string of digits and a power of ten. This module reads one from text and
turns it into the nearest double. The power of ten is unbounded, so the value is settled by the
count of digits where it lies far outside the range of doubles; nothing is then multiplied out.
-/

set_option autoImplicit false

namespace WebForm

/-- The number `± coefficient * 10 ^ exponent`, written with `digits` digits. -/
structure Numeral where
  negative : Bool
  coefficient : Nat
  digits : Nat
  exponent : Int
deriving DecidableEq, Repr

namespace Numeral

/-- Whether a character is one of the ten ASCII digits. -/
def isDigit (c : Char) : Bool := '0' ≤ c && c ≤ '9'

/-- The value of an ASCII digit. -/
def digitValue (c : Char) : Nat := c.toNat - '0'.toNat

/-- The number that a string of digits denotes. -/
def ofDigits (cs : List Char) : Nat := cs.foldl (fun n c => n * 10 + digitValue c) 0

/-- An optional sign: whether it is a minus, and what follows. -/
def takeSign : List Char → Bool × List Char
  | '-' :: rest => (true, rest)
  | '+' :: rest => (false, rest)
  | cs => (false, cs)

/-- The exponent part at the end of a numeral, which may be missing. -/
def exponentPart? : List Char → Option Int
  | [] => some 0
  | c :: rest =>
    if c == 'e' || c == 'E' then
      let (minus, ds) := takeSign rest
      if ds.isEmpty || !ds.all isDigit then none
      else some (if minus then -(ofDigits ds : Int) else ofDigits ds)
    else none

/-- Reads a numeral: an optional sign, digits with an optional point among or beside them, and an
optional exponent. -/
def ofChars? (cs : List Char) : Option Numeral :=
  let (minus, body) := takeSign cs
  let whole := body.takeWhile isDigit
  let afterWhole := body.dropWhile isDigit
  let (fraction, tail) := match afterWhole with
    | '.' :: rest => (rest.takeWhile isDigit, rest.dropWhile isDigit)
    | _ => ([], afterWhole)
  let ds := whole ++ fraction
  if ds.isEmpty then none
  else
    (exponentPart? tail).map fun e =>
      ⟨minus, ofDigits ds, ds.length, e - fraction.length⟩

/-- The nearest double, if that is finite. -/
def toDouble? (n : Numeral) : Option Double :=
  if n.coefficient = 0 then some (.zero n.negative)
  else if 310 < n.exponent then none
  else if n.exponent + n.digits < -330 then some (.zero n.negative)
  else if 0 ≤ n.exponent then
    Double.ofRatio n.negative (n.coefficient * tenTo n.exponent.toNat) 1
  else Double.ofRatio n.negative n.coefficient (tenTo (-n.exponent).toNat)

end Numeral

end WebForm
