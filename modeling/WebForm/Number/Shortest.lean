import WebForm.Number.Double
/-!
# Shortest digits

The shortest decimal that reads back as a given double. A decimal reads back when it lies in the
interval of reals that round to the double, whose ends belong to it exactly if the significand is
even. For each count of digits the two neighbours of the value on that decimal grid are tried;
the first grid with a hit wins, and of two hits the nearer one. If any point of a grid lies in
the interval, one of the two neighbours does, so no shorter decimal is missed.
-/

set_option autoImplicit false

namespace WebForm

/-- Which of two equally near decimals is taken. -/
inductive Tie where
  /-- The one whose last digit is even. -/
  | toEven
  /-- The one further from zero. -/
  | away
deriving DecidableEq, Repr

/-- The positive number `coefficient * 10 ^ exponent`. -/
structure Decimal where
  coefficient : Nat
  exponent : Int
deriving DecidableEq, Repr

namespace Decimal

/-- The decimal digits of a number, most significant first. -/
def digitsOf (n : Nat) : List Char := Nat.toDigits 10 n

/-- The same number with no zero at the end of the coefficient; `fuel` bounds the zeros. -/
def stripZeros : Nat → Decimal → Decimal
  | 0, d => d
  | fuel + 1, d =>
    if d.coefficient % 10 = 0 && d.coefficient != 0 then
      stripZeros fuel ⟨d.coefficient / 10, d.exponent + 1⟩
    else d

end Decimal

namespace Double

/-- The interval of reals that round to a positive double, and the double itself, in quarters of
its last place; whether the ends belong to the interval. -/
structure Neighbourhood where
  low : Nat
  value : Nat
  high : Nat
  closed : Bool

/-- The neighbourhood of a positive double in quarters of 2 ^ (scale - 1074). Below a power of
two the next double is half as far. -/
def neighbourhood (d : Double) : Neighbourhood :=
  let m := d.significand
  let near := m = twoTo 52 && d.scale != 0
  { low := 4 * m - if near then 1 else 2
    value := 4 * m
    high := 4 * m + 2
    closed := m % 2 == 0 }

/-- The power of ten of the leading digit of a positive ratio `num / den`. -/
def leadingPower (num den : Nat) : Int :=
  if den ≤ num then (Decimal.digitsOf (num / den)).length - 1
  else -((Decimal.digitsOf ((den - 1) / num)).length : Int)

/-- The decimal of the fewest digits for `value * unit`, where `unit = num / den`: tries grids
from the leading power `lead` downwards. -/
def shortestFrom (tie : Tie) (b : Neighbourhood) (num den : Nat) (lead : Int) :
    Nat → Nat → Decimal
  | 0, _ => ⟨0, 0⟩
  | fuel + 1, count =>
    let e : Int := lead - count
    -- the grid step is `10 ^ e`; all bounds in units of `num / den`, cleared of denominators
    let (scaleUp, step) :=
      if 0 ≤ e then (num, den * tenTo e.toNat) else (num * tenTo (-e).toNat, den)
    let below := b.value * scaleUp / step
    let above := below + 1
    let inside (k : Nat) : Bool :=
      if b.closed then b.low * scaleUp ≤ k * step && k * step ≤ b.high * scaleUp
      else b.low * scaleUp < k * step && k * step < b.high * scaleUp
    let gapBelow := b.value * scaleUp - below * step
    let gapAbove := above * step - b.value * scaleUp
    let takeBelow :=
      gapBelow < gapAbove || gapBelow == gapAbove && tie == .toEven && below % 2 == 0
    match inside below, inside above with
    | true, true => ⟨if takeBelow then below else above, e⟩
    | true, false => ⟨below, e⟩
    | false, true => ⟨above, e⟩
    | false, false => shortestFrom tie b num den lead fuel (count + 1)

/-- The shortest decimal that reads back as the absolute value of a double other than zero. -/
def shortest (tie : Tie) (d : Double) : Decimal :=
  let b := d.neighbourhood
  -- a quarter of the last place is `2 ^ (scale - 1076)`
  let (num, den) :=
    if 1076 ≤ d.scale then (twoTo (d.scale - 1076), 1) else (1, twoTo (1076 - d.scale))
  let lead := leadingPower (b.value * num) den
  (shortestFrom tie b num den lead 20 0).stripZeros 20

end Double

end WebForm
