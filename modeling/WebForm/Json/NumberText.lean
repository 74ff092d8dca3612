import WebForm.Json.Basic
/-!
# Numbers of a document

The value of a number as a document writes it. An integer that fits a 64-bit word stays one, with
the exception of `-0`, which is the double. Any other number is a double, computed in two rounded
steps: the leading digits, as many as an unsigned word holds, are rounded to a double, and that
is multiplied or divided by a power of ten. The result can differ from the nearest double in the
last place when there are more than fifteen digits.
-/

set_option autoImplicit false

namespace WebForm

namespace JsonNumber

/-- Appends digits to a number while an unsigned word holds the result. Gives the number and the
count of digits that were left out. -/
def absorb (n : Nat) : List Char → Nat × Nat
  | [] => (n, 0)
  | d :: rest =>
    let longer := n * 10 + Numeral.digitValue d
    if longer < 0x10000000000000000 then absorb longer rest else (n, rest.length + 1)

/-- A power of ten as a double. -/
def powerOfTen (n : Nat) : Double := (Double.ofRatio false (tenTo n) 1).getD (.zero false)

/-- Divides by a power of ten, in steps of at most 308. -/
def scaleDown (d : Double) (n : Nat) : Double :=
  if n ≤ 308 then (d.div? (powerOfTen n)).getD d
  else if d.magnitude = 0 then d
  else scaleDown ((d.div? (powerOfTen 308)).getD d) (n - 308)
termination_by n

/-- Multiplies by a power of ten, positive or negative, if the result is finite. -/
def scale? (d : Double) (exponent : Int) : Option Double :=
  if exponent < 0 then some (scaleDown d exponent.natAbs)
  else if exponent ≤ 308 then d.mul? (powerOfTen exponent.toNat)
  else if d.magnitude = 0 then some d
  else none

/-- The double `± word * 10 ^ exponent`, if that is finite. -/
def ofWordAndPower? (negative : Bool) (word : Nat) (exponent : Int) : Option JsonNumber :=
  (scale? (Double.ofInt word) exponent).map fun d =>
    .double (if negative then d.neg else d)

/-- The number written with the given digits before and after the point and the given exponent.
There is none when it exceeds every double. -/
def ofParts? (negative : Bool) (whole : List Char) (fraction : Option (List Char))
    (exponent : Option Int) : Option JsonNumber :=
  let (word, excess) := absorb 0 whole
  match fraction, exponent with
  | none, none =>
    if excess ≠ 0 then ofWordAndPower? negative word excess
    else if negative then
      if h : word ≠ 0 ∧ word ≤ 0x8000000000000000 then
        some (.integer ⟨-(word : Int), by omega⟩)
      else some (.double (Double.ofInt word).neg)
    else some (ofInt word)
  | fraction, exponent =>
    let places := fraction.getD []
    let (word, unread) := absorb word places
    ofWordAndPower? negative word
      (exponent.getD 0 + excess - ((places.length : Int) - unread))

end JsonNumber

end WebForm
