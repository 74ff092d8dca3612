import WebForm.Number.Power
/-!
# Finite doubles

Numbers as documents and forms carry them: the finite values of the IEEE 754 binary64 format.
A double is a sign and a *magnitude*, which is the lower 63 bits of its word. Larger values have
larger magnitudes, so order needs no arithmetic on fractions: `Double.key` maps a double to an
integer in the same order, with both zeros at 0.

`Double.ofRatio` rounds a ratio of natural numbers to the nearest double, a tie going to the even
one. Everything that makes a double (numerals, products, quotients) goes through it.
-/

set_option autoImplicit false

namespace WebForm

/-- The magnitude at which the infinities start. -/
def Double.infinity : Nat := 0x7FF0000000000000

/-- A finite binary64 value: its sign and the lower 63 bits of its word. -/
structure Double where
  negative : Bool
  magnitude : Nat
  finite : magnitude < Double.infinity
deriving DecidableEq, Repr

namespace Double

/-- Zero, with a sign. -/
def zero (negative : Bool) : Double := ⟨negative, 0, by decide⟩

instance : Inhabited Double := ⟨zero false⟩

/-! ## Reading a double -/

/-- The word of the double. -/
def bits (d : Double) : Nat := d.magnitude + if d.negative then twoTo 63 else 0

/-- The double as a multiple of a power of two: the absolute value is `significand * 2 ^ power`
with `power = scale - 1074`. -/
def significand (d : Double) : Nat :=
  if d.magnitude < twoTo 52 then d.magnitude else twoTo 52 + d.magnitude % twoTo 52

/-- The exponent of two above the smallest one, 2 ^ -1074. -/
def scale (d : Double) : Nat := d.magnitude / twoTo 52 - 1

/-- The absolute value in units of 2 ^ -1074. -/
def units (d : Double) : Nat := d.significand * twoTo d.scale

/-- An integer in the order of the doubles. -/
def key (d : Double) : Int := if d.negative then -d.magnitude else d.magnitude

/-- Strict order by value. -/
def less (a b : Double) : Bool := a.key < b.key

/-- Whether the double is an integer. -/
def isIntegral (d : Double) : Bool := d.units % twoTo 1074 == 0

/-- The double without its fraction. -/
def truncate (d : Double) : Int :=
  let n : Nat := d.units / twoTo 1074
  if d.negative then -(n : Int) else n

@[simp] theorem less_irrefl (a : Double) : a.less a = false := by simp [less]

@[simp] theorem key_zero (negative : Bool) : (zero negative).key = 0 := by
  cases negative <;> rfl

/-! ## Rounding -/

/-- The integer nearest to `num / den`, a tie going to the even one. -/
def roundHalfEven (num den : Nat) : Nat :=
  let q := num / den
  let r := num % den
  if 2 * r < den then q else if den < 2 * r then q + 1 else q + q % 2

/-- The magnitude nearest to `num / den`: 53 bits of it, or fewer where the units of 2 ^ -1074
leave no more. A carry out of the significand moves to the exponent by itself. -/
def magnitudeOfRatio (num den : Nat) : Nat :=
  let n := num * twoTo 1074
  let shift := Nat.log2 (n / den) - 52
  shift * twoTo 52 + roundHalfEven n (den * twoTo shift)

/-- The double nearest to a ratio, if that is finite. -/
def ofRatio (negative : Bool) (num den : Nat) : Option Double :=
  let m := magnitudeOfRatio num den
  if h : m < infinity then some ⟨negative, m, h⟩ else none

/-- The double nearest to an integer, if that is finite. -/
def ofInt? (n : Int) : Option Double := ofRatio (n < 0) n.natAbs 1

/-- The double nearest to an integer of at most 64 bits. -/
def ofInt (n : Int) : Double := (ofInt? n).getD (zero false)

/-- The rounded product. -/
def mul? (a b : Double) : Option Double :=
  ofRatio (a.negative != b.negative) (a.units * b.units) (twoTo 2148)

/-- The rounded quotient by a divisor that is not zero. -/
def div? (a b : Double) : Option Double :=
  ofRatio (a.negative != b.negative) a.units b.units

/-- The double with the other sign. -/
def neg (d : Double) : Double := { d with negative := !d.negative }

end Double

end WebForm
