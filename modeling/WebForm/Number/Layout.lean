import WebForm.Number.Shortest
/-!
# Layouts of decimals

Where the digits of a decimal go: positional notation, or one digit before the point and a power
of ten behind it. Two number formats are built from the layouts: the one of documents, where a
double always shows that it is one, and the one of messages and generated code, which writes
whole numbers without a fraction and never uses an exponent.
-/

set_option autoImplicit false

namespace WebForm

namespace Decimal

/-- A run of zeros. -/
def zeros (n : Nat) : List Char := List.replicate n '0'

/-- Positional notation; the point is written only where digits follow it. -/
def positional (d : Decimal) : List Char :=
  let ds := digitsOf d.coefficient
  if 0 ≤ d.exponent then ds ++ zeros d.exponent.toNat
  else
    let places := (-d.exponent).toNat
    if places < ds.length then
      ds.take (ds.length - places) ++ '.' :: ds.drop (ds.length - places)
    else '0' :: '.' :: zeros (places - ds.length) ++ ds

/-- The power of ten of the leading digit. -/
def lead (d : Decimal) : Int := (digitsOf d.coefficient).length - 1 + d.exponent

/-- One digit, the others behind a point, and a signed exponent without leading zeros. -/
def scientific (d : Decimal) : List Char :=
  let mantissa := match digitsOf d.coefficient with
    | first :: second :: rest => first :: '.' :: second :: rest
    | ds => ds
  let sign := if d.lead < 0 then '-' else '+'
  mantissa ++ 'e' :: sign :: digitsOf d.lead.natAbs

end Decimal

namespace Double

/-- The sign of a negative double. -/
def signChars (d : Double) : List Char := if d.negative then ['-'] else []

/-- A double in a document: the shortest digits, positional with at least one place for leading
powers from -5 to 15, else scientific. -/
def documentText (d : Double) : String :=
  let body :=
    if d.magnitude = 0 then ['0', '.', '0']
    else
      let s := d.shortest .toEven
      if -5 ≤ s.lead && s.lead ≤ 15 then
        if 0 ≤ s.exponent then s.positional ++ ['.', '0'] else s.positional
      else s.scientific
  String.ofList (d.signChars ++ body)

/-- A double in a message or in generated code: an integer below 10 ^ 15 as such, without a sign
for zero; else the shortest digits in positional notation. -/
def plainText (d : Double) : String :=
  if d.isIntegral && d.truncate.natAbs < tenTo 15 then toString d.truncate
  else String.ofList (d.signChars ++ (d.shortest .away).positional)

end Double

end WebForm
