import WebForm.Toml.Text
import WebForm.Toml.Value
/-!
# TOML scalars

Booleans, numbers, dates and times, which are written without quotes. Digits may be grouped by
single underscores. An integer has at most 128 bits, and a number that is not written as infinite
is finite.
-/

set_option autoImplicit false

namespace WebForm.Toml

/-- The digits of a group, without the underscores between them. -/
def groupedDigits? (isDigit : Char → Bool) : List Char → Option (List Char)
  | [] => none
  | [c] => if isDigit c then some [c] else none
  | c :: '_' :: rest =>
    if isDigit c then (groupedDigits? isDigit rest).map (c :: ·) else none
  | c :: rest => if isDigit c then (groupedDigits? isDigit rest).map (c :: ·) else none

/-- Whether digits have no needless zero in front. -/
def isMinimal : List Char → Bool
  | '0' :: _ :: _ => false
  | _ => true

/-- The value of an unsigned integer in some base. -/
def based? (base : Nat) (cs : List Char) : Option Nat := do
  let digits ← groupedDigits? (fun c => (hexValue? c).any (· < base)) cs
  digits.foldlM (fun n c => (hexValue? c).map (n * base + ·)) 0

/-- An integer. -/
def integer? (cs : List Char) : Option Int :=
  let n : Option Int := match cs with
    | '0' :: 'x' :: rest => (based? 16 rest).map Int.ofNat
    | '0' :: 'o' :: rest => (based? 8 rest).map Int.ofNat
    | '0' :: 'b' :: rest => (based? 2 rest).map Int.ofNat
    | cs =>
      let (minus, body) := Numeral.takeSign cs
      if isMinimal body then
        (based? 10 body).map fun n => if minus then -(n : Int) else n
      else none
  n.filter fun n => -(twoTo 127 : Int) ≤ n && n < twoTo 128

/-- The digits before the point or the exponent of a float. -/
def wholeDigits? (cs : List Char) : Option (List Char) :=
  (groupedDigits? Numeral.isDigit cs).filter fun _ => isMinimal cs

/-- Whether a character starts an exponent. -/
def isExponentMark (c : Char) : Bool := c == 'e' || c == 'E'

/-- The exponent of a float, as a numeral spells it. -/
def exponentText? : List Char → Option (List Char)
  | [] => some []
  | mark :: rest =>
    let (minus, digits) := Numeral.takeSign rest
    (groupedDigits? Numeral.isDigit digits).map fun digits =>
      mark :: (if minus then '-' else '+') :: digits

/-- A float with a fraction or an exponent. -/
def finite? (cs : List Char) : Option Double := do
  let (minus, body) := Numeral.takeSign cs
  let mantissa := body.takeWhile (!isExponentMark ·)
  let exponent := body.dropWhile (!isExponentMark ·)
  let whole := mantissa.takeWhile (· != '.')
  let fraction := mantissa.dropWhile (· != '.')
  if fraction.isEmpty && exponent.isEmpty then none
  let wholeDigits ← wholeDigits? whole
  let fractionDigits ← match fraction with
    | [] => some []
    | _ :: digits => (groupedDigits? Numeral.isDigit digits).map ('.' :: ·)
  let exponentDigits ← exponentText? exponent
  let numeral ← Numeral.ofChars?
    ((if minus then ['-'] else []) ++ wholeDigits ++ fractionDigits ++ exponentDigits)
  numeral.toDouble?

/-- A float. -/
def float? (cs : List Char) : Option Floating :=
  let (minus, body) := Numeral.takeSign cs
  if body = ['i', 'n', 'f'] then some (.infinite minus)
  else if body = ['n', 'a', 'n'] then some .notANumber
  else (finite? cs).map .finite

/-! ## Dates and times -/

/-- The number of exactly so many digits at the start of a text. -/
def fixedDigits? (count : Nat) (cs : List Char) : Option (Nat × List Char) :=
  let ds := cs.take count
  if ds.length = count && ds.all Numeral.isDigit then some (Numeral.ofDigits ds, cs.drop count)
  else none

/-- Reads a certain character. -/
def expect (c : Char) : List Char → Option (List Char)
  | d :: rest => if c = d then some rest else none
  | [] => none

/-- The number of days of a month. -/
def daysOf (year month : Nat) : Nat :=
  if month = 2 then
    if (year % 4 = 0 && year % 100 ≠ 0) || year % 400 = 0 then 29 else 28
  else if month = 4 || month = 6 || month = 9 || month = 11 then 30
  else 31

/-- Passes over a date. -/
def date? (cs : List Char) : Option (List Char) := do
  let (year, cs) ← fixedDigits? 4 cs
  let (month, cs) ← fixedDigits? 2 (← expect '-' cs)
  let (day, cs) ← fixedDigits? 2 (← expect '-' cs)
  if 1 ≤ month && month ≤ 12 && 1 ≤ day && day ≤ daysOf year month then some cs else none

/-- Passes over the fraction of a second, if there is one. -/
def secondFraction? : List Char → Option (List Char)
  | '.' :: rest =>
    if (rest.takeWhile Numeral.isDigit).isEmpty then none
    else some (rest.dropWhile Numeral.isDigit)
  | cs => some cs

/-- Passes over a time; the seconds may be left out. -/
def time? (cs : List Char) : Option (List Char) := do
  let (hour, cs) ← fixedDigits? 2 cs
  let (minute, cs) ← fixedDigits? 2 (← expect ':' cs)
  if 23 < hour || 59 < minute then none
  match cs with
  | ':' :: cs => do
    let (second, cs) ← fixedDigits? 2 cs
    if 60 < second then none else secondFraction? cs
  | cs => some cs

/-- Passes over an offset from universal time, if there is one. -/
def offset? : List Char → Option (List Char)
  | [] => some []
  | c :: rest =>
    if c == 'Z' || c == 'z' then some rest
    else if c == '+' || c == '-' then do
      let (hour, cs) ← fixedDigits? 2 rest
      let (minute, cs) ← fixedDigits? 2 (← expect ':' cs)
      if 23 < hour || 59 < minute then none else some cs
    else some (c :: rest)

/-- Whether a character stands between a date and a time. -/
def isTimeMark (c : Char) : Bool := c == 'T' || c == 't' || c == ' '

/-- Whether a text is a date, a time, or both. -/
def isDatetime (cs : List Char) : Bool :=
  match date? cs with
  | some [] => true
  | some (mark :: rest) => isTimeMark mark && ((time? rest).bind offset?) == some []
  | none => time? cs == some []

/-! ## Scalars -/

/-- The value of a scalar without quotes. -/
def bareScalar? (cs : List Char) : Option Value :=
  if cs = ['t', 'r', 'u', 'e'] then some (.boolean true)
  else if cs = ['f', 'a', 'l', 's', 'e'] then some (.boolean false)
  else if isDatetime cs then some (.datetime (String.ofList cs))
  else
    match integer? cs with
    | some n => some (.integer n)
    | none => (float? cs).map .float

/-- Whether a character ends a scalar without quotes. -/
def endsScalar (c : Char) : Bool :=
  isBlank c || c == '\n' || c == '\r' || c == '#' || c == ',' || c == ']' || c == '\x7d'

/-- A scalar without quotes. A blank between a date and a time does not end it. -/
def readScalar (cs : List Char) : Option (Value × List Char) :=
  let bare := cs.takeWhile (!endsScalar ·)
  let rest := cs.dropWhile (!endsScalar ·)
  match date? bare, rest with
  | some [], ' ' :: c :: more =>
    if Numeral.isDigit c then
      let time := (c :: more).takeWhile (!endsScalar ·)
      (bareScalar? (bare ++ ' ' :: time)).map fun v => (v, (c :: more).dropWhile (!endsScalar ·))
    else (bareScalar? bare).map fun v => (v, rest)
  | _, _ => (bareScalar? bare).map fun v => (v, rest)

end WebForm.Toml
