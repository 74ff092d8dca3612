import WebForm.Number.Numeral
/-!
# TOML values

The values of a settings file. A table keeps its keys in the order in which they first appear.
Dates and times are kept as they are written: nothing here looks into them.
-/

set_option autoImplicit false

namespace WebForm.Toml

/-- A floating-point value. -/
inductive Floating where
  | finite (d : Double)
  | infinite (negative : Bool)
  | notANumber
deriving DecidableEq, Repr

/-- A value. -/
inductive Value where
  | string (s : String)
  | boolean (b : Bool)
  | integer (n : Int)
  | float (f : Floating)
  | datetime (text : String)
  | array (items : List Value)
  | table (members : List (String × Value))
deriving Repr, Inhabited

namespace Value

/-- The members of a record with some names: those of a table by name, those of an array by the
place of the name. A date has none of them. -/
def record? (names : List String) : Value → Option (String → Option Value)
  | .table members => some fun name => members.lookup name
  | .array items => some fun name => items[names.idxOf name]?
  | .datetime _ => some fun _ => none
  | _ => none

/-- Whether a value is an empty array or table. -/
def isVoid : Value → Bool
  | .array items => items.isEmpty
  | .table members => members.isEmpty
  | _ => false

/-- The name of a constant, written as a string or as a table with the name as its only key. -/
def constant? : Value → Option String
  | .string s => some s
  | .table [(name, value)] => if value.isVoid then some name else none
  | _ => none

end Value

end WebForm.Toml
