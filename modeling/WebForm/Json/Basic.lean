import WebForm.Number.Numeral
/-!
# JSON values

Documents and submissions. Objects keep their members in the order in which they were written.
Numbers are integers of at most 64 bits or doubles, and the two kinds stay apart: `2` is an
integer and `2.0` is not.
-/

set_option autoImplicit false

namespace WebForm

/-- The integers that a document number can be: those of a signed or an unsigned 64-bit word. -/
abbrev WordInt := { n : Int // -0x8000000000000000 ≤ n ∧ n < 0x10000000000000000 }

/-- A number of a document. -/
inductive JsonNumber where
  | integer (n : WordInt)
  | double (d : Double)
deriving DecidableEq, Repr

/-- A JSON value. -/
inductive Json where
  | null
  | bool (b : Bool)
  | number (n : JsonNumber)
  | string (s : String)
  | array (items : List Json)
  | object (members : List (String × Json))
deriving Repr, Inhabited

namespace JsonNumber

/-- The number as a double; an integer that is none goes to the nearest. -/
def toDouble : JsonNumber → Double
  | .integer n => Double.ofInt n.val
  | .double d => d

/-- The natural number of an integer that is not negative. -/
def toNat? : JsonNumber → Option Nat
  | .integer n => if 0 ≤ n.val then some n.val.toNat else none
  | .double _ => none

/-- An integer as a document number: as such when a word holds it, else the nearest double. -/
def ofInt (n : Int) : JsonNumber :=
  if h : -0x8000000000000000 ≤ n ∧ n < 0x10000000000000000 then .integer ⟨n, h⟩
  else .double (Double.ofInt n)

/-- An unsigned word as a document number. -/
def ofWord (n : UInt64) : JsonNumber :=
  .integer ⟨n.toNat, by have := n.toNat_lt; omega⟩

end JsonNumber

namespace Json

/-- The first member of a name. -/
def lookup (name : String) : List (String × Json) → Option Json
  | [] => none
  | (key, value) :: rest => if key = name then some value else lookup name rest

/-- Puts a member into an object: a name that is there already keeps its place and takes the new
value, another name goes to the end. -/
def insertMember (name : String) (value : Json) : List (String × Json) → List (String × Json)
  | [] => [(name, value)]
  | (key, old) :: rest =>
    if key = name then (key, value) :: rest else (key, old) :: insertMember name value rest

/-- The members as an object keeps them when they arrive one by one. -/
def collectMembers (members : List (String × Json)) : List (String × Json) :=
  members.foldl (fun acc (name, value) => insertMember name value acc) []

@[simp] theorem lookup_nil (name : String) : lookup name [] = none := rfl

@[simp] theorem lookup_cons_self (name : String) (v : Json) (rest : List (String × Json)) :
    lookup name ((name, v) :: rest) = some v := by simp [lookup]

/-- What was put into an object is found there. -/
@[simp] theorem lookup_insertMember_self (name : String) (v : Json)
    (ms : List (String × Json)) : lookup name (insertMember name v ms) = some v := by
  induction ms with
  | nil => simp [insertMember]
  | cons m rest ih =>
    obtain ⟨key, old⟩ := m
    by_cases h : key = name <;> simp [insertMember, lookup, h, ih]

/-- Putting a member into an object changes no other name. -/
theorem lookup_insertMember_ne {name other : String} (v : Json) (h : other ≠ name)
    (ms : List (String × Json)) : lookup other (insertMember name v ms) = lookup other ms := by
  induction ms with
  | nil => simp [insertMember, lookup, Ne.symm h]
  | cons m rest ih =>
    obtain ⟨key, old⟩ := m
    by_cases hk : key = name
    · subst hk
      simp [insertMember, lookup, Ne.symm h]
    · by_cases ho : key = other <;> simp [insertMember, lookup, hk, ho, h, ih]

end Json

end WebForm
