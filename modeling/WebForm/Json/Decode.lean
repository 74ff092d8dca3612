import WebForm.Json.Draft
import WebForm.Number.Layout
import WebForm.Text.Shown
/-!
# Decoding documents

The parts that all decoders share. A decoder walks a draft in the order of the document and stops
at the first thing that is wrong: a fault of the text, or a value of the wrong shape. What is
wrong about a shape is a `Mismatch`, which knows its own wording.

A document is decoded either from a text or from a value that is in memory already. The two
origins differ in two points. A text may nest only so deep, while a value has no limit, and a
record written as an array with too many elements is a fault of a text but a mismatch of a value.
-/

set_option autoImplicit false

namespace WebForm

/-- What was found in place of the expected thing. -/
inductive Found where
  | null
  | bool (b : Bool)
  | integer (n : Int)
  | double (d : Double)
  | string (s : String)
  | sequence
  | map
deriving DecidableEq, Repr

/-- How a value can fail to have the expected shape. -/
inductive Mismatch where
  | invalidType (found : Found) (expected : String)
  | invalidValue (found : Found) (expected : String)
  | invalidLength (length : Nat) (expected : String)
  | missingField (name : String)
  | duplicateField (name : String)
  | unknownVariant (name : String) (expected : String)
deriving DecidableEq, Repr

/-- Why a document could not be decoded. -/
inductive DecodeError where
  /-- The text is no JSON. -/
  | text (f : Fault)
  /-- The value has the wrong shape. -/
  | shape (m : Mismatch)
deriving DecidableEq, Repr

/-- The result of decoding. -/
abbrev Decoded (α : Type) := Except DecodeError α

namespace Found

/-- The wording of what was found. -/
def message : Found → String
  | .null => "null"
  | .bool b => "boolean `" ++ (if b then "true" else "false") ++ "`"
  | .integer n => "integer `" ++ toString n ++ "`"
  | .double d => "floating point `" ++ d.documentText ++ "`"
  | .string s => "string " ++ Text.shown s
  | .sequence => "sequence"
  | .map => "map"

/-- A scalar as something found. -/
def ofScalar : Scalar → Found
  | .null => .null
  | .bool b => .bool b
  | .number (.integer n) => .integer n.val
  | .number (.double d) => .double d
  | .string s => .string s

end Found

/-- The wording of a mismatch. -/
def Mismatch.message : Mismatch → String
  | .invalidType found expected => "invalid type: " ++ found.message ++ ", expected " ++ expected
  | .invalidValue found expected => "invalid value: " ++ found.message ++ ", expected " ++ expected
  | .invalidLength n expected => "invalid length " ++ toString n ++ ", expected " ++ expected
  | .missingField name => "missing field `" ++ name ++ "`"
  | .duplicateField name => "duplicate field `" ++ name ++ "`"
  | .unknownVariant name expected => "unknown variant `" ++ name ++ "`, expected " ++ expected

/-- The wording of the error. -/
def DecodeError.message : DecodeError → String
  | .text .malformed => "the text is malformed"
  | .text .unfinished => "the text ends too early"
  | .shape m => m.message

/-- Where a document comes from. -/
inductive Origin where
  /-- A text, in which arrays and objects may nest this much deeper. -/
  | text (room : Nat)
  /-- A value in memory. -/
  | value
deriving DecidableEq, Repr

namespace Origin

/-- Goes one level deeper. -/
def enter : Origin → Decoded Origin
  | .text 0 => .error (.text .malformed)
  | .text (room + 1) => .ok (.text room)
  | .value => .ok .value

/-- The error for a record whose array has elements beyond the last field. -/
def tooLong (o : Origin) (length : Nat) : DecodeError :=
  match o with
  | .text _ => .text .malformed
  | .value => .shape (.invalidLength length "fewer elements in array")

end Origin

namespace Decode

/-- Reports the fault that an array or object ends with. -/
def closeWith {α : Type} (value : α) : Option Fault → Decoded α
  | none => .ok value
  | some f => .error (.text f)

/-- The error for a draft that is not of the expected kind. -/
def unexpected (d : Draft) (expected : String) : DecodeError :=
  match d with
  | .scalar (.error f) _ => .text f
  | .scalar (.ok s) _ => .shape (.invalidType (.ofScalar s) expected)
  | .array _ _ => .shape (.invalidType .sequence expected)
  | .object _ _ => .shape (.invalidType .map expected)

/-- Passes over a member that nobody asks for. -/
def ignore (d : Draft) : Decoded Unit := closeWith () d.skip

/-- The name of a member. -/
def key (k : Except Fault String) : Decoded String := k.mapError .text

/-- A string. -/
def string (d : Draft) : Decoded String :=
  match d with
  | .scalar (.ok (.string s)) _ => .ok s
  | d => .error (unexpected d "a string")

/-- A boolean. -/
def bool (d : Draft) : Decoded Bool :=
  match d with
  | .scalar (.ok (.bool b)) _ => .ok b
  | d => .error (unexpected d "a boolean")

/-- A number of either kind, as a double. -/
def double (d : Draft) : Decoded Double :=
  match d with
  | .scalar (.ok (.number n)) _ => .ok n.toDouble
  | d => .error (unexpected d "f64")

/-- A count: an integer of an unsigned word. -/
def word (d : Draft) : Decoded UInt64 :=
  match d with
  | .scalar (.ok (.number (.integer n))) _ =>
    if n.val < 0 then .error (.shape (.invalidValue (.integer n.val) "usize"))
    else .ok (UInt64.ofNat n.val.toNat)
  | d => .error (unexpected d "usize")

@[simp] theorem string_ofJson (s : String) : string (.ofJson (.string s)) = .ok s := rfl

@[simp] theorem bool_ofJson (b : Bool) : bool (.ofJson (.bool b)) = .ok b := rfl

@[simp] theorem double_ofJson (n : JsonNumber) : double (.ofJson (.number n)) = .ok n.toDouble :=
  rfl

/-- A count that was written is read back. -/
@[simp] theorem word_ofJson (n : UInt64) : word (.ofJson (.number (.ofWord n))) = .ok n := by
  have h : ¬(n.toNat : Int) < 0 := by omega
  simp [word, Draft.ofJson, Draft.ofScalar, JsonNumber.ofWord, h]

/-- A value that may be null. -/
def optional {α : Type} (decode : Draft → Decoded α) (d : Draft) : Decoded (Option α) :=
  match d with
  | .scalar (.ok .null) _ => .ok none
  | d => (decode d).map some

/-- An array of values of one kind. -/
def listOf {α : Type} (decode : Draft → Decoded α) (o : Origin) (d : Draft) : Decoded (List α) :=
  match d with
  | .array items ending => do
    let _ ← o.enter
    let values ← items.mapM decode
    closeWith values ending
  | d => .error (unexpected d "a sequence")

/-- Fails if a field of a record has been given before. -/
def fresh {α : Type} (name : String) : Option α → Decoded Unit
  | none => .ok ()
  | some _ => .error (.shape (.duplicateField name))

/-- A field that has to be there. -/
def require {α : Type} (name : String) : Option α → Decoded α
  | some value => .ok value
  | none => .error (.shape (.missingField name))

/-- The error for a record whose array ends before a field that has to be there. -/
def tooShort (name : String) (length fields : Nat) : DecodeError :=
  .shape (.invalidLength length
    ("struct " ++ name ++ " with " ++ toString fields ++ " elements"))

/-- A choice among named constants, written as its name or as an object with the name as its only
member and null for the value. -/
def choice {α : Type} (named : String → Option α) (expected : String) (d : Draft) : Decoded α :=
  let pick (name : String) : Decoded α :=
    match named name with
    | some a => .ok a
    | none => .error (.shape (.unknownVariant name expected))
  match d with
  | .scalar (.ok (.string s)) _ => pick s
  | .object [(k, value)] none => do
    let chosen ← (key k).bind pick
    match value with
    | .scalar (.ok .null) _ => .ok chosen
    | other => .error (unexpected other "unit")
  | .object members ending => do
    closeWith () ((Draft.skipMembers members).or ending)
    .error (.shape (.invalidValue .map "map with a single key"))
  | d => .error (unexpected d "string or map")

end Decode

end WebForm
