import WebForm.Json.Decode
import WebForm.Schema.Message
/-!
# Validation results

What a validation reports: errors, each at the dotted path of a field, with a message for the user
and a code for the program. A result is valid exactly when it was made without errors.
-/

set_option autoImplicit false

namespace WebForm.Schema

/-- An error at one field. -/
structure FieldError where
  field : String
  message : String
  code : String
deriving DecidableEq, Repr

namespace FieldError

/-- A required value that is missing or empty. -/
def required (field message : String) : FieldError := ⟨field, message, "required"⟩

/-- A text shorter than the bound. -/
def minLength (field : String) (n : UInt64) : FieldError :=
  ⟨field, Message.minLength n, "min_length"⟩

/-- A text longer than the bound. -/
def maxLength (field : String) (n : UInt64) : FieldError :=
  ⟨field, Message.maxLength n, "max_length"⟩

/-- A text that is no e-mail address. -/
def email (field : String) : FieldError := ⟨field, Message.email, "email"⟩

/-- A text that does not match the pattern. -/
def pattern (field : String) : FieldError := ⟨field, Message.pattern, "pattern"⟩

/-- A value that is no number. -/
def invalidNumber (field : String) : FieldError :=
  ⟨field, Message.invalidNumber, "invalid_number"⟩

/-- A number below the bound. -/
def minValue (field : String) (n : Double) : FieldError :=
  ⟨field, Message.minValue n, "min_value"⟩

/-- A number above the bound. -/
def maxValue (field : String) (n : Double) : FieldError :=
  ⟨field, Message.maxValue n, "max_value"⟩

/-- A required checkbox that is not checked. -/
def mustBeChecked (field message : String) : FieldError := ⟨field, message, "must_be_checked"⟩

/-- A value that is none of the options. -/
def invalidOption (field label : String) : FieldError :=
  ⟨field, Message.invalidOption label, "invalid_option"⟩

/-- A list with too few items. -/
def minItems (field message : String) : FieldError := ⟨field, message, "min_items"⟩

/-- A value of the wrong JSON type. -/
def invalidType (field expected : String) : FieldError :=
  ⟨field, Message.invalidType expected, "invalid_type"⟩

/-- An error that is none of the others. -/
def custom (field message : String) : FieldError := ⟨field, message, "custom"⟩

/-- The error as a document. -/
def toJson (e : FieldError) : Json :=
  .object [("field", .string e.field), ("message", .string e.message), ("code", .string e.code)]

end FieldError

/-- The result of a validation. -/
structure ValidationResult where
  valid : Bool
  errors : List FieldError
deriving DecidableEq, Repr

namespace ValidationResult

/-- A result without errors. -/
def ok : ValidationResult := ⟨true, []⟩

/-- The result that reports some errors. -/
def ofErrors (errors : List FieldError) : ValidationResult := ⟨errors.isEmpty, errors⟩

/-- The errors of one result after those of another. -/
def merge (a b : ValidationResult) : ValidationResult := ofErrors (a.errors ++ b.errors)

/-- The errors at one field. -/
def errorsFor (r : ValidationResult) (field : String) : List FieldError :=
  r.errors.filter (·.field == field)

/-- Adds an error to the group of its field; groups are sorted by field. -/
def insertGrouped (e : FieldError) :
    List (String × List FieldError) → List (String × List FieldError)
  | [] => [(e.field, [e])]
  | (field, group) :: rest =>
    if e.field = field then (field, group ++ [e]) :: rest
    else if e.field < field then (e.field, [e]) :: (field, group) :: rest
    else (field, group) :: insertGrouped e rest

/-- The errors grouped by field, sorted by field. -/
def errorsByField (r : ValidationResult) : List (String × List FieldError) :=
  r.errors.foldl (fun groups e => insertGrouped e groups) []

/-- The result as a document. -/
def toJson (r : ValidationResult) : Json :=
  .object [("valid", .bool r.valid), ("errors", .array (r.errors.map FieldError.toJson))]

@[simp] theorem valid_ofErrors (errors : List FieldError) :
    (ofErrors errors).valid = errors.isEmpty := rfl

@[simp] theorem errors_ofErrors (errors : List FieldError) :
    (ofErrors errors).errors = errors := rfl

@[simp] theorem errors_merge (a b : ValidationResult) :
    (a.merge b).errors = a.errors ++ b.errors := rfl

@[simp] theorem errorsFor_merge (a b : ValidationResult) (field : String) :
    (a.merge b).errorsFor field = a.errorsFor field ++ b.errorsFor field := by
  simp [errorsFor]

end ValidationResult

/-! ## Decoding -/

open Decode

namespace FieldError

/-- An error as far as a document has given it. -/
structure Slots where
  field : Option String := none
  message : Option String := none
  code : Option String := none

/-- The members in the order of the array form. -/
def memberNames : List String := ["field", "message", "code"]

/-- Decodes one member. -/
def Slots.member (s : Slots) (name : String) (d : Draft) : Decoded Slots :=
  match name with
  | "field" => do
    fresh name s.field
    return { s with field := some (← string d) }
  | "message" => do
    fresh name s.message
    return { s with message := some (← string d) }
  | "code" => do
    fresh name s.code
    return { s with code := some (← string d) }
  | _ => do
    ignore d
    return s

/-- Decodes an error. -/
def decode (o : Origin) (d : Draft) : Decoded FieldError :=
  match d with
  | .object members ending => do
    let _ ← o.enter
    let s ← members.foldlM (fun (s : Slots) (k, value) => do s.member (← key k) value) {}
    closeWith () ending
    return ⟨← require "field" s.field, ← require "message" s.message, ← require "code" s.code⟩
  | .array items ending => do
    let _ ← o.enter
    let texts ← (items.take 3).mapM string
    match texts with
    | [field, message, code] =>
      if 3 < items.length then .error (o.tooLong items.length)
      else closeWith ⟨field, message, code⟩ ending
    | texts => do
      closeWith () ending
      .error (tooShort "FieldError" texts.length 3)
  | d => .error (unexpected d "struct FieldError")

end FieldError

namespace ValidationResult

/-- A result as far as a document has given it. -/
structure Slots where
  valid : Option Bool := none
  errors : Option (List FieldError) := none

/-- Decodes one member. -/
def Slots.member (o : Origin) (s : Slots) (name : String) (d : Draft) : Decoded Slots :=
  match name with
  | "valid" => do
    fresh name s.valid
    return { s with valid := some (← bool d) }
  | "errors" => do
    fresh name s.errors
    return { s with errors := some (← listOf (FieldError.decode o) o d) }
  | _ => do
    ignore d
    return s

/-- Decodes a result. -/
def decode (o : Origin) (d : Draft) : Decoded ValidationResult :=
  match d with
  | .object members ending => do
    let o ← o.enter
    let s ← members.foldlM (fun (s : Slots) (k, value) => do s.member o (← key k) value) {}
    closeWith () ending
    return ⟨← require "valid" s.valid, ← require "errors" s.errors⟩
  | .array items ending => do
    let o ← o.enter
    match items with
    | [] => do
      closeWith () ending
      .error (tooShort "ValidationResult" 0 2)
    | [valid] => do
      let _ ← bool valid
      closeWith () ending
      .error (tooShort "ValidationResult" 1 2)
    | valid :: errors :: rest => do
      let valid ← bool valid
      let errors ← listOf (FieldError.decode o) o errors
      if rest.isEmpty then closeWith ⟨valid, errors⟩ ending
      else .error (o.tooLong items.length)
  | d => .error (unexpected d "struct ValidationResult")

/-- Decodes a result from a value. -/
def ofJson (value : Json) : Decoded ValidationResult := decode .value (.ofJson value)

end ValidationResult

end WebForm.Schema
