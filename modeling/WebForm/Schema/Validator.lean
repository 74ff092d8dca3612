import WebForm.Field.Basic
import WebForm.Pattern
import WebForm.Schema.Email
import WebForm.Schema.Result
/-!
# Validators

A compiled schema is a tree of validators in the shape of its form. Checking a value against a
validator gives the list of everything that is wrong, in the order of the schema, each error at
the path where it was found. An absent value and null are the same to every validator.
-/

set_option autoImplicit false

namespace WebForm.Schema

/-- The rules for texts. -/
structure StringRules where
  /-- Reported for a missing or empty text. -/
  requiredMessage : String
  minLength : Option UInt64 := none
  maxLength : Option UInt64 := none
  email : Bool := false
  pattern : Option Pattern := none
deriving DecidableEq

/-- The rules for numbers. -/
structure NumberRules where
  requiredMessage : String
  min : Option Double := none
  max : Option Double := none
deriving DecidableEq

/-- A validator. -/
inductive Validator where
  | string (rules : StringRules)
  | number (rules : NumberRules)
  /-- A boolean, which has to be true if a message for the other case is given. -/
  | boolean (mustBeChecked : Option String)
  | oneOf (label : String) (options : List String)
  | array (item : Validator) (minItems : UInt64) (minItemsMessage : String)
  /-- An object with a validator for each of some names; other members do not matter. -/
  | object (fields : List (String × Validator))
  /-- Accepts the absent value, and the empty text if told so; leaves the rest to `inner`. -/
  | optional (inner : Validator) (acceptsEmptyString : Bool)

/-! ## Single values -/

/-- The number that a value stands for: itself, or what a text spells between its blanks. -/
def coerceNumber : Json → Option Double
  | .number n => some n.toDouble
  | .string s => (Numeral.ofChars? (Text.trimChars s.toList)).bind Numeral.toDouble?
  | _ => none

/-- A value, of which null is none. -/
def present : Option Json → Option Json
  | none | some .null => none
  | some v => some v

/-- The errors of a condition that does not hold. -/
def failIf (wrong : Bool) (e : FieldError) : List FieldError := if wrong then [e] else []

/-- The errors of a rule that does not hold, where there may be no such rule. -/
def failRule {α : Type} (rule : Option α) (wrong : α → Bool) (e : α → FieldError) :
    List FieldError :=
  match rule with
  | some r => failIf (wrong r) (e r)
  | none => []

/-- What is wrong with a text that is not empty. -/
def StringRules.errorsOf (rules : StringRules) (path s : String) : List FieldError :=
  failRule rules.minLength (fun n => s.length < n.toNat) (.minLength path) ++
  failRule rules.maxLength (fun n => n.toNat < s.length) (.maxLength path) ++
  failIf (rules.email && !isEmail s) (.email path) ++
  failRule rules.pattern (fun p => !p.occursIn s) (fun _ => .pattern path)

/-- What is wrong with a value that has to be a text. -/
def StringRules.check (rules : StringRules) (path : String) : Option Json → List FieldError
  | none => [.required path rules.requiredMessage]
  | some (.string s) =>
    if s = "" then [.required path rules.requiredMessage] else rules.errorsOf path s
  | some _ => [.invalidType path "text"]

/-- What is wrong with a number. -/
def NumberRules.errorsOf (rules : NumberRules) (path : String) (n : Double) : List FieldError :=
  failRule rules.min (fun bound => n.less bound) (.minValue path) ++
  failRule rules.max (fun bound => bound.less n) (.maxValue path)

/-- Whether a value is a text of white space only. -/
def isBlankText : Json → Bool
  | .string s => Text.isBlank s
  | _ => false

/-- What is wrong with a value that has to be a number. -/
def NumberRules.check (rules : NumberRules) (path : String) : Option Json → List FieldError
  | none => [.required path rules.requiredMessage]
  | some v =>
    if isBlankText v then [.required path rules.requiredMessage]
    else
      match coerceNumber v with
      | some n => rules.errorsOf path n
      | none => [.invalidNumber path]

/-- What is wrong with a value that has to be a boolean. -/
def checkBoolean (mustBeChecked : Option String) (path : String) :
    Option Json → List FieldError
  | some (.bool true) => []
  | some (.bool false) | none =>
    match mustBeChecked with
    | some message => [.mustBeChecked path message]
    | none => []
  | some _ => [.invalidType path "true or false"]

/-- What is wrong with a value that has to be one of some options. -/
def checkOption (label : String) (options : List String) (path : String) :
    Option Json → List FieldError
  | none => [.required path (Message.required label)]
  | some (.string s) => failIf (!options.contains s) (.invalidOption path label)
  | some _ => [.invalidOption path label]

/-! ## Trees of values -/

namespace Validator

/-- Collects the errors of the items of a list, whose indices start at `index`. -/
def checkItems (check : String → Option Json → List FieldError) (path : String) (index : Nat) :
    List Json → List FieldError
  | [] => []
  | item :: rest =>
    check (Field.joinPath path (toString index)) (present (some item)) ++
      checkItems check path (index + 1) rest

mutual

/-- What is wrong with a value, where `none` is the absent value or null. -/
def checkPresent : Validator → String → Option Json → List FieldError
  | .string rules, path, v => rules.check path v
  | .number rules, path, v => rules.check path v
  | .boolean mustBeChecked, path, v =>
    if v.isNone && mustBeChecked.isNone then [.invalidType path "true or false"]
    else checkBoolean mustBeChecked path v
  | .oneOf label options, path, v => checkOption label options path v
  | .array item minItems message, path, v =>
    match v with
    | none => [.minItems path message]
    | some (.array items) =>
      failIf (items.length < minItems.toNat) (.minItems path message) ++
        checkItems item.checkPresent path 0 items
    | some _ => [.invalidType path "a list"]
  | .object fields, path, v =>
    match v with
    | some (.object members) => checkFields fields path members
    | _ => [.invalidType path "an object"]
  | .optional inner acceptsEmptyString, path, v =>
    match v with
    | none => []
    | some (.string s) =>
      if acceptsEmptyString && s = "" then [] else inner.checkPresent path (some (.string s))
    | some v => inner.checkPresent path (some v)
termination_by structural validator => validator

/-- What is wrong with the members of an object. -/
def checkFields : List (String × Validator) → String → List (String × Json) → List FieldError
  | [], _, _ => []
  | (name, validator) :: rest, path, members =>
    validator.checkPresent (Field.joinPath path name) (present (Json.lookup name members)) ++
      checkFields rest path members
termination_by structural fields => fields

end

/-- What is wrong with a value. -/
def check (v : Validator) (path : String) (value : Option Json) : List FieldError :=
  v.checkPresent path (present value)

/-- The result of checking a value by itself. -/
def validate (v : Validator) (value : Json) (path : String) : ValidationResult :=
  .ofErrors (v.check path (some value))

/-- Whether the validator accepts the absent value as such. -/
def isOptional : Validator → Bool
  | .optional _ _ => true
  | _ => false

/-! ## Documents -/

/-- A member with a count. -/
def countMember (name : String) : Option UInt64 → List (String × Json)
  | none => []
  | some n => [(name, .number (.ofWord n))]

/-- A member with a double. -/
def doubleMember (name : String) : Option Double → List (String × Json)
  | none => []
  | some d => [(name, .number (.double d))]

mutual

/-- A validator as a document. -/
def toJson : Validator → Json
  | .string rules => .object
      ([("type", .string "string"), ("requiredMessage", .string rules.requiredMessage)] ++
        countMember "minLength" rules.minLength ++ countMember "maxLength" rules.maxLength ++
        [("email", .bool rules.email)] ++
        (match rules.pattern with
          | none => []
          | some p => [("pattern", .string p.source)]))
  | .number rules => .object
      ([("type", .string "number"), ("requiredMessage", .string rules.requiredMessage)] ++
        doubleMember "min" rules.min ++ doubleMember "max" rules.max)
  | .boolean mustBeChecked => .object
      [("type", .string "boolean"),
        ("mustBeChecked", match mustBeChecked with
          | none => .null
          | some message => .string message)]
  | .oneOf label options => .object
      [("type", .string "oneOf"), ("label", .string label),
        ("options", .array (options.map .string))]
  | .array item minItems message => .object
      [("type", .string "array"), ("item", item.toJson), ("minItems", .number (.ofWord minItems)),
        ("minItemsMessage", .string message)]
  | .object fields => .object
      [("type", .string "object"), ("fields", .array (fieldsToJson fields))]
  | .optional inner acceptsEmptyString => .object
      [("type", .string "optional"), ("inner", inner.toJson),
        ("acceptsEmptyString", .bool acceptsEmptyString)]
termination_by structural v => v

/-- The fields of an object as documents. -/
def fieldsToJson : List (String × Validator) → List Json
  | [] => []
  | (name, validator) :: rest =>
    .object [("name", .string name), ("validator", validator.toJson)] :: fieldsToJson rest
termination_by structural fields => fields

end

/-- A value is accepted exactly when nothing is wrong with it. -/
@[simp] theorem valid_validate (v : Validator) (value : Json) (path : String) :
    (v.validate value path).valid = (v.check path (some value)).isEmpty := rfl

/-- Null is as good as nothing. -/
@[simp] theorem check_null (v : Validator) (path : String) :
    v.check path (some .null) = v.check path none := rfl

/-- An optional validator takes the absence of a value, and the empty text where it is told to. -/
theorem checkPresent_optional {v : Validator} {acceptsEmpty : Bool} {path : String}
    {x : Option Json} :
    (optional v acceptsEmpty).checkPresent path x = [] ↔
      x = none ∨ (acceptsEmpty = true ∧ x = some (.string "")) ∨ v.checkPresent path x = [] := by
  rcases x with _ | x
  · simp [checkPresent]
  · cases x with
    | string s => by_cases hs : s = "" <;> cases acceptsEmpty <;> simp [checkPresent, hs]
    | null => simp [checkPresent]
    | bool b => simp [checkPresent]
    | number n => simp [checkPresent]
    | array items => simp [checkPresent]
    | object members => simp [checkPresent]

end Validator

/-- Something that is odd about a form but does not keep it from being compiled. -/
structure Warning where
  field : String
  message : String
deriving DecidableEq, Repr

/-- The compiled schema of a form. -/
structure ValidationSchema where
  fields : List (String × Validator)
  warnings : List Warning

namespace ValidationSchema

/-- The result of checking a submission. -/
def validate (schema : ValidationSchema) (submission : Json) : ValidationResult :=
  (Validator.object schema.fields).validate submission ""

/-- The validator of a top-level field. -/
def field? (schema : ValidationSchema) (name : String) : Option Validator :=
  schema.fields.lookup name

/-- The schema as a document. -/
def toJson (schema : ValidationSchema) : Json :=
  .object
    (("root", .object [("fields", .array (Validator.fieldsToJson schema.fields))]) ::
      (if schema.warnings.isEmpty then []
        else [("warnings", .array (schema.warnings.map fun w =>
          .object [("field", .string w.field), ("message", .string w.message)]))]))

end ValidationSchema

end WebForm.Schema
