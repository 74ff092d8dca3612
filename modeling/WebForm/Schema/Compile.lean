import WebForm.Form.Basic
import WebForm.Schema.Validator
/-!
# Compiling a form to its schema

Every field becomes a validator of its kind, wrapped as optional unless the field is required.
Only the constraints that apply to the kind are looked at, and only lists are looked into.

Compiling fails at the first field, in preorder, whose kind is unknown or whose pattern is no
regular expression. A choice without options does not fail: it rejects every value, and the schema
carries a warning about it.
-/

set_option autoImplicit false

namespace WebForm.Schema

/-- Why a form has no schema. Fields are named by their dotted paths. -/
inductive CompileError where
  | unknownKind (field kind : String)
  | invalidPattern (field pattern : String) (reason : Pattern.PatternError)
deriving DecidableEq, Repr

/-- The wording of the error. -/
def CompileError.message : CompileError → String
  | .unknownKind field kind => s!"field '{field}' has unrecognized type '{kind}'"
  | .invalidPattern field pattern reason =>
    s!"field '{field}' has invalid pattern '{pattern}': {reason.message}"

/-! ## Rules of one field -/

/-- The pattern of a field, if one is in effect. -/
def patternOf (path : String) (c : Constraints) : Except CompileError (Option Pattern) :=
  match c.patternInEffect with
  | none => .ok none
  | some source =>
    match Pattern.ofSource source with
    | .ok p => .ok (some p)
    | .error reason => .error (.invalidPattern path source reason)

/-- The rules for a field that holds a text. -/
def stringRulesOf (path : String) (kind : FieldKind) (label : String) (c : Constraints) :
    Except CompileError StringRules := do
  let pattern ← patternOf path c
  return ⟨Message.required label, c.minLengthInEffect, c.maxLengthInEffect, kind == .email, pattern⟩

/-- The rules for a field that holds a number. -/
def numberRulesOf (label : String) (c : Constraints) : NumberRules :=
  ⟨Message.required label, c.min, c.max⟩

/-- The validator for one item of a list of primitives. -/
def Validator.ofItemKind (kind : FieldKind) : Validator :=
  match kind.base with
  | .number => .number ⟨Message.itemRequired, none, none⟩
  | .boolean => .boolean none
  | _ => .string ⟨Message.itemRequired, none, none, kind == .email, none⟩

/-- Wraps a validator as optional unless the field is required. What is edited as text may also
be left empty. -/
def Validator.guard (required : Bool) (base : BaseRule) (v : Validator) : Validator :=
  if required then v else .optional v (base == .string || base == .number)

/-! ## Trees of fields -/

namespace Validator

mutual

/-- The validator of a field at a path. -/
def ofField (path : String) : Field → Except CompileError Validator
  | ⟨spec, children⟩ =>
    match spec.type with
    | .unrecognized raw => .error (.unknownKind path raw)
    | .known kind =>
      let c := spec.constraints.getD {}
      let inner : Except CompileError Validator :=
        match kind.base with
        | .string => (stringRulesOf path kind spec.label c).map .string
        | .number => .ok (.number (numberRulesOf spec.label c))
        | .boolean =>
          .ok (.boolean (if spec.required then some (Message.mustBeChecked spec.label) else none))
        | .oneOf => .ok (.oneOf spec.label spec.options)
        | .list =>
          let item : Except CompileError Validator :=
            if children.isEmpty then .ok (ofItemKind (Field.mk spec children).itemKind)
            else (ofFields path children).map .object
          item.map fun item =>
            .array item (if spec.required then 1 else 0) (Message.minItems spec.label)
      inner.map (guard spec.required kind.base)
termination_by structural f => f

/-- The validators of siblings, by name. -/
def ofFields (parent : String) : List Field → Except CompileError (List (String × Validator))
  | [] => .ok []
  | f :: rest => do
    let v ← ofField (Field.joinPath parent f.name) f
    let vs ← ofFields parent rest
    return (f.name, v) :: vs
termination_by structural fs => fs

end

end Validator

/-! ## Warnings -/

namespace Warning

/-- The warning about a choice without options. -/
def noOptions (path : String) (kind : FieldKind) : Warning :=
  ⟨path, kind.spelling ++ " field has no options and rejects every value"⟩

mutual

/-- The warnings about a field at a path and the fields inside it. -/
def ofField (path : String) : Field → List Warning
  | ⟨spec, children⟩ =>
    match spec.type.kind? with
    | none => []
    | some kind =>
      match kind.base with
      | .oneOf => if spec.options.isEmpty then [noOptions path kind] else []
      | .list => ofFields path children
      | _ => []
termination_by structural f => f

/-- The warnings about siblings. -/
def ofFields (parent : String) : List Field → List Warning
  | [] => []
  | f :: rest => ofField (Field.joinPath parent f.name) f ++ ofFields parent rest
termination_by structural fs => fs

end

/-- Warnings come field by field. -/
theorem ofFields_eq_flatMap (parent : String) (fs : List Field) :
    ofFields parent fs = fs.flatMap fun f => ofField (Field.joinPath parent f.name) f := by
  induction fs with
  | nil => rfl
  | cons f rest ih => simp [ofFields, ih]

end Warning

/-- The schema of a form. -/
def ValidationSchema.ofForm (form : Form) : Except CompileError ValidationSchema := do
  let fields ← Validator.ofFields "" form.fields
  return ⟨fields, Warning.ofFields "" form.fields⟩

end WebForm.Schema
