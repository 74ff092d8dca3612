import WebForm.Field.Basic
import WebForm.Identifier
import WebForm.Source.Comment
import WebForm.Source.Style
import WebForm.Zod.Expr
/-!
# The generated schema

The schema of a form as source text. It applies the rules of the compiled schema with the same
messages: a field becomes a member with an expression, a list of objects becomes a member over
several lines with the members of its objects inside.
-/

set_option autoImplicit false

namespace WebForm.Zod

open Schema Source

/-! ## Expressions of one field -/

/-- The checks on the texts of a field of some kind, in the order in which they are chained. -/
def stringChecks (kind : FieldKind) (required : Bool) (label : String) (c : Constraints) :
    List StringCheck :=
  (if required then [.min 1 (Message.required label)] else []) ++
  (c.minLengthInEffect.map fun n => StringCheck.min n (Message.minLength n)).toList ++
  (c.maxLengthInEffect.map fun n => StringCheck.max n (Message.maxLength n)).toList ++
  (if kind = .email then [.email Message.email] else []) ++
  (c.patternInEffect.map fun p => StringCheck.regex p Message.pattern).toList

/-- Whether an empty text would fail one of the checks. -/
def rejectsEmpty (kind : FieldKind) (c : Constraints) : Bool :=
  c.minLengthInEffect.isSome || kind == .email || c.patternInEffect.isSome

/-- The bounds on the numbers of a field. -/
def numberChecks (c : Constraints) : List NumberCheck :=
  (c.min.map fun n => NumberCheck.min n (Message.minValue n)).toList ++
  (c.max.map fun n => NumberCheck.max n (Message.maxValue n)).toList

/-- The expression for one item of a list of primitives. -/
def ofItemKind (kind : FieldKind) : Zod :=
  match kind.base with
  | .number => .number Message.itemRequired []
  | .boolean => .boolean
  | _ => .string (.min 1 Message.itemRequired ::
      (if kind = .email then [.email Message.email] else []))

/-- Lets an expression accept the absent value unless a value is required; one that would reject
the empty text accepts that too. -/
def guard (required rejectsEmpty : Bool) (e : Zod) : Zod :=
  if required then e else if rejectsEmpty then .orEmpty (.optional e) else .optional e

/-- The message for an empty list, if items are required. -/
def minItemsOf (spec : FieldSpec) : Option String :=
  if spec.required then some (Message.minItems spec.label) else none

/-- The expression of a field that is no list of objects. -/
def ofLeaf (kind : FieldKind) (spec : FieldSpec) (itemKind : FieldKind) : Zod :=
  let c := spec.constraints.getD {}
  match kind.base with
  | .string =>
    guard spec.required (rejectsEmpty kind c)
      (.string (stringChecks kind spec.required spec.label c))
  | .number => guard spec.required true (.number (Message.required spec.label) (numberChecks c))
  | .boolean =>
    guard spec.required false
      (if spec.required then .mustBeTrue (Message.mustBeChecked spec.label) else .boolean)
  | .oneOf =>
    guard spec.required false (if spec.options.isEmpty then .never else .enum spec.options)
  | .list =>
    match minItemsOf spec with
    | some message => .nonEmpty (.array (ofItemKind itemKind)) message
    | none => .optional (.array (ofItemKind itemKind))

/-! ## Members -/

/-- A member of an object expression. -/
inductive Member where
  /-- A comment in place of a field of an unknown kind. -/
  | unsupported (type path : String)
  | value (name : String) (expr : Zod)
  /-- A list of objects, and the message for an empty list if items are required. -/
  | objects (name : String) (members : List Member) (minItems : Option String)

namespace Member

mutual

/-- The member of a field at a path. -/
def ofField (path : String) : Field → Member
  | ⟨spec, children⟩ =>
    match spec.type with
    | .unrecognized raw => .unsupported raw path
    | .known kind =>
      if (Field.mk spec children).isObjectArray then
        .objects spec.name (ofFields path children) (minItemsOf spec)
      else .value spec.name (ofLeaf kind spec (Field.mk spec children).itemKind)
termination_by structural f => f

/-- The members of siblings. -/
def ofFields (parent : String) : List Field → List Member
  | [] => []
  | f :: rest => ofField (Field.joinPath parent f.name) f :: ofFields parent rest
termination_by structural fs => fs

end

/-- Each sibling becomes one member. -/
theorem ofFields_eq_map (parent : String) (fs : List Field) :
    ofFields parent fs = fs.map fun f => ofField (Field.joinPath parent f.name) f := by
  induction fs with
  | nil => rfl
  | cons f rest ih => simp [ofFields, ih]

/-- What follows a list of objects. -/
def listSuffix : Option String → String
  | some message => atLeastOne message
  | none => optionalCall

mutual

/-- The lines of a member. -/
def lines (depth : Nat) : Member → List Line
  | .unsupported type path => [⟨depth, unsupportedComment type path⟩]
  | .value name expr => [⟨depth, propertyKey name ++ ": " ++ expr.text ++ ","⟩]
  | .objects name members minItems =>
    ⟨depth, propertyKey name ++ ": z.array(z.object(\x7b"⟩ :: allLines (depth + 1) members ++
      [⟨depth, "\x7d))" ++ listSuffix minItems ++ ","⟩]
termination_by structural m => m

/-- The lines of members one after the other. -/
def allLines (depth : Nat) : List Member → List Line
  | [] => []
  | m :: rest => lines depth m ++ allLines depth rest
termination_by structural ms => ms

end

/-- Members are written one after the other. -/
theorem allLines_eq_flatMap (depth : Nat) (ms : List Member) :
    allLines depth ms = ms.flatMap (lines depth) := by
  induction ms with
  | nil => rfl
  | cons m rest ih => simp [allLines, ih]

/-- The members of siblings have the lines of each sibling, one after the other. -/
theorem lines_ofFields (parent : String) (depth : Nat) (fs : List Field) :
    allLines depth (ofFields parent fs) =
      fs.flatMap fun f => (ofField (Field.joinPath parent f.name) f).lines depth := by
  rw [allLines_eq_flatMap, ofFields_eq_map, List.flatMap_map]

end Member

/-- The lines of the whole schema file. -/
def schemaLines (ids : Identifiers) (fields : List Field) : List Line :=
  [⟨0, "import \x7b z \x7d from 'zod';"⟩, .blank,
    ⟨0, "export const " ++ ids.schemaName ++ " = z.object(\x7b"⟩] ++
  Member.allLines 1 (Member.ofFields "" fields) ++
  [⟨0, "\x7d);"⟩, .blank,
    ⟨0, "export type " ++ ids.formDataType ++ " = z.infer<typeof " ++ ids.schemaName ++ ">;"⟩]

end WebForm.Zod
