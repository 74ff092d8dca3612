import WebForm.Field.Basic
import WebForm.Identifier
import WebForm.Source.Comment
import WebForm.Source.Literal
import WebForm.Source.Style
/-!
# The generated interface

The type of the submitted data of a form, as a TypeScript interface. A member may be absent unless
its field is required; a choice is the union of its options.
-/

set_option autoImplicit false

namespace WebForm.Interface

open Source

/-- The type of a value that is no object. -/
inductive Ty where
  | string
  | number
  | boolean
  /-- One of some texts, of which there is at least one. -/
  | union (first : String) (rest : List String)
  | arrayOf (item : Ty)
deriving DecidableEq, Repr

namespace Ty

/-- The type as it is written. -/
def text : Ty → String
  | .string => "string"
  | .number => "number"
  | .boolean => "boolean"
  | .union first rest => " | ".intercalate ((first :: rest).map quote)
  | .arrayOf item => item.text ++ "[]"

/-- The type of a choice; without options nothing is known but that it is a text. -/
def ofOptions : List String → Ty
  | [] => .string
  | first :: rest => .union first rest

/-- The type of one item of a list of primitives. -/
def ofItemKind (kind : FieldKind) : Ty :=
  match kind.base with
  | .number => .number
  | .boolean => .boolean
  | _ => .string

/-- The type of a field that is no list of objects. -/
def ofLeaf (kind : FieldKind) (spec : FieldSpec) (itemKind : FieldKind) : Ty :=
  match kind.base with
  | .string => .string
  | .number => .number
  | .boolean => .boolean
  | .oneOf => ofOptions spec.options
  | .list => .arrayOf (ofItemKind itemKind)

end Ty

/-- A member of an interface. -/
inductive Member where
  /-- A comment in place of a field of an unknown kind. -/
  | unsupported (type path : String)
  | value (name : String) (required : Bool) (type : Ty)
  | objects (name : String) (required : Bool) (members : List Member)

namespace Member

mutual

/-- The member of a field at a path. -/
def ofField (path : String) : Field → Member
  | ⟨spec, children⟩ =>
    match spec.type with
    | .unrecognized raw => .unsupported raw path
    | .known kind =>
      if (Field.mk spec children).isObjectArray then
        .objects spec.name spec.required (ofFields path children)
      else
        .value spec.name spec.required (.ofLeaf kind spec (Field.mk spec children).itemKind)
termination_by structural f => f

/-- The members of siblings. -/
def ofFields (parent : String) : List Field → List Member
  | [] => []
  | f :: rest => ofField (Field.joinPath parent f.name) f :: ofFields parent rest
termination_by structural fs => fs

end

/-- Each sibling becomes one member. -/
theorem ofFields_eq_map (parent : String) (fs : List Field) :
    ofFields parent fs = fs.map fun f => ofField (Field.joinPath parent f.name) f := by
  induction fs with
  | nil => rfl
  | cons f rest ih => simp [ofFields, ih]

/-- The key of a member, with a question mark if it may be absent. -/
def head (name : String) (required : Bool) : String :=
  propertyKey name ++ (if required then "" else "?") ++ ": "

mutual

/-- The lines of a member. -/
def lines (depth : Nat) : Member → List Line
  | .unsupported type path => [⟨depth, unsupportedComment type path⟩]
  | .value name required type => [⟨depth, head name required ++ type.text ++ ";"⟩]
  | .objects name required members =>
    ⟨depth, head name required ++ "Array<\x7b"⟩ :: allLines (depth + 1) members ++
      [⟨depth, "\x7d>;"⟩]
termination_by structural m => m

/-- The lines of members one after the other. -/
def allLines (depth : Nat) : List Member → List Line
  | [] => []
  | m :: rest => lines depth m ++ allLines depth rest
termination_by structural ms => ms

end

/-- Members are written one after the other. -/
theorem allLines_eq_flatMap (depth : Nat) (ms : List Member) :
    allLines depth ms = ms.flatMap (lines depth) := by
  induction ms with
  | nil => rfl
  | cons m rest ih => simp [allLines, ih]

/-- The members of siblings have the lines of each sibling, one after the other. -/
theorem lines_ofFields (parent : String) (depth : Nat) (fs : List Field) :
    allLines depth (ofFields parent fs) =
      fs.flatMap fun f => (ofField (Field.joinPath parent f.name) f).lines depth := by
  rw [allLines_eq_flatMap, ofFields_eq_map, List.flatMap_map]

end Member

/-- The lines of the whole file. -/
def fileLines (ids : Identifiers) (fields : List Field) : List Line :=
  ⟨0, "export interface " ++ ids.formDataType ++ " \x7b"⟩ ::
    Member.allLines 1 (Member.ofFields "" fields) ++ [⟨0, "\x7d"⟩]

end WebForm.Interface
