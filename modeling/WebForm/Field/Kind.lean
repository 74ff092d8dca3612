import WebForm.Json.Basic
/-!
# Field kinds

The closed set of kinds that a form field can have, and the traits that every pass over a form
reads off a kind: which rule its values obey, what it starts from, which control shows it, and
which constraints apply. A field whose kind is spelled differently from all of them keeps its
spelling as an unrecognized type.
-/

set_option autoImplicit false

namespace WebForm

/-- The kinds of fields, in the order in which they are listed. -/
inductive FieldKind where
  | text | email | password | number | textArea | boolean | select | radio | array
deriving DecidableEq, Repr

/-- The rule that the values of a kind obey. -/
inductive BaseRule where
  /-- A string, possibly bounded in length. -/
  | string
  /-- A number, or a string that spells one. -/
  | number
  | boolean
  /-- One of the options of the field. -/
  | oneOf
  | list
deriving DecidableEq, Repr

/-- What a field of a kind starts from. Numbers are edited as text, so they start empty too. -/
inductive DefaultRule where
  | emptyString
  | unchecked
  | emptyList
deriving DecidableEq, Repr

/-- The control that shows a kind. -/
inductive Control where
  /-- A one-line input of a type that the browser knows. -/
  | input (type : String)
  | textArea
  | checkbox
  | select
  | radioGroup
  | fieldArray
deriving DecidableEq, Repr

namespace FieldKind

/-- All kinds in order. -/
def all : List FieldKind :=
  [.text, .email, .password, .number, .textArea, .boolean, .select, .radio, .array]

/-- The spelling of a kind in a document. -/
def spelling : FieldKind → String
  | .text => "text"
  | .email => "email"
  | .password => "password"
  | .number => "number"
  | .textArea => "textarea"
  | .boolean => "boolean"
  | .select => "select"
  | .radio => "radio"
  | .array => "array"

/-- The kind of a spelling. -/
def ofSpelling? (s : String) : Option FieldKind := all.find? (·.spelling == s)

/-- The rule for the values of a kind. -/
def base : FieldKind → BaseRule
  | .text | .email | .password | .textArea => .string
  | .number => .number
  | .boolean => .boolean
  | .select | .radio => .oneOf
  | .array => .list

/-- What a field of the kind starts from. -/
def defaultRule : FieldKind → DefaultRule
  | .boolean => .unchecked
  | .array => .emptyList
  | _ => .emptyString

/-- The control that shows the kind. -/
def control : FieldKind → Control
  | .text => .input "text"
  | .email => .input "email"
  | .password => .input "password"
  | .number => .input "number"
  | .textArea => .textArea
  | .boolean => .checkbox
  | .select => .select
  | .radio => .radioGroup
  | .array => .fieldArray

/-- Whether bounds on the length and a pattern apply. -/
def admitsLength (k : FieldKind) : Bool := k.base == .string

/-- Whether bounds on the value apply. -/
def admitsRange (k : FieldKind) : Bool := k.base == .number

/-- Whether a list may have items of the kind without declaring fields for them. -/
def isPrimitive (k : FieldKind) : Bool :=
  match k.base with
  | .string | .number | .boolean => true
  | .oneOf | .list => false

/-- Whether values are strings with bounds on the length. -/
def isTextLike (k : FieldKind) : Bool := k.base == .string

/-- Whether the field enumerates its values. -/
def hasOptions (k : FieldKind) : Bool := k.base == .oneOf

/-- A spelling determines its kind. -/
@[simp] theorem ofSpelling?_spelling (k : FieldKind) : ofSpelling? k.spelling = some k := by
  cases k <;> decide

end FieldKind

namespace DefaultRule

/-- The initial value. -/
def value : DefaultRule → Json
  | .emptyString => .string ""
  | .unchecked => .bool false
  | .emptyList => .array []

/-- The initial value in generated code. -/
def literal : DefaultRule → String
  | .emptyString => "''"
  | .unchecked => "false"
  | .emptyList => "[]"

end DefaultRule

/-- The type of a field: a known kind, or any other spelling. -/
inductive FieldType where
  | known (kind : FieldKind)
  | unrecognized (raw : String)
deriving DecidableEq, Repr

namespace FieldType

/-- The type that a document spells. -/
def ofSpelling (s : String) : FieldType :=
  match FieldKind.ofSpelling? s with
  | some k => .known k
  | none => .unrecognized s

/-- The spelling of a type in a document. -/
def spelling : FieldType → String
  | .known k => k.spelling
  | .unrecognized raw => raw

/-- The kind, if it is a known one. -/
def kind? : FieldType → Option FieldKind
  | .known k => some k
  | .unrecognized _ => none

@[simp] theorem ofSpelling_spelling_known (k : FieldKind) :
    ofSpelling (FieldType.known k).spelling = .known k := by
  simp [ofSpelling, spelling]

/-- The spelling of a type that was read is what was read. -/
@[simp] theorem spelling_ofSpelling (s : String) : (ofSpelling s).spelling = s := by
  unfold ofSpelling
  split
  · next k h =>
    have := List.find?_some h
    simpa [spelling] using this
  · rfl

end FieldType

end WebForm
