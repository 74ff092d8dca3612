import WebForm.Form.Basic
import WebForm.Json.Decode
/-!
# Forms as documents

How a form stands in a JSON document, in both directions. A record is written as an object or as
the array of its fields in a fixed order; members that nobody knows are passed over, and optional
ones may be missing or null. Members are decoded in the order of the document, and what is missing
is noticed when the record ends. Writing leaves out what is absent or empty.
-/

set_option autoImplicit false

namespace WebForm

/-! ## Constraints -/

namespace Constraints

/-- The constraints as far as a document has given them. -/
structure Slots where
  minLength : Option (Option UInt64) := none
  maxLength : Option (Option UInt64) := none
  min : Option (Option Double) := none
  max : Option (Option Double) := none
  pattern : Option (Option String) := none

/-- What the slots hold; an empty one is an absent constraint. -/
def Slots.finish (s : Slots) : Constraints where
  minLength := s.minLength.join
  maxLength := s.maxLength.join
  min := s.min.join
  max := s.max.join
  pattern := s.pattern.join

open Decode in
/-- Decodes one member. -/
def Slots.member (s : Slots) (name : String) (d : Draft) : Decoded Slots :=
  match name with
  | "minLength" => do
    fresh name s.minLength
    return { s with minLength := some (← optional word d) }
  | "maxLength" => do
    fresh name s.maxLength
    return { s with maxLength := some (← optional word d) }
  | "min" => do
    fresh name s.min
    return { s with min := some (← optional double d) }
  | "max" => do
    fresh name s.max
    return { s with max := some (← optional double d) }
  | "pattern" => do
    fresh name s.pattern
    return { s with pattern := some (← optional string d) }
  | _ => do
    ignore d
    return s

/-- The members in the order of the array form. -/
def memberNames : List String := ["minLength", "maxLength", "min", "max", "pattern"]

/-- Decodes the members of an object. -/
def Slots.members (s : Slots) : List (Except Fault String × Draft) → Decoded Slots
  | [] => .ok s
  | (k, d) :: rest => do
    let name ← Decode.key k
    (← s.member name d).members rest

/-- Decodes the elements of an array, one for each name; gives back the elements left over. -/
def Slots.elements (s : Slots) (ending : Option Fault) :
    List String → List Draft → Decoded (Slots × List Draft)
  | [], rest => .ok (s, rest)
  | _ :: _, [] => Decode.closeWith (s, []) ending
  | name :: names, d :: rest => do (← s.member name d).elements ending names rest

/-- Decodes constraints. -/
def decode (o : Origin) (d : Draft) : Decoded Constraints :=
  match d with
  | .object members ending => do
    let _ ← o.enter
    let s ← Slots.members {} members
    Decode.closeWith s.finish ending
  | .array items ending => do
    let _ ← o.enter
    let (s, rest) ← Slots.elements {} ending memberNames items
    if rest.isEmpty then Decode.closeWith s.finish ending
    else .error (o.tooLong items.length)
  | d => .error (Decode.unexpected d "struct ValidationConstraints")

/-- An optional member of an object. -/
def optionalMember {α : Type} (name : String) (encode : α → Json) :
    Option α → List (String × Json)
  | none => []
  | some a => [(name, encode a)]

/-- A double as a document number. -/
def doubleJson (d : Double) : Json := .number (.double d)

/-- A count as a document number. -/
def wordJson (n : UInt64) : Json := .number (.ofWord n)

/-- The constraints as a document. -/
def toJson (c : Constraints) : Json :=
  .object
    (optionalMember "minLength" wordJson c.minLength ++
      optionalMember "maxLength" wordJson c.maxLength ++
      optionalMember "min" doubleJson c.min ++
      optionalMember "max" doubleJson c.max ++
      optionalMember "pattern" .string c.pattern)

end Constraints

/-! ## Fields -/

namespace Field

/-- A field as far as a document has given it. -/
structure Slots where
  name : Option String := none
  type : Option FieldType := none
  label : Option String := none
  required : Option Bool := none
  constraints : Option (Option Constraints) := none
  options : Option (List String) := none
  itemType : Option (Option FieldType) := none
  children : Option (List Field) := none
  placeholder : Option (Option String) := none
  helperText : Option (Option String) := none

/-- The members in the order of the array form. -/
def memberNames : List String :=
  ["name", "type", "label", "required", "validation", "options", "itemType", "fields",
    "placeholder", "helperText"]

namespace Slots

open Decode

/-- Decodes a member other than the children. -/
def member (o : Origin) (s : Slots) (name : String) (d : Draft) : Decoded Slots :=
  match name with
  | "name" => do
    fresh name s.name
    return { s with name := some (← string d) }
  | "type" => do
    fresh name s.type
    return { s with type := some (.ofSpelling (← string d)) }
  | "label" => do
    fresh name s.label
    return { s with label := some (← string d) }
  | "required" => do
    fresh name s.required
    return { s with required := some (← bool d) }
  | "validation" => do
    fresh name s.constraints
    return { s with constraints := some (← optional (Constraints.decode o) d) }
  | "options" => do
    fresh name s.options
    return { s with options := some (← listOf string o d) }
  | "itemType" => do
    fresh name s.itemType
    return { s with itemType := some ((← optional string d).map FieldType.ofSpelling) }
  | "placeholder" => do
    fresh name s.placeholder
    return { s with placeholder := some (← optional string d) }
  | "helperText" => do
    fresh name s.helperText
    return { s with helperText := some (← optional string d) }
  | _ => do
    ignore d
    return s

/-- The field of the slots, given its name and type. -/
def finish (s : Slots) (name : String) (type : FieldType) : Field where
  spec :=
    { name := name
      type := type
      label := s.label.getD ""
      required := s.required.getD false
      constraints := s.constraints.join
      options := s.options.getD []
      itemType := s.itemType.join
      placeholder := s.placeholder.join
      helperText := s.helperText.join }
  children := s.children.getD []

/-- The field of an object, whose name and type must have been there. -/
def finishObject (s : Slots) : Decoded Field := do
  let name ← require "name" s.name
  let type ← require "type" s.type
  return s.finish name type

/-- The field of an array of `length` elements. -/
def finishArray (s : Slots) (length : Nat) : Decoded Field :=
  match s.name, s.type with
  | some name, some type => .ok (s.finish name type)
  | _, _ => .error (tooShort "FieldDescriptor" length memberNames.length)

end Slots

mutual

/-- Decodes a field. -/
def decode (o : Origin) : Draft → Decoded Field
  | .object members ending => do
    let o ← o.enter
    let s ← decodeMembers o {} members
    Decode.closeWith () ending
    s.finishObject
  | .array items ending => do
    let o ← o.enter
    let (s, full) ← decodeElements o {} ending memberNames items
    let field ← s.finishArray items.length
    if full then .error (o.tooLong items.length) else Decode.closeWith field ending
  | .scalar read skipped =>
    .error (Decode.unexpected (.scalar read skipped) "struct FieldDescriptor")
termination_by structural d => d

/-- Decodes the members of an object. -/
def decodeMembers (o : Origin) (s : Slots) :
    List (Except Fault String × Draft) → Decoded Slots
  | [] => .ok s
  | (k, d) :: rest => do
    let name ← Decode.key k
    if name = "fields" then
      Decode.fresh name s.children
      let children ← decodeList o d
      decodeMembers o { s with children := some children } rest
    else
      let s ← s.member o name d
      decodeMembers o s rest
termination_by structural members => members

/-- Decodes the elements of an array, one for each name. Tells whether elements are left over. -/
def decodeElements (o : Origin) (s : Slots) (ending : Option Fault) (names : List String) :
    List Draft → Decoded (Slots × Bool)
  | [] => if names.isEmpty then .ok (s, false) else Decode.closeWith (s, false) ending
  | d :: rest =>
    match names with
    | [] => .ok (s, true)
    | name :: names => do
      if name = "fields" then
        let children ← decodeList o d
        decodeElements o { s with children := some children } ending names rest
      else
        let s ← s.member o name d
        decodeElements o s ending names rest
termination_by structural items => items

/-- Decodes an array of fields. -/
def decodeList (o : Origin) : Draft → Decoded (List Field)
  | .array items ending => do
    let o ← o.enter
    let fields ← decodeAll o items
    Decode.closeWith fields ending
  | .object members ending => .error (Decode.unexpected (.object members ending) "a sequence")
  | .scalar read skipped => .error (Decode.unexpected (.scalar read skipped) "a sequence")
termination_by structural d => d

/-- Decodes fields from left to right. -/
def decodeAll (o : Origin) : List Draft → Decoded (List Field)
  | [] => .ok []
  | d :: rest => do
    let field ← decode o d
    let fields ← decodeAll o rest
    return field :: fields
termination_by structural items => items

end

/-- What a document says about a field itself, without its children. -/
def specMembers (s : FieldSpec) : List (String × Json) × List (String × Json) :=
  ([("name", .string s.name), ("type", .string s.type.spelling), ("label", .string s.label),
      ("required", .bool s.required)] ++
    Constraints.optionalMember "validation" Constraints.toJson s.constraints ++
    (if s.options.isEmpty then [] else [("options", .array (s.options.map .string))]) ++
    Constraints.optionalMember "itemType" (fun t => .string t.spelling) s.itemType,
   Constraints.optionalMember "placeholder" .string s.placeholder ++
    Constraints.optionalMember "helperText" .string s.helperText)

mutual

/-- A field as a document. -/
def toJson : Field → Json
  | ⟨spec, children⟩ =>
    let (before, after) := specMembers spec
    let inner := toJsonAll children
    .object (before ++ (if inner.isEmpty then [] else [("fields", .array inner)]) ++ after)
termination_by structural f => f

/-- Fields as documents. -/
def toJsonAll : List Field → List Json
  | [] => []
  | f :: rest => toJson f :: toJsonAll rest
termination_by structural fs => fs

end

/-- Fields are written one by one. -/
theorem toJsonAll_eq_map (fs : List Field) : toJsonAll fs = fs.map toJson := by
  induction fs with
  | nil => rfl
  | cons f rest ih => simp [toJsonAll, ih]

end Field

/-! ## Forms -/

namespace Form

open Decode

/-- A form as far as a document has given it. -/
structure Slots where
  title : Option String := none
  fields : Option (List Field) := none

/-- Decodes one member. -/
def Slots.member (o : Origin) (s : Slots) (name : String) (d : Draft) : Decoded Slots :=
  match name with
  | "title" => do
    fresh name s.title
    return { s with title := some (← string d) }
  | "fields" => do
    fresh name s.fields
    return { s with fields := some (← Field.decodeList o d) }
  | _ => do
    ignore d
    return s

/-- Decodes the members of an object. -/
def Slots.members (o : Origin) (s : Slots) :
    List (Except Fault String × Draft) → Decoded Slots
  | [] => .ok s
  | (k, d) :: rest => do
    let name ← key k
    (← s.member o name d).members o rest

/-- Decodes a form. -/
def decode (o : Origin) (d : Draft) : Decoded Form :=
  match d with
  | .object members ending => do
    let o ← o.enter
    let s ← Slots.members o {} members
    closeWith () ending
    return ⟨← require "title" s.title, s.fields.getD []⟩
  | .array [] ending => do
    let _ ← o.enter
    closeWith () ending
    .error (tooShort "FormDescriptor" 0 2)
  | .array [title] ending => do
    let _ ← o.enter
    let form : Form := ⟨← string title, []⟩
    closeWith form ending
  | .array (title :: fields :: rest) ending => do
    let o ← o.enter
    let form : Form := ⟨← string title, ← Field.decodeList o fields⟩
    if rest.isEmpty then closeWith form ending
    else .error (o.tooLong (rest.length + 2))
  | d => .error (unexpected d "struct FormDescriptor")

/-- A form as a document. -/
def toJson (form : Form) : Json :=
  .object [("title", .string form.title), ("fields", .array (Field.toJsonAll form.fields))]

/-- Decodes a form from a text. -/
def decodeText (text : String) : Decoded Form := do
  let document := Document.read text
  let form ← decode (.text Document.maxDepth) document.value
  (document.endOfText form).mapError .text

/-- Decodes a form from a value. -/
def decodeJson (value : Json) : Decoded Form := decode .value (.ofJson value)

end Form

end WebForm
