import WebForm.Component.Handles
import WebForm.Component.Markup
import WebForm.Defaults
/-!
# Rendering fields

The markup of the fields of a form. A field with a single value is a wrapper around its control. A
list shows its items, with buttons that add and remove one. A list inside the items of a list is
rendered by a component of its own, so that the hook behind it never runs in a loop; components
are named when they are met and defined when what is inside them is complete.
-/

set_option autoImplicit false

namespace WebForm.Component

open Source

/-! ## Single values -/

/-- The attribute that makes a control small, where it is shown inside an item. -/
def sizeAttribute (compact : Bool) : List Markup :=
  if compact then [.attr (.constant "size" "sm")] else []

/-- The helper text of a field. -/
def helperAttribute (spec : FieldSpec) : List Markup :=
  (spec.helperText.map fun s => Markup.attr (.text "helperText" s)).toList

/-- Tells whether a field is required. -/
def requiredAttribute (spec : FieldSpec) : Markup :=
  .attr (.code "isRequired" (if spec.required then "true" else "false"))

/-- The attributes of the wrapper around a field. -/
def wrapperAttributes (spec : FieldSpec) (path : FieldPath) : List Markup :=
  [.attr (.text "label" spec.label), .attr (.path "name" path),
    .attr (.binding "formState"), requiredAttribute spec] ++ helperAttribute spec

/-- A field in its wrapper. -/
def wrapped (spec : FieldSpec) (path : FieldPath) (content : List Markup) : Markup :=
  .void "FieldWrapper" (wrapperAttributes spec path ++ [.block 1 "field=\x7b" content "\x7d"])

/-- An element whose value is driven by a controller. -/
def controlled (path : FieldPath) (element : Markup) : Markup :=
  .void "Controller"
    [.attr (.path "name" path), .attr (.binding "control"),
      .block 2 "render=\x7b(\x7b field: controllerField \x7d) => (" [element] ")\x7d"]

/-- The placeholder of a field. -/
def placeholderAttribute (f : Field) : Markup := .attr (.text "placeholder" f.placeholderText)

/-- A button of one of a few looks. -/
def button (onClick palette text : String) : Markup :=
  .stacked "Button"
    [.attr (.code "onClick" onClick), .attr (.constant "size" "sm"),
      .attr (.constant "colorPalette" palette), .attr (.constant "variant" "outline")]
    [.text text]

/-- One button of a radio group. -/
def radioItem (option : String) : Markup :=
  .inline "RadioGroup.Item" [.text "value" option]
    [.mark "RadioGroup.ItemHiddenInput", .mark "RadioGroup.ItemIndicator",
      .label "RadioGroup.ItemText" option]

/-- The control of a single value. A choice from a list and a list have elements of their own. -/
def controlElement (f : Field) (control : Control) (path : FieldPath) (compact : Bool) :
    List Markup :=
  match control with
  | .input type =>
    [.void "Input"
      ([.attr (.constant "type" type), .attr (.register path), placeholderAttribute f] ++
        sizeAttribute compact)]
  | .textArea =>
    [.void "Textarea"
      ([.attr (.register path), placeholderAttribute f] ++ sizeAttribute compact ++
        [.attr (.constant "resize" "vertical")])]
  | .checkbox =>
    [controlled path
      (.stacked "Checkbox.Root"
        ([.attr (.code "checked" "controllerField.value"),
          .attr
            (.code "onCheckedChange" "(e) => controllerField.onChange(!!e.checked)")] ++
          sizeAttribute compact)
        [.mark "Checkbox.HiddenInput", .mark "Checkbox.Control",
          .label "Checkbox.Label" f.label])]
  | .radioGroup =>
    [controlled path
      (.stacked "RadioGroup.Root"
        [.attr (.code "value" "controllerField.value"),
          .attr (.code "onValueChange" "(e) => controllerField.onChange(e.value)")]
        [.inline "Stack" [.constant "direction" "column"] (f.options.map radioItem)])]
  | .select | .fieldArray => []

/-- The options of a choice from a list. -/
def optionsAttribute (options : List String) : Markup :=
  if options.isEmpty then .attr (.code "options" "[]")
  else
    .block 1 "options=\x7b["
      (options.map fun option =>
        .text ("\x7b label: " ++ quote option ++ ", value: " ++ quote option ++ " \x7d,"))
      "]\x7d"

/-- A choice from a list, which has a wrapper of its own. -/
def selectElement (f : Field) (path : FieldPath) (compact : Bool) : Markup :=
  .void "SelectFieldWrapper"
    ([.attr (.path "name" path), .attr (.text "label" f.label),
      .attr (.binding "control"), .attr (.binding "formState"),
      optionsAttribute f.options, requiredAttribute f.spec, placeholderAttribute f] ++
      helperAttribute f.spec ++ sizeAttribute compact)

/-- A field with a single value. -/
def leafElement (f : Field) (kind : FieldKind) (path : FieldPath) (compact : Bool) : Markup :=
  if kind.control = .select then selectElement f path compact
  else wrapped f.spec path (controlElement f kind.control path compact)

/-! ## Lists -/

/-- The button that removes the current item. -/
def removeButton (handles : Handles) : Markup :=
  button ("() => " ++ handles.remove ++ "(index)") "red" "Remove"

/-- The line above the items: how many there are, and the button that adds one. -/
def listHeader (f : Field) (handles : Handles) : Markup :=
  .inline "HStack" [.constant "justify" "space-between", .constant "align" "center"]
    [.inline "Text" [.constant "fontSize" "sm", .constant "color" "gray.600"]
      [.text (braced (handles.fields ++ ".length") ++ " item" ++
        braced (handles.fields ++ ".length !== 1 ? 's' : ''"))],
      button ("() => " ++ handles.append ++ "(" ++ literal f.itemTemplate ++ ")") "green"
        ("Add " ++ childText f.label ++ " Item")]

/-- One item of a list of primitives. -/
def primitiveItem (f : Field) (path : FieldPath) (handles : Handles) : Markup :=
  .inline "HStack" [.code "key" "item.id"]
    (controlElement f f.itemKind.control path true ++ [removeButton handles])

/-- One item of a list of objects, around the elements of its fields. -/
def objectItem (f : Field) (handles : Handles) (fields : List Markup) : Markup :=
  .stacked "Box"
    [.attr (.code "key" "item.id"), .attr (.code "p" "4"),
      .attr (.constant "border" "1px"), .attr (.constant "borderColor" "gray.200"),
      .attr (.constant "borderRadius" "md"), .attr (.constant "bg" "gray.50")]
    [.inline "HStack"
        [.constant "justify" "space-between", .constant "align" "center", .code "mb" "4"]
        [.inline "Text" [.constant "fontWeight" "medium", .constant "color" "gray.700"]
          [.text (childText f.label ++ " #" ++ braced "index + 1")],
          removeButton handles],
      .blank,
      .inline "VStack" [.constant "align" "stretch"] fields]

/-- What is shown in place of the items while there are none. -/
def emptyNote (f : Field) : Markup :=
  .inline "Box"
    [.code "p" "6", .constant "bg" "gray.100", .constant "borderRadius" "md",
      .constant "textAlign" "center"]
    [.inline "Text"
      [.constant "color" "gray.500", .constant "fontSize" "sm", .constant "fontStyle" "italic"]
      [.text ("No items added yet. Click \"Add " ++ childText f.label ++
        " Item\" to create the first item.")]]

/-- A list, around the elements of the fields of one item. -/
def listElement (f : Field) (path : FieldPath) (handles : Handles) (fields : List Markup) :
    Markup :=
  wrapped f.spec path
    [.inline "VStack" [.constant "align" "stretch"]
      [listHeader f handles, .blank,
        .block 1 ("\x7b" ++ handles.fields ++ ".map((item, index) => (")
          [if f.children.isEmpty then primitiveItem f path.item handles
            else objectItem f handles fields]
          "))\x7d",
        .blank,
        .block 1 ("\x7b" ++ handles.fields ++ ".length === 0 && (") [emptyNote f] ")\x7d"]]

/-! ## Components inside components -/

/-- A component that renders one list inside the items of another. -/
structure SubComponent where
  name : String
  body : Markup

/-- The components so far. -/
structure Parts where
  /-- The names that are taken. -/
  taken : List String
  /-- The components that are complete, in order. -/
  finished : List SubComponent

/-- Rendering names components and collects them. -/
abbrev Render := StateM Parts

/-- Takes a free name. -/
def takeName (base : String) : Render String := do
  let parts ← get
  let name := freeName parts.taken base
  set { parts with taken := name :: parts.taken }
  return name

/-- Completes a component. -/
def finish (c : SubComponent) : Render Unit :=
  modify fun parts => { parts with finished := parts.finished ++ [c] }

/-- What a segment of a path adds to the name of a component. -/
def segmentName (segment : String) : String :=
  match Identifier.typeName segment with
  | .ok name => name
  | .error _ => "Items"

/-- What the component for the list at a path is named after. -/
def subComponentBase (component display : String) : String :=
  component ++ String.join ((display.splitOn ".").map segmentName) ++ "FieldArray"

mutual

/-- A field of an item. -/
def itemField (component : String) (item : FieldPath) (parent : String) : Field → Render Markup
  | ⟨spec, children⟩ =>
    let path := item.child spec.name
    let display := parent ++ "." ++ spec.name
    match spec.type with
    | .unrecognized raw => return .unsupported raw display
    | .known .array => do
      let name ← takeName (subComponentBase component display)
      let list := FieldPath.variable "path"
      let fields ← itemFields component list.item display children
      finish ⟨name, listElement ⟨spec, children⟩ list .own fields⟩
      return .void name
        [.attr (.binding "control"), .attr (.binding "register"),
          .attr (.binding "formState"), .attr (.path "path" path)]
    | .known kind => return leafElement ⟨spec, children⟩ kind path true
termination_by structural f => f

/-- The fields of an item. -/
def itemFields (component : String) (item : FieldPath) (parent : String) :
    List Field → Render (List Markup)
  | [] => return []
  | f :: rest => do
    let m ← itemField component item parent f
    let ms ← itemFields component item parent rest
    return m :: ms
termination_by structural fs => fs

end

/-- A field at the top of a form. -/
def topField (component : String) (handles : List (String × Handles)) (f : Field) :
    Render Markup :=
  let path := FieldPath.literal f.name
  match f.spec.type with
  | .unrecognized raw => return .unsupported raw f.name
  | .known .array => do
    let own := (handles.lookup f.name).getD (.ofBase (Handles.base f.name))
    let fields ← itemFields component path.item f.name f.children
    return listElement f path own fields
  | .known kind => return leafElement f kind path false

/-- The markup of a form: the elements of its fields, and the components of its inner lists. -/
structure Rendered where
  fields : List Markup
  subComponents : List SubComponent

/-- Renders the fields of a form for a component. -/
def Rendered.ofFields (ids : Identifiers) (fields : List Field) : Rendered :=
  let render := fields.mapM (topField ids.componentName (arrayHandles fields))
  let (ms, parts) := render.run ⟨[ids.propsName, ids.componentName], []⟩
  ⟨ms, parts.finished⟩

end WebForm.Component
