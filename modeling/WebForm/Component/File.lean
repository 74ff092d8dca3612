import WebForm.Component.Render
import WebForm.Component.Usage
import WebForm.Form.Basic
/-!
# The component file

The file around the rendered fields: imports, the properties of the component, the components of
the inner lists, and the component itself with its form, its handlers and its markup.
-/

set_option autoImplicit false

namespace WebForm.Component

open Source

/-! ## Imports -/

/-- The names that are used out of some that may be. -/
def usedNames (names : List (String × Bool)) : List String :=
  (names.filter Prod.snd).map Prod.fst

/-- What is imported from the form library. -/
def formImports (u : Usage) : List String :=
  usedNames
    [("useForm", true), ("useFieldArray", u.fieldArray), ("Controller", u.controller),
      ("type Control", u.nestedArray), ("type FormState", u.nestedArray),
      ("type UseFormRegister", u.nestedArray)]

/-- What is imported from the library of elements. -/
def elementImports (u : Usage) : List String :=
  usedNames
    [("Box", true), ("Button", true), ("Checkbox", u.checkbox), ("HStack", u.fieldArray),
      ("Heading", true), ("Input", u.input), ("RadioGroup", u.radio), ("Stack", u.radio),
      ("Text", u.fieldArray), ("Textarea", u.textArea), ("VStack", true)]

/-- The lines that import some names, one a line. -/
def importLines (names : List String) (source : String) : List Line :=
  ⟨0, "import \x7b"⟩ :: names.map (fun name => ⟨1, name ++ ","⟩) ++
    [⟨0, "\x7d from '" ++ source ++ "';"⟩]

/-- All imports of the file. -/
def fileImports (ids : Identifiers) (u : Usage) : List Line :=
  ⟨0, "import React from 'react';"⟩ ::
    importLines (formImports u) "react-hook-form" ++
    importLines (elementImports u) "@chakra-ui/react" ++
    [⟨0, "import \x7b zodResolver \x7d from '@hookform/resolvers/zod';"⟩,
      ⟨0, "import \x7b FieldWrapper \x7d from './FieldWrapper';"⟩] ++
    (if u.select then
      [⟨0, "import \x7b SelectFieldWrapper \x7d from './SelectFieldWrapper';"⟩] else []) ++
    [⟨0, "import \x7b " ++ ids.schemaName ++ ", type " ++ ids.formDataType ++
      " \x7d from './schema';"⟩]

/-! ## Inner components -/

/-- The properties of an inner component. -/
def subComponentProps (name : String) : String := name ++ "Props"

/-- The lines that define an inner component. -/
def SubComponent.lines (c : SubComponent) : List Line :=
  [⟨0, "interface " ++ subComponentProps c.name ++ " \x7b"⟩,
    ⟨1, "control: Control<any>;"⟩,
    ⟨1, "register: UseFormRegister<any>;"⟩,
    ⟨1, "formState: FormState<any>;"⟩,
    ⟨1, "path: string;"⟩,
    ⟨0, "\x7d"⟩,
    .blank,
    ⟨0, "const " ++ c.name ++ ": React.FC<" ++ subComponentProps c.name ++
      "> = (\x7b control, register, formState, path \x7d) => \x7b"⟩,
    ⟨1, "const \x7b fields, append, remove \x7d = useFieldArray(\x7b"⟩,
    ⟨2, "control,"⟩,
    ⟨2, "name: path,"⟩,
    ⟨1, "\x7d);"⟩,
    .blank,
    ⟨1, "return ("⟩] ++
  c.body.lines 2 ++
  [⟨1, ");"⟩, ⟨0, "\x7d;"⟩]

/-! ## The main component -/

/-- The properties of the component. -/
def propsLines (ids : Identifiers) : List Line :=
  [⟨0, "interface " ++ ids.propsName ++ " \x7b"⟩,
    ⟨1, "onSubmit?: (data: " ++ ids.formDataType ++ ") => void;"⟩,
    ⟨0, "\x7d"⟩]

/-- What the component takes from the form. -/
def formBindings (u : Usage) : List String :=
  usedNames
    [("control", u.control), ("handleSubmit", true), ("register", u.register),
      ("formState", true)]

/-- The form with its resolver and its default values. -/
def formLines (ids : Identifiers) (u : Usage) (fields : List Field) : List Line :=
  [⟨1, "const \x7b " ++ ", ".intercalate (formBindings u) ++ " \x7d = useForm<" ++
      ids.formDataType ++ ">(\x7b"⟩,
    ⟨2, "resolver: zodResolver(" ++ ids.schemaName ++ "),"⟩,
    ⟨2, "defaultValues: \x7b"⟩] ++
  fields.map (fun f => ⟨3, propertyKey f.name ++ ": " ++ f.defaultRule.literal ++ ","⟩) ++
  [⟨2, "\x7d,"⟩, ⟨2, "mode: 'onChange',"⟩, ⟨1, "\x7d);"⟩]

/-- The hook of a list at the top of the form. -/
def hookLines (name : String) (h : Handles) : List Line :=
  [⟨1, "const \x7b fields: " ++ h.fields ++ ", append: " ++ h.append ++ ", remove: " ++ h.remove ++
      " \x7d = useFieldArray(\x7b"⟩,
    ⟨2, "control,"⟩,
    ⟨2, "name: " ++ quote name ++ ","⟩,
    ⟨1, "\x7d);"⟩,
    .blank]

/-- The function that is called with the submitted data. -/
def submitLines (ids : Identifiers) : List Line :=
  [⟨1, "const onSubmit = async (data: " ++ ids.formDataType ++ ") => \x7b"⟩,
    ⟨2, "try \x7b"⟩,
    ⟨3, "console.log('Form submitted:', data);"⟩,
    ⟨3, "if (onSubmitProp) \x7b"⟩,
    ⟨4, "onSubmitProp(data);"⟩,
    ⟨3, "\x7d"⟩,
    ⟨2, "\x7d catch (error) \x7b"⟩,
    ⟨3, "console.error('Submission failed:', error);"⟩,
    ⟨2, "\x7d"⟩,
    ⟨1, "\x7d;"⟩]

/-- The fields of the form, with an empty line behind each. -/
def spaced : List Markup → List Markup
  | [] => []
  | m :: rest => m :: .blank :: spaced rest

/-- The markup of the whole form. -/
def pageMarkup (title : String) (fields : List Markup) : Markup :=
  .inline "Box" [.constant "maxW" "4xl", .constant "mx" "auto", .code "p" "6"]
    [.inline "VStack" [.constant "align" "stretch", .code "gap" "6"]
      ([.inline "Heading"
          [.constant "size" "lg", .constant "color" "gray.700", .constant "textAlign" "center"]
          [.text (childText title)],
        .blank] ++
      spaced fields ++
      [.stacked "Button"
        [.attr (.code "onClick" "handleSubmit(onSubmit)"), .attr (.constant "type" "submit"),
          .attr (.constant "colorPalette" "blue"), .attr (.constant "size" "lg"),
          .attr (.code "loading" "formState.isSubmitting"),
          .attr (.constant "loadingText" "Submitting..."), .attr (.code "mt" "6")]
        [.text "Submit Form"]])]

/-- The main component. -/
def mainLines (ids : Identifiers) (form : Form) (u : Usage) (fields : List Markup) : List Line :=
  ⟨0, "const " ++ ids.componentName ++ ": React.FC<" ++ ids.propsName ++
      "> = (\x7b onSubmit: onSubmitProp \x7d) => \x7b"⟩ ::
  formLines ids u form.fields ++ [.blank] ++
  (arrayHandles form.fields).flatMap (fun (name, h) => hookLines name h) ++
  submitLines ids ++ [.blank, ⟨1, "return ("⟩] ++
  (pageMarkup form.title fields).lines 2 ++
  [⟨1, ");"⟩, ⟨0, "\x7d;"⟩]

/-- The lines of the whole file. -/
def fileLines (ids : Identifiers) (form : Form) : List Line :=
  let usage := Usage.ofFields false form.fields
  let rendered := Rendered.ofFields ids form.fields
  fileImports ids usage ++ [.blank] ++ propsLines ids ++ [.blank] ++
    rendered.subComponents.flatMap (fun c => c.lines ++ [.blank]) ++
    mainLines ids form usage rendered.fields ++
    [.blank, ⟨0, "export default " ++ ids.componentName ++ ";"⟩]

end WebForm.Component
