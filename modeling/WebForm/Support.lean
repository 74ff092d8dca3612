import WebForm.Source.Style
/-!
# Support files

The wrappers that every generated component imports, and the packages that the generated code
needs. They are the same for all forms and only follow the style.
-/

set_option autoImplicit false

namespace WebForm.Support

open Source

/-- The wrapper around a field: its label, its helper text and its error. -/
def fieldWrapper : List Line :=
  [⟨0, "import React from 'react';"⟩,
    ⟨0, "import \x7b Field \x7d from '@chakra-ui/react';"⟩,
    ⟨0, "import \x7b get, type FormState \x7d from 'react-hook-form';"⟩,
    .blank,
    ⟨0, "interface FieldWrapperProps \x7b"⟩,
    ⟨1, "label: string;"⟩,
    ⟨1, "name: string;"⟩,
    ⟨1, "field: React.ReactNode;"⟩,
    ⟨1, "formState: FormState<any>;"⟩,
    ⟨1, "isRequired?: boolean;"⟩,
    ⟨1, "helperText?: string;"⟩,
    ⟨0, "\x7d"⟩,
    .blank,
    ⟨0, "export const FieldWrapper: React.FC<FieldWrapperProps> = (\x7b"⟩,
    ⟨1, "label,"⟩,
    ⟨1, "name,"⟩,
    ⟨1, "field,"⟩,
    ⟨1, "formState,"⟩,
    ⟨1, "isRequired = false,"⟩,
    ⟨1, "helperText,"⟩,
    ⟨0, "\x7d) => \x7b"⟩,
    ⟨1, "// name may be a nested path such as \"addresses.0.street\""⟩,
    ⟨1, "const error = get(formState.errors, name);"⟩,
    ⟨1, "const touched = get(formState.touchedFields, name);"⟩,
    ⟨1, "const showError = Boolean(error) && (Boolean(touched) || formState.isSubmitted);"⟩,
    .blank,
    ⟨1, "return ("⟩,
    ⟨2, "<Field.Root invalid=\x7bshowError\x7d>"⟩,
    ⟨3, "<Field.Label>"⟩,
    ⟨4, "\x7blabel\x7d"⟩,
    ⟨4, "\x7bisRequired && <Field.RequiredIndicator />\x7d"⟩,
    ⟨3, "</Field.Label>"⟩,
    ⟨3, "\x7bfield\x7d"⟩,
    ⟨3, "\x7bhelperText && !showError && " ++
      "<Field.HelperText>\x7bhelperText\x7d</Field.HelperText>\x7d"⟩,
    ⟨3, "\x7bshowError && <Field.ErrorText>\x7berror?.message\x7d</Field.ErrorText>\x7d"⟩,
    ⟨2, "</Field.Root>"⟩,
    ⟨1, ");"⟩,
    ⟨0, "\x7d;"⟩]

/-- The wrapper of a choice from a list. -/
def selectFieldWrapper : List Line :=
  [⟨0, "import React, \x7b useMemo \x7d from 'react';"⟩,
    ⟨0, "import \x7b Controller, get, type Control, type FormState \x7d from 'react-hook-form';"⟩,
    ⟨0, "import \x7b Field, Portal, Select, createListCollection \x7d from '@chakra-ui/react';"⟩,
    .blank,
    ⟨0, "interface SelectOption \x7b"⟩,
    ⟨1, "label: string;"⟩,
    ⟨1, "value: string;"⟩,
    ⟨0, "\x7d"⟩,
    .blank,
    ⟨0, "interface SelectFieldWrapperProps \x7b"⟩,
    ⟨1, "name: string;"⟩,
    ⟨1, "label: string;"⟩,
    ⟨1, "control: Control<any>;"⟩,
    ⟨1, "formState: FormState<any>;"⟩,
    ⟨1, "options: SelectOption[];"⟩,
    ⟨1, "isRequired?: boolean;"⟩,
    ⟨1, "placeholder?: string;"⟩,
    ⟨1, "helperText?: string;"⟩,
    ⟨1, "size?: 'sm' | 'md' | 'lg';"⟩,
    ⟨0, "\x7d"⟩,
    .blank,
    ⟨0, "export const SelectFieldWrapper: React.FC<SelectFieldWrapperProps> = (\x7b"⟩,
    ⟨1, "name,"⟩,
    ⟨1, "label,"⟩,
    ⟨1, "control,"⟩,
    ⟨1, "formState,"⟩,
    ⟨1, "options,"⟩,
    ⟨1, "isRequired = false,"⟩,
    ⟨1, "placeholder,"⟩,
    ⟨1, "helperText,"⟩,
    ⟨1, "size = 'md',"⟩,
    ⟨0, "\x7d) => \x7b"⟩,
    ⟨1, "const collection = " ++
      "useMemo(() => createListCollection(\x7b items: options \x7d), [options]);"⟩,
    .blank,
    ⟨1, "const error = get(formState.errors, name);"⟩,
    ⟨1, "const touched = get(formState.touchedFields, name);"⟩,
    ⟨1, "const showError = Boolean(error) && (Boolean(touched) || formState.isSubmitted);"⟩,
    .blank,
    ⟨1, "return ("⟩,
    ⟨2, "<Controller"⟩,
    ⟨3, "name=\x7bname\x7d"⟩,
    ⟨3, "control=\x7bcontrol\x7d"⟩,
    ⟨3, "render=\x7b(\x7b field \x7d) => ("⟩,
    ⟨4, "<Select.Root"⟩,
    ⟨5, "collection=\x7bcollection\x7d"⟩,
    ⟨5, "value=\x7bfield.value ? [field.value] : []\x7d"⟩,
    ⟨5, "onValueChange=\x7b(details) => field.onChange(details.value[0] ?? '')\x7d"⟩,
    ⟨5, "size=\x7bsize\x7d"⟩,
    ⟨5, "invalid=\x7bshowError\x7d"⟩,
    ⟨4, ">"⟩,
    ⟨5, "<Select.Label>"⟩,
    ⟨6, "\x7blabel\x7d"⟩,
    ⟨6, "\x7bisRequired && <Field.RequiredIndicator />\x7d"⟩,
    ⟨5, "</Select.Label>"⟩,
    ⟨5, "<Select.HiddenSelect />"⟩,
    ⟨5, "<Select.Control>"⟩,
    ⟨6, "<Select.Trigger>"⟩,
    ⟨7, "<Select.ValueText " ++
      "placeholder=\x7bplaceholder ?? `Select $\x7blabel.toLowerCase()\x7d`\x7d />"⟩,
    ⟨6, "</Select.Trigger>"⟩,
    ⟨6, "<Select.IndicatorGroup>"⟩,
    ⟨7, "<Select.Indicator />"⟩,
    ⟨6, "</Select.IndicatorGroup>"⟩,
    ⟨5, "</Select.Control>"⟩,
    ⟨5, "<Portal>"⟩,
    ⟨6, "<Select.Positioner>"⟩,
    ⟨7, "<Select.Content>"⟩,
    ⟨8, "\x7boptions.map((option) => ("⟩,
    ⟨9, "<Select.Item item=\x7boption\x7d key=\x7boption.value\x7d>"⟩,
    ⟨10, "\x7boption.label\x7d"⟩,
    ⟨10, "<Select.ItemIndicator />"⟩,
    ⟨9, "</Select.Item>"⟩,
    ⟨8, "))\x7d"⟩,
    ⟨7, "</Select.Content>"⟩,
    ⟨6, "</Select.Positioner>"⟩,
    ⟨5, "</Portal>"⟩,
    ⟨5, "\x7bhelperText && !showError && " ++
      "<Field.HelperText>\x7bhelperText\x7d</Field.HelperText>\x7d"⟩,
    ⟨5, "\x7bshowError && <Field.ErrorText>\x7berror?.message\x7d</Field.ErrorText>\x7d"⟩,
    ⟨4, "</Select.Root>"⟩,
    ⟨3, ")\x7d"⟩,
    ⟨2, "/>"⟩,
    ⟨1, ");"⟩,
    ⟨0, "\x7d;"⟩]

/-- The support files, by name. -/
def files : List (String × List Line) :=
  [("FieldWrapper.tsx", fieldWrapper), ("SelectFieldWrapper.tsx", selectFieldWrapper)]

/-! ## Packages -/

/-- A package that generated code depends on. -/
structure Package where
  name : String
  version : String
  description : String
deriving DecidableEq, Repr

/-- The package with its version, as an installer takes it. -/
def Package.request (p : Package) : String := p.name ++ "@" ++ p.version

/-- The packages that are needed. -/
def packages : List Package :=
  [⟨"@chakra-ui/react", "latest", "Simple, modular and accessible UI components"⟩,
    ⟨"@emotion/react", "latest", "Required peer dependency for Chakra UI"⟩,
    ⟨"@emotion/styled", "latest", "Required peer dependency for Chakra UI"⟩,
    ⟨"react-hook-form", "^7.53.0", "Form state management and validation"⟩,
    ⟨"@hookform/resolvers", "^3.9.0", "Resolver for Zod schema validation"⟩,
    ⟨"zod", "^3.23.8", "TypeScript-first schema validation"⟩]

/-- The command that installs them. -/
def installCommand : String := "npm install " ++ " ".intercalate (packages.map Package.request)

end WebForm.Support
