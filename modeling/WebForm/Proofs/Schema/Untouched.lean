import WebForm.Proofs.Field.Defaults
import WebForm.Proofs.Schema.Location
import WebForm.Proofs.Schema.Shape
/-!
# Forms that are left as they start

What a compiled schema reports about the values that a form starts from, before anything is typed
into it. The defaults and the schema of a form come from two passes that know nothing of each other.
They fit together field by field: a field is reported if it is required, because its default is
empty, unchecked or without items. Choices are the exception. Their default is the empty text, so a
choice is reported whether or not it is required, unless the empty text is one of its options.

The same rule holds for the fields of a new item of a list.
-/

set_option autoImplicit false

namespace WebForm

open Schema Validator Outcome

namespace Field

/-- The error about a field at a path that is left at its default, if there is one. -/
def untouchedError? (path : String) (f : Field) : Option FieldError :=
  match f.kind?.map FieldKind.base with
  | none => none
  | some .oneOf =>
    if "" ∈ f.options then none
    else some ⟨path, Message.invalidOption f.label, "invalid_option"⟩
  | some .string | some .number =>
    if f.required then some ⟨path, Message.required f.label, "required"⟩ else none
  | some .boolean =>
    if f.required then some ⟨path, Message.mustBeChecked f.label, "must_be_checked"⟩ else none
  | some .list =>
    if f.required then some ⟨path, Message.minItems f.label, "min_items"⟩ else none

/-- The errors about a new item of a list at a path that is left as it starts. -/
def untouchedItemErrors (path : String) (f : Field) : List FieldError :=
  if f.children.isEmpty then
    if f.itemKind = .boolean then [] else [⟨path, Message.itemRequired, "required"⟩]
  else f.children.filterMap fun c => c.untouchedError? (joinPath path c.name)

end Field

namespace Schema

/-- The validator of the items of a list, required or not. -/
def Validator.item? : Validator → Option Validator
  | .array item _ _ => some item
  | .optional inner _ => inner.item?
  | .string _ | .number _ | .boolean _ | .oneOf _ _ | .object _ => none

@[simp] theorem item?_guard (required : Bool) (base : BaseRule) (v : Validator) :
    (guard required base v).item? = v.item? := by
  cases required <;> rfl

/-! ## One field -/

theorem defaultRule_eq (kind : FieldKind) :
    kind.defaultRule = match kind.base with
      | .boolean => .unchecked
      | .list => .emptyList
      | _ => .emptyString := by
  cases kind <;> rfl

/-- What a validator finds in the value that its field starts from. -/
theorem check_default {place : String} {f : Field} {v : Validator} (h : ofField place f = .ok v)
    (path : String) :
    v.check path (some f.defaultRule.value) = (f.untouchedError? path).toList := by
  obtain ⟨kind, inner, hkind, hinner, rfl⟩ := exists_compiles_of_ofField h
  rw [Field.defaultRule, hkind, Field.untouchedError?, hkind, Option.map_some]
  dsimp only
  rw [defaultRule_eq]
  cases hinner with
  | text hbase | number hbase | boolean hbase | primitives hbase | objects hbase =>
    rw [hbase]
    cases f.required <;> rfl
  | choice hbase =>
    rw [hbase]
    have hchoice : checkOption f.label f.options path (some (.string "")) =
        (if "" ∈ f.options then none
          else some ⟨path, Message.invalidOption f.label, "invalid_option"⟩ :
            Option FieldError).toList := by
      by_cases hempty : "" ∈ f.options
      · simp [checkOption, failIf, hempty]
      · simp [checkOption, failIf, hempty, FieldError.invalidOption]
    cases f.required <;> exact hchoice

/-! ## Fields side by side -/

/-- What the validators of siblings find in an object with the defaults of all of them: the errors
of those that may not be left as they start, in their order. -/
theorem checkFields_defaults {parent : String} {fs : List Field} {vs : List (String × Validator)}
    (h : ofFields parent fs = .ok vs) {members : List (String × Json)}
    (hmembers : ∀ f ∈ fs, Json.lookup f.name members = some f.defaultRule.value)
    (path : String) :
    checkFields vs path members =
      fs.filterMap fun f => f.untouchedError? (Field.joinPath path f.name) := by
  induction fs generalizing vs with
  | nil =>
    obtain rfl := Except.ok.inj h
    rfl
  | cons f rest ih =>
    obtain ⟨v, tail, hv, htail, rfl⟩ := ofFields_cons_eq_ok_iff.mp h
    rw [List.forall_mem_cons] at hmembers
    have hfirst := check_default hv (Field.joinPath path f.name)
    rw [check] at hfirst
    rw [checkFields, hmembers.1, hfirst, ih htail hmembers.2, List.filterMap_cons]
    cases f.untouchedError? (Field.joinPath path f.name) with
    | none => rfl
    | some e => rfl

/-- What the validator of a form or of an item finds in the defaults of its fields. -/
theorem check_defaults {parent : String} {fs : List Field} {vs : List (String × Validator)}
    (h : ofFields parent fs = .ok vs) (hnames : (fs.map Field.name).Nodup) (path : String) :
    (Validator.object vs).check path (some (.object (Field.defaults fs))) =
      fs.filterMap fun f => f.untouchedError? (Field.joinPath path f.name) := by
  rw [check, present, checkPresent]
  · exact checkFields_defaults h (fun f hf => Field.lookup_defaults hnames hf) path
  · exact Json.noConfusion

/-! ## Items -/

/-- What the validator of an item of primitives finds in the value that the item starts from. -/
theorem check_ofItemKind_default (kind : FieldKind) (hkind : kind.isPrimitive = true)
    (path : String) :
    (ofItemKind kind).check path (some kind.defaultRule.value) =
      if kind = .boolean then [] else [⟨path, Message.itemRequired, "required"⟩] := by
  cases kind with
  | text | email | password | number | textArea | boolean => rfl
  | select | radio | array => cases hkind

/-- A list that compiles has a validator for its items, which reports new items that are left as
they start. -/
theorem exists_item_of_ofField {place : String} {f : Field} {v : Validator}
    (h : ofField place f = .ok v) (harray : f.kind? = some .array)
    (hnames : (f.children.map Field.name).Nodup) :
    ∃ item, v.item? = some item ∧ ∀ path,
      (item.validate f.itemTemplate path).errors = f.untouchedItemErrors path := by
  obtain ⟨item, minItems, message, rfl, hitem⟩ := exists_array_of_ofField harray h
  refine ⟨item, item?_guard _ _ _, fun path => ?_⟩
  rw [Validator.validate, ValidationResult.errors_ofErrors, Field.itemTemplate,
    Field.untouchedItemErrors]
  rcases hitem with ⟨hnone, rfl⟩ | ⟨fields, hsome, hfields, rfl⟩
  · have hempty : f.children.isEmpty = true := by rw [hnone]; rfl
    rw [if_pos hempty, if_pos hempty]
    exact check_ofItemKind_default f.itemKind f.isPrimitive_itemKind path
  · have hne : ¬ f.children.isEmpty = true := by rwa [List.isEmpty_iff]
    rw [if_neg hne, if_neg hne]
    exact check_defaults hfields hnames path

/-! ## Forms -/

/-- **What is reported about a form that is left as it starts.** Let a form compile and have
distinct names on every level. Its schema reports about its defaults, in the order of the fields, one
error for each field that may not be left at its default, at the name of the field, and nothing
else. Wherever the form has a list, the validator of the items of this list reports about a new item
one error for each field of the item by the same rule, or a single error if the items are primitives
other than booleans. -/
theorem errors_of_defaults {form : Form} {schema : ValidationSchema}
    (h : ValidationSchema.ofForm form = .ok schema) (hnames : form.DistinctNames) :
    (schema.validate (.object form.defaults)).errors =
        form.fields.filterMap (fun f => f.untouchedError? f.name) ∧
      SideBySide
        (fun f v => f.kind? = some .array → ∃ item, v.item? = some item ∧ ∀ path,
          (item.validate f.itemTemplate path).errors = f.untouchedItemErrors path)
        form.fields schema.fields := by
  have hlists := (sideBySide_of_ofForm h).imp hnames.below fun f v hnodup ⟨_, hv⟩ harray =>
    exists_item_of_ofField hv harray (hnodup harray)
  obtain ⟨fields, hfields, rfl⟩ := ofForm_eq_ok_iff.mp h
  exact ⟨check_defaults hfields hnames.top "", hlists⟩

/-- A form with a list of objects and fields of all other bases. -/
def cartForm : Form :=
  ⟨"Cart",
    [⟨⟨"lines", .known .array, "Line", false, none, [], none, none, none⟩,
        [.leaf ⟨"price", .known .number, "Price", true, none, [], none, none, none⟩,
          .leaf ⟨"spare", .known .boolean, "Spare", false, none, [], none, none, none⟩]⟩,
      .leaf ⟨"note", .known .text, "Note", true, none, [], none, none, none⟩,
      .leaf ⟨"terms", .known .boolean, "Terms", true, none, [], none, none, none⟩,
      .leaf ⟨"colour", .known .select, "Colour", false, none, ["red"], none, none, none⟩,
      .leaf ⟨"size", .known .radio, "Size", true, none, ["", "L"], none, none, none⟩,
      .leaf ⟨"tags", .known .array, "Tag", true, none, [], none, none, none⟩]⟩

/-- The choice that is not required is reported, and the one that offers the empty text is not. -/
theorem cartForm_errors_of_defaults :
    cartForm.DistinctNames ∧ ∃ schema, ValidationSchema.ofForm cartForm = .ok schema ∧
      (schema.validate (.object cartForm.defaults)).errors =
        [⟨"note", "Note is required", "required"⟩,
          ⟨"terms", "Terms must be checked", "must_be_checked"⟩,
          ⟨"colour", "Colour must be one of the available options", "invalid_option"⟩,
          ⟨"tags", "At least one tag is required", "min_items"⟩] ∧
      ∃ lines item, schema.field? "lines" = some lines ∧ lines.item? = some item ∧
        (item.validate (.object [("price", .string ""), ("spare", .bool false)]) "lines.0").errors =
          [⟨"lines.0.price", "Price is required", "required"⟩] := by
  have hnames : cartForm.DistinctNames := by
    refine ⟨by decide, ?_⟩
    simp [cartForm, Field.EverywhereIn, Field.Everywhere, Field.kind?, FieldType.kind?, Field.leaf,
      Field.name]
  obtain ⟨schema, hschema⟩ : ∃ schema, ValidationSchema.ofForm cartForm = .ok schema := ⟨_, rfl⟩
  obtain ⟨herrors, hlists⟩ := errors_of_defaults hschema hnames
  refine ⟨hnames, schema, hschema, herrors.trans (by decide +kernel), ?_⟩
  obtain ⟨fields, warnings⟩ := schema
  cases hlists with
  | cons own _ _ =>
    obtain ⟨item, hitem, htemplate⟩ := own rfl
    exact ⟨_, item, rfl, hitem, (htemplate "lines.0").trans (by decide +kernel)⟩

end Schema

end WebForm
