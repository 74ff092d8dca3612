import Mathlib.Data.List.Forall2
import WebForm.Artifact
import WebForm.Defaults
import WebForm.Proofs.Form.Repair
import WebForm.Proofs.Schema.Compile
/-!
# What repairs do not change

A repair replaces labels and drops item types and children. Whatever is made of a form consults
these members through accessors that already pass over what a repair drops: the compiler of the
schema, the interface, the default values and the templates of list items. So all of these are the
same for a form and for what it is repaired to. Only the wording of errors can differ, because
messages quote labels; `FieldError.spot` is what is left of an error without its wording.

Each consumer has one induction over the tree of fields, with the repaired field on the left.
-/

set_option autoImplicit false

namespace WebForm

open Field Outcome

/-! ## Schemas -/

namespace Schema

/-- Where an error is reported and which error it is, without its wording. -/
def FieldError.spot (e : FieldError) : String × String := (e.field, e.code)

namespace Validator

/-- Two validators that find the same things wrong with every value, in the same order. -/
def SameSpots (a b : Validator) : Prop :=
  ∀ path v,
    (a.checkPresent path v).map FieldError.spot = (b.checkPresent path v).map FieldError.spot

/-- Fields of one name whose validators find the same things wrong. -/
structure SameFieldSpots (a b : String × Validator) : Prop where
  name : a.1 = b.1
  validator : a.2.SameSpots b.2

theorem SameSpots.refl (a : Validator) : a.SameSpots a := fun _ _ => rfl

/-! ### Single values -/

theorem sameSpots_string (message message' : String) (minLength maxLength : Option UInt64)
    (email : Bool) (pattern : Option Pattern) :
    SameSpots (.string ⟨message, minLength, maxLength, email, pattern⟩)
      (.string ⟨message', minLength, maxLength, email, pattern⟩) := by
  intro path v
  cases v with
  | none => rfl
  | some v =>
    cases v with
    | string s =>
      rw [checkPresent, checkPresent, StringRules.check, StringRules.check]
      by_cases hempty : s = ""
      · rw [if_pos hempty, if_pos hempty]
        rfl
      · rw [if_neg hempty, if_neg hempty]
        rfl
    | null | bool _ | number _ | array _ | object _ => rfl

theorem sameSpots_number (message message' : String) (min max : Option Double) :
    SameSpots (.number ⟨message, min, max⟩) (.number ⟨message', min, max⟩) := by
  intro path v
  cases v with
  | none => rfl
  | some v =>
    rw [checkPresent, checkPresent, NumberRules.check, NumberRules.check]
    by_cases hblank : isBlankText v = true
    · rw [if_pos hblank, if_pos hblank]
      rfl
    · rw [if_neg hblank, if_neg hblank]
      cases coerceNumber v <;> rfl

theorem sameSpots_boolean (required : Bool) (message message' : String) :
    SameSpots (.boolean (if required then some message else none))
      (.boolean (if required then some message' else none)) := by
  intro path v
  cases required with
  | false => rfl
  | true =>
    cases v with
    | none => rfl
    | some v =>
      cases v with
      | bool b => cases b <;> rfl
      | null | number _ | string _ | array _ | object _ => rfl

theorem sameSpots_oneOf (label label' : String) (options : List String) :
    SameSpots (.oneOf label options) (.oneOf label' options) := by
  intro path v
  cases v with
  | none => rfl
  | some v =>
    cases v with
    | string s =>
      rw [checkPresent, checkPresent, checkOption, checkOption, failIf, failIf]
      cases !options.contains s <;> rfl
    | null | bool _ | number _ | array _ | object _ => rfl

/-! ### Trees of values -/

theorem map_spot_checkItems {a b : Validator} (h : a.SameSpots b) (path : String)
    (items : List Json) (index : Nat) :
    (checkItems a.checkPresent path index items).map FieldError.spot =
      (checkItems b.checkPresent path index items).map FieldError.spot := by
  induction items generalizing index with
  | nil => rfl
  | cons item rest ih => rw [checkItems, checkItems, List.map_append, List.map_append, h, ih]

theorem SameSpots.array {a b : Validator} (h : a.SameSpots b) (minItems : UInt64)
    (message message' : String) :
    SameSpots (.array a minItems message) (.array b minItems message') := by
  intro path v
  cases v with
  | none => rfl
  | some v =>
    cases v with
    | array items =>
      rw [checkPresent, checkPresent, List.map_append, List.map_append, map_spot_checkItems h,
        failIf, failIf]
      cases decide (items.length < minItems.toNat) <;> rfl
    | null | bool _ | number _ | string _ | object _ => rfl

theorem map_spot_checkFields {as bs : List (String × Validator)}
    (h : List.Forall₂ SameFieldSpots as bs) (path : String) (members : List (String × Json)) :
    (checkFields as path members).map FieldError.spot =
      (checkFields bs path members).map FieldError.spot := by
  induction h with
  | nil => rfl
  | @cons a b as bs hab _ ih =>
    obtain ⟨name, va⟩ := a
    obtain ⟨name', vb⟩ := b
    obtain ⟨rfl, hvalidator⟩ := hab
    rw [checkFields, checkFields, List.map_append, List.map_append, hvalidator, ih]

theorem sameSpots_object {as bs : List (String × Validator)}
    (h : List.Forall₂ SameFieldSpots as bs) : SameSpots (.object as) (.object bs) := by
  intro path v
  cases v with
  | none => rfl
  | some v =>
    cases v with
    | object members => exact map_spot_checkFields h path members
    | null | bool _ | number _ | string _ | array _ => rfl

theorem SameSpots.guard {a b : Validator} (h : a.SameSpots b) (required : Bool)
    (base : BaseRule) : (guard required base a).SameSpots (guard required base b) := by
  cases required with
  | true => exact h
  | false =>
    intro path v
    cases v with
    | none => rfl
    | some v =>
      cases v with
      | string s =>
        rw [Validator.guard, Validator.guard, if_neg Bool.false_ne_true, if_neg Bool.false_ne_true,
          checkPresent, checkPresent]
        by_cases hempty : ((base == .string || base == .number) && decide (s = "")) = true
        · rw [if_pos hempty, if_pos hempty]
        · rw [if_neg hempty, if_neg hempty]
          exact h path (some (.string s))
      | null | bool _ | number _ | array _ | object _ => exact h path _

/-! ### Fields -/

/-- What the compiler makes of siblings, if each of them compiles alike repaired or not. -/
theorem agree_ofFields_of_agree_ofField {fs : List Field}
    (ih : ∀ f ∈ fs, ∀ path, Agree SameSpots (ofField path f.repair) (ofField path f))
    (parent : String) :
    Agree (List.Forall₂ SameFieldSpots) (ofFields parent (repairAll fs)) (ofFields parent fs) := by
  induction fs with
  | nil => exact .ok .nil
  | cons f rest ihrest =>
    have hhead := ih f List.mem_cons_self (joinPath parent f.name)
    have hrest := ihrest fun g hg => ih g (List.mem_cons_of_mem f hg)
    rw [repairAll, ofFields, ofFields, name_repair]
    refine hhead.bind fun v w hvw => hrest.bind fun vs ws hvws => ?_
    exact .ok (.cons ⟨rfl, hvw⟩ hvws)

/-- A field compiles to the same validator repaired or not, up to the wording of errors, or fails
to compile for the same reason. -/
theorem agree_ofField_repair (f : Field) :
    ∀ path, Agree SameSpots (ofField path f.repair) (ofField path f) := by
  induction f using Field.induction with
  | mk spec children ih =>
    intro path
    cases htype : spec.type with
    | unrecognized raw =>
      have hrepaired : (Field.mk spec children).repair.spec.type = .unrecognized raw := by
        rw [type_repair, htype]
      rw [ofField_of_unrecognized hrepaired, ofField_of_unrecognized htype]
      exact .error _
    | known kind =>
      have hrepaired : (Field.mk spec children).repair.spec.type = .known kind := by
        rw [type_repair, htype]
      rw [ofField_of_known hrepaired, ofField_of_known htype, required_repair, constraints_repair,
        options_repair]
      refine Agree.map ?_ fun a b (h : SameSpots a b) => h.guard _ kind.base
      cases hbase : kind.base with
      | string =>
        dsimp only
        -- only the pattern can be refused, and it is not quoted from the label
        rw [stringRulesOf_eq, stringRulesOf_eq]
        cases patternOf path (Field.mk spec children).constraints with
        | error e => exact .error e
        | ok pattern => exact .ok (sameSpots_string _ _ _ _ _ pattern)
      | number => exact .ok (sameSpots_number _ _ _ _)
      | boolean => exact .ok (sameSpots_boolean spec.required _ _)
      | oneOf => exact .ok (sameSpots_oneOf _ _ spec.options)
      | list =>
        have harray : (Field.mk spec children).kind? = some .array := by
          rw [FieldKind.base_eq_list_iff.mp hbase] at htype
          exact Field.kind?_eq_some_iff.mpr htype
        refine Agree.map ?_ fun a b (h : SameSpots a b) =>
          h.array (if spec.required then 1 else 0) _ _
        rw [children_repair harray]
        by_cases hnone : children = []
        -- the kind of the items survives the repair of the item type
        · rw [itemKind_repair harray hnone]
          subst hnone
          exact .ok (.refl _)
        · have hsome : repairAll children ≠ [] := fun h => hnone (repairAll_eq_nil_iff.mp h)
          rw [if_neg (by rwa [List.isEmpty_iff]), if_neg (by rwa [List.isEmpty_iff])]
          exact (agree_ofFields_of_agree_ofField ih path).map fun as bs h => sameSpots_object h

end Validator

/-! ### Warnings -/

theorem Warning.ofFields_repairAll_of_ofField {fs : List Field}
    (ih : ∀ f ∈ fs, ∀ path, Warning.ofField path f.repair = Warning.ofField path f)
    (parent : String) : Warning.ofFields parent (repairAll fs) = Warning.ofFields parent fs := by
  induction fs with
  | nil => rfl
  | cons f rest ihrest =>
    have hrest := ihrest fun g hg => ih g (List.mem_cons_of_mem f hg)
    rw [repairAll, Warning.ofFields, Warning.ofFields, name_repair, ih f List.mem_cons_self, hrest]

theorem Warning.ofField_repair (f : Field) :
    ∀ path, Warning.ofField path f.repair = Warning.ofField path f := by
  induction f using Field.induction with
  | mk spec children ih =>
    intro path
    by_cases hkind : (Field.mk spec children).kind? = some .array
    · rw [repair_of_array hkind, ofField, ofField]
      simp only [show spec.type.kind? = some .array from hkind, FieldKind.base]
      exact ofFields_repairAll_of_ofField ih path
    -- what is no list has no warnings below it, whether it had children or not
    · rw [repair_of_ne_array hkind, ofField, ofField]
      cases htype : spec.type.kind? with
      | none => rfl
      | some kind =>
        dsimp only
        cases hbase : kind.base with
        | list =>
          have harray : kind = .array := FieldKind.base_eq_list_iff.mp hbase
          rw [Field.kind?_mk, htype, harray] at hkind
          exact absurd rfl hkind
        | string | number | boolean | oneOf => rfl

/-- Two schemas with the same warnings that find the same things wrong with every submission. -/
structure ValidationSchema.SameSpots (a b : ValidationSchema) : Prop where
  warnings : a.warnings = b.warnings
  errors : ∀ submission, (a.validate submission).errors.map FieldError.spot =
    (b.validate submission).errors.map FieldError.spot

/-- A form compiles to the same schema repaired or not, up to the wording of errors, or fails to
compile for the same reason. -/
theorem agree_ofForm_repair (form : Form) :
    Agree ValidationSchema.SameSpots (ValidationSchema.ofForm form.repair)
      (ValidationSchema.ofForm form) := by
  have hfields := Validator.agree_ofFields_of_agree_ofField
    (fun f (_ : f ∈ form.fields) => Validator.agree_ofField_repair f) ""
  refine hfields.bind fun as bs h => .ok ⟨?_, ?_⟩
  · exact Warning.ofFields_repairAll_of_ofField (fun f _ => Warning.ofField_repair f) ""
  · intro submission
    exact Validator.sameSpots_object h "" (present (some submission))

end Schema

/-! ## The interface -/

namespace Interface.Member

theorem ofFields_repairAll_of_ofField {fs : List Field}
    (ih : ∀ f ∈ fs, ∀ path, ofField path f.repair = ofField path f) (parent : String) :
    ofFields parent (repairAll fs) = ofFields parent fs := by
  induction fs with
  | nil => rfl
  | cons f rest ihrest =>
    have hrest := ihrest fun g hg => ih g (List.mem_cons_of_mem f hg)
    rw [repairAll, ofFields, ofFields, name_repair, ih f List.mem_cons_self, hrest]

/-- What a field of a known kind is declared as. -/
theorem ofField_of_known {f : Field} {kind : FieldKind} (h : f.spec.type = .known kind)
    (path : String) :
    ofField path f =
      if f.isObjectArray then .objects f.name f.required (ofFields path f.children)
      else .value f.name f.required (.ofLeaf kind f.spec f.itemKind) := by
  obtain ⟨spec, children⟩ := f
  rw [ofField, show spec.type = .known kind from h]
  rfl

/-- The type of a value asks for the options of a field, and for the kind of its items if it is a
list. -/
theorem ofLeaf_repair {f : Field} {kind : FieldKind} (h : f.spec.type = .known kind)
    (hvalue : ¬ f.isObjectArray = true) :
    Ty.ofLeaf kind f.repair.spec f.repair.itemKind = Ty.ofLeaf kind f.spec f.itemKind := by
  have hoptions : f.repair.spec.options = f.spec.options := options_repair f
  cases kind with
  | array =>
    have harray : f.kind? = some .array := kind?_eq_some_iff.mpr h
    have hnone : f.children = [] := by simpa [isObjectArray, harray] using hvalue
    rw [itemKind_repair harray hnone]
    rfl
  | select | radio => exact congrArg Ty.ofOptions hoptions
  | text | email | password | number | textArea | boolean => rfl

/-- A field is declared alike repaired or not. -/
theorem ofField_repair (f : Field) : ∀ path, ofField path f.repair = ofField path f := by
  induction f using Field.induction with
  | mk spec children ih =>
    intro path
    cases htype : spec.type with
    | unrecognized raw =>
      have hkind : (Field.mk spec children).kind? ≠ some .array := by
        rw [Field.kind?_mk, htype, FieldType.kind?]
        intro hnone
        cases hnone
      rw [repair_of_ne_array hkind, ofField, ofField, htype]
    | known kind =>
      have hrepaired : (Field.mk spec children).repair.spec.type = .known kind := by
        rw [type_repair, htype]
      rw [ofField_of_known hrepaired, ofField_of_known htype, isObjectArray_repair, name_repair,
        required_repair]
      by_cases hobjects : (Field.mk spec children).isObjectArray = true
      · have harray := kind?_of_isObjectArray hobjects
        rw [if_pos hobjects, if_pos hobjects, children_repair harray,
          ofFields_repairAll_of_ofField ih]
      · rw [if_neg hobjects, if_neg hobjects, ofLeaf_repair htype hobjects]

end Interface.Member

/-! ## Default values -/

namespace Field

theorem defaultRule_repair (f : Field) : f.repair.defaultRule = f.defaultRule := by
  rw [defaultRule, kind?_repair, defaultRule]

/-- Siblings start from the same values repaired or not. -/
theorem defaults_repairAll (fs : List Field) : defaults (repairAll fs) = defaults fs := by
  unfold defaults
  rw [repairAll_eq_map, List.map_map]
  congr 1
  refine List.map_congr_left fun f _ => ?_
  simp only [Function.comp_apply, name_repair, defaultRule_repair]

/-- A new item of a list is the same whether the list is repaired or not. -/
theorem itemTemplate_repair {f : Field} (harray : f.kind? = some .array) :
    f.repair.itemTemplate = f.itemTemplate := by
  unfold itemTemplate
  rw [children_repair harray]
  by_cases hnone : f.children = []
  · rw [hnone, itemKind_repair harray hnone]
    rfl
  · have hrepaired : repairAll f.children ≠ [] := fun h => hnone (repairAll_eq_nil_iff.mp h)
    rw [if_neg (by rwa [List.isEmpty_iff]), if_neg (by rwa [List.isEmpty_iff]),
      defaults_repairAll]

end Field

namespace Form

/-- The lists that are reached in a form, in preorder: the path of each with what a new item of it
starts from. -/
def itemTemplates (form : Form) : List (String × Json) :=
  (form.places.filter fun p => p.field.kind? = some .array).map fun p =>
    (p.path, p.field.itemTemplate)

theorem itemTemplates_repair (form : Form) : form.repair.itemTemplates = form.itemTemplates := by
  have hfilter : (fun p : Place => decide (p.field.kind? = some .array)) ∘ Place.repair =
      fun p : Place => decide (p.field.kind? = some .array) := by
    funext p
    exact congrArg (fun kind => decide (kind = some .array)) (kind?_repair p.field)
  unfold itemTemplates
  rw [places_repair, List.filter_map, hfilter, List.map_map]
  refine List.map_congr_left fun p hp => ?_
  have harray : p.field.kind? = some .array := by simpa using (List.mem_filter.mp hp).2
  exact Prod.ext p.path_repair (itemTemplate_repair harray)

/-- **Repairs do not change what a form means.** A form and what it is repaired to fail to compile
for the same reason, or compile with the same warnings to schemas that report the same errors at the
same paths for every submission. Their interfaces are the same text in every style, they start from
the same values, and so does a new item of each list that is reached. -/
theorem repair_keeps_meaning (form : Form) :
    Agree Schema.ValidationSchema.SameSpots (Schema.ValidationSchema.ofForm form.repair)
      (Schema.ValidationSchema.ofForm form) ∧
    (∀ style ids, Artifact.ofForm style ids form.repair .types =
      Artifact.ofForm style ids form .types) ∧
    form.repair.defaults = form.defaults ∧
    form.repair.itemTemplates = form.itemTemplates := by
  refine ⟨Schema.agree_ofForm_repair form, ?_, ?_, itemTemplates_repair form⟩
  · intro style ids
    have hmembers : Interface.Member.ofFields "" (repairAll form.fields) =
        Interface.Member.ofFields "" form.fields :=
      Interface.Member.ofFields_repairAll_of_ofField
        (fun f _ => Interface.Member.ofField_repair f) ""
    have hlines : ArtifactKind.types.lines ids form.repair = ArtifactKind.types.lines ids form := by
      rw [ArtifactKind.lines, ArtifactKind.lines, Interface.fileLines, Interface.fileLines,
        repair, hmembers]
    rw [Artifact.ofForm, Artifact.ofForm, hlines]
  · exact defaults_repairAll form.fields

end Form

end WebForm
