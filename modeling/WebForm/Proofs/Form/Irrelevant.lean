import Mathlib.Data.List.Forall2
import WebForm.Artifact
import WebForm.Proofs.Form.RepairMeaning
/-!
# Members that mean nothing

A document may put any member on any field, but a field of some kind is only ever asked for those
that its kind knows about. `SaysSame` compares two fields in these members alone, and `Alike` does
so at every depth, where the children of a field count only if it is a list. Alike forms have the
same schema, or fail to compile for the same reason, and the generated schema and interface are the
same text: an invalid pattern on a number or an unknown kind below a text cannot be noticed.

The four passes over the tree share one induction, `Alike.pass_eq`; what is left for each of them
is one level of the tree.
-/

set_option autoImplicit false

namespace WebForm

open Outcome

namespace Field

/-! ## Alike fields -/

/-- Two fields that say the same wherever their kind listens, their children left aside. -/
structure SaysSame (a b : Field) : Prop where
  name : a.name = b.name
  type : a.spec.type = b.spec.type
  label : a.label = b.label
  required : a.required = b.required
  /-- A bound of zero on a length is as good as none, and so is an empty pattern. -/
  minLength : a.kind?.any FieldKind.isTextLike →
    a.constraints.minLength.getD 0 = b.constraints.minLength.getD 0
  maxLength : a.kind?.any FieldKind.isTextLike →
    a.constraints.maxLength.getD 0 = b.constraints.maxLength.getD 0
  pattern : a.kind?.any FieldKind.isTextLike →
    a.constraints.pattern.getD "" = b.constraints.pattern.getD ""
  min : a.kind? = some .number → a.constraints.min = b.constraints.min
  max : a.kind? = some .number → a.constraints.max = b.constraints.max
  options : a.kind?.any FieldKind.hasOptions → a.options = b.options
  /-- Item types differ freely as long as they stand for the same kind of items. -/
  itemKind : a.kind? = some .array → a.children = [] → a.itemKind = b.itemKind

/-- Two trees of fields that say the same at every depth that is looked at. -/
inductive Alike : Field → Field → Prop
  | mk {a b : Field} (same : a.SaysSame b)
      (children : a.kind? = some .array → List.Forall₂ Alike a.children b.children) : Alike a b

theorem Alike.same {a b : Field} (h : a.Alike b) : a.SaysSame b := by
  cases h with
  | mk hsame _ => exact hsame

/-- The children of a field that is no list do not count. -/
theorem Alike.of_ne_array {a b : Field} (h : a.SaysSame b) (hkind : a.kind? ≠ some .array) :
    a.Alike b := ⟨h, fun harray => absurd harray hkind⟩

/-! ## What is in effect -/

/-- A value that a filter drops is as good as none. -/
theorem filter_eq_of_getD_eq {α : Type} {p : α → Bool} {d : α} (hd : p d = false)
    {m n : Option α} (h : m.getD d = n.getD d) : m.filter p = n.filter p := by
  cases m with
  | none =>
    cases n with
    | none => rfl
    | some y =>
      obtain rfl : d = y := h
      exact (Option.filter_some_neg (by simp [hd])).symm
  | some x =>
    cases n with
    | none =>
      obtain rfl : x = d := h
      simp [hd]
    | some y =>
      obtain rfl : x = y := h
      rfl

section
variable {f : Field} {kind : FieldKind}

theorem isTextLike_of_base (hkind : f.kind? = some kind) (hbase : kind.base = .string) :
    f.kind?.any FieldKind.isTextLike := by
  simp [hkind, FieldKind.isTextLike, hbase]

theorem hasOptions_of_base (hkind : f.kind? = some kind) (hbase : kind.base = .oneOf) :
    f.kind?.any FieldKind.hasOptions := by
  simp [hkind, FieldKind.hasOptions, hbase]

theorem kind?_eq_number_of_base (hkind : f.kind? = some kind) (hbase : kind.base = .number) :
    f.kind? = some .number := by
  rw [hkind]
  cases kind <;> first | rfl | cases hbase

theorem kind?_eq_array_of_base (hkind : f.kind? = some kind) (hbase : kind.base = .list) :
    f.kind? = some .array := by
  rw [hkind, FieldKind.base_eq_list_iff.mp hbase]

end

namespace SaysSame

variable {a b : Field} {kind : FieldKind}

theorem type_right (h : a.SaysSame b) (htype : a.spec.type = .known kind) :
    b.spec.type = .known kind := h.type ▸ htype

theorem kind?_eq (h : a.SaysSame b) : a.kind? = b.kind? := congrArg FieldType.kind? h.type

theorem minLengthInEffect (h : a.SaysSame b) (htext : a.kind?.any FieldKind.isTextLike) :
    a.constraints.minLengthInEffect = b.constraints.minLengthInEffect :=
  filter_eq_of_getD_eq (by decide) (h.minLength htext)

theorem maxLengthInEffect (h : a.SaysSame b) (htext : a.kind?.any FieldKind.isTextLike) :
    a.constraints.maxLengthInEffect = b.constraints.maxLengthInEffect :=
  filter_eq_of_getD_eq (by decide) (h.maxLength htext)

theorem patternInEffect (h : a.SaysSame b) (htext : a.kind?.any FieldKind.isTextLike) :
    a.constraints.patternInEffect = b.constraints.patternInEffect :=
  filter_eq_of_getD_eq (by decide) (h.pattern htext)

end SaysSame

/-! ## Passes over the tree -/

theorem isEmpty_eq_of_forall₂ {R : Field → Field → Prop} {fs gs : List Field}
    (h : List.Forall₂ R fs gs) : fs.isEmpty = gs.isEmpty := by
  cases h <;> rfl

/-- Two fields of one name that a pass makes the same of, wherever they stand. -/
structure SameUnder {α : Type} (pass : String → Field → α) (a b : Field) : Prop where
  name : a.name = b.name
  result : ∀ path, pass path a = pass path b

/-- Siblings in pairs that a pass makes the same of, at the paths below a parent. -/
theorem map_eq_of_forall₂_sameUnder {α : Type} {pass : String → Field → α} {fs gs : List Field}
    (h : List.Forall₂ (SameUnder pass) fs gs) (parent : String) :
    fs.map (fun f => pass (joinPath parent f.name) f) =
      gs.map fun g => pass (joinPath parent g.name) g := by
  induction h with
  | nil => rfl
  | cons hfg _ ih => rw [List.map_cons, List.map_cons, ih, hfg.name, hfg.result]

/-- A pass that makes the same of two fields as soon as they say the same and it makes the same of
their children, if they are lists, makes the same of alike fields. -/
theorem Alike.pass_eq {α : Type} {pass : String → Field → α}
    (hstep : ∀ {a b : Field} (path : String), a.SaysSame b →
      (a.kind? = some .array → List.Forall₂ (SameUnder pass) a.children b.children) →
      pass path a = pass path b)
    {a b : Field} (h : a.Alike b) : ∀ path, pass path a = pass path b := by
  induction a using Field.induction generalizing b with
  | mk spec children ih =>
    intro path
    obtain ⟨hsame, hchildren⟩ := h
    refine hstep path hsame fun harray => ?_
    obtain ⟨hlength, hpairs⟩ := List.forall₂_iff_zip.mp (hchildren harray)
    refine List.forall₂_iff_zip.mpr ⟨hlength, fun {c d} hcd => ?_⟩
    have halike : c.Alike d := hpairs hcd
    exact ⟨halike.same.name, ih c (List.of_mem_zip hcd).1 halike⟩

/-- The same for siblings. -/
theorem forall₂_sameUnder_of_alike {α : Type} {pass : String → Field → α}
    (hpass : ∀ {a b : Field}, a.Alike b → ∀ path, pass path a = pass path b) {fs gs : List Field}
    (h : List.Forall₂ Alike fs gs) : List.Forall₂ (SameUnder pass) fs gs :=
  h.imp fun _ _ hfg => ⟨hfg.same.name, hpass hfg⟩

end Field

open Field

/-! ## Schemas -/

namespace Schema

namespace Validator

theorem stringRulesOf_eq_of_saysSame {a b : Field} {kind : FieldKind} (h : a.SaysSame b)
    (htext : a.kind?.any FieldKind.isTextLike) (path : String) :
    stringRulesOf path kind a.label a.constraints =
      stringRulesOf path kind b.label b.constraints := by
  have hpattern : patternOf path a.constraints = patternOf path b.constraints := by
    rw [patternOf, patternOf, h.patternInEffect htext]
  rw [stringRulesOf_eq, stringRulesOf_eq, hpattern, h.label, h.minLengthInEffect htext,
    h.maxLengthInEffect htext]

theorem ofFields_eq_of_sameUnder {fs gs : List Field}
    (h : List.Forall₂ (SameUnder ofField) fs gs) (parent : String) :
    ofFields parent fs = ofFields parent gs := by
  induction h with
  | nil => rfl
  | cons hfg _ ih => rw [ofFields, ofFields, ih, hfg.name, hfg.result]

/-- Alike fields compile to the same validator, or fail to compile for the same reason. -/
theorem ofField_eq_of_alike {a b : Field} (h : a.Alike b) :
    ∀ path, ofField path a = ofField path b := by
  refine h.pass_eq fun {a b} path hsame hchildren => ?_
  cases htype : a.spec.type with
  | unrecognized raw =>
    rw [ofField_of_unrecognized htype, ofField_of_unrecognized (hsame.type ▸ htype)]
  | known kind =>
    have hkind : a.kind? = some kind := kind?_eq_some_iff.mpr htype
    rw [ofField_of_known htype, ofField_of_known (hsame.type_right htype), hsame.required]
    congr 1
    cases hbase : kind.base with
    | string =>
      dsimp only
      rw [stringRulesOf_eq_of_saysSame hsame (isTextLike_of_base hkind hbase)]
    | number =>
      have hnumber := kind?_eq_number_of_base hkind hbase
      dsimp only
      rw [numberRulesOf, numberRulesOf, hsame.label, hsame.min hnumber, hsame.max hnumber]
    | boolean => dsimp only; rw [hsame.label]
    | oneOf =>
      dsimp only
      rw [hsame.label, hsame.options (hasOptions_of_base hkind hbase)]
    | list =>
      have harray := kind?_eq_array_of_base hkind hbase
      dsimp only
      rw [hsame.label, isEmpty_eq_of_forall₂ (hchildren harray),
        ofFields_eq_of_sameUnder (hchildren harray)]
      -- the kind of the items counts only where there are no children
      by_cases hnone : b.children = []
      · have hnone' := hchildren harray
        rw [hnone, List.forall₂_nil_right_iff] at hnone'
        rw [hsame.itemKind harray hnone']
      · rw [← List.isEmpty_iff, Bool.not_eq_true] at hnone
        rw [hnone]
        rfl

end Validator

namespace Warning

/-- What a field is warned about, by its accessors. -/
theorem ofField_eq (path : String) (f : Field) :
    ofField path f =
      match f.kind? with
      | none => []
      | some kind =>
        match kind.base with
        | .oneOf => if f.options.isEmpty then [noOptions path kind] else []
        | .list => ofFields path f.children
        | _ => [] := by
  obtain ⟨spec, children⟩ := f
  rw [ofField]
  rfl

/-- Alike fields are warned about alike. -/
theorem ofField_eq_of_alike {a b : Field} (h : a.Alike b) :
    ∀ path, ofField path a = ofField path b := by
  refine h.pass_eq fun {a b} path hsame hchildren => ?_
  rw [ofField_eq, ofField_eq, ← hsame.kind?_eq]
  cases hkind : a.kind? with
  | none => rfl
  | some kind =>
    dsimp only
    cases hbase : kind.base with
    | string | number | boolean => rfl
    | oneOf =>
      dsimp only
      rw [hsame.options (hasOptions_of_base hkind hbase)]
    | list =>
      have hbelow := hchildren (kind?_eq_array_of_base hkind hbase)
      dsimp only
      rw [ofFields_eq_flatMap, ofFields_eq_flatMap, List.flatMap_def, List.flatMap_def,
        map_eq_of_forall₂_sameUnder hbelow]

end Warning

/-- Alike forms have the same schema with the same warnings, or fail to compile for the same
reason. -/
theorem ofForm_eq_of_alike {a b : Form} (h : List.Forall₂ Alike a.fields b.fields) :
    ValidationSchema.ofForm a = ValidationSchema.ofForm b := by
  have hfields := Validator.ofFields_eq_of_sameUnder
    (forall₂_sameUnder_of_alike Validator.ofField_eq_of_alike h) ""
  have hwarnings := map_eq_of_forall₂_sameUnder
    (forall₂_sameUnder_of_alike Warning.ofField_eq_of_alike h) ""
  rw [ValidationSchema.ofForm, ValidationSchema.ofForm, hfields, Warning.ofFields_eq_flatMap,
    Warning.ofFields_eq_flatMap, List.flatMap_def, List.flatMap_def, hwarnings]

end Schema

/-! ## Generated members -/

theorem Field.SaysSame.isObjectArray_eq {a b : Field} (h : a.SaysSame b)
    {R : Field → Field → Prop}
    (hchildren : a.kind? = some .array → List.Forall₂ R a.children b.children) :
    a.isObjectArray = b.isObjectArray := by
  rw [isObjectArray, isObjectArray, ← h.kind?_eq]
  by_cases harray : a.kind? = some .array
  · rw [isEmpty_eq_of_forall₂ (hchildren harray)]
  · rw [beq_eq_false_iff_ne.mpr harray]
    rfl

theorem Field.children_eq_nil {f : Field} (harray : f.kind? = some .array)
    (hleaf : f.isObjectArray = false) : f.children = [] := by
  simpa [isObjectArray, harray] using hleaf

namespace Zod

section
variable {a b : Field}

theorem stringChecks_eq_of_saysSame (h : a.SaysSame b)
    (htext : a.kind?.any FieldKind.isTextLike) (kind : FieldKind) :
    stringChecks kind a.required a.label a.constraints =
      stringChecks kind b.required b.label b.constraints := by
  rw [stringChecks, stringChecks, h.required, h.label, h.minLengthInEffect htext,
    h.maxLengthInEffect htext, h.patternInEffect htext]

theorem rejectsEmpty_eq_of_saysSame (h : a.SaysSame b)
    (htext : a.kind?.any FieldKind.isTextLike) (kind : FieldKind) :
    rejectsEmpty kind a.constraints = rejectsEmpty kind b.constraints := by
  rw [rejectsEmpty, rejectsEmpty, h.minLengthInEffect htext, h.patternInEffect htext]

theorem minItemsOf_eq_of_saysSame (h : a.SaysSame b) : minItemsOf a.spec = minItemsOf b.spec := by
  have hrequired : a.spec.required = b.spec.required := h.required
  have hlabel : a.spec.label = b.spec.label := h.label
  rw [minItemsOf, minItemsOf, hrequired, hlabel]

/-- The expression of a field that is no list of objects, by its accessors. -/
theorem ofLeaf_eq (kind : FieldKind) (f : Field) :
    ofLeaf kind f.spec f.itemKind =
      match kind.base with
      | .string =>
        guard f.required (rejectsEmpty kind f.constraints)
          (.string (stringChecks kind f.required f.label f.constraints))
      | .number =>
        guard f.required true
          (.number (Schema.Message.required f.label) (numberChecks f.constraints))
      | .boolean =>
        guard f.required false
          (if f.required then .mustBeTrue (Schema.Message.mustBeChecked f.label) else .boolean)
      | .oneOf =>
        guard f.required false (if f.options.isEmpty then .never else .enum f.options)
      | .list =>
        match minItemsOf f.spec with
        | some message => .nonEmpty (.array (ofItemKind f.itemKind)) message
        | none => .optional (.array (ofItemKind f.itemKind)) := rfl

theorem ofLeaf_eq_of_saysSame {kind : FieldKind} (h : a.SaysSame b) (hkind : a.kind? = some kind)
    (hleaf : a.isObjectArray = false) :
    ofLeaf kind a.spec a.itemKind = ofLeaf kind b.spec b.itemKind := by
  rw [ofLeaf_eq, ofLeaf_eq, h.required]
  cases hbase : kind.base with
  | string =>
    have htext := isTextLike_of_base hkind hbase
    have hchecks := stringChecks_eq_of_saysSame h htext kind
    rw [h.required] at hchecks
    dsimp only
    rw [hchecks, rejectsEmpty_eq_of_saysSame h htext]
  | number =>
    have hnumber := kind?_eq_number_of_base hkind hbase
    dsimp only
    rw [numberChecks, numberChecks, h.label, h.min hnumber, h.max hnumber]
  | boolean =>
    dsimp only
    rw [h.label]
  | oneOf =>
    dsimp only
    rw [h.options (hasOptions_of_base hkind hbase)]
  | list =>
    have harray := kind?_eq_array_of_base hkind hbase
    dsimp only
    rw [minItemsOf_eq_of_saysSame h, h.itemKind harray (children_eq_nil harray hleaf)]

end

namespace Member

theorem ofField_of_known {f : Field} {kind : FieldKind} (h : f.spec.type = .known kind)
    (path : String) :
    ofField path f =
      if f.isObjectArray then .objects f.name (ofFields path f.children) (minItemsOf f.spec)
      else .value f.name (ofLeaf kind f.spec f.itemKind) := by
  obtain ⟨spec, children⟩ := f
  rw [ofField, show spec.type = .known kind from h]
  rfl

theorem ofField_of_unrecognized {f : Field} {raw : String} (h : f.spec.type = .unrecognized raw)
    (path : String) : ofField path f = .unsupported raw path := by
  obtain ⟨spec, children⟩ := f
  rw [ofField, show spec.type = .unrecognized raw from h]

/-- Alike fields have the same member in the generated schema. -/
theorem ofField_eq_of_alike {a b : Field} (h : a.Alike b) :
    ∀ path, ofField path a = ofField path b := by
  refine h.pass_eq fun {a b} path hsame hchildren => ?_
  cases htype : a.spec.type with
  | unrecognized raw =>
    rw [ofField_of_unrecognized htype, ofField_of_unrecognized (hsame.type ▸ htype)]
  | known kind =>
    rw [ofField_of_known htype, ofField_of_known (hsame.type_right htype),
      ← hsame.isObjectArray_eq hchildren, hsame.name]
    by_cases hobjects : a.isObjectArray = true
    · have hbelow := hchildren (kind?_of_isObjectArray hobjects)
      rw [if_pos hobjects, if_pos hobjects, ofFields_eq_map, ofFields_eq_map,
        map_eq_of_forall₂_sameUnder hbelow, minItemsOf_eq_of_saysSame hsame]
    · rw [if_neg hobjects, if_neg hobjects, ofLeaf_eq_of_saysSame hsame
        (kind?_eq_some_iff.mpr htype) (Bool.not_eq_true _ ▸ hobjects)]

end Member

end Zod

namespace Interface

theorem Ty.ofLeaf_eq_of_saysSame {a b : Field} {kind : FieldKind} (h : a.SaysSame b)
    (hkind : a.kind? = some kind) (hleaf : a.isObjectArray = false) :
    Ty.ofLeaf kind a.spec a.itemKind = Ty.ofLeaf kind b.spec b.itemKind := by
  rw [ofLeaf, ofLeaf]
  cases hbase : kind.base with
  | string | number | boolean => rfl
  | oneOf => exact congrArg ofOptions (h.options (hasOptions_of_base hkind hbase))
  | list =>
    have harray := kind?_eq_array_of_base hkind hbase
    dsimp only
    rw [h.itemKind harray (children_eq_nil harray hleaf)]

namespace Member

theorem ofField_of_unrecognized {f : Field} {raw : String} (h : f.spec.type = .unrecognized raw)
    (path : String) : ofField path f = .unsupported raw path := by
  obtain ⟨spec, children⟩ := f
  rw [ofField, show spec.type = .unrecognized raw from h]

/-- Alike fields have the same member in the generated interface. -/
theorem ofField_eq_of_alike {a b : Field} (h : a.Alike b) :
    ∀ path, ofField path a = ofField path b := by
  refine h.pass_eq fun {a b} path hsame hchildren => ?_
  cases htype : a.spec.type with
  | unrecognized raw =>
    rw [ofField_of_unrecognized htype, ofField_of_unrecognized (hsame.type ▸ htype)]
  | known kind =>
    rw [ofField_of_known htype, ofField_of_known (hsame.type_right htype),
      ← hsame.isObjectArray_eq hchildren, hsame.name, hsame.required]
    by_cases hobjects : a.isObjectArray = true
    · have hbelow := hchildren (kind?_of_isObjectArray hobjects)
      rw [if_pos hobjects, if_pos hobjects, ofFields_eq_map, ofFields_eq_map,
        map_eq_of_forall₂_sameUnder hbelow]
    · rw [if_neg hobjects, if_neg hobjects, Ty.ofLeaf_eq_of_saysSame hsame
        (kind?_eq_some_iff.mpr htype) (Bool.not_eq_true _ ▸ hobjects)]

end Member

end Interface

/-! ## Forms -/

namespace Form

/-- Two forms of one title whose fields are alike. -/
structure Alike (a b : Form) : Prop where
  title : a.title = b.title
  fields : List.Forall₂ Field.Alike a.fields b.fields

/-- **Irrelevant members have no influence.** Forms that differ only in members which mean nothing
where they stand get the same identifiers; they have the same schema with the same warnings, or
fail to compile for the same reason; and in every style their generated schemas and their
interfaces are the same text. -/
theorem irrelevant_members_have_no_influence {a b : Form} (h : a.Alike b) :
    Identifiers.ofTitle a.title = Identifiers.ofTitle b.title ∧
    Schema.ValidationSchema.ofForm a = Schema.ValidationSchema.ofForm b ∧
    ∀ style ids,
      Artifact.ofForm style ids a .schema = Artifact.ofForm style ids b .schema ∧
      Artifact.ofForm style ids a .types = Artifact.ofForm style ids b .types := by
  refine ⟨by rw [h.title], Schema.ofForm_eq_of_alike h.fields, fun style ids => ⟨?_, ?_⟩⟩
  · have hmembers := map_eq_of_forall₂_sameUnder
      (forall₂_sameUnder_of_alike Zod.Member.ofField_eq_of_alike h.fields) ""
    have hlines : ArtifactKind.schema.lines ids a = ArtifactKind.schema.lines ids b := by
      rw [ArtifactKind.lines, ArtifactKind.lines, Zod.schemaLines, Zod.schemaLines,
        Zod.Member.ofFields_eq_map, Zod.Member.ofFields_eq_map, hmembers]
    rw [Artifact.ofForm, Artifact.ofForm, hlines]
  · have hmembers := map_eq_of_forall₂_sameUnder
      (forall₂_sameUnder_of_alike Interface.Member.ofField_eq_of_alike h.fields) ""
    have hlines : ArtifactKind.types.lines ids a = ArtifactKind.types.lines ids b := by
      rw [ArtifactKind.lines, ArtifactKind.lines, Interface.fileLines, Interface.fileLines,
        Interface.Member.ofFields_eq_map, Interface.Member.ofFields_eq_map, hmembers]
    rw [Artifact.ofForm, Artifact.ofForm, hlines]

/-- A form that says nothing beyond what its kinds ask for. -/
def plainForm : Form :=
  ⟨"Member",
    [.leaf ⟨"nick", .known .text, "Nick", true, some { maxLength := some 8 }, [], none, none,
        none⟩,
      .leaf ⟨"age", .known .number, "Age", false, none, [], none, none, none⟩,
      .leaf ⟨"tags", .known .array, "Tags", false, none, [], none, none, none⟩,
      ⟨⟨"visits", .known .array, "Visits", true, none, [], none, none, none⟩,
        [.leaf ⟨"mood", .known .radio, "Mood", true, none, ["good", "bad"], none, none, none⟩]⟩]⟩

/-- The same form with much that means nothing where it stands: bounds of zero and an empty
pattern, a field of an unknown kind below a text, patterns that are no regular expressions on a
number and on a choice, a type of items that cannot be, and one that is not asked for. -/
def clutteredForm : Form :=
  ⟨"Member",
    [⟨⟨"nick", .known .text, "Nick", true,
          some { minLength := some 0, maxLength := some 8, pattern := some "" }, ["a"],
          some (.known .number), some "Nick name", none⟩,
        [.leaf ⟨"x", .unrecognized "color", "X", false, none, [], none, none, none⟩]⟩,
      .leaf ⟨"age", .known .number, "Age", false,
        some { minLength := some 3, pattern := some "(" }, ["1"], none, none, some "In years"⟩,
      .leaf ⟨"tags", .known .array, "Tags", false, none, ["b"], some (.known .select), none, none⟩,
      ⟨⟨"visits", .known .array, "Visits", true, some { maxLength := some 2 }, [],
          some (.known .number), none, none⟩,
        [.leaf ⟨"mood", .known .radio, "Mood", true, some { pattern := some "(" }, ["good", "bad"],
          none, none, some "Be honest"⟩]⟩]⟩

/-- Neither the schema nor a text that is generated from it shows the clutter, and it keeps nothing
from being compiled. -/
theorem clutteredForm_is_plain :
    plainForm.Alike clutteredForm ∧
      (∃ schema, Schema.ValidationSchema.ofForm clutteredForm = .ok schema) ∧
      Identifiers.ofTitle plainForm.title = Identifiers.ofTitle clutteredForm.title ∧
      Schema.ValidationSchema.ofForm plainForm = Schema.ValidationSchema.ofForm clutteredForm ∧
      ∀ style ids,
        Artifact.ofForm style ids plainForm .schema =
          Artifact.ofForm style ids clutteredForm .schema ∧
        Artifact.ofForm style ids plainForm .types =
          Artifact.ofForm style ids clutteredForm .types := by
  have halike : plainForm.Alike clutteredForm := by
    refine ⟨rfl, .cons (.of_ne_array ?_ (by decide)) (.cons (.of_ne_array ?_ (by decide))
      (.cons ⟨?_, fun _ => .nil⟩
        (.cons ⟨?_, fun _ => .cons (.of_ne_array ?_ (by decide)) .nil⟩ .nil)))⟩
    all_goals constructor <;> decide
  exact ⟨halike, ⟨_, rfl⟩, irrelevant_members_have_no_influence halike⟩

end Form

end WebForm
