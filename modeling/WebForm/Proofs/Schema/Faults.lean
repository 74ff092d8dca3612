import WebForm.Proofs.Field.Place
import WebForm.Proofs.Schema.Compile
/-!
# Why a form has no schema

`e.BlamedOn p` says what is wrong with the field at a place when `e` is reported about it: its kind
is unknown, or it holds texts and has a pattern that is no regular expression. Compiling is a pass
over the places of a form, and its error is the first of those that the fields have by themselves
(`error?_ofForm`), so it fails only with such an error, about a field that is reached.

A form that compiles has therefore no field of an unknown kind where one could be met later, and
`everywhereIn_isKnown_of_ofForm` is what all other passes over a compiled form rest on. What
compiling does not refuse but warns about is described at the end.
-/

set_option autoImplicit false

namespace WebForm

open Schema Validator Outcome Field

/-- A field whose kind is known. -/
def Field.IsKnown (f : Field) : Prop := ∃ kind, f.kind? = some kind

/-- A field that has options if it is a choice. -/
def Field.OffersChoice (f : Field) : Prop :=
  ∀ kind, f.kind? = some kind → kind.hasOptions = true → f.options ≠ []

/-- A field that holds texts, with a pattern that is no regular expression. -/
structure Field.RejectsPattern (f : Field) (source : String) (reason : Pattern.PatternError) :
    Prop where
  textLike : ∃ kind, f.kind? = some kind ∧ kind.isTextLike = true
  inEffect : f.constraints.patternInEffect = some source
  rejected : Pattern.ofSource source = .error reason

namespace Schema

/-- What is wrong with the field at a place, by the error that reports it. -/
inductive CompileError.BlamedOn (p : Place) : CompileError → Prop
  | unknownKind {raw : String} (htype : p.field.spec.type = .unrecognized raw) :
      BlamedOn p (.unknownKind p.path raw)
  | invalidPattern {source : String} {reason : Pattern.PatternError}
      (h : p.field.RejectsPattern source reason) :
      BlamedOn p (.invalidPattern p.path source reason)

/-! ## Errors -/

theorem patternOf_eq_error_iff {path : String} {c : Constraints} {e : CompileError} :
    patternOf path c = .error e ↔
      ∃ source reason, c.patternInEffect = some source ∧
        Pattern.ofSource source = .error reason ∧ e = .invalidPattern path source reason := by
  rw [patternOf]
  cases hsource : c.patternInEffect with
  | none => simp
  | some source =>
    cases hp : Pattern.ofSource source with
    | error reason => simp [hp, eq_comm]
    | ok p => simp [hp]

/-- The error of a field at a path by itself. -/
def fault? (path : String) (f : Field) : Option CompileError :=
  match f.spec.type with
  | .unrecognized raw => some (.unknownKind path raw)
  | .known kind => if kind.isTextLike then error? (patternOf path f.constraints) else none

/-- A field by itself fails with the error that blames it. -/
theorem fault?_eq_some_iff {p : Place} {e : CompileError} :
    fault? p.path p.field = some e ↔ e.BlamedOn p := by
  rw [fault?]
  cases htype : p.field.spec.type with
  | unrecognized raw =>
    rw [Option.some.injEq]
    constructor
    · rintro rfl
      exact .unknownKind htype
    · intro h
      cases h with
      | unknownKind htype' =>
        obtain rfl := FieldType.unrecognized.inj (htype.symm.trans htype')
        rfl
      | invalidPattern h =>
        obtain ⟨kind, hkind, -⟩ := h.textLike
        cases htype.symm.trans (kind?_eq_some_iff.mp hkind)
  | known kind =>
    have hkind : p.field.kind? = some kind := kind?_eq_some_iff.mpr htype
    dsimp only
    constructor
    · intro h
      by_cases htext : kind.isTextLike = true
      · rw [if_pos htext, error?_eq_some_iff] at h
        obtain ⟨source, reason, hsource, hreject, rfl⟩ := patternOf_eq_error_iff.mp h
        exact .invalidPattern ⟨⟨kind, hkind, htext⟩, hsource, hreject⟩
      · rw [if_neg htext] at h
        cases h
    · intro h
      cases h with
      | unknownKind htype' => cases htype.symm.trans htype'
      | invalidPattern h =>
        obtain ⟨kind', hkind', htext⟩ := h.textLike
        obtain rfl := Option.some.inj (hkind.symm.trans hkind')
        rw [if_pos htext, error?_eq_some_iff]
        exact patternOf_eq_error_iff.mpr ⟨_, _, h.inEffect, h.rejected, rfl⟩

/-- A field fails by itself, or else because of its children if it is a list. -/
theorem error?_ofField (path : String) (f : Field) :
    error? (ofField path f) =
      (fault? path f).or
        (if f.kind? = some .array then error? (ofFields path f.children) else none) := by
  rw [fault?]
  cases htype : f.spec.type with
  | unrecognized raw =>
    rw [ofField_of_unrecognized htype]
    rfl
  | known kind =>
    have harray : f.kind? = some .array ↔ kind.base = .list := by
      rw [kind?_eq_some_iff.mpr htype, Option.some.injEq, FieldKind.base_eq_list_iff]
    rw [ofField_of_known htype, error?_map]
    dsimp only
    cases hbase : kind.base with
    | string => simp [FieldKind.isTextLike, harray, hbase, stringRulesOf_eq]
    | number | boolean | oneOf => simp [FieldKind.isTextLike, harray, hbase, error?]
    | list =>
      -- a list without children is one of primitives, which cannot fail
      by_cases hnone : f.children = []
      · simp [FieldKind.isTextLike, harray, hbase, hnone, ofFields, error?]
      · simp [FieldKind.isTextLike, harray, hbase, hnone]

theorem error?_ofFields_cons (parent : String) (f : Field) (rest : List Field) :
    error? (ofFields parent (f :: rest)) =
      (error? (ofField (joinPath parent f.name) f)).or (error? (ofFields parent rest)) := by
  rw [ofFields]
  cases ofField (joinPath parent f.name) f with
  | error e => rfl
  | ok v =>
    cases ofFields parent rest with
    | error e => rfl
    | ok vs => rfl

theorem isPass_error? :
    IsPass Option.or none (fun p => fault? p.path p.field) (fun path f => error? (ofField path f))
      fun parent fs => error? (ofFields parent fs) where
  field p := error?_ofField p.path p.field
  nil _ := rfl
  cons := error?_ofFields_cons

theorem foldr_or_eq_findSome? {α β : Type} (g : α → Option β) (xs : List α) :
    (xs.map g).foldr Option.or none = xs.findSome? g := by
  induction xs with
  | nil => rfl
  | cons x rest ih =>
    rw [List.map_cons, List.foldr_cons, ih, List.findSome?_cons]
    cases g x <;> rfl

/-- The error of compiling a form is the first error in preorder that a field has by itself. -/
theorem error?_ofForm (form : Form) :
    error? (ValidationSchema.ofForm form) =
      form.places.findSome? fun p => fault? p.path p.field := by
  have hfields := isPass_error?.all_eq_foldr "" [] form.fields
  rw [foldr_or_eq_findSome?] at hfields
  rw [Form.places, ← hfields, ValidationSchema.ofForm]
  cases ofFields "" form.fields <;> rfl

/-- Compiling fails only because of a fault of a field that is reached. -/
theorem exists_blamedOn_of_ofForm {form : Form} {e : CompileError}
    (h : ValidationSchema.ofForm form = .error e) : ∃ p ∈ form.places, e.BlamedOn p := by
  rw [← error?_eq_some_iff, error?_ofForm] at h
  obtain ⟨p, hp, hfault⟩ := List.exists_of_findSome?_eq_some h
  exact ⟨p, hp, fault?_eq_some_iff.mp hfault⟩

/-! ## Known kinds -/

/-- A field that compiles has a known kind, and so have all fields that are reached below it. -/
theorem everywhere_isKnown_of_ofField (f : Field) :
    ∀ path v, ofField path f = .ok v → Everywhere IsKnown f := by
  induction f using Field.induction with
  | mk spec children ih =>
    intro path v h
    obtain ⟨kind, inner, hkind, hinner, -⟩ := exists_compiles_of_ofField h
    refine everywhere_iff.mpr ⟨⟨kind, hkind⟩, ?_⟩
    intro harray c hc
    obtain rfl := Option.some.inj (hkind.symm.trans harray)
    cases hinner with
    | text hbase => cases hbase
    | number hbase => cases hbase
    | boolean hbase => cases hbase
    | choice hbase => cases hbase
    | primitives _ hnone =>
      rw [show children = [] from hnone] at hc
      cases hc
    | objects _ _ hfields =>
      obtain ⟨w, hw⟩ := exists_ofField_of_mem hfields hc
      exact ih c hc _ w hw

/-- A form that compiles has fields of known kinds only. -/
theorem everywhereIn_isKnown_of_ofForm {form : Form} {schema : ValidationSchema}
    (h : ValidationSchema.ofForm form = .ok schema) : EverywhereIn IsKnown form.fields := by
  obtain ⟨fields, hfields, -⟩ := ofForm_eq_ok_iff.mp h
  refine everywhereIn_iff_forall_mem.mpr fun f hf => ?_
  obtain ⟨v, hv⟩ := exists_ofField_of_mem hfields hf
  exact everywhere_isKnown_of_ofField f _ v hv

/-! ## Warnings -/

/-- A field is not warned about if it offers a choice where it should, and its children are not
warned about either if it is a list. -/
theorem warnings_ofField_eq_nil_step (path : String) (f : Field) :
    Warning.ofField path f = [] ↔ f.OffersChoice ∧
      (f.kind? = some .array →
        ∀ c ∈ f.children, Warning.ofField (joinPath path c.name) c = []) := by
  obtain ⟨spec, children⟩ := f
  rw [Warning.ofField, Field.kind?_mk, OffersChoice, Field.kind?_mk]
  cases hkind : spec.type.kind? with
  | none => simp
  | some kind =>
    cases kind with
    | array => simp [FieldKind.base, FieldKind.hasOptions, Warning.ofFields_eq_flatMap]
    | select | radio => simp [FieldKind.base, FieldKind.hasOptions, Field.options]
    | text | email | password | number | textArea | boolean =>
      simp [FieldKind.base, FieldKind.hasOptions]

/-- Nothing is warned about exactly when every choice that is reached has options. -/
theorem warnings_ofFields_eq_nil_iff {parent : String} {fs : List Field} :
    Warning.ofFields parent fs = [] ↔ EverywhereIn OffersChoice fs := by
  rw [Warning.ofFields_eq_flatMap, List.flatMap_eq_nil_iff, everywhereIn_iff_forall_mem]
  exact forall₂_congr fun f _ => iff_everywhere_of_step warnings_ofField_eq_nil_step f _

end Schema

end WebForm
