import WebForm.Proofs.Field.Place
import WebForm.Proofs.Outcome
import WebForm.Schema.Compile
/-!
# What a field compiles to

`Compiles path f kind v` says which validator `v` a field of a known kind becomes before it is
wrapped as optional: one rule for each base, and two for lists, which hold primitives or objects.
`ofField_eq_ok_iff` ties the relation to the compiler, so that a statement about compiled schemas
is proved by cases on these six rules and the compiler itself is opened here only.
-/

set_option autoImplicit false

namespace WebForm.Schema

open Validator Outcome

/-- The validator of a field of a kind, not yet wrapped. -/
inductive Compiles (path : String) (f : Field) : FieldKind → Validator → Prop
  | text {kind : FieldKind} {pattern : Option Pattern} (hbase : kind.base = .string)
      (hpattern : patternOf path f.constraints = .ok pattern) :
      Compiles path f kind
        (.string ⟨Message.required f.label, f.constraints.minLengthInEffect,
          f.constraints.maxLengthInEffect, kind == .email, pattern⟩)
  | number {kind : FieldKind} (hbase : kind.base = .number) :
      Compiles path f kind (.number (numberRulesOf f.label f.constraints))
  | boolean {kind : FieldKind} (hbase : kind.base = .boolean) :
      Compiles path f kind
        (.boolean (if f.required then some (Message.mustBeChecked f.label) else none))
  | choice {kind : FieldKind} (hbase : kind.base = .oneOf) :
      Compiles path f kind (.oneOf f.label f.options)
  /-- A list without fields of its own. -/
  | primitives {kind : FieldKind} (hbase : kind.base = .list) (hnone : f.children = []) :
      Compiles path f kind
        (.array (ofItemKind f.itemKind) (if f.required then 1 else 0) (Message.minItems f.label))
  /-- A list whose items are objects. -/
  | objects {kind : FieldKind} {fields : List (String × Validator)} (hbase : kind.base = .list)
      (hsome : f.children ≠ []) (hfields : ofFields path f.children = .ok fields) :
      Compiles path f kind
        (.array (.object fields) (if f.required then 1 else 0) (Message.minItems f.label))

/-- The rules for a text, once its pattern is read. -/
theorem stringRulesOf_eq (path : String) (kind : FieldKind) (label : String) (c : Constraints) :
    stringRulesOf path kind label c = (patternOf path c).map fun pattern =>
      ⟨Message.required label, c.minLengthInEffect, c.maxLengthInEffect, kind == .email,
        pattern⟩ := by
  rw [stringRulesOf]
  cases patternOf path c with
  | error e => rfl
  | ok pattern => rfl

theorem ofField_of_unrecognized {path : String} {f : Field} {raw : String}
    (h : f.spec.type = .unrecognized raw) : ofField path f = .error (.unknownKind path raw) := by
  obtain ⟨spec, children⟩ := f
  rw [ofField, show spec.type = .unrecognized raw from h]

/-- What compiling a field of a known kind comes to. -/
theorem ofField_of_known {path : String} {f : Field} {kind : FieldKind}
    (h : f.spec.type = .known kind) :
    ofField path f =
      Except.map (Validator.guard f.required kind.base)
        (match kind.base with
          | .string => (stringRulesOf path kind f.label f.constraints).map .string
          | .number => .ok (.number (numberRulesOf f.label f.constraints))
          | .boolean =>
            .ok (.boolean (if f.required then some (Message.mustBeChecked f.label) else none))
          | .oneOf => .ok (.oneOf f.label f.options)
          | .list =>
            Except.map
              (fun item => .array item (if f.required then 1 else 0) (Message.minItems f.label))
              (if f.children.isEmpty then .ok (ofItemKind f.itemKind)
                else (ofFields path f.children).map .object)) := by
  obtain ⟨spec, children⟩ := f
  rw [ofField, show spec.type = .known kind from h]
  rfl

/-- A field that compiles has a known kind, follows one of the rules, and is wrapped as its
`required` flag says. -/
theorem exists_compiles_of_ofField {path : String} {f : Field} {v : Validator}
    (h : ofField path f = .ok v) :
    ∃ kind inner, f.kind? = some kind ∧ Compiles path f kind inner ∧
      v = Validator.guard f.required kind.base inner := by
  obtain ⟨spec, children⟩ := f
  rw [ofField] at h
  cases htype : spec.type with
  | unrecognized raw =>
    rw [htype] at h
    cases h
  | known kind =>
    rw [htype] at h
    have hkind : (Field.mk spec children).kind? = some kind := Field.kind?_eq_some_iff.mpr htype
    obtain ⟨inner, hinner, rfl⟩ := map_eq_ok_iff.mp h
    refine ⟨kind, inner, hkind, ?_, rfl⟩
    cases hbase : kind.base with
    | string =>
      simp only [hbase, stringRulesOf_eq] at hinner
      obtain ⟨rules, hrules, rfl⟩ := map_eq_ok_iff.mp hinner
      obtain ⟨pattern, hpattern, rfl⟩ := map_eq_ok_iff.mp hrules
      exact .text hbase hpattern
    | number =>
      simp only [hbase, Except.ok.injEq] at hinner
      exact hinner ▸ .number hbase
    | boolean =>
      simp only [hbase, Except.ok.injEq] at hinner
      exact hinner ▸ .boolean hbase
    | oneOf =>
      simp only [hbase, Except.ok.injEq] at hinner
      exact hinner ▸ .choice hbase
    | list =>
      simp only [hbase] at hinner
      obtain ⟨item, hitem, rfl⟩ := map_eq_ok_iff.mp hinner
      -- a list without children holds primitives
      by_cases hnone : children = []
      · rw [if_pos (by rw [hnone]; rfl), Except.ok.injEq] at hitem
        exact hitem ▸ .primitives hbase hnone
      · rw [if_neg (by rwa [List.isEmpty_iff])] at hitem
        obtain ⟨fields, hfields, rfl⟩ := map_eq_ok_iff.mp hitem
        exact .objects hbase hnone hfields

/-- Siblings compile one by one, each at its own path and under its own name. -/
theorem ofFields_cons_eq_ok_iff {parent : String} {f : Field} {rest : List Field}
    {vs : List (String × Validator)} :
    ofFields parent (f :: rest) = .ok vs ↔
      ∃ v tail, ofField (Field.joinPath parent f.name) f = .ok v ∧
        ofFields parent rest = .ok tail ∧ vs = (f.name, v) :: tail := by
  rw [ofFields, bind_eq_ok_iff]
  constructor
  · rintro ⟨v, hv, h⟩
    obtain ⟨tail, htail, h⟩ := bind_eq_ok_iff.mp h
    exact ⟨v, tail, hv, htail, (Except.ok.inj h).symm⟩
  · rintro ⟨v, tail, hv, htail, rfl⟩
    exact ⟨v, hv, bind_eq_ok_iff.mpr ⟨tail, htail, rfl⟩⟩

/-- If siblings compile, so does each of them. -/
theorem exists_ofField_of_mem {parent : String} {fs : List Field} {vs : List (String × Validator)}
    (h : ofFields parent fs = .ok vs) {f : Field} (hf : f ∈ fs) :
    ∃ v, ofField (Field.joinPath parent f.name) f = .ok v := by
  induction fs generalizing vs with
  | nil => cases hf
  | cons g rest ih =>
    obtain ⟨v, tail, hv, htail, -⟩ := ofFields_cons_eq_ok_iff.mp h
    rcases List.mem_cons.mp hf with rfl | hmem
    · exact ⟨v, hv⟩
    · exact ih htail hmem

/-- The schema of a form succeeds with the validators of its fields and its warnings. -/
theorem ofForm_eq_ok_iff {form : Form} {schema : ValidationSchema} :
    ValidationSchema.ofForm form = .ok schema ↔
      ∃ fields, ofFields "" form.fields = .ok fields ∧
        schema = ⟨fields, Warning.ofFields "" form.fields⟩ := by
  rw [ValidationSchema.ofForm, bind_eq_ok_iff]
  constructor
  · rintro ⟨fields, hfields, h⟩
    exact ⟨fields, hfields, (Except.ok.inj h).symm⟩
  · rintro ⟨fields, hfields, rfl⟩
    exact ⟨fields, hfields, rfl⟩

end WebForm.Schema
