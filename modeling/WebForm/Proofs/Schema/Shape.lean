import WebForm.Proofs.Schema.Compile
/-!
# The shape of a schema

A compiled schema has the shape of its form: on every level it names the fields in their order, and
under each name stands the validator of the field. `SideBySide R` says this of some fields and the
entries of a schema, with a relation `R` that holds between each field and its validator. What is
proved about the validator of one field is thereby said about all fields of a form at once.
-/

set_option autoImplicit false

namespace WebForm

open Schema Validator Outcome

/-- The fields of the items of a list. Children of other kinds do not count. -/
def Field.inside (f : Field) : List Field := if f.kind? = some .array then f.children else []

namespace Schema

/-- The entries of the objects that a validator asks for, be it as items of a list or as a value
that is optional. -/
def Validator.inside : Validator → List (String × Validator)
  | .object fields => fields
  | .array item _ _ => item.inside
  | .optional inner _ => inner.inside
  | .string _ | .number _ | .boolean _ | .oneOf _ _ => []

/-- Fields and the entries of a schema side by side: the same names in the same order, on every
level, and each field related to its validator. -/
inductive SideBySide (R : Field → Validator → Prop) :
    List Field → List (String × Validator) → Prop
  | nil : SideBySide R [] []
  | cons {f : Field} {fs : List Field} {v : Validator} {vs : List (String × Validator)}
      (own : R f v) (inside : SideBySide R f.inside v.inside) (rest : SideBySide R fs vs) :
      SideBySide R (f :: fs) ((f.name, v) :: vs)

@[simp] theorem inside_guard (required : Bool) (base : BaseRule) (v : Validator) :
    (guard required base v).inside = v.inside := by
  cases required <;> rfl

/-- Items of lists of primitives hold no fields. -/
theorem inside_ofItemKind (kind : FieldKind) : (ofItemKind kind).inside = [] := by
  cases kind <;> rfl

/-- What is inside a field that compiles, and inside its validator: nothing, unless the field is a
list with children, which compile to what is inside the validator. -/
theorem inside_of_ofField {path : String} {f : Field} {v : Validator}
    (h : ofField path f = .ok v) :
    f.inside = [] ∧ v.inside = [] ∨
      f.inside = f.children ∧ ofFields path f.children = .ok v.inside := by
  obtain ⟨kind, inner, hkind, hinner, rfl⟩ := exists_compiles_of_ofField h
  have hleaf : kind.base ≠ .list → f.inside = [] := by
    intro hbase
    refine if_neg fun harray => hbase ?_
    exact FieldKind.base_eq_list_iff.mpr (Option.some.inj (hkind.symm.trans harray))
  rw [inside_guard]
  cases hinner with
  | text hbase | number hbase | boolean hbase | choice hbase =>
    exact .inl ⟨hleaf (by rw [hbase]; decide), rfl⟩
  | primitives hbase hnone =>
    have hinside : f.inside = [] := by rw [Field.inside, hnone, ite_self]
    exact .inl ⟨hinside, inside_ofItemKind f.itemKind⟩
  | objects hbase hsome hfields =>
    have harray : f.kind? = some .array := by rw [hkind, FieldKind.base_eq_list_iff.mp hbase]
    exact .inr ⟨if_pos harray, hfields⟩

theorem sideBySide_of_ofFields {fs : List Field}
    (ih : ∀ f ∈ fs, ∀ path v, ofField path f = .ok v →
      SideBySide (fun f v => ∃ path, ofField path f = .ok v) f.inside v.inside)
    {parent : String} {vs : List (String × Validator)} (h : ofFields parent fs = .ok vs) :
    SideBySide (fun f v => ∃ path, ofField path f = .ok v) fs vs := by
  induction fs generalizing vs with
  | nil =>
    obtain rfl := Except.ok.inj h
    exact .nil
  | cons f rest ihrest =>
    obtain ⟨v, tail, hv, htail, rfl⟩ := ofFields_cons_eq_ok_iff.mp h
    exact .cons ⟨_, hv⟩ (ih f List.mem_cons_self _ v hv)
      (ihrest (fun g hg => ih g (List.mem_cons_of_mem f hg)) htail)

theorem sideBySide_inside_of_ofField (f : Field) : ∀ path v, ofField path f = .ok v →
    SideBySide (fun f v => ∃ path, ofField path f = .ok v) f.inside v.inside := by
  induction f using Field.induction with
  | mk spec children ih =>
    intro path v h
    rcases inside_of_ofField h with ⟨hf, hv⟩ | ⟨hf, hchildren⟩
    · rw [hf, hv]
      exact .nil
    · rw [hf]
      exact sideBySide_of_ofFields ih hchildren

/-- The schema of a form has the names of the form on every level, and each field has been compiled
to the validator under its name. -/
theorem sideBySide_of_ofForm {form : Form} {schema : ValidationSchema}
    (h : ValidationSchema.ofForm form = .ok schema) :
    SideBySide (fun f v => ∃ path, ofField path f = .ok v) form.fields schema.fields := by
  obtain ⟨fields, hfields, rfl⟩ := ofForm_eq_ok_iff.mp h
  exact sideBySide_of_ofFields (fun f _ => sideBySide_inside_of_ofField f) hfields

/-- A relation that follows from another for all fields of some property, for fields that have this
property wherever they are reached. -/
theorem SideBySide.imp {R S : Field → Validator → Prop} {P : Field → Prop} {fs : List Field}
    {vs : List (String × Validator)} (h : SideBySide R fs vs) (hP : Field.EverywhereIn P fs)
    (himp : ∀ f v, P f → R f v → S f v) : SideBySide S fs vs := by
  induction h with
  | nil => exact .nil
  | @cons f fs v vs own _ _ ihinside ihrest =>
    obtain ⟨hf, hinside⟩ := Field.everywhere_iff.mp hP.1
    refine .cons (himp f v hf own) (ihinside ?_) (ihrest hP.2)
    rw [Field.inside]
    split
    · next harray => exact Field.everywhereIn_iff_forall_mem.mpr (hinside harray)
    · trivial

end Schema

end WebForm
