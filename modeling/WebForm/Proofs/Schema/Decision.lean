import WebForm.Proofs.Schema.Acceptance
import WebForm.Proofs.Schema.Faults
import WebForm.Proofs.Schema.Shape
/-!
# Which forms compile, and to what

A form compiles exactly if every field that is reached in it compiles by itself: its kind is known,
and if it holds texts its pattern can be read. Otherwise the error is that of the first field in
preorder that does not. Both follow from one equation, `error?_ofForm`: the error of compiling a form
is the first of the errors that its places have by themselves.

The warnings of a form are likewise read off its places, one for each choice without options.
-/

set_option autoImplicit false

namespace WebForm

open Schema Validator Outcome Field

/-- A field that compiles by itself, whatever is below it. -/
structure Field.Compilable (f : Field) : Prop where
  known : f.IsKnown
  /-- The pattern of a field that holds texts can be read; the empty one is none. -/
  pattern : ∀ kind, f.kind? = some kind → kind.isTextLike = true →
    ∀ source, f.constraints.pattern = some source → source ≠ "" →
      ∃ p, Pattern.ofSource source = .ok p

/-- A choice that nothing can be chosen from. -/
def Field.LacksOptions (f : Field) : Prop :=
  (f.kind? = some .select ∨ f.kind? = some .radio) ∧ f.options = []

instance : DecidablePred Field.LacksOptions := fun f =>
  inferInstanceAs (Decidable ((f.kind? = some .select ∨ f.kind? = some .radio) ∧ f.options = []))

namespace Schema

/-! ## Compilable fields -/

/-- A field is compilable if and only if nothing can be blamed on it. -/
theorem fault?_eq_none_iff {path : String} {f : Field} :
    fault? path f = none ↔ f.Compilable := by
  rw [fault?]
  cases htype : f.spec.type with
  | unrecognized raw =>
    refine iff_of_false (Option.some_ne_none _) fun h => ?_
    obtain ⟨kind, hkind⟩ := h.known
    cases htype.symm.trans (kind?_eq_some_iff.mp hkind)
  | known kind =>
    have hkind : f.kind? = some kind := kind?_eq_some_iff.mpr htype
    dsimp only
    by_cases htext : kind.isTextLike = true
    · rw [if_pos htext, error?_eq_none_iff]
      constructor
      · rintro ⟨pattern, hpattern⟩
        refine ⟨⟨kind, hkind⟩, fun _ _ _ source hsource hne => ?_⟩
        have heffect : f.constraints.patternInEffect = some source :=
          patternInEffect_eq_some_iff.mpr ⟨hsource, hne⟩
        rcases patternOf_eq_ok_iff.mp hpattern with ⟨hnone, -⟩ | ⟨source', p, hsource', hp, -⟩
        · cases heffect.symm.trans hnone
        · obtain rfl := Option.some.inj (heffect.symm.trans hsource')
          exact ⟨p, hp⟩
      · intro h
        cases heffect : f.constraints.patternInEffect with
        | none => exact ⟨none, patternOf_eq_ok_iff.mpr (.inl ⟨heffect, rfl⟩)⟩
        | some source =>
          obtain ⟨hsource, hne⟩ := patternInEffect_eq_some_iff.mp heffect
          obtain ⟨p, hp⟩ := h.pattern kind hkind htext source hsource hne
          exact ⟨some p, patternOf_eq_ok_iff.mpr (.inr ⟨source, p, heffect, hp, rfl⟩)⟩
    · rw [if_neg htext]
      refine iff_of_true rfl ⟨⟨kind, hkind⟩, ?_⟩
      intro kind' hkind' htext'
      obtain rfl := Option.some.inj (hkind.symm.trans hkind')
      exact absurd htext' htext

/-! ## Warnings -/

/-- The warning about a choice without options at a place. -/
def warningAt (p : Place) : Warning :=
  ⟨p.path, p.field.spec.type.spelling ++ " field has no options and rejects every value"⟩

/-- The warnings about a field are one about itself, if it is a choice without options, and those
about its children, if it is a list. -/
theorem warnings_ofField_step (p : Place) :
    Warning.ofField p.path p.field =
      (if p.field.LacksOptions then [warningAt p] else []) ++
        if p.field.kind? = some .array then Warning.ofFields p.path p.field.children else [] := by
  obtain ⟨parent, elders, ⟨spec, children⟩, juniors⟩ := p
  rw [Warning.ofField]
  cases htype : spec.type with
  | unrecognized raw => simp [LacksOptions, Field.kind?, htype, FieldType.kind?]
  | known kind =>
    cases kind with
    | select | radio =>
      simp [LacksOptions, Field.kind?, Field.options, htype, FieldType.kind?, FieldKind.base,
        warningAt, Warning.noOptions, FieldType.spelling]
    | array | text | email | password | number | textArea | boolean =>
      simp [LacksOptions, Field.kind?, htype, FieldType.kind?, FieldKind.base]

theorem isPass_warnings :
    IsPass (· ++ ·) [] (fun p => if p.field.LacksOptions then [warningAt p] else [])
      Warning.ofField Warning.ofFields where
  field := warnings_ofField_step
  nil _ := rfl
  cons _ _ _ := rfl

theorem foldr_append_eq_map_filter {α β : Type} (P : α → Prop) [DecidablePred P] (g : α → β)
    (xs : List α) :
    (xs.map fun x => if P x then [g x] else []).foldr (· ++ ·) [] =
      (xs.filter fun x => P x).map g := by
  induction xs with
  | nil => rfl
  | cons x rest ih =>
    rw [List.map_cons, List.foldr_cons, ih]
    by_cases hx : P x <;> simp [hx]

/-- The warnings of a schema are about the choices without options, in preorder. -/
theorem warnings_ofForm {form : Form} {schema : ValidationSchema}
    (h : ValidationSchema.ofForm form = .ok schema) :
    schema.warnings = (form.places.filter fun p => p.field.LacksOptions).map warningAt := by
  obtain ⟨fields, -, rfl⟩ := ofForm_eq_ok_iff.mp h
  exact (isPass_warnings.all_eq_foldr "" [] form.fields).trans
    (foldr_append_eq_map_filter (fun p => p.field.LacksOptions) warningAt _)

/-! ## The outcome -/

/-- **Which forms compile, what is reported of the others, and what comes of them.** A form compiles
exactly if all fields that are reached in it are compilable. It fails exactly with the error that
is to be blamed on a field, if all fields before it in preorder are compilable. The schema of a form
that compiles warns about the choices without options, in preorder and each at its path, and has
the names of the form in their order on every level, with the validator of the field under each
name. -/
theorem ofForm_decides_compilable (form : Form) :
    ((∃ schema, ValidationSchema.ofForm form = .ok schema) ↔
      ∀ p ∈ form.places, p.field.Compilable) ∧
    (∀ e, ValidationSchema.ofForm form = .error e ↔
      ∃ before p after, form.places = before ++ p :: after ∧
        (∀ q ∈ before, q.field.Compilable) ∧ e.BlamedOn p) ∧
    ∀ schema, ValidationSchema.ofForm form = .ok schema →
      schema.warnings = (form.places.filter fun p => p.field.LacksOptions).map warningAt ∧
      SideBySide (fun f v => ∃ path, ofField path f = .ok v) form.fields schema.fields := by
  refine ⟨?_, fun e => ?_, fun schema h => ⟨warnings_ofForm h, sideBySide_of_ofForm h⟩⟩
  · rw [← error?_eq_none_iff, error?_ofForm, List.findSome?_eq_none_iff]
    simp only [fault?_eq_none_iff]
  · rw [← error?_eq_some_iff, error?_ofForm, List.findSome?_eq_some_iff]
    simp only [fault?_eq_none_iff, fault?_eq_some_iff]
    constructor
    · rintro ⟨before, p, after, hplaces, hblamed, hbefore⟩
      exact ⟨before, p, after, hplaces, hbefore, hblamed⟩
    · rintro ⟨before, p, after, hplaces, hbefore, hblamed⟩
      exact ⟨before, p, after, hplaces, hblamed, hbefore⟩

/-- A choice without options, and another one in the items of a list. -/
def menuForm : Form :=
  ⟨"Menu",
    [.leaf ⟨"course", .known .select, "Course", true, none, [], none, none, none⟩,
      ⟨⟨"guests", .known .array, "Guest", false, none, [], none, none, none⟩,
        [.leaf ⟨"diet", .known .radio, "Diet", false, none, [], none, none, none⟩,
          .leaf ⟨"age", .known .number, "Age", false, none, [], none, none, none⟩]⟩]⟩

/-- Two fields of unknown kinds, of which the one in the items of a list comes first. -/
def paintForm : Form :=
  ⟨"Paint",
    [⟨⟨"walls", .known .array, "Wall", false, none, [], none, none, none⟩,
        [.leaf ⟨"width", .known .number, "Width", true, none, [], none, none, none⟩,
          .leaf ⟨"shade", .unrecognized "colour", "Shade", true, none, [], none, none, none⟩]⟩,
      .leaf ⟨"due", .unrecognized "date", "Due", true, none, [], none, none, none⟩]⟩

/-- One of the forms compiles with two warnings, and the other fails because of the field in the
list. -/
theorem menuForm_and_paintForm_compile :
    (∃ schema, ValidationSchema.ofForm menuForm = .ok schema ∧
      schema.warnings =
        [⟨"course", "select field has no options and rejects every value"⟩,
          ⟨"guests.diet", "radio field has no options and rejects every value"⟩]) ∧
      ValidationSchema.ofForm paintForm = .error (.unknownKind "walls.shade" "colour") := by
  refine ⟨?_, ?_⟩
  · have hwarnings := (ofForm_decides_compilable menuForm).2.2 _ rfl
    exact ⟨_, rfl, hwarnings.1.trans (by decide +kernel)⟩
  · have hbefore : ∀ q ∈ paintForm.places.take 2, fault? q.path q.field = none := by
      decide +kernel
    have hblamed : fault? (paintForm.places[2]).path (paintForm.places[2]).field =
        some (.unknownKind "walls.shade" "colour") := by decide +kernel
    refine ((ofForm_decides_compilable paintForm).2.1 _).mpr
      ⟨paintForm.places.take 2, paintForm.places[2], paintForm.places.drop 3, rfl, ?_,
        fault?_eq_some_iff.mp hblamed⟩
    exact fun q hq => fault?_eq_none_iff.mp (hbefore q hq)

end Schema

end WebForm
