import WebForm.Compiled
import WebForm.Proofs.Artifact.Notes
import WebForm.Proofs.Form.WellFormed
/-!
# Forms that compile

Five passes over a form decide on their own which children they look at: the structural check, the
compiler of the schema, and the three that generate code. What one of them has seen holds wherever
a later one looks. A form that was loaded in strict mode has known kinds and options everywhere, so
that all that can stop it from compiling is a title without letters or a pattern that is no regular
expression; and whatever compiles, loaded or not, generates code for all of its fields.
-/

set_option autoImplicit false

namespace WebForm

open Outcome Field Schema

/-! ## Identifiers -/

theorem Identifier.typeName_eq_error {title : String} {e : IdentifierError}
    (htitle : Text.isBlank title = false) (h : typeName title = .error e) :
    e = .noLetters title := by
  rw [typeName, htitle, if_neg Bool.false_ne_true] at h
  split at h
  · exact (Except.error.inj h).symm
  · cases h

/-- A title that is not blank fails to give identifiers only for want of letters. -/
theorem Identifiers.ofTitle_eq_error {title : String} {e : IdentifierError}
    (htitle : Text.isBlank title = false) (h : ofTitle title = .error e) :
    e = .noLetters title := by
  rw [ofTitle] at h
  rcases bind_eq_error_iff.mp h with hname | ⟨name, -, h⟩
  · exact Identifier.typeName_eq_error htitle hname
  · cases h

/-! ## Loading -/

namespace Form

/-- A form that some document is loaded to. -/
def IsLoaded (s : Strictness) (form : Form) : Prop :=
  (∃ text, loadText s text = .ok form) ∨ ∃ value, loadJson s value = .ok form

theorem accept_strict_eq_ok {decoded form : Form} (h : decoded.accept .strict = .ok form) :
    form.WellFormed .strict := by
  rw [accept] at h
  obtain ⟨u, hcheck, h⟩ := bind_eq_ok_iff.mp h
  obtain rfl := Except.ok.inj h
  exact check_eq_ok_iff.mp (mapError_eq_ok_iff.mp hcheck)

/-- What is loaded in strict mode is well-formed, and it is not repaired. -/
theorem IsLoaded.wellFormed {form : Form} (h : form.IsLoaded .strict) :
    form.WellFormed .strict := by
  rcases h with ⟨text, h⟩ | ⟨value, h⟩
  · obtain ⟨decoded, -, haccept⟩ := bind_eq_ok_iff.mp h
    exact accept_strict_eq_ok haccept
  · obtain ⟨decoded, -, haccept⟩ := bind_eq_ok_iff.mp h
    exact accept_strict_eq_ok haccept

/-- No field of a form that is well-formed in strict mode can be warned about. -/
theorem WellFormed.warnings_eq_nil {form : Form} (h : form.WellFormed .strict) :
    Warning.ofFields "" form.fields = [] := by
  refine warnings_ofFields_eq_nil_iff.mpr ?_
  refine (@everywhereIn_iff_forall_places OffersChoice "" [] form.fields).mpr ?_
  intro p hp kind hkind hoptions
  refine (h.fields p hp).options rfl ?_
  rw [hkind]
  cases kind with
  | select => exact Or.inl rfl
  | radio => exact Or.inr rfl
  | text | email | password | number | textArea | boolean | array => cases hoptions

/-- The only fault left in a form that is well-formed in strict mode is that of a pattern. -/
theorem WellFormed.rejectsPattern_of_blamedOn {form : Form} (h : form.WellFormed .strict)
    {p : Place} (hp : p ∈ form.places) {e : CompileError} (hblamed : e.BlamedOn p) :
    ∃ source reason, p.field.RejectsPattern source reason ∧
      e = .invalidPattern p.path source reason := by
  cases hblamed with
  | unknownKind htype =>
    obtain ⟨kind, hkind⟩ := (h.fields p hp).known rfl
    rw [Field.kind?, htype, FieldType.kind?] at hkind
    cases hkind
  | invalidPattern hreject => exact ⟨_, _, hreject, rfl⟩

/-! ## Compiling -/

/-- Compiling a form fails with its identifiers or with its schema, or it gives both. -/
theorem compile_cases (style : Source.Style) (form : Form) :
    (∃ e, Identifiers.ofTitle form.title = .error e ∧
      form.compile style = .error (.identifier e)) ∨
    (∃ e, ValidationSchema.ofForm form = .error e ∧
      form.compile style = .error (.schema e)) ∨
    ∃ c, ValidationSchema.ofForm form = .ok c.schema ∧ form.compile style = .ok c := by
  rw [compile]
  cases hids : Identifiers.ofTitle form.title with
  | error e => exact Or.inl ⟨e, rfl, rfl⟩
  | ok ids =>
    cases hschema : ValidationSchema.ofForm form with
    | error e => exact Or.inr (Or.inl ⟨e, rfl, rfl⟩)
    | ok schema => exact Or.inr (Or.inr ⟨⟨ids, schema, _, _⟩, rfl, rfl⟩)

/-- **What was loaded strictly cannot go wrong later, and what compiles is generated in full.** A
form that was loaded in strict mode compiles without warnings, or its title has no letters, or a
field that holds texts has a pattern that is no regular expression. No artifact of a form that
compiles has a comment in place of a field. -/
theorem compile_of_isLoaded_strict (style : Source.Style) (form : Form) :
    (form.IsLoaded .strict →
      (∃ c, form.compile style = .ok c ∧ c.schema.warnings = []) ∨
      form.compile style = .error (.identifier (.noLetters form.title)) ∨
      ∃ p ∈ form.places, ∃ source reason, p.field.RejectsPattern source reason ∧
        form.compile style = .error (.schema (.invalidPattern p.path source reason))) ∧
    ∀ c, form.compile style = .ok c → ∀ kind, ArtifactKind.notes kind c.identifiers form = [] := by
  rcases compile_cases style form with ⟨e, he, hcompile⟩ | ⟨e, he, hcompile⟩ | ⟨c, hc, hcompile⟩
  -- the steps in their order: the title, the schema, the artifacts
  · rw [hcompile]
    constructor
    · intro h
      obtain rfl := Identifiers.ofTitle_eq_error h.wellFormed.titled he
      exact Or.inr (Or.inl rfl)
    · intro c h
      cases h
  · rw [hcompile]
    constructor
    · intro h
      obtain ⟨p, hp, hblamed⟩ := exists_blamedOn_of_ofForm he
      obtain ⟨source, reason, hreject, rfl⟩ := h.wellFormed.rejectsPattern_of_blamedOn hp hblamed
      exact Or.inr (Or.inr ⟨p, hp, source, reason, hreject, rfl⟩)
    · intro c h
      cases h
  · rw [hcompile]
    constructor
    · intro h
      obtain ⟨fields, -, hschema⟩ := ofForm_eq_ok_iff.mp hc
      refine Or.inl ⟨c, rfl, ?_⟩
      rw [hschema]
      exact h.wellFormed.warnings_eq_nil
    · intro c' h kind
      exact (ArtifactKind.notes_eq_nil_iff kind c'.identifiers form).mpr
        (everywhereIn_isKnown_of_ofForm hc)

/-- A document of a form with a list of objects. -/
def surveyDocument : Json :=
  .object [("title", .string "Survey"), ("fields", .array
    [.object [("name", .string "visits"), ("type", .string "array"), ("label", .string "Visits"),
      ("fields", .array
        [.object [("name", .string "mood"), ("type", .string "radio"), ("label", .string "Mood"),
          ("options", .array [.string "good", .string "bad"])]])]])]

/-- The form of the document. -/
def surveyForm : Form :=
  ⟨"Survey",
    [⟨⟨"visits", .known .array, "Visits", false, none, [], none, none, none⟩,
      [.leaf ⟨"mood", .known .radio, "Mood", false, none, ["good", "bad"], none, none, none⟩]⟩]⟩

/-- The document is loaded in strict mode, and its form compiles without warnings and comments. -/
theorem surveyDocument_compiles :
    loadJson .strict surveyDocument = .ok surveyForm ∧
      ∃ c, surveyForm.compile ⟨.spaces2, .lf⟩ = .ok c ∧ c.schema.warnings = [] ∧
        ∀ kind, ArtifactKind.notes kind c.identifiers surveyForm = [] := by
  have hload : loadJson .strict surveyDocument = .ok surveyForm := rfl
  have hcompiles : ∃ c, surveyForm.compile ⟨.spaces2, .lf⟩ = .ok c := ⟨_, rfl⟩
  obtain ⟨c, hc⟩ := hcompiles
  obtain ⟨hstrict, hnotes⟩ := compile_of_isLoaded_strict ⟨.spaces2, .lf⟩ surveyForm
  refine ⟨hload, c, hc, ?_, hnotes c hc⟩
  rcases hstrict (Or.inr ⟨surveyDocument, hload⟩) with ⟨c', hc', hwarnings⟩ | h | ⟨_, _, _, _, _, h⟩
  · obtain rfl := Except.ok.inj (hc.symm.trans hc')
    exact hwarnings
  · cases hc.symm.trans h
  · cases hc.symm.trans h

end Form

end WebForm
