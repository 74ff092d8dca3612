import WebForm.Proofs.Field.Ambiguity
import WebForm.Proofs.Form.WellFormed
import WebForm.Proofs.Schema.Located
/-!
# Errors that share a path

The errors of a submission are grouped by their paths. Each error is reported at a position, which
is of one field of the form, and two errors share a path only if they are reported at the same
position, or if the ways to their positions part (`errors_separate`). So in a form in which no field
looks as if it were inside a list beside it, a group holds what is reported at one position, and
nothing else.

The other forms are not refused. A field may be called `player.0.name` beside a list `player`, and
what is reported about it is then in one group with what is reported about the name of the first
player (`rosterForm_mixes_fields`).
-/

set_option autoImplicit false

namespace WebForm

open Schema

/-! ## Groups -/

namespace Schema

namespace ValidationResult

section
variable {e : FieldError} {groups : List (String × List FieldError)} {field : String}
  {group : List FieldError}

/-- Adding an error leaves the groups of other fields as they are. -/
theorem mem_insertGrouped_of_ne (h : field ≠ e.field) :
    (field, group) ∈ insertGrouped e groups ↔ (field, group) ∈ groups := by
  induction groups with
  | nil => simp [insertGrouped, h]
  | cons first rest ih =>
    obtain ⟨key, errors⟩ := first
    rw [insertGrouped]
    split
    · next heq => simp [heq ▸ h]
    · split
      · simp [h]
      · rw [List.mem_cons, List.mem_cons, ih]

/-- Groups stay in the order of their fields, each field once. -/
theorem pairwise_insertGrouped (h : groups.Pairwise fun a b => a.1 < b.1) :
    (insertGrouped e groups).Pairwise fun a b => a.1 < b.1 := by
  induction groups with
  | nil => exact List.pairwise_singleton _ _
  | cons first rest ih =>
    obtain ⟨key, errors⟩ := first
    obtain ⟨hfirst, hrest⟩ := List.pairwise_cons.mp h
    rw [insertGrouped]
    split
    · exact List.pairwise_cons.mpr ⟨hfirst, hrest⟩
    · next hne =>
      split
      · next hlt =>
        refine List.pairwise_cons.mpr ⟨fun entry hentry => ?_, h⟩
        rcases List.mem_cons.mp hentry with rfl | hentry
        · exact hlt
        · exact String.lt_trans hlt (hfirst entry hentry)
      · next hge =>
        refine List.pairwise_cons.mpr ⟨fun entry hentry => ?_, ih hrest⟩
        by_cases hkey : entry.1 = e.field
        · rw [hkey]
          exact String.not_le.mp fun hle => hne (String.le_antisymm hle (String.not_lt.mp hge))
        · exact hfirst entry ((mem_insertGrouped_of_ne hkey).mp hentry)

/-- Adding an error lengthens the group of its field, or starts it. -/
theorem mem_insertGrouped_self (h : groups.Pairwise fun a b => a.1 < b.1) :
    (e.field, group) ∈ insertGrouped e groups ↔
      ∃ before, group = before ++ [e] ∧
        ((e.field, before) ∈ groups ∨ before = [] ∧ ∀ other, (e.field, other) ∉ groups) := by
  induction groups with
  | nil => simp [insertGrouped]
  | cons first rest ih =>
    obtain ⟨key, errors⟩ := first
    obtain ⟨hfirst, hrest⟩ := List.pairwise_cons.mp h
    -- all later groups are of later fields
    have hlater : ∀ {other}, e.field = key ∨ e.field < key → (e.field, other) ∉ rest := by
      rintro other hle hmem
      have hlt : key < e.field := hfirst _ hmem
      rcases hle with heq | hle
      · exact String.lt_irrefl _ (heq ▸ hlt)
      · exact String.lt_asymm hlt hle
    rw [insertGrouped]
    split
    · next heq => simp [heq, heq ▸ @hlater]
    · next hne =>
      split
      · next hlt => simp [hne, hlater (.inr hlt)]
      · simp [hne, ih hrest]

end

/-- Groups in the order of their fields, each of all errors at one field. -/
structure Groups (es : List FieldError) (groups : List (String × List FieldError)) : Prop where
  ordered : groups.Pairwise fun a b => a.1 < b.1
  mem_iff : ∀ field group,
    (field, group) ∈ groups ↔ group = es.filter (·.field == field) ∧ group ≠ []

theorem Groups.insert {es : List FieldError} {groups : List (String × List FieldError)}
    (h : Groups es groups) (e : FieldError) : Groups (es ++ [e]) (insertGrouped e groups) := by
  refine ⟨pairwise_insertGrouped h.ordered, fun field group => ?_⟩
  by_cases hfield : field = e.field
  · subst hfield
    have hfilter : (es ++ [e]).filter (·.field == e.field) =
        es.filter (·.field == e.field) ++ [e] := by simp
    rw [mem_insertGrouped_self h.ordered, hfilter]
    simp only [h.mem_iff]
    constructor
    · rintro ⟨before, rfl, ⟨rfl, -⟩ | ⟨rfl, hnone⟩⟩
      · exact ⟨rfl, by simp⟩
      -- the error is the first one at its field
      · have hnil : es.filter (·.field == e.field) = [] :=
          Classical.byContradiction fun hne => hnone _ ⟨rfl, hne⟩
        exact ⟨by rw [hnil], by simp⟩
    · rintro ⟨rfl, -⟩
      refine ⟨_, rfl, ?_⟩
      by_cases hnil : es.filter (·.field == e.field) = []
      · exact .inr ⟨hnil, fun other ⟨hother, hne⟩ => hne (hother.trans hnil)⟩
      · exact .inl ⟨rfl, hnil⟩
  · rw [mem_insertGrouped_of_ne hfield, h.mem_iff]
    simp [Ne.symm hfield]

theorem Groups.foldl {es : List FieldError} {groups : List (String × List FieldError)}
    (h : Groups es groups) (more : List FieldError) :
    Groups (es ++ more) (more.foldl (fun groups e => insertGrouped e groups) groups) := by
  induction more generalizing es groups with
  | nil => rwa [List.append_nil]
  | cons e more ih =>
    rw [List.foldl_cons, List.append_cons]
    exact ih (h.insert e)

/-- The groups of a result are its errors at the fields that have any. -/
theorem mem_errorsByField {r : ValidationResult} {field : String} {group : List FieldError} :
    (field, group) ∈ r.errorsByField ↔ group = r.errorsFor field ∧ group ≠ [] := by
  have hnone : Groups [] [] := ⟨.nil, by simp⟩
  exact (hnone.foldl r.errors).mem_iff field group

end ValidationResult

/-! ## The field of a position -/

namespace Validator

theorem Reaches.of_guard {required : Bool} {base : BaseRule} {v u : Validator} {trail : List Step}
    (h : (guard required base v).Reaches trail u) : trail = [] ∨ v.Reaches trail u := by
  cases required with
  | true => exact .inr h
  | false =>
    cases h with
    | here => exact .inl rfl
    | optional h => exact .inr h

theorem Reaches.eq_nil_of_ofItemKind {kind : FieldKind} {u : Validator} {trail : List Step}
    (h : (ofItemKind kind).Reaches trail u) : trail = [] := by
  unfold ofItemKind at h
  split at h <;> cases h <;> rfl

end Validator

/-- An entry of a compiled schema is the validator of the field of its name. -/
theorem exists_field_of_mem {parent : String} {fs : List Field} {vs : List (String × Validator)}
    (h : Validator.ofFields parent fs = .ok vs) {name : String} {v : Validator}
    (hentry : (name, v) ∈ vs) :
    ∃ f ∈ fs, f.name = name ∧ Validator.ofField (Field.joinPath parent name) f = .ok v := by
  induction fs generalizing vs with
  | nil =>
    obtain rfl := Except.ok.inj h
    cases hentry
  | cons g rest ih =>
    obtain ⟨w, tail, hw, htail, rfl⟩ := ofFields_cons_eq_ok_iff.mp h
    rcases List.mem_cons.mp hentry with heq | hmem
    · obtain ⟨rfl, rfl⟩ := Prod.mk.inj heq
      exact ⟨g, List.mem_cons_self, rfl, hw⟩
    · obtain ⟨f, hf, hname, hv⟩ := ih htail hmem
      exact ⟨f, List.mem_cons_of_mem g hf, hname, hv⟩

end Schema

/-- What is reached in the validator of a field is the value of a field, or an item of it. -/
theorem Field.exists_leadsTo_of_reaches (f : Field) : ∀ path v, Validator.ofField path f = .ok v →
    ∀ trail u, v.Reaches trail u → ∃ g, f.LeadsTo trail g := by
  induction f using Field.induction with
  | mk spec children ih =>
    intro path v hv trail u hreach
    obtain ⟨kind, inner, hkind, hinner, rfl⟩ := exists_compiles_of_ofField hv
    rcases hreach.of_guard with rfl | hreach
    · exact ⟨_, .value _⟩
    cases hinner with
    | text | number | boolean | choice =>
      cases hreach
      exact ⟨_, .value _⟩
    | primitives hbase =>
      have harray := hkind.trans (congrArg some (FieldKind.base_eq_list_iff.mp hbase))
      cases hreach with
      | here => exact ⟨_, .value _⟩
      | item i hreach =>
        obtain rfl := hreach.eq_nil_of_ofItemKind
        exact ⟨_, .item harray i⟩
    | objects hbase _ hfields =>
      have harray := hkind.trans (congrArg some (FieldKind.base_eq_list_iff.mp hbase))
      cases hreach with
      | here => exact ⟨_, .value _⟩
      | item i hreach =>
        cases hreach with
        | here => exact ⟨_, .item harray i⟩
        | member hentry hreach =>
          obtain ⟨c, hc, hname, hv⟩ := exists_field_of_mem hfields hentry
          obtain ⟨g, hg⟩ := ih c hc _ _ hv _ _ hreach
          exact ⟨g, .inside harray i hc hname hg⟩

namespace Form
variable {form : Form} {schema : ValidationSchema}

/-- What is reached in the schema of a form is the submission itself, or of a field. -/
theorem exists_leadsTo_of_reaches (h : ValidationSchema.ofForm form = .ok schema)
    {trail : List Step} {u : Validator} (hreach : schema.root.Reaches trail u) :
    trail = [] ∨ ∃ f, form.LeadsTo trail f := by
  obtain ⟨fields, hfields, rfl⟩ := ofForm_eq_ok_iff.mp h
  cases hreach with
  | here => exact .inl rfl
  | member hentry hreach =>
    obtain ⟨top, htop, rfl, hv⟩ := exists_field_of_mem hfields hentry
    obtain ⟨f, hf⟩ := top.exists_leadsTo_of_reaches _ _ hv _ _ hreach
    exact .inr ⟨f, top, htop, _, rfl, hf⟩

theorem WellFormed.distinct {s : Strictness} (h : form.WellFormed s) :
    Field.Distinct "" form.fields :=
  fun p hp => (h.fields p hp).distinct

theorem WellFormed.name_ne_empty {s : Strictness} (h : form.WellFormed s) {f : Field}
    (hf : f ∈ form.fields) : f.name ≠ "" := by
  intro hempty
  obtain ⟨before, after, hfields⟩ := List.append_of_mem hf
  have hplace : (⟨"", [] ++ before, f, after⟩ : Field.Place) ∈ form.places := by
    rw [Form.places, hfields]
    exact Field.mem_places_of_split
  have hnamed : Text.isBlank f.name = false := (h.fields _ hplace).named
  rw [hempty] at hnamed
  cases hnamed

/-- The path of a field is not empty. -/
theorem LeadsTo.pathOf_ne_empty {s : Strictness} (h : form.WellFormed s) {trail : List Step}
    {f : Field} (hf : form.LeadsTo trail f) : Step.pathOf trail ≠ "" := by
  obtain ⟨top, htop, rest, rfl, -⟩ := hf
  rw [Step.pathOf_cons]
  exact fun hempty => h.name_ne_empty htop (String.append_eq_empty_iff.mp hempty).1

end Form

/-! ## Errors and their positions -/

namespace Schema

/-- An error is reported about the value at a position of a submission. -/
def ValidationSchema.ReportsAt (schema : ValidationSchema) (submission : Json) (trail : List Step)
    (e : FieldError) : Prop :=
  ∃ w ∈ schema.visits submission, w.trail = trail ∧ e ∈ w.validator.ownErrors w.path w.value

/-- The paths of errors keep the fields of a form apart, as far as the names of the form allow. -/
structure SeparatesErrors (form : Form) (schema : ValidationSchema) (submission : Json) : Prop where
  /-- The errors are those that are reported at positions. -/
  mem_errors : ∀ e, e ∈ (schema.validate submission).errors ↔
    ∃ trail, schema.ReportsAt submission trail e
  /-- A position inside the submission is of one field of the form. -/
  field : ∀ trail e, schema.ReportsAt submission trail e →
    trail = [] ∨ ∃! f, form.LeadsTo trail f
  /-- An error is at the path of its position. -/
  path_eq : ∀ trail e, schema.ReportsAt submission trail e → e.field = Step.pathOf trail
  /-- Errors share a path only if they are reported at one position, or the ways to their positions
  part. -/
  same : ∀ t u e e', schema.ReportsAt submission t e → schema.ReportsAt submission u e' →
    e.field = e'.field → Field.SameOrPart form.fields t u
  /-- Where no field looks as if it were inside a list beside it, the errors at the path of a
  position are those that are reported there. -/
  errorsFor : form.Unambiguous → ∀ trail e, schema.ReportsAt submission trail e →
    ∀ e', e' ∈ (schema.validate submission).errorsFor e.field ↔
      schema.ReportsAt submission trail e'
  /-- The groups are then those of single positions. -/
  errorsByField : form.Unambiguous → ∀ entry ∈ (schema.validate submission).errorsByField,
    ∃ trail, ∀ e, e ∈ entry.2 ↔ schema.ReportsAt submission trail e
  /-- Names without dots look as if they were inside nothing. -/
  unambiguous : (∀ p ∈ form.places, '.' ∉ p.field.name.toList) → form.Unambiguous

section
variable {form : Form} {schema : ValidationSchema} {submission : Json}

theorem ValidationSchema.mem_errors_iff {e : FieldError} :
    e ∈ (schema.validate submission).errors ↔
      ∃ trail, schema.ReportsAt submission trail e := by
  rw [schema.errors_eq_flatMap_visits, List.mem_flatMap]
  constructor
  · rintro ⟨w, hw, he⟩
    exact ⟨w.trail, w, hw, rfl, he⟩
  · rintro ⟨trail, w, hw, -, he⟩
    exact ⟨w, hw, he⟩

/-- A position at which something is reported is the submission itself, or of a field. -/
theorem ValidationSchema.ReportsAt.exists_leadsTo
    (hschema : ValidationSchema.ofForm form = .ok schema) {trail : List Step} {e : FieldError}
    (h : schema.ReportsAt submission trail e) : trail = [] ∨ ∃ f, form.LeadsTo trail f := by
  obtain ⟨w, hw, rfl, -⟩ := h
  exact Form.exists_leadsTo_of_reaches hschema (Validator.mem_visits_iff.mp hw).1

theorem ValidationSchema.ReportsAt.field_eq (hwell : form.WellFormed .strict)
    (hschema : ValidationSchema.ofForm form = .ok schema) {trail : List Step} {e : FieldError}
    (h : schema.ReportsAt submission trail e) : e.field = Step.pathOf trail := by
  have hnames : ∀ entry ∈ schema.fields, entry.1 ≠ "" := by
    obtain ⟨fields, hfields, rfl⟩ := ofForm_eq_ok_iff.mp hschema
    rintro ⟨name, v⟩ hentry
    obtain ⟨f, hf, rfl, -⟩ := exists_field_of_mem hfields hentry
    exact hwell.name_ne_empty hf
  obtain ⟨w, hw, rfl, he⟩ := h
  rw [w.validator.allAt_ownErrors _ _ e he]
  exact Visit.path_eq_pathOf hnames (Validator.mem_visits_iff.mp hw).1

/-- Positions at which something is reported share a path only if they are the same, or if the ways
to them part. -/
theorem ValidationSchema.ReportsAt.sameOrPart (hwell : form.WellFormed .strict)
    (hschema : ValidationSchema.ofForm form = .ok schema) {t u : List Step} {e e' : FieldError}
    (ht : schema.ReportsAt submission t e) (hu : schema.ReportsAt submission u e')
    (h : e.field = e'.field) : Field.SameOrPart form.fields t u := by
  have hpath : Step.pathOf t = Step.pathOf u := by
    rw [← ht.field_eq hwell hschema, h, hu.field_eq hwell hschema]
  rcases ht.exists_leadsTo hschema with rfl | ⟨f, hf⟩
  · rcases hu.exists_leadsTo hschema with rfl | ⟨g, hg⟩
    · exact .inl rfl
    -- only the submission itself has the empty path
    · exact absurd hpath.symm (hg.pathOf_ne_empty hwell)
  · rcases hu.exists_leadsTo hschema with rfl | ⟨g, hg⟩
    · exact absurd hpath (hf.pathOf_ne_empty hwell)
    · exact hf.sameOrPart_of_pathOf_eq hwell.distinct hg hpath

/-- In an unambiguous form the errors at the path of a position are those reported there. -/
theorem ValidationSchema.ReportsAt.mem_errorsFor_iff (hwell : form.WellFormed .strict)
    (hschema : ValidationSchema.ofForm form = .ok schema) (hform : form.Unambiguous)
    {trail : List Step} {e : FieldError} (h : schema.ReportsAt submission trail e)
    {e' : FieldError} :
    e' ∈ (schema.validate submission).errorsFor e.field ↔
      schema.ReportsAt submission trail e' := by
  rw [ValidationResult.errorsFor, List.mem_filter, beq_iff_eq, ValidationSchema.mem_errors_iff]
  constructor
  · rintro ⟨⟨u, hu⟩, hfield⟩
    rcases h.sameOrPart hwell hschema hu hfield.symm with rfl | hpart | hpart
    · exact hu
    · exact absurd hform hpart.false_of_unambiguous
    · exact absurd hform hpart.false_of_unambiguous
  · intro h'
    exact ⟨⟨trail, h'⟩, by rw [h'.field_eq hwell hschema, h.field_eq hwell hschema]⟩

end

/-- **Paths keep fields apart.** Let a form pass the strict check, and take any submission. Each
error is reported at a position, which is the submission itself or of exactly one field of the form,
and the error is at the path of the position. Errors that share a path are reported at one position,
unless the ways to their positions part at a list and a field that looks as if it were inside an
item of the list. If the form has no such field, and so if its names hold no dots, each group of
errors is that of one position. -/
theorem errors_separate {form : Form} {schema : ValidationSchema}
    (hcheck : form.check .strict = .ok ()) (hschema : ValidationSchema.ofForm form = .ok schema)
    (submission : Json) : SeparatesErrors form schema submission := by
  have hwell := Form.check_eq_ok_iff.mp hcheck
  refine ⟨fun e => ValidationSchema.mem_errors_iff, ?field,
    fun trail e h => h.field_eq hwell hschema,
    fun t u e e' ht hu => ht.sameOrPart hwell hschema hu,
    fun hform trail e h e' => h.mem_errorsFor_iff hwell hschema hform, ?groups,
    Form.unambiguous_of_no_dots⟩
  case field =>
    intro trail e h
    refine (h.exists_leadsTo hschema).imp_right ?_
    rintro ⟨f, hf⟩
    exact ⟨f, hf, fun g hg => hf.eq hwell.distinct hg⟩
  case groups =>
    rintro hform ⟨path, group⟩ hentry
    obtain ⟨rfl, hne⟩ := ValidationResult.mem_errorsByField.mp hentry
    obtain ⟨e, he⟩ := List.exists_mem_of_ne_nil _ hne
    have hfound := List.mem_filter.mp he
    obtain ⟨trail, h⟩ := ValidationSchema.mem_errors_iff.mp hfound.1
    obtain rfl : e.field = path := beq_iff_eq.mp hfound.2
    exact ⟨trail, fun e' => h.mem_errorsFor_iff hwell hschema hform⟩

/-- A club with a list of members, each with an address of at least eight characters. -/
def clubForm : Form :=
  ⟨"Club",
    [.leaf ⟨"name", .known .text, "Name", true, none, [], none, none, none⟩,
      ⟨⟨"member", .known .array, "Member", true, none, [], none, none, none⟩,
        [.leaf ⟨"mail", .known .email, "Mail", true,
          some { minLength := some 8 }, [], none, none, none⟩]⟩]⟩

/-- A submission whose second member has a short text for an address. -/
def clubSubmission : Json :=
  .object
    [("name", .string "Chess"),
      ("member", .array
        [.object [("mail", .string "ada@example.org")], .object [("mail", .string "ada")]])]

/-- The two errors at the path of the second address are those of one position. -/
theorem clubForm_errors_separate :
    clubForm.check .strict = .ok () ∧ clubForm.Unambiguous ∧
      ∃ schema, ValidationSchema.ofForm clubForm = .ok schema ∧
        (schema.validate clubSubmission).errorsByField =
          [("member.1.mail", [.minLength "member.1.mail" 8, .email "member.1.mail"])] ∧
        ∃ trail, Step.pathOf trail = "member.1.mail" ∧
          ∀ e, schema.ReportsAt clubSubmission trail e ↔
            e ∈ [FieldError.minLength "member.1.mail" 8, FieldError.email "member.1.mail"] := by
  obtain ⟨schema, hschema⟩ : ∃ schema, ValidationSchema.ofForm clubForm = .ok schema := ⟨_, rfl⟩
  have hgroups : (schema.validate clubSubmission).errorsByField =
      [("member.1.mail", [.minLength "member.1.mail" 8, .email "member.1.mail"])] := by
    cases hschema
    decide +kernel
  have hseparate := @errors_separate clubForm schema rfl hschema clubSubmission
  have hform := hseparate.unambiguous (by decide)
  refine ⟨rfl, hform, schema, hschema, hgroups, ?_⟩
  obtain ⟨trail, htrail⟩ :=
    hseparate.errorsByField hform _ (hgroups ▸ List.mem_singleton_self _)
  have hreport := (htrail (.email "member.1.mail")).mp (by simp)
  exact ⟨trail, (hseparate.path_eq _ _ hreport).symm, fun e => (htrail e).symm⟩

/-- The name of a player. -/
def playerName : Field :=
  .leaf ⟨"name", .known .text, "Name", true, none, [], none, none, none⟩

/-- A field with the path of the name of the first player. -/
def captainField : Field :=
  .leaf ⟨"player.0.name", .known .text, "Captain", true, none, [], none, none, none⟩

/-- A list of players, and a field beside it that looks as if it were inside. -/
def rosterForm : Form :=
  ⟨"Roster",
    [⟨⟨"player", .known .array, "Player", false, none, [], none, none, none⟩, [playerName]⟩,
      captainField]⟩

/-- A player without a name, and no captain. -/
def rosterSubmission : Json := .object [("player", .array [.object []])]

/-- The strict check lets the form pass, and what is reported about the two fields is in one
group. -/
theorem rosterForm_mixes_fields :
    rosterForm.check .strict = .ok () ∧
      ∃ schema, ValidationSchema.ofForm rosterForm = .ok schema ∧
        schema.ReportsAt rosterSubmission [.member "player", .item 0, .member "name"]
          (.required "player.0.name" "Name is required") ∧
        rosterForm.LeadsTo [.member "player", .item 0, .member "name"] playerName ∧
        schema.ReportsAt rosterSubmission [.member "player.0.name"]
          (.required "player.0.name" "Captain is required") ∧
        rosterForm.LeadsTo [.member "player.0.name"] captainField ∧
        (schema.validate rosterSubmission).errorsByField =
          [("player.0.name",
            [.required "player.0.name" "Name is required",
              .required "player.0.name" "Captain is required"])] := by
  refine ⟨rfl, _, rfl, ?_, ?_, ?_, ?_, by decide +kernel⟩
  · exact ⟨_, List.mem_iff_getElem?.mpr ⟨3, rfl⟩, rfl, by decide +kernel⟩
  · exact ⟨_, List.mem_cons_self, _, rfl, .inside rfl 0 List.mem_cons_self rfl (.value _)⟩
  · exact ⟨_, List.mem_iff_getElem?.mpr ⟨4, rfl⟩, rfl, by decide +kernel⟩
  · exact ⟨captainField, List.mem_cons_of_mem _ List.mem_cons_self, [], rfl, .value _⟩

end Schema

end WebForm
