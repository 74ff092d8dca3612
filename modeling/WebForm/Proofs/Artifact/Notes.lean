import WebForm.Artifact
import WebForm.Proofs.Schema.Faults
/-!
# Notes in artifacts

A field of an unknown kind leaves a note in each artifact where its code would stand. `notes`
collects them from the trees that the artifacts are written from: the members of the schema, the
members of the interface, and the markup of the component and of its inner components. No artifact
has a note exactly when every field that is reached has a known kind.

The three passes decide on their own which children they visit. For the component this takes an
invariant of the state that rendering threads along, because the markup of an inner list ends up in
a component that was finished on the way and not in what the field itself renders to.
-/

set_option autoImplicit false

namespace WebForm

open WebForm.Field

/-- A note about a field: the spelling of its type, and its path. -/
structure Note where
  type : String
  path : String
deriving DecidableEq, Repr

/-! ## Schema -/

namespace Zod.Member

mutual

/-- The notes in a member. -/
def notes : Member → List Note
  | .unsupported type path => [⟨type, path⟩]
  | .value _ _ => []
  | .objects _ members _ => allNotes members
termination_by structural m => m

/-- The notes in members one after the other. -/
def allNotes : List Member → List Note
  | [] => []
  | m :: rest => notes m ++ allNotes rest
termination_by structural ms => ms

end

theorem allNotes_eq_nil_iff {ms : List Member} : allNotes ms = [] ↔ ∀ m ∈ ms, m.notes = [] := by
  induction ms with
  | nil => simp [allNotes]
  | cons m rest ih => rw [allNotes, List.append_eq_nil_iff, ih, List.forall_mem_cons]

theorem notes_ofField_eq_nil_step (path : String) (f : Field) :
    (ofField path f).notes = [] ↔ f.IsKnown ∧
      (f.kind? = some .array →
        ∀ c ∈ f.children, (ofField (joinPath path c.name) c).notes = []) := by
  obtain ⟨spec, children⟩ := f
  rw [IsKnown, Field.kind?_mk, ofField]
  cases htype : spec.type with
  | unrecognized raw => simp [notes, FieldType.kind?]
  | known kind =>
    by_cases harray : kind = .array
    · by_cases hnone : children = []
      · simp [isObjectArray, harray, hnone, htype, FieldType.kind?, notes]
      · simp [isObjectArray, harray, hnone, htype, FieldType.kind?, notes, allNotes_eq_nil_iff,
          ofFields_eq_map]
    · simp [isObjectArray, harray, htype, FieldType.kind?, notes]

theorem allNotes_ofFields_eq_nil_iff {parent : String} {fs : List Field} :
    allNotes (ofFields parent fs) = [] ↔ EverywhereIn IsKnown fs := by
  rw [allNotes_eq_nil_iff, ofFields_eq_map, List.forall_mem_map, everywhereIn_iff_forall_mem]
  exact forall₂_congr fun f _ => iff_everywhere_of_step notes_ofField_eq_nil_step f _

end Zod.Member

/-! ## Interface -/

namespace Interface.Member

mutual

/-- The notes in a member. -/
def notes : Member → List Note
  | .unsupported type path => [⟨type, path⟩]
  | .value _ _ _ => []
  | .objects _ _ members => allNotes members
termination_by structural m => m

/-- The notes in members one after the other. -/
def allNotes : List Member → List Note
  | [] => []
  | m :: rest => notes m ++ allNotes rest
termination_by structural ms => ms

end

theorem allNotes_eq_nil_iff {ms : List Member} : allNotes ms = [] ↔ ∀ m ∈ ms, m.notes = [] := by
  induction ms with
  | nil => simp [allNotes]
  | cons m rest ih => rw [allNotes, List.append_eq_nil_iff, ih, List.forall_mem_cons]

theorem notes_ofField_eq_nil_step (path : String) (f : Field) :
    (ofField path f).notes = [] ↔ f.IsKnown ∧
      (f.kind? = some .array →
        ∀ c ∈ f.children, (ofField (joinPath path c.name) c).notes = []) := by
  obtain ⟨spec, children⟩ := f
  rw [IsKnown, Field.kind?_mk, ofField]
  cases htype : spec.type with
  | unrecognized raw => simp [notes, FieldType.kind?]
  | known kind =>
    by_cases harray : kind = .array
    · by_cases hnone : children = []
      · simp [isObjectArray, harray, hnone, htype, FieldType.kind?, notes]
      · simp [isObjectArray, harray, hnone, htype, FieldType.kind?, notes, allNotes_eq_nil_iff,
          ofFields_eq_map]
    · simp [isObjectArray, harray, htype, FieldType.kind?, notes]

theorem allNotes_ofFields_eq_nil_iff {parent : String} {fs : List Field} :
    allNotes (ofFields parent fs) = [] ↔ EverywhereIn IsKnown fs := by
  rw [allNotes_eq_nil_iff, ofFields_eq_map, List.forall_mem_map, everywhereIn_iff_forall_mem]
  exact forall₂_congr fun f _ => iff_everywhere_of_step notes_ofField_eq_nil_step f _

end Interface.Member

/-! ## Markup -/

namespace Component

namespace Markup

mutual

/-- The notes in a piece of markup. -/
def notes : Markup → List Note
  | .unsupported type path => [⟨type, path⟩]
  | .block _ _ inner _ => allNotes inner
  | .void _ attributes => allNotes attributes
  | .stacked _ attributes content => allNotes attributes ++ allNotes content
  | .inline _ _ content => allNotes content
  | .blank | .text _ | .attr _ | .mark _ | .label _ _ => []
termination_by structural m => m

/-- The notes in pieces one after the other. -/
def allNotes : List Markup → List Note
  | [] => []
  | m :: rest => notes m ++ allNotes rest
termination_by structural ms => ms

end

@[simp] theorem allNotes_nil : allNotes [] = [] := rfl

@[simp] theorem allNotes_cons (m : Markup) (rest : List Markup) :
    allNotes (m :: rest) = m.notes ++ allNotes rest := rfl

@[simp] theorem allNotes_append (ms ms' : List Markup) :
    allNotes (ms ++ ms') = allNotes ms ++ allNotes ms' := by
  induction ms with
  | nil => rfl
  | cons m rest ih => rw [List.cons_append, allNotes_cons, ih, allNotes_cons, List.append_assoc]

theorem allNotes_eq_nil {ms : List Markup} (h : ∀ m ∈ ms, m.notes = []) : allNotes ms = [] := by
  induction ms with
  | nil => rfl
  | cons m rest ih =>
    rw [allNotes_cons, h m List.mem_cons_self, List.nil_append]
    exact ih fun m' hm' => h m' (List.mem_cons_of_mem m hm')

end Markup

open Markup

/-! ### Single values

Nothing that is shown around a field, or inside it if it is no list of objects, is a note. -/

@[simp] theorem allNotes_sizeAttribute (compact : Bool) :
    allNotes (sizeAttribute compact) = [] := by
  cases compact <;> rfl

@[simp] theorem allNotes_helperAttribute (spec : FieldSpec) :
    allNotes (helperAttribute spec) = [] := by
  rw [helperAttribute]
  cases spec.helperText <;> rfl

@[simp] theorem allNotes_controlElement (f : Field) (control : Control) (path : FieldPath)
    (compact : Bool) : allNotes (controlElement f control path compact) = [] := by
  have hradio : allNotes (f.options.map radioItem) = [] := by
    refine allNotes_eq_nil fun m hm => ?_
    obtain ⟨option, -, rfl⟩ := List.mem_map.mp hm
    rfl
  cases control <;> simp [controlElement, controlled, notes, placeholderAttribute, hradio]

@[simp] theorem notes_optionsAttribute (options : List String) :
    (optionsAttribute options).notes = [] := by
  rw [optionsAttribute]
  split
  · rfl
  · refine allNotes_eq_nil fun m hm => ?_
    obtain ⟨option, -, rfl⟩ := List.mem_map.mp hm
    rfl

@[simp] theorem notes_wrapped (spec : FieldSpec) (path : FieldPath) (content : List Markup) :
    (wrapped spec path content).notes = allNotes content := by
  simp [wrapped, wrapperAttributes, requiredAttribute, notes]

@[simp] theorem notes_leafElement (f : Field) (kind : FieldKind) (path : FieldPath)
    (compact : Bool) : (leafElement f kind path compact).notes = [] := by
  rw [leafElement]
  split
  · simp [selectElement, requiredAttribute, placeholderAttribute, notes]
  · simp

/-! ### Lists -/

/-- A list has the notes of the fields of its items, if its items are objects. -/
theorem notes_listElement (f : Field) (path : FieldPath) (handles : Handles)
    (fields : List Markup) :
    (listElement f path handles fields).notes =
      if f.children.isEmpty then [] else allNotes fields := by
  split <;>
    simp_all [listElement, listHeader, button, primitiveItem, objectItem, removeButton, emptyNote,
      notes]

/-! ### Rendering -/

/-- The notes in the components that are finished. -/
def Parts.notes (parts : Parts) : List Note := parts.finished.flatMap fun c => c.body.notes

section
variable {α β : Type} {parts parts' : Parts}

theorem run_bind_eq_iff {x : Render α} {f : α → Render β} {b : β} :
    (x >>= f).run parts = (b, parts') ↔
      ∃ a mid, x.run parts = (a, mid) ∧ (f a).run mid = (b, parts') := by
  constructor
  · intro h
    exact ⟨_, _, rfl, h⟩
  · rintro ⟨a, mid, hx, hf⟩
    rw [StateT.run_bind, hx]
    exact hf

theorem run_pure_eq_iff {a b : α} :
    (pure a : Render α).run parts = (b, parts') ↔ a = b ∧ parts = parts' :=
  Iff.of_eq (Prod.mk.injEq a parts b parts')

/-- Naming a component finishes none. -/
theorem notes_of_takeName {base name : String} (h : (takeName base).run parts = (name, parts')) :
    parts'.notes = parts.notes := by
  obtain ⟨-, rfl⟩ := Prod.mk.inj h
  rfl

/-- A component brings the notes of its markup. -/
theorem notes_of_finish {c : SubComponent} {u : Unit} (h : (finish c).run parts = (u, parts')) :
    parts'.notes = parts.notes ++ c.body.notes := by
  obtain ⟨-, rfl⟩ := Prod.mk.inj h
  rw [Parts.notes, Parts.notes, List.flatMap_append, List.flatMap_singleton]

end

/-- A list has the notes that its fields were rendered with: a list of primitives has no fields. -/
theorem notes_listElement_of_run {component : String} {item : FieldPath} {parent : String}
    {f : Field} {fields : List Markup} {parts parts' : Parts}
    (h : (itemFields component item parent f.children).run parts = (fields, parts'))
    (path : FieldPath) (handles : Handles) :
    (listElement f path handles fields).notes = allNotes fields := by
  rw [notes_listElement]
  by_cases hnone : f.children = []
  · rw [hnone, itemFields] at h
    obtain ⟨rfl, -⟩ := run_pure_eq_iff.mp h
    simp
  · rw [if_neg (by rwa [List.isEmpty_iff])]

/-- What rendering the fields of an item comes to, if each of them keeps the notes it should. -/
theorem notes_itemFields_of_notes_itemField {fs : List Field}
    (ih : ∀ f ∈ fs, ∀ component item parent parts m parts',
      (itemField component item parent f).run parts = (m, parts') →
        (m.notes = [] ∧ parts'.notes = [] ↔ parts.notes = [] ∧ Everywhere IsKnown f))
    {component : String} {item : FieldPath} {parent : String} {parts parts' : Parts}
    {ms : List Markup} (h : (itemFields component item parent fs).run parts = (ms, parts')) :
    allNotes ms = [] ∧ parts'.notes = [] ↔
      parts.notes = [] ∧ ∀ f ∈ fs, Everywhere IsKnown f := by
  induction fs generalizing parts ms with
  | nil =>
    obtain ⟨rfl, rfl⟩ := run_pure_eq_iff.mp h
    simp
  | cons f rest ihrest =>
    rw [itemFields] at h
    obtain ⟨m, mid, hm, h⟩ := run_bind_eq_iff.mp h
    obtain ⟨tail, last, htail, h⟩ := run_bind_eq_iff.mp h
    obtain ⟨rfl, rfl⟩ := run_pure_eq_iff.mp h
    have hhead := ih f List.mem_cons_self component item parent parts m mid hm
    have hrest := ihrest (fun g hg => ih g (List.mem_cons_of_mem f hg)) htail
    rw [allNotes_cons, List.append_eq_nil_iff, and_assoc, hrest, ← and_assoc, hhead,
      List.forall_mem_cons, and_assoc]

/-- A field of an item that is no list is rendered in its place. -/
theorem itemField_of_ne_array {spec : FieldSpec} {children : List Field} {kind : FieldKind}
    (htype : spec.type = .known kind) (hkind : kind ≠ .array) (component : String)
    (item : FieldPath) (parent : String) :
    itemField component item parent ⟨spec, children⟩ =
      pure (leafElement ⟨spec, children⟩ kind (item.child spec.name) true) := by
  rw [itemField, htype]
  cases kind <;> first | rfl | exact absurd rfl hkind

/-- A field at the top that is no list is rendered in its place. -/
theorem topField_of_ne_array {f : Field} {kind : FieldKind} (htype : f.spec.type = .known kind)
    (hkind : kind ≠ .array) (component : String) (handles : List (String × Handles)) :
    topField component handles f = pure (leafElement f kind (.literal f.name) false) := by
  rw [topField, htype]
  cases kind <;> first | rfl | exact absurd rfl hkind

/-- A field of an item leaves no note, in its place or in a component that it finishes, exactly
when all kinds that are reached in it are known. -/
theorem notes_itemField (f : Field) :
    ∀ component item parent parts m parts',
      (itemField component item parent f).run parts = (m, parts') →
        (m.notes = [] ∧ parts'.notes = [] ↔ parts.notes = [] ∧ Everywhere IsKnown f) := by
  induction f using Field.induction with
  | mk spec children ih =>
    intro component item parent parts m parts' h
    rw [everywhere_iff, IsKnown, Field.kind?_mk]
    cases htype : spec.type with
    | unrecognized raw =>
      rw [itemField, htype] at h
      obtain ⟨rfl, rfl⟩ := run_pure_eq_iff.mp h
      simp [notes, FieldType.kind?]
    | known kind =>
      by_cases harray : kind = .array
      · subst harray
        rw [itemField, htype] at h
        obtain ⟨name, named, hname, h⟩ := run_bind_eq_iff.mp h
        obtain ⟨fields, inside, hfields, h⟩ := run_bind_eq_iff.mp h
        obtain ⟨u, done, hfinish, h⟩ := run_bind_eq_iff.mp h
        obtain ⟨rfl, rfl⟩ := run_pure_eq_iff.mp h
        -- the item fields end up in the component that is finished here, not in the markup
        -- that is given back
        have hbelow := and_comm.trans (notes_itemFields_of_notes_itemField ih hfields)
        rw [notes_of_takeName hname] at hbelow
        rw [notes_of_finish hfinish, notes_listElement_of_run hfields, List.append_eq_nil_iff,
          hbelow]
        simp [notes, FieldType.kind?]
      · rw [itemField_of_ne_array htype harray] at h
        obtain ⟨rfl, rfl⟩ := run_pure_eq_iff.mp h
        simp [FieldType.kind?, harray]

theorem notes_topField {component : String} {handles : List (String × Handles)} {f : Field}
    {parts parts' : Parts} {m : Markup}
    (h : (topField component handles f).run parts = (m, parts')) :
    m.notes = [] ∧ parts'.notes = [] ↔ parts.notes = [] ∧ Everywhere IsKnown f := by
  rw [everywhere_iff, IsKnown, Field.kind?]
  cases htype : f.spec.type with
  | unrecognized raw =>
    rw [topField, htype] at h
    obtain ⟨rfl, rfl⟩ := run_pure_eq_iff.mp h
    simp [notes, FieldType.kind?]
  | known kind =>
    by_cases harray : kind = .array
    · subst harray
      rw [topField, htype] at h
      obtain ⟨fields, inside, hfields, h⟩ := run_bind_eq_iff.mp h
      obtain ⟨rfl, rfl⟩ := run_pure_eq_iff.mp h
      have hbelow := notes_itemFields_of_notes_itemField (fun c _ => notes_itemField c) hfields
      rw [notes_listElement_of_run hfields, hbelow]
      simp [FieldType.kind?]
    · rw [topField_of_ne_array htype harray] at h
      obtain ⟨rfl, rfl⟩ := run_pure_eq_iff.mp h
      simp [FieldType.kind?, harray]

theorem notes_mapM_topField {component : String} {handles : List (String × Handles)}
    {fs : List Field} {parts parts' : Parts} {ms : List Markup}
    (h : (fs.mapM (topField component handles)).run parts = (ms, parts')) :
    allNotes ms = [] ∧ parts'.notes = [] ↔
      parts.notes = [] ∧ ∀ f ∈ fs, Everywhere IsKnown f := by
  induction fs generalizing parts ms with
  | nil =>
    obtain ⟨rfl, rfl⟩ := run_pure_eq_iff.mp h
    simp
  | cons f rest ih =>
    rw [List.mapM_cons] at h
    obtain ⟨m, mid, hm, h⟩ := run_bind_eq_iff.mp h
    obtain ⟨tail, last, htail, h⟩ := run_bind_eq_iff.mp h
    obtain ⟨rfl, rfl⟩ := run_pure_eq_iff.mp h
    rw [allNotes_cons, List.append_eq_nil_iff, and_assoc, ih htail, ← and_assoc,
      notes_topField hm, List.forall_mem_cons, and_assoc]

/-- The notes in the markup of a form and in its inner components. -/
def Rendered.notes (r : Rendered) (title : String) : List Note :=
  r.subComponents.flatMap (fun c => c.body.notes) ++ (pageMarkup title r.fields).notes

theorem allNotes_spaced (ms : List Markup) : allNotes (spaced ms) = allNotes ms := by
  induction ms with
  | nil => rfl
  | cons m rest ih => simp [spaced, notes, ih]

/-- The page adds nothing to the notes of the fields. -/
theorem notes_pageMarkup (title : String) (fields : List Markup) :
    (pageMarkup title fields).notes = allNotes fields := by
  simp [pageMarkup, notes, allNotes_spaced]

theorem notes_rendered_eq_nil_iff {ids : Identifiers} {fields : List Field} {title : String} :
    (Rendered.ofFields ids fields).notes title = [] ↔ EverywhereIn IsKnown fields := by
  obtain ⟨⟨ms, parts⟩, hrun⟩ : ∃ out, (fields.mapM (topField ids.componentName
      (arrayHandles fields))).run ⟨[ids.propsName, ids.componentName], []⟩ = out := ⟨_, rfl⟩
  have hnotes : (Rendered.ofFields ids fields).notes title = parts.notes ++ allNotes ms := by
    rw [Rendered.notes, Rendered.ofFields, hrun, notes_pageMarkup]
    rfl
  rw [hnotes, List.append_eq_nil_iff, and_comm, notes_mapM_topField hrun,
    everywhereIn_iff_forall_mem]
  exact and_iff_right rfl

end Component

/-! ## Artifacts -/

/-- The notes in the artifact of a kind. -/
def ArtifactKind.notes (kind : ArtifactKind) (ids : Identifiers) (form : Form) : List Note :=
  match kind with
  | .component => (Component.Rendered.ofFields ids form.fields).notes form.title
  | .schema => Zod.Member.allNotes (Zod.Member.ofFields "" form.fields)
  | .types => Interface.Member.allNotes (Interface.Member.ofFields "" form.fields)

/-- An artifact has no note exactly when all kinds that are reached in the form are known. -/
theorem ArtifactKind.notes_eq_nil_iff (kind : ArtifactKind) (ids : Identifiers) (form : Form) :
    kind.notes ids form = [] ↔ EverywhereIn IsKnown form.fields := by
  cases kind with
  | component => exact Component.notes_rendered_eq_nil_iff
  | schema => exact Zod.Member.allNotes_ofFields_eq_nil_iff
  | types => exact Interface.Member.allNotes_ofFields_eq_nil_iff

end WebForm
