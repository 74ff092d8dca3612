import WebForm.Form.Basic
/-!
# Places of fields

Where a field stands in a form: the path of what is around it, the siblings before it and the
siblings behind it. `places` lists the places of a forest in preorder. It looks into lists only,
as every pass over a form does, because the children of any other field mean nothing: what is
*reached* in a form is what has a place in it. A pass that treats every field the same way, wherever
it stands, says what it says of each place by itself, one after the other (`IsPass.all_eq_foldr`).

The module also holds the induction over the tree of fields that the passes are reasoned about
with. `Field` nests in `List Field`, so its own recursor asks for a second motive; here the
hypothesis about the children is a plain statement about their members.
-/

set_option autoImplicit false

namespace WebForm

/-! ## Kinds -/

theorem Field.kind?_eq_some_iff {f : Field} {kind : FieldKind} :
    f.kind? = some kind ↔ f.spec.type = .known kind := by
  rw [Field.kind?]
  cases f.spec.type <;> simp [FieldType.kind?]

/-- Lists are the only kind of their base. -/
theorem FieldKind.base_eq_list_iff {kind : FieldKind} :
    kind.base = .list ↔ kind = .array := by
  cases kind <;> decide

namespace Field

/-! ## Induction over the tree -/

/-- Induction over the tree of fields: what passes from all children of a field to the field
itself holds of every field. -/
@[elab_as_elim]
theorem induction {motive : Field → Prop}
    (mk : ∀ (spec : FieldSpec) (children : List Field),
      (∀ c ∈ children, motive c) → motive ⟨spec, children⟩)
    (f : Field) : motive f := by
  refine @Field.rec motive (fun fs => ∀ c ∈ fs, motive c) ?_ ?_ ?_ f
  · intro spec children ih
    exact mk spec children ih
  · intro c hc
    cases hc
  · intro head tail hhead htail c hc
    rcases List.mem_cons.mp hc with rfl | hmem
    · exact hhead
    · exact htail c hmem

/-! ## Places -/

/-- The place of a field among its siblings. -/
structure Place where
  /-- The path of the field whose children the siblings are; empty at the top of a form. -/
  parent : String
  elders : List Field
  field : Field
  juniors : List Field

namespace Place

/-- The dotted path of the field. -/
def path (p : Place) : String := joinPath p.parent p.field.name

/-- How many siblings come before the field. -/
def index (p : Place) : Nat := p.elders.length

/-- All other fields at the same level. -/
def siblings (p : Place) : List Field := p.elders ++ p.juniors

end Place

mutual

/-- The places in a tree in preorder. -/
def placesIn (parent : String) (elders juniors : List Field) : Field → List Place
  | ⟨spec, children⟩ =>
    ⟨parent, elders, ⟨spec, children⟩, juniors⟩ ::
      if spec.type.kind? = some .array then places (joinPath parent spec.name) [] children else []
termination_by structural f => f

/-- The places in a forest in preorder, `elders` being the siblings to the left of it. -/
def places (parent : String) (elders : List Field) : List Field → List Place
  | [] => []
  | f :: rest => placesIn parent elders rest f ++ places parent (elders ++ [f]) rest
termination_by structural fs => fs

end

/-- The places below the children of a field: none unless it is a list. -/
def placesBelow (parent : String) (f : Field) : List Place :=
  if f.kind? = some .array then places (joinPath parent f.name) [] f.children else []

theorem placesIn_eq (parent : String) (elders juniors : List Field) (f : Field) :
    placesIn parent elders juniors f =
      ⟨parent, elders, f, juniors⟩ :: placesBelow parent f := by
  obtain ⟨spec, children⟩ := f
  rfl

/-- Membership in `places`, one level at a time: a place is that of one of the siblings, or it
lies below one of them. -/
theorem mem_places {parent : String} {elders fs : List Field} {p : Place} :
    p ∈ places parent elders fs ↔
      ∃ before f after, fs = before ++ f :: after ∧
        (p = ⟨parent, elders ++ before, f, after⟩ ∨ p ∈ placesBelow parent f) := by
  induction fs generalizing elders with
  | nil => simp [places]
  | cons g rest ih =>
    rw [places, List.mem_append, placesIn_eq, List.mem_cons, ih]
    constructor
    -- one sibling further on, the first one is an elder
    · rintro (h | ⟨before, f, after, hrest, h⟩)
      · exact ⟨[], g, rest, rfl, by simpa using h⟩
      · refine ⟨g :: before, f, after, by rw [hrest, List.cons_append], ?_⟩
        simpa using h
    · rintro ⟨before, f, after, hfs, h⟩
      cases before with
      | nil =>
        obtain ⟨rfl, rfl⟩ := List.cons.inj hfs
        exact Or.inl (by simpa using h)
      | cons b before =>
        rw [List.cons_append] at hfs
        obtain ⟨rfl, rfl⟩ := List.cons.inj hfs
        exact Or.inr ⟨before, f, after, rfl, by simpa using h⟩

/-- The place of one of the siblings themselves. -/
theorem mem_places_of_split {parent : String} {elders before after : List Field} {f : Field} :
    (⟨parent, elders ++ before, f, after⟩ : Place) ∈
      places parent elders (before ++ f :: after) :=
  mem_places.mpr ⟨before, f, after, rfl, Or.inl rfl⟩

/-! ## Passes -/

/-- A pass over fields at their paths. It says something about a field by itself, goes on with the
children if the field is a list, and puts together what it says with `op`. -/
structure IsPass {β : Type} (op : β → β → β) (unit : β) (own : Place → β)
    (one : String → Field → β) (all : String → List Field → β) : Prop where
  field : ∀ p : Place, one p.path p.field =
    op (own p) (if p.field.kind? = some .array then all p.path p.field.children else unit)
  nil : ∀ parent, all parent [] = unit
  cons : ∀ parent f rest,
    all parent (f :: rest) = op (one (joinPath parent f.name) f) (all parent rest)

section
variable {β : Type} {op : β → β → β} {unit : β} [Std.Associative op] [Std.LawfulIdentity op unit]
  {own : Place → β} {one : String → Field → β} {all : String → List Field → β}

theorem foldr_append_eq_op (xs ys : List β) :
    (xs ++ ys).foldr op unit = op (xs.foldr op unit) (ys.foldr op unit) := by
  have hunit : op unit (ys.foldr op unit) = ys.foldr op unit := Std.LawfulLeftIdentity.left_id _
  rw [List.foldr_append, ← @List.foldr_assoc _ op, hunit]

theorem IsPass.all_eq_foldr_of_one_eq (h : IsPass op unit own one all) {fs : List Field}
    (ih : ∀ f ∈ fs, ∀ parent elders juniors, one (joinPath parent f.name) f =
      ((placesIn parent elders juniors f).map own).foldr op unit)
    (parent : String) (elders : List Field) :
    all parent fs = ((places parent elders fs).map own).foldr op unit := by
  induction fs generalizing elders with
  | nil => exact h.nil parent
  | cons f rest ihrest =>
    rw [h.cons, places, List.map_append, foldr_append_eq_op,
      ih f List.mem_cons_self parent elders rest,
      ihrest (fun g hg => ih g (List.mem_cons_of_mem f hg)) (elders ++ [f])]

theorem IsPass.one_eq_foldr (h : IsPass op unit own one all) (f : Field) :
    ∀ parent elders juniors, one (joinPath parent f.name) f =
      ((placesIn parent elders juniors f).map own).foldr op unit := by
  induction f using Field.induction with
  | mk spec children ih =>
    intro parent elders juniors
    have hbelow : (if (Field.mk spec children).kind? = some .array then
          all (joinPath parent spec.name) children else unit) =
        ((placesBelow parent ⟨spec, children⟩).map own).foldr op unit := by
      rw [placesBelow]
      split
      · exact h.all_eq_foldr_of_one_eq ih _ []
      · rfl
    rw [placesIn_eq, List.map_cons, List.foldr_cons, ← hbelow]
    exact h.field ⟨parent, elders, ⟨spec, children⟩, juniors⟩

/-- A pass over a forest says what it says about each of the places by itself, in preorder. -/
theorem IsPass.all_eq_foldr (h : IsPass op unit own one all) (parent : String)
    (elders fs : List Field) :
    all parent fs = ((places parent elders fs).map own).foldr op unit :=
  h.all_eq_foldr_of_one_eq (fun f _ => h.one_eq_foldr f) parent elders

end

/-! ## Properties of all fields that are reached -/

mutual

/-- A property of a field and of all fields that are reached below it. -/
def Everywhere (P : Field → Prop) : Field → Prop
  | ⟨spec, children⟩ =>
    P ⟨spec, children⟩ ∧ (spec.type.kind? = some .array → EverywhereIn P children)
termination_by structural f => f

/-- A property of all fields that are reached in a forest. -/
def EverywhereIn (P : Field → Prop) : List Field → Prop
  | [] => True
  | f :: rest => Everywhere P f ∧ EverywhereIn P rest
termination_by structural fs => fs

end

theorem everywhereIn_iff_forall_mem {P : Field → Prop} {fs : List Field} :
    EverywhereIn P fs ↔ ∀ f ∈ fs, Everywhere P f := by
  induction fs with
  | nil => simp [EverywhereIn]
  | cons f rest ih => rw [EverywhereIn, ih, List.forall_mem_cons]

theorem everywhere_iff {P : Field → Prop} {f : Field} :
    Everywhere P f ↔ P f ∧ (f.kind? = some .array → ∀ c ∈ f.children, Everywhere P c) := by
  obtain ⟨spec, children⟩ := f
  rw [Everywhere, everywhereIn_iff_forall_mem]
  exact Iff.rfl

/-- A pass that says `P` of a field and, if it is a list, passes on to its children at their paths,
says `P` of all fields that are reached. -/
theorem iff_everywhere_of_step {P : Field → Prop} {pass : String → Field → Prop}
    (hstep : ∀ path f, pass path f ↔
      P f ∧ (f.kind? = some .array → ∀ c ∈ f.children, pass (joinPath path c.name) c))
    (f : Field) : ∀ path, pass path f ↔ Everywhere P f := by
  induction f using Field.induction with
  | mk spec children ih =>
    intro path
    rw [hstep, everywhere_iff]
    refine and_congr_right fun _ => imp_congr_right fun _ => ?_
    exact forall₂_congr fun c hc => ih c hc _

/-- What holds at all places of a forest holds, for each of its trees, of the root and at all
places below it. -/
theorem forall_places_iff {P : Field → Prop} {parent : String} {elders fs : List Field} :
    (∀ p ∈ places parent elders fs, P p.field) ↔
      ∀ f ∈ fs, P f ∧ ∀ p ∈ placesBelow parent f, P p.field := by
  constructor
  · intro h f hf
    obtain ⟨before, after, rfl⟩ := List.append_of_mem hf
    refine ⟨h _ mem_places_of_split, ?_⟩
    intro p hbelow
    exact h p (mem_places.mpr ⟨before, f, after, rfl, Or.inr hbelow⟩)
  · intro h p hp
    obtain ⟨before, f, after, rfl, rfl | hbelow⟩ := mem_places.mp hp
    · exact (h f (by simp)).1
    · exact (h f (by simp)).2 p hbelow

theorem everywhere_iff_forall_placesBelow {P : Field → Prop} (f : Field) :
    ∀ parent, Everywhere P f ↔ P f ∧ ∀ p ∈ placesBelow parent f, P p.field := by
  induction f using Field.induction with
  | mk spec children ih =>
    intro parent
    rw [everywhere_iff, placesBelow]
    refine and_congr_right fun _ => ?_
    by_cases harray : (Field.mk spec children).kind? = some .array
    · rw [if_pos harray, forall_places_iff]
      constructor
      · intro h c hc
        exact (ih c hc _).mp (h harray c hc)
      · intro h _ c hc
        exact (ih c hc _).mpr (h c hc)
    · rw [if_neg harray]
      constructor
      · intro _ p hp
        cases hp
      · intro _ h
        exact absurd h harray

/-- A property holds everywhere in a forest exactly when it holds at all of its places. -/
theorem everywhereIn_iff_forall_places {P : Field → Prop} {parent : String}
    {elders fs : List Field} :
    EverywhereIn P fs ↔ ∀ p ∈ places parent elders fs, P p.field := by
  rw [everywhereIn_iff_forall_mem, forall_places_iff]
  exact forall₂_congr fun f _ => everywhere_iff_forall_placesBelow f parent

end Field

namespace Form

/-- The places of the fields that are reached in a form, in preorder. -/
def places (form : Form) : List Field.Place := Field.places "" [] form.fields

/-- Siblings have distinct names, at the top of the form and in every list that is reached. -/
structure DistinctNames (form : Form) : Prop where
  top : (form.fields.map Field.name).Nodup
  below : Field.EverywhereIn
    (fun f => f.kind? = some .array → (f.children.map Field.name).Nodup) form.fields

end Form

end WebForm
