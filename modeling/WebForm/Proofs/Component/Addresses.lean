import Mathlib.Data.List.Forall2
import WebForm.Proofs.Component.Elements
import WebForm.Proofs.Component.Names
import WebForm.Proofs.Form.WellFormed
import WebForm.Proofs.Schema.Location
/-!
# Fields are addressed by their paths

A component and the validator put the path of a field together in different ways. The validator
joins names and indices as it goes along. The component writes code for a path: a literal at the
top, a template inside the items of a list, and a variable at the start of a component of its own,
which is handed a template in turn. Whatever item of each list is looked at, the code comes to the
path at which the validator reports errors.

Rendering is followed with one statement about the fields of an item: in every scope where the code
of the item comes to its path, the markup hands on the paths of the positions in the fields. The
components that are finished later do not matter to it, because their names are new.
-/

set_option autoImplicit false

namespace WebForm

open Component Component.Markup Schema Field

/-! ## Addresses -/

/-- A path, and what it is handed to. -/
structure Component.Address where
  slot : Slot
  path : String
deriving DecidableEq, Repr

/-- A path is handed on as an address says. -/
def Component.Use.Gives (u : Use) (a : Address) : Prop := u.slot = a.slot ∧ u.reading.Is a.path

/-- What the control of a single value is to be handed: a path to register under, or a name for
the controller. -/
def Component.controlAddresses (control : Control) (path : String) : List Address :=
  match control with
  | .input _ | .textArea => [⟨.register, path⟩]
  | .checkbox | .radioGroup => [⟨.name, path⟩]
  | .select | .fieldArray => []

namespace Position

/-- Whether the position is inside an item. -/
def nested (p : Position) : Bool := 1 < p.trail.length

/-- Where a component is to hand on the path of a position. Every field of a known kind is named,
a list inside an item has a component of its own, and a single value has a control. -/
def addresses (p : Position) : List Address :=
  match p.spot with
  | .field f =>
    match f.kind? with
    | none => []
    | some kind =>
      (if kind = .array ∧ p.nested then [⟨.path, p.path⟩] else []) ++
        ⟨.name, p.path⟩ :: controlAddresses kind.control p.path
  | .item list => controlAddresses list.itemKind.control p.path

end Position

namespace Component

section
variable {item : Nat → Nat} {components : List (String × Meaning)} {s : Scope} {p : FieldPath}

theorem Reading.Is.text?_eq {path : String} {r : Reading} (h : r.Is path) :
    r.text? = some path := by
  cases r with
  | quoted text => exact congrArg some h
  | value v => exact h

theorem gives_name {path : String} (h : p.Denotes s.lookup path) :
    Use.Gives ⟨.name, s.readValue p.inAttribute.toList⟩ ⟨.name, path⟩ :=
  ⟨rfl, Scope.readValue_inAttribute h⟩

theorem gives_controlUses {path : String} (h : p.Denotes s.lookup path) (control : Control) :
    List.Forall₂ Use.Gives (controlUses s control p) (controlAddresses control path) := by
  have hregister : Use.Gives ⟨.register, .value (Script.evaluate s.lookup p.inCall)⟩
      ⟨.register, path⟩ := ⟨rfl, h.evaluate_inCall⟩
  cases control with
  | input type => exact .cons hregister .nil
  | textArea => exact .cons hregister .nil
  | checkbox => exact .cons (gives_name h) .nil
  | radioGroup => exact .cons (gives_name h) .nil
  | select => exact .nil
  | fieldArray => exact .nil

/-- The code for the current item of a list comes to the path of the item. -/
theorem denotes_item {trail : List Step} (hne : trail ≠ [])
    (h : p.Denotes (s.enter item).lookup (Step.pathOf trail)) :
    p.item.Denotes (s.enter item).lookup (Step.pathOf (trail ++ [Step.item (item s.depth)])) := by
  rw [Step.pathOf_append_singleton hne]
  exact h.item rfl

/-- A list names itself and hands on what its items do. Its path is written without the index of
the item, so it is the same inside the items. -/
theorem gives_listElement {f : Field} (harray : f.kind? = some .array) {trail : List Step}
    (hne : trail ≠ []) (h : p.Denotes s.lookup (Step.pathOf trail))
    (hinside : p.Denotes (s.enter item).lookup (Step.pathOf trail)) (handles : Handles)
    {fields : List Markup}
    (hfields : List.Forall₂ Use.Gives (allUses item components (s.enter item) fields)
      ((positions item (s.depth + 1) (trail ++ [Step.item (item s.depth)]) f.children).flatMap
        Position.addresses)) :
    List.Forall₂ Use.Gives ((listElement f p handles fields).uses item components s)
      (⟨.name, Step.pathOf trail⟩ ::
        (positionsBelow item s.depth trail f).flatMap Position.addresses) := by
  rw [uses_listElement, positionsBelow, if_pos harray]
  refine .cons (gives_name h) ?_
  -- a list without fields of its own has one control for each item
  by_cases hnone : f.children.isEmpty = true
  · rw [if_pos hnone, if_pos hnone, List.flatMap_singleton]
    exact gives_controlUses (denotes_item hne hinside) _
  · rw [if_neg hnone, if_neg hnone]
    exact hfields

/-- A list is named, and handed its path if it is inside an item. -/
theorem addresses_of_array {f : Field} (harray : f.kind? = some .array) (trail : List Step) :
    Position.addresses ⟨trail, .field f⟩ =
      (if 1 < trail.length then [⟨.path, Step.pathOf trail⟩] else []) ++
        [⟨.name, Step.pathOf trail⟩] := by
  rw [Position.addresses]
  simp [harray, Position.nested, Position.path, controlAddresses, FieldKind.control]

/-- A field of an unknown kind has no address. -/
theorem flatMap_addresses_of_unrecognized {f : Field} {raw : String}
    (htype : f.spec.type = .unrecognized raw) (item : Nat → Nat) (depth : Nat)
    (before : List Step) :
    (positionsIn item depth before f).flatMap Position.addresses = [] := by
  have hunknown : f.kind? = none := by rw [Field.kind?, htype, FieldType.kind?]
  have hbelow : positionsBelow item depth (before ++ [Step.member f.name]) f = [] := by
    rw [positionsBelow, hunknown]
    rfl
  rw [positionsIn_eq, hbelow, List.flatMap_singleton, Position.addresses]
  simp only [hunknown]

/-- A field with a single value names itself and its control. -/
theorem gives_leafElement {f : Field} {kind : FieldKind} (htype : f.spec.type = .known kind)
    (hkind : kind ≠ .array) {before : List Step}
    (h : p.Denotes s.lookup (Step.pathOf (before ++ [Step.member f.name]))) (compact : Bool) :
    List.Forall₂ Use.Gives ((leafElement f kind p compact).uses item components s)
      ((positionsIn item s.depth before f).flatMap Position.addresses) := by
  have hknown : f.kind? = some kind := Field.kind?_eq_some_iff.mpr htype
  have hbelow : positionsBelow item s.depth (before ++ [Step.member f.name]) f = [] := by
    rw [positionsBelow, if_neg]
    rw [hknown]
    exact fun hsame => hkind (Option.some.inj hsame)
  rw [uses_leafElement, positionsIn_eq, hbelow, List.flatMap_singleton, Position.addresses]
  simp only [hknown, hkind, false_and, if_false, List.nil_append]
  exact .cons (gives_name h) (gives_controlUses h _)

end

/-! ## Inner components -/

/-- What a component uses that is the last one. -/
theorem meanings_concat (item : Nat → Nat) (components : List SubComponent) (c : SubComponent) :
    meanings item (components ++ [c]) =
      (c.name, fun depth path =>
        c.body.uses item (meanings item components) ⟨path, none, depth⟩) ::
          meanings item components := by
  rw [meanings, List.foldl_append]
  rfl

/-- Components of other names do not matter. -/
theorem lookup_meanings_append {item : Nat → Nat} {components later : List SubComponent}
    {name : String} (hnames : ∀ c ∈ later, c.name ≠ name) :
    (meanings item (components ++ later)).lookup name =
      (meanings item components).lookup name := by
  induction later generalizing components with
  | nil => rw [List.append_nil]
  | cons c rest ih =>
    rw [List.forall_mem_cons] at hnames
    have hne : (name == c.name) = false := beq_eq_false_iff_ne.mpr (Ne.symm hnames.1)
    rw [List.append_cons, ih hnames.2, meanings_concat, List.lookup_cons, hne]

/-- A component is found by its name, whichever components are finished later. -/
theorem lookup_meanings_of_grows {item : Nat → Nat} {c : SubComponent} {inside final : Parts}
    (htaken : c.name ∈ inside.taken)
    (h : Parts.Grows ⟨inside.taken, inside.finished ++ [c]⟩ final) :
    (meanings item final.finished).lookup c.name =
      some fun depth path =>
        c.body.uses item (meanings item inside.finished) ⟨path, none, depth⟩ := by
  obtain ⟨later, hlater, -, hnames⟩ := h.finished
  have hother : ∀ d ∈ later, d.name ≠ c.name :=
    fun d hd hsame => (hnames d hd).1 (hsame ▸ htaken)
  rw [hlater, lookup_meanings_append hother, meanings_concat, List.lookup_cons_self]

/-! ## Rendering -/

/-- A name that can stand in a template as it is. -/
def Writable (f : Field) : Prop := '\r' ∉ f.name.toList

section
variable {item : Nat → Nat}

/-- Fields that stand together hand on the paths of the positions in them, if each field does. -/
theorem gives_mapM {render : Field → Render Markup} {s : Scope} {before : List Step}
    {fs : List Field}
    (hgrows : ∀ f ∈ fs, ∀ parts m parts', (render f).run parts = (m, parts') →
      parts.Grows parts')
    (h : ∀ f ∈ fs, ∀ parts m parts', (render f).run parts = (m, parts') →
      ∀ final, parts'.Grows final →
        List.Forall₂ Use.Gives (m.uses item (meanings item final.finished) s)
          ((positionsIn item s.depth before f).flatMap Position.addresses))
    {parts parts' final : Parts} {ms : List Markup}
    (hrun : (fs.mapM render).run parts = (ms, parts')) (hfinal : parts'.Grows final) :
    List.Forall₂ Use.Gives (allUses item (meanings item final.finished) s ms)
      ((positions item s.depth before fs).flatMap Position.addresses) := by
  induction fs generalizing parts ms with
  | nil =>
    obtain ⟨rfl, -⟩ := run_pure_eq_iff.mp hrun
    exact .nil
  | cons f rest ih =>
    obtain ⟨m, mid, tail, hm, htail, rfl⟩ := run_mapM_cons_eq_iff.mp hrun
    rw [List.forall_mem_cons] at hgrows h
    -- what is finished with the other fields comes later than what is finished with this one
    have hlater : mid.Grows final := (grows_mapM hgrows.2 htail).trans hfinal
    have hfirst := h.1 parts m mid hm final hlater
    rw [allUses_cons, positions, List.flatMap_append]
    exact List.rel_append hfirst (ih hgrows.2 h.2 htail)

/-- A field of an item hands on the paths of the positions in it: in its place, or in a component
that is finished with it. -/
theorem gives_itemField (f : Field) :
    Everywhere Writable f → ∀ component within parent (s : Scope) before, before ≠ [] →
      within.Denotes s.lookup (Step.pathOf before) → ∀ parts m parts',
        (itemField component within parent f).run parts = (m, parts') →
          ∀ final, parts'.Grows final →
            List.Forall₂ Use.Gives (m.uses item (meanings item final.finished) s)
              ((positionsIn item s.depth before f).flatMap Position.addresses) := by
  induction f using Field.induction with
  | mk spec children ih =>
    intro hwritable component within parent s before hbefore hwithin parts m parts' h final hfinal
    rw [everywhere_iff] at hwritable
    have hpath : (within.child (Field.mk spec children).name).Denotes s.lookup
        (Step.pathOf (before ++ [Step.member spec.name])) := by
      rw [Step.pathOf_append_singleton hbefore]
      exact hwithin.child hwritable.1
    cases itemRun_of_run h with
    | note htype =>
      rw [flatMap_addresses_of_unrecognized htype]
      exact .nil
    | value htype hkind => exact gives_leafElement htype hkind hpath true
    | list hkind hfree hfields =>
      have hinside := grows_itemFields hfields
      have htrail : before ++ [Step.member spec.name] ≠ [] := by simp
      -- the scope of the component that is finished here: its path is in the variable
      let own : Scope := ⟨some (Step.pathOf (before ++ [Step.member spec.name])), none, s.depth⟩
      have hitem := @denotes_item item own _ _ htrail (.bound rfl)
      have hbelow := gives_mapM (fun c _ => grows_itemField c _ _ _)
        (fun c hc => ih c hc (hwritable.2 hkind c hc) _ _ _ (own.enter item) _ (by simp) hitem)
        hfields (.refl _)
      have hbody := gives_listElement (s := own) hkind htrail (.bound rfl) (.bound rfl) .own hbelow
      rw [uses_innerElement, lookup_meanings_of_grows (hinside.taken List.mem_cons_self) hfinal,
        (Scope.readValue_inAttribute hpath).text?_eq, positionsIn_eq, List.flatMap_cons,
        addresses_of_array hkind, if_pos (by simp [List.length_pos_iff, hbefore])]
      exact .cons ⟨rfl, Scope.readValue_inAttribute hpath⟩ hbody

/-- A field at the top hands on the paths of the positions in it. -/
theorem gives_topField {f : Field} (hwritable : Everywhere Writable f) {component : String}
    {handles : List (String × Handles)} {parts parts' final : Parts} {m : Markup}
    (h : (topField component handles f).run parts = (m, parts')) (hfinal : parts'.Grows final) :
    List.Forall₂ Use.Gives (m.uses item (meanings item final.finished) {})
      ((positionsIn item 0 [] f).flatMap Position.addresses) := by
  rw [everywhere_iff] at hwritable
  have hpath : ∀ scope, (FieldPath.literal f.name).Denotes scope
      (Step.pathOf ([] ++ [Step.member f.name])) := by
    intro scope
    rw [List.nil_append, Step.pathOf_singleton]
    exact .fixed hwritable.1
  cases topRun_of_run h with
  | note htype =>
    rw [flatMap_addresses_of_unrecognized htype]
    exact .nil
  | value htype hkind => exact gives_leafElement htype hkind (hpath _) false
  | list hkind hfields =>
    have htop : [Step.member f.name] ≠ [] := by simp
    have hitem := @denotes_item item {} _ _ htop (hpath _)
    rw [positionsIn_eq, List.flatMap_cons, addresses_of_array hkind]
    refine gives_listElement hkind htop (hpath _) (hpath _) _ ?_
    exact gives_mapM (fun c _ => grows_itemField c _ _ _)
      (fun c hc => gives_itemField c (hwritable.2 hkind c hc) _ _ _ (Scope.enter {} item) _
        (by simp) hitem)
      hfields hfinal

/-- The component of a form hands on the paths of all positions, in order, and no others. -/
theorem gives_rendered (ids : Identifiers) {form : Form}
    (hwritable : EverywhereIn Writable form.fields) :
    List.Forall₂ Use.Gives ((Rendered.ofFields ids form.fields).uses item form.title)
      ((form.positions item).flatMap Position.addresses) := by
  obtain ⟨ms, parts, hrun, hrendered⟩ := exists_run_ofFields ids form.fields
  have huses : (Rendered.ofFields ids form.fields).uses item form.title =
      allUses item (meanings item parts.finished) {} ms := by
    rw [Rendered.uses, hrendered, uses_pageMarkup]
  rw [huses]
  exact gives_mapM (fun f _ _ _ _ => grows_topField)
    (fun f hf _ _ _ h _ => gives_topField (everywhereIn_iff_forall_mem.mp hwritable f hf) h)
    hrun (.refl parts)

end

end Component

namespace Form

/-- **Fields are addressed by their paths.** Let a form pass the permissive check and have no name
with a carriage return. Whatever item of each list is looked at, every field that is reached has a
position; the component hands on the paths of the positions, each where it is to be handed on, and
no others; and the schema, if the form has one, checks what a submission has at a position, and
reports what is wrong with it, at the path of the position. -/
theorem addresses_match_errors (ids : Identifiers) {form : Form}
    (hcheck : form.check .permissive = .ok ()) (hwritable : ∀ p ∈ form.places, Writable p.field)
    (item : Nat → Nat) :
    (form.positions item).filterMap Position.field? = form.places.map Place.field ∧
      List.Forall₂ Use.Gives ((Rendered.ofFields ids form.fields).uses item form.title)
        ((form.positions item).flatMap Position.addresses) ∧
      ∀ schema, ValidationSchema.ofForm form = .ok schema → ∀ p ∈ form.positions item,
        ∀ submission x, Json.follow p.trail (some submission) = some x →
          p.CheckedIn x (schema.validate submission).errors := by
  have hwell := check_eq_ok_iff.mp hcheck
  -- a field without a name at the top would be reported at the path of what is inside it
  have hnames : ∀ f ∈ form.fields, f.name ≠ "" := by
    intro f hf hempty
    obtain ⟨before, after, hfields⟩ := List.append_of_mem hf
    have hplace : (⟨"", [] ++ before, f, after⟩ : Place) ∈ form.places := by
      rw [Form.places, hfields]
      exact mem_places_of_split
    have hnamed : Text.isBlank f.name = false := (hwell.fields _ hplace).named
    rw [hempty] at hnamed
    cases hnamed
  refine ⟨field?_positions item form, ?_, ?_⟩
  · exact gives_rendered ids (everywhereIn_iff_forall_places.mpr hwritable)
  · intro schema hschema p hp submission x hx
    exact checkedIn_validate hschema hnames hp hx

/-- A field that is two lists deep. -/
def ageField : Field := .leaf ⟨"age", .known .number, "Age", true, none, [], none, none, none⟩

/-- A form with lists inside lists, whose names have to be escaped in one way or another. -/
def tourForm : Form :=
  ⟨"Tour",
    [.leaf ⟨"\"title\"", .known .text, "Title", false, none, [], none, none, none⟩,
      ⟨⟨"`stops`", .known .array, "Stop", false, none, [], none, none, none⟩,
        [.leaf ⟨"$\x7bit's\x7d", .known .boolean, "Done", false, none, [], none, none, none⟩,
          ⟨⟨"a\\b", .known .array, "Guide", false, none, [], none, none, none⟩,
            [ageField,
              .leaf ⟨"tags", .known .array, "Tag", false, none, [], none, none, none⟩]⟩]⟩]⟩

/-- A submission in which the second guide at the first stop has no age. -/
def tourSubmission : Json :=
  .object [("`stops`", .array [.object [("a\\b", .array
    [.object [("age", .string "40")], .object [("tags", .array [.string "sea"])]])]])]

/-- What the component of the form hands on for the first stop, the second guide and the third tag,
and where the missing age is checked. -/
theorem tourForm_addresses :
    List.Forall₂ Use.Gives
        ((Rendered.ofFields ⟨"Tour", "tour"⟩ tourForm.fields).uses id tourForm.title)
        [⟨.name, "\"title\""⟩, ⟨.register, "\"title\""⟩,
          ⟨.name, "`stops`"⟩,
          ⟨.name, "`stops`.0.$\x7bit's\x7d"⟩, ⟨.name, "`stops`.0.$\x7bit's\x7d"⟩,
          ⟨.path, "`stops`.0.a\\b"⟩, ⟨.name, "`stops`.0.a\\b"⟩,
          ⟨.name, "`stops`.0.a\\b.1.age"⟩, ⟨.register, "`stops`.0.a\\b.1.age"⟩,
          ⟨.path, "`stops`.0.a\\b.1.tags"⟩, ⟨.name, "`stops`.0.a\\b.1.tags"⟩,
          ⟨.register, "`stops`.0.a\\b.1.tags.2"⟩] ∧
      ∃ schema, ValidationSchema.ofForm tourForm = .ok schema ∧
        Position.CheckedIn
          ⟨[.member "`stops`", .item 0, .member "a\\b", .item 1, .member "age"],
            .field ageField⟩
          none (schema.validate tourSubmission).errors := by
  have hwritable : ∀ p ∈ tourForm.places, '\r' ∉ p.field.name.toList := by decide
  obtain ⟨-, huses, hchecked⟩ :=
    @addresses_match_errors ⟨"Tour", "tour"⟩ tourForm rfl hwritable id
  refine ⟨?_, _, rfl, hchecked _ rfl _ (List.mem_iff_getElem?.mpr ⟨4, rfl⟩) _ _ rfl⟩
  exact huses

end Form

end WebForm
