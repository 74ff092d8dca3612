import WebForm.Proofs.Field.Position
import WebForm.Proofs.Schema.Compile
/-!
# Where errors are reported

A compiled schema checks what is at each position of a submission with the validator of that
position, and at the path of that position. What is wrong with the value itself is reported at this
path: everything, unless the value is a list with items, whose errors are those of its items.
-/

set_option autoImplicit false

namespace WebForm

open Schema Validator Outcome

/-- What is at the end of some steps into a value, or that the steps lead nowhere. A member that is
absent or null is no value, and it is there nevertheless. -/
def Json.follow : List Step → Option Json → Option (Option Json)
  | [], x => some x
  | .member name :: rest, some (.object members) => follow rest (present (lookup name members))
  | .item index :: rest, some (.array items) =>
    items[index]?.bind fun item => follow rest (present (some item))
  | _ :: _, _ => none

namespace Json

theorem follow_member_eq_some_iff {name : String} {rest : List Step} {x y : Option Json} :
    follow (.member name :: rest) x = some y ↔
      ∃ members, x = some (.object members) ∧
        follow rest (Schema.present (lookup name members)) = some y := by
  cases x with
  | none => simp [follow]
  | some value => cases value <;> simp [follow]

theorem follow_item_eq_some_iff {index : Nat} {rest : List Step} {x y : Option Json} :
    follow (.item index :: rest) x = some y ↔
      ∃ items item, x = some (.array items) ∧ items[index]? = some item ∧
        follow rest (Schema.present (some item)) = some y := by
  cases x with
  | none => simp [follow]
  | some value => cases value <;> simp [follow, Option.bind_eq_some_iff]

end Json

namespace Schema

/-! ## Errors at another path -/

/-- The same error at another path. -/
def FieldError.moveTo (path : String) (e : FieldError) : FieldError := { e with field := path }

section
variable {path other : String}

theorem map_moveTo_failIf (wrong : Bool) (e : FieldError) :
    (failIf wrong e).map (FieldError.moveTo path) = failIf wrong (e.moveTo path) := by
  cases wrong <;> rfl

theorem map_moveTo_failRule {α : Type} (rule : Option α) (wrong : α → Bool)
    (e : α → FieldError) :
    (failRule rule wrong e).map (FieldError.moveTo path) =
      failRule rule wrong fun r => (e r).moveTo path := by
  cases rule with
  | none => rfl
  | some r => exact map_moveTo_failIf (wrong r) (e r)

theorem StringRules.map_moveTo_check (rules : StringRules) (x : Option Json) :
    (rules.check other x).map (FieldError.moveTo path) = rules.check path x := by
  unfold StringRules.check
  split
  · rfl
  · split
    · rfl
    · simp only [errorsOf, List.map_append, map_moveTo_failIf, map_moveTo_failRule]
      rfl
  · rfl

theorem NumberRules.map_moveTo_check (rules : NumberRules) (x : Option Json) :
    (rules.check other x).map (FieldError.moveTo path) = rules.check path x := by
  unfold NumberRules.check
  split
  · rfl
  · split
    · rfl
    · split
      · simp only [errorsOf, List.map_append, map_moveTo_failRule]
        rfl
      · rfl

theorem map_moveTo_boolean (mustBeChecked : Option String) (x : Option Json) :
    ((boolean mustBeChecked).checkPresent other x).map (FieldError.moveTo path) =
      (boolean mustBeChecked).checkPresent path x := by
  unfold checkPresent checkBoolean
  split
  · rfl
  · split
    · rfl
    · cases mustBeChecked <;> rfl
    · cases mustBeChecked <;> rfl
    · rfl

theorem map_moveTo_checkOption (label : String) (options : List String) (x : Option Json) :
    (checkOption label options other x).map (FieldError.moveTo path) =
      checkOption label options path x := by
  unfold checkOption
  split
  · rfl
  · exact map_moveTo_failIf _ _
  · rfl

end

/-! ## Errors at one path -/

/-- All errors are at a path. -/
def AllAt (path : String) (errors : List FieldError) : Prop := ∀ e ∈ errors, e.field = path

section
variable {path : String}

@[simp] theorem allAt_nil : AllAt path [] := by
  intro e he
  cases he

@[simp] theorem allAt_singleton {e : FieldError} : AllAt path [e] ↔ e.field = path :=
  List.forall_mem_singleton

/-- Errors that stay the same when they are moved to a path are at this path. -/
theorem allAt_of_map_moveTo {es : List FieldError} (h : es.map (FieldError.moveTo path) = es) :
    AllAt path es := by
  intro e he
  rw [← h] at he
  obtain ⟨e', -, rfl⟩ := List.mem_map.mp he
  rfl

/-- Wrapping a field as optional takes errors away and moves none. -/
theorem allAt_guard {v : Validator} {x : Option Json} (h : AllAt path (v.checkPresent path x))
    (required : Bool) (base : BaseRule) :
    AllAt path ((guard required base v).checkPresent path x) := by
  unfold Validator.guard
  split
  · exact h
  · unfold checkPresent
    split
    · exact allAt_nil
    · split
      · exact allAt_nil
      · exact h
    · exact h

theorem allAt_ofItemKind (kind : FieldKind) (x : Option Json) :
    AllAt path ((ofItemKind kind).checkPresent path x) := by
  unfold ofItemKind
  split
  · exact allAt_of_map_moveTo (NumberRules.map_moveTo_check _ x)
  · exact allAt_of_map_moveTo (map_moveTo_boolean none x)
  · exact allAt_of_map_moveTo (StringRules.map_moveTo_check _ x)

theorem allAt_array {item : Validator} {minItems : UInt64} {message : String} {x : Option Json}
    (h : ∀ items, x = some (.array items) → items = []) :
    AllAt path ((array item minItems message).checkPresent path x) := by
  unfold checkPresent
  split
  · exact allAt_singleton.mpr rfl
  · next items =>
    rw [h items rfl, checkItems, List.append_nil]
    exact allAt_of_map_moveTo (map_moveTo_failIf _ _)
  · exact allAt_singleton.mpr rfl

/-- The errors of a field are at its path, unless it is a list with items. -/
theorem Compiles.allAt_checkPresent {place : String} {f : Field} {kind : FieldKind}
    {v : Validator} (hv : Compiles place f kind v) {x : Option Json}
    (hx : kind = .array → ∀ items, x = some (.array items) → items = []) :
    AllAt path (v.checkPresent path x) := by
  cases hv with
  | text => exact allAt_of_map_moveTo (StringRules.map_moveTo_check _ x)
  | number => exact allAt_of_map_moveTo (NumberRules.map_moveTo_check _ x)
  | boolean => exact allAt_of_map_moveTo (map_moveTo_boolean _ x)
  | choice => exact allAt_of_map_moveTo (map_moveTo_checkOption _ _ x)
  | primitives hbase => exact allAt_array (hx (FieldKind.base_eq_list_iff.mp hbase))
  | objects hbase => exact allAt_array (hx (FieldKind.base_eq_list_iff.mp hbase))

end

/-! ## Errors inside errors -/

/-- What is wrong with an item is reported with the list, at the index of the item. -/
theorem infix_checkItems {check : String → Option Json → List FieldError} {path : String}
    {items : List Json} {i : Nat} {item : Json} (h : items[i]? = some item) (start : Nat) :
    check (Field.joinPath path (toString (start + i))) (present (some item)) <:+:
      checkItems check path start items := by
  induction items generalizing i start with
  | nil => cases h
  | cons first rest ih =>
    rw [checkItems]
    cases i with
    | zero =>
      obtain rfl := Option.some.inj h
      exact List.infix_append_of_infix_left (List.infix_refl _)
    | succ i =>
      have hrest := ih h (start + 1)
      rw [Nat.add_right_comm, Nat.add_assoc] at hrest
      exact List.infix_append_of_infix_right hrest

/-- What is wrong with a member is reported with the object, at the name of the member. -/
theorem exists_infix_checkFields {parent : String} {fs : List Field}
    {vs : List (String × Validator)} (h : ofFields parent fs = .ok vs) {f : Field} (hf : f ∈ fs) :
    ∃ v, ofField (Field.joinPath parent f.name) f = .ok v ∧ ∀ path members,
      v.checkPresent (Field.joinPath path f.name) (present (Json.lookup f.name members)) <:+:
        checkFields vs path members := by
  induction fs generalizing vs with
  | nil => cases hf
  | cons g rest ih =>
    obtain ⟨v, tail, hv, htail, rfl⟩ := ofFields_cons_eq_ok_iff.mp h
    rcases List.mem_cons.mp hf with rfl | hmem
    · refine ⟨v, hv, fun path members => ?_⟩
      rw [checkFields]
      exact List.infix_append_of_infix_left (List.infix_refl _)
    · obtain ⟨w, hw, hpart⟩ := ih htail hmem
      refine ⟨w, hw, fun path members => ?_⟩
      rw [checkFields]
      exact List.infix_append_of_infix_right (hpart path members)

/-- A list compiles to a list of what its items compile to, which is wrapped as its `required`
flag says. -/
theorem exists_array_of_ofField {place : String} {f : Field} {v : Validator}
    (hkind : f.kind? = some .array) (h : ofField place f = .ok v) :
    ∃ item minItems message,
      v = Validator.guard f.required .list (array item minItems message) ∧
        ((f.children = [] ∧ item = ofItemKind f.itemKind) ∨
          ∃ fields, f.children ≠ [] ∧ ofFields place f.children = .ok fields ∧
            item = .object fields) := by
  obtain ⟨kind, inner, hknown, hinner, rfl⟩ := exists_compiles_of_ofField h
  obtain rfl := Option.some.inj (hkind.symm.trans hknown)
  cases hinner with
  | text hbase => cases hbase
  | number hbase => cases hbase
  | boolean hbase => cases hbase
  | choice hbase => cases hbase
  | primitives hbase hnone => exact ⟨_, _, _, rfl, Or.inl ⟨hnone, rfl⟩⟩
  | objects hbase hsome hfields => exact ⟨_, _, _, rfl, Or.inr ⟨_, hsome, hfields, rfl⟩⟩

/-- What is wrong with an item is reported with the list that a field is, required or not. -/
theorem infix_checkPresent_array {item : Validator} {minItems : UInt64} {message path : String}
    {items : List Json} {i : Nat} {value : Json} (h : items[i]? = some value) (required : Bool)
    (base : BaseRule) :
    item.checkPresent (Field.joinPath path (toString i)) (present (some value)) <:+:
      (Validator.guard required base (array item minItems message)).checkPresent path
        (some (.array items)) := by
  have hitem := @infix_checkItems item.checkPresent path items i value h 0
  rw [Nat.zero_add] at hitem
  have harray : (Validator.guard required base (array item minItems message)).checkPresent path
      (some (.array items)) =
        (array item minItems message).checkPresent path (some (.array items)) := by
    cases required <;> rfl
  rw [harray, checkPresent]
  exact List.infix_append_of_infix_right hitem

end Schema

/-! ## Positions -/

/-- The validator of what is at a position. -/
inductive Spot.CompilesTo : Spot → Validator → Prop
  | field {place : String} {f : Field} {v : Validator} (h : ofField place f = .ok v) :
      CompilesTo (.field f) v
  | item (list : Field) : CompilesTo (.item list) (ofItemKind list.itemKind)

/-- The value at a position is a list with items, and a list is asked for there. -/
def Spot.HasItems (s : Spot) (x : Option Json) : Prop :=
  ∃ f item items, s = .field f ∧ f.kind? = some .array ∧ x = some (.array (item :: items))

/-- The value at a position is checked by its validator at the path of the position, and what is
wrong with it is among some errors. Unless the errors are those of its items, all of them are at
the path. -/
def Position.CheckedIn (p : Position) (x : Option Json) (errors : List FieldError) : Prop :=
  ∃ v, p.spot.CompilesTo v ∧ v.checkPresent p.path x <:+: errors ∧
    (¬ p.spot.HasItems x → AllAt p.path (v.checkPresent p.path x))

theorem Position.CheckedIn.mono {p : Position} {x : Option Json} {es es' : List FieldError}
    (h : p.CheckedIn x es) (hes : es <:+: es') : p.CheckedIn x es' := by
  obtain ⟨v, hv, hpart, hall⟩ := h
  exact ⟨v, hv, hpart.trans hes, hall⟩

namespace Field

/-- A field is checked at its own position. -/
theorem checkedIn_self {place : String} {f : Field} {v : Validator}
    (h : ofField place f = .ok v) (trail : List Step) (x : Option Json) :
    Position.CheckedIn ⟨trail, .field f⟩ x (v.checkPresent (Step.pathOf trail) x) := by
  refine ⟨v, .field h, List.infix_refl _, fun hitems => ?_⟩
  obtain ⟨kind, inner, hkind, hinner, rfl⟩ := exists_compiles_of_ofField h
  refine allAt_guard (hinner.allAt_checkPresent ?_) _ _
  -- a list without items is left, whose own error is at its path
  rintro rfl items rfl
  cases items with
  | nil => rfl
  | cons item items => exact absurd ⟨f, item, items, rfl, hkind, rfl⟩ hitems

/-- What is in an object is checked with it, if what is below each of its fields is checked with
the field. -/
theorem checkedIn_of_mem_positions {item : Nat → Nat} {fs : List Field}
    (ih : ∀ f ∈ fs, ∀ place v, ofField place f = .ok v →
      ∀ depth trail, Step.pathOf trail ≠ "" → ∀ p ∈ positionsBelow item depth trail f,
        ∃ below, p.trail = trail ++ below ∧ ∀ x y, Json.follow below x = some y →
          p.CheckedIn y (v.checkPresent (Step.pathOf trail) x))
    {parent : String} {vs : List (String × Validator)} (h : ofFields parent fs = .ok vs)
    {depth : Nat} {before : List Step} (hbefore : before = [] ∨ Step.pathOf before ≠ "")
    (hnames : ∀ f ∈ fs, Step.pathOf (before ++ [Step.member f.name]) ≠ "")
    {p : Position} (hp : p ∈ positions item depth before fs) :
    ∃ below, p.trail = before ++ below ∧ ∀ x y, Json.follow below x = some y →
      p.CheckedIn y ((Validator.object vs).checkPresent (Step.pathOf before) x) := by
  rw [positions_eq_flatMap] at hp
  obtain ⟨f, hf, hp⟩ := List.mem_flatMap.mp hp
  rw [positionsIn_eq, List.mem_cons] at hp
  obtain ⟨v, hv, hpart⟩ := exists_infix_checkFields h hf
  have hchecked : ∃ below, p.trail = before ++ [Step.member f.name] ++ below ∧
      ∀ x y, Json.follow below x = some y →
        p.CheckedIn y (v.checkPresent (Step.pathOf (before ++ [Step.member f.name])) x) := by
    rcases hp with rfl | hbelow
    -- the position of the field itself is no step away from it
    · refine ⟨[], (List.append_nil _).symm, ?_⟩
      rintro x y ⟨⟩
      exact checkedIn_self hv _ x
    · exact ih f hf _ v hv depth _ (hnames f hf) p hbelow
  obtain ⟨below, htrail, hbelow⟩ := hchecked
  refine ⟨.member f.name :: below, by rw [htrail, List.append_assoc]; rfl, ?_⟩
  intro x y hfollow
  obtain ⟨members, rfl, hfollow⟩ := Json.follow_member_eq_some_iff.mp hfollow
  have hinside := hpart (Step.pathOf before) members
  rw [show f.name = (Step.member f.name).text from rfl, Step.joinPath_pathOf hbefore] at hinside
  rw [checkPresent]
  exact (hbelow _ y hfollow).mono hinside

/-- What is below a field is checked with the field. -/
theorem checkedIn_of_mem_positionsBelow {item : Nat → Nat} (f : Field) :
    ∀ place v, ofField place f = .ok v →
      ∀ depth trail, Step.pathOf trail ≠ "" → ∀ p ∈ positionsBelow item depth trail f,
        ∃ below, p.trail = trail ++ below ∧ ∀ x y, Json.follow below x = some y →
          p.CheckedIn y (v.checkPresent (Step.pathOf trail) x) := by
  induction f using Field.induction with
  | mk spec children ih =>
    intro place v h depth trail hpath p hp
    rw [positionsBelow] at hp
    by_cases harray : (Field.mk spec children).kind? = some .array
    · rw [if_pos harray] at hp
      obtain ⟨inner, minItems, message, rfl, hinner⟩ := exists_array_of_ofField harray h
      have hitem : Step.pathOf (trail ++ [Step.item (item depth)]) =
          Field.joinPath (Step.pathOf trail) (toString (item depth)) :=
        (Step.joinPath_pathOf (Or.inr hpath) _).symm
      -- what is in the item is checked with the list
      have hchecked : ∃ below, p.trail = trail ++ [Step.item (item depth)] ++ below ∧
          ∀ x y, Json.follow below x = some y →
            p.CheckedIn y
              (inner.checkPresent (Step.pathOf (trail ++ [Step.item (item depth)])) x) := by
        rcases hinner with ⟨hnone, rfl⟩ | ⟨fields, hsome, hfields, rfl⟩
        -- without fields the item is the only position, with fields it is none
        · rw [if_pos (by rw [hnone]; rfl), List.mem_singleton] at hp
          subst hp
          refine ⟨[], (List.append_nil _).symm, ?_⟩
          rintro x y ⟨⟩
          exact ⟨_, .item _, List.infix_refl _, fun _ => allAt_ofItemKind _ x⟩
        · rw [if_neg (by rwa [List.isEmpty_iff])] at hp
          have hinside := Step.pathOf_append_singleton_ne hpath (.item (item depth))
          exact checkedIn_of_mem_positions ih hfields (Or.inr hinside)
            (fun c _ => Step.pathOf_append_singleton_ne hinside _) hp
      obtain ⟨below, htrail, hbelow⟩ := hchecked
      refine ⟨.item (item depth) :: below, by rw [htrail, List.append_assoc]; rfl, ?_⟩
      intro x y hfollow
      obtain ⟨items, value, rfl, hvalue, hfollow⟩ := Json.follow_item_eq_some_iff.mp hfollow
      refine (hbelow _ y hfollow).mono ?_
      rw [hitem]
      exact infix_checkPresent_array hvalue _ _
    · rw [if_neg harray] at hp
      cases hp

end Field

/-- What a schema reports about a submission is, at each position of the form that is in the
submission, what the validator of this position finds there, at the path of the position. -/
theorem Schema.checkedIn_validate {form : Form} {schema : ValidationSchema}
    (h : ValidationSchema.ofForm form = .ok schema) (hnames : ∀ f ∈ form.fields, f.name ≠ "")
    {item : Nat → Nat} {p : Position} (hp : p ∈ form.positions item) {submission : Json}
    {x : Option Json} (hx : Json.follow p.trail (some submission) = some x) :
    p.CheckedIn x (schema.validate submission).errors := by
  obtain ⟨vs, hvs, rfl⟩ := ofForm_eq_ok_iff.mp h
  have htop : ∀ f ∈ form.fields, Step.pathOf ([] ++ [Step.member f.name]) ≠ "" := by
    intro f hf
    rw [List.nil_append, Step.pathOf_singleton]
    exact hnames f hf
  obtain ⟨below, htrail, hchecked⟩ := Field.checkedIn_of_mem_positions
    (fun f _ => Field.checkedIn_of_mem_positionsBelow f) hvs (Or.inl rfl) htop hp
  rw [htrail, List.nil_append] at hx
  -- null counts as absent, and a submission that is either is reported the same way
  have hroot : (Validator.object vs).checkPresent "" (present (some submission)) =
      (Validator.object vs).checkPresent "" (some submission) := by
    cases submission <;> rfl
  rw [ValidationSchema.validate, Validator.validate, ValidationResult.errors_ofErrors, check, hroot]
  exact hchecked (some submission) x hx

end WebForm
