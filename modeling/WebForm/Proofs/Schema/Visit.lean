import WebForm.Proofs.Schema.Location
/-!
# The positions that are checked

A submission is checked by going through the schema and the submission together: into the members
that an object schema names, and into the items of a list that is asked for. A *visit* is one
position on this way, with the validator that stands there and the value that is found there.

`Validator.visits` lists the visits in preorder. It is described in two ways that do not go through
the walk. What is visited is exactly what can be reached in the schema and is there in the
submission (`mem_visits_iff`), and the visits come in the order of positions (`pairwise_visits`):
a position before what is inside it, members in the order in which they are declared, items in the
order of their indices.
-/

set_option autoImplicit false

namespace WebForm.Schema

/-- Induction over the tree of validators. -/
@[elab_as_elim]
theorem Validator.induction {motive : Validator → Prop}
    (string : ∀ rules, motive (.string rules)) (number : ∀ rules, motive (.number rules))
    (boolean : ∀ mustBeChecked, motive (.boolean mustBeChecked))
    (oneOf : ∀ label options, motive (.oneOf label options))
    (array : ∀ item minItems message, motive item → motive (.array item minItems message))
    (object : ∀ fields, (∀ entry ∈ fields, motive entry.2) → motive (.object fields))
    (optional : ∀ inner acceptsEmptyString, motive inner →
      motive (.optional inner acceptsEmptyString))
    (v : Validator) : motive v := by
  refine @Validator.rec motive (fun fields => ∀ entry ∈ fields, motive entry.2)
    (fun entry => motive entry.2) string number boolean oneOf array object optional ?_ ?_ ?_ v
  · intro entry hentry
    cases hentry
  · intro head tail hhead htail entry hentry
    rcases List.mem_cons.mp hentry with rfl | hmem
    · exact hhead
    · exact htail entry hmem
  · exact fun _ _ h => h

/-! ## Visits -/

/-- A position that is checked: the steps that lead to it, the validator that stands there, and the
value that is found there, `none` being no value. -/
structure Visit where
  trail : List Step
  validator : Validator
  value : Option Json

/-- The same visit, seen from where one more step leads to it. -/
def Visit.behind (s : Step) (w : Visit) : Visit := { w with trail := s :: w.trail }

namespace Validator

mutual

/-- The positions inside a value that are checked by a validator, in preorder. -/
def visitsBelow : Validator → Option Json → List Visit
  | .array item _ _, x =>
    match x with
    | some (.array items) =>
      items.zipIdx.flatMap fun (value, i) =>
        (⟨[], item, present (some value)⟩ :: item.visitsBelow (present (some value))).map
          (Visit.behind (.item i))
    | _ => []
  | .object fields, x =>
    match x with
    | some (.object members) => memberVisits fields members
    | _ => []
  | .optional inner _, x => inner.visitsBelow x
  | .string _, _ | .number _, _ | .boolean _, _ | .oneOf _ _, _ => []
termination_by structural v => v

/-- The positions in the members of an object that are checked, in preorder. -/
def memberVisits : List (String × Validator) → List (String × Json) → List Visit
  | [], _ => []
  | (name, v) :: rest, members =>
    (⟨[], v, present (Json.lookup name members)⟩ ::
        v.visitsBelow (present (Json.lookup name members))).map (Visit.behind (.member name)) ++
      memberVisits rest members
termination_by structural fields => fields

end

/-- The positions in a value that are checked by a validator, in preorder. -/
def visits (v : Validator) (x : Option Json) : List Visit := ⟨[], v, x⟩ :: v.visitsBelow x

theorem visitsBelow_array (item : Validator) (minItems : UInt64) (message : String)
    (items : List Json) :
    (array item minItems message).visitsBelow (some (.array items)) =
      items.zipIdx.flatMap fun (value, i) =>
        (item.visits (present (some value))).map (Visit.behind (.item i)) := by
  rw [visitsBelow]
  rfl

theorem visitsBelow_object (fields : List (String × Validator)) (members : List (String × Json)) :
    (object fields).visitsBelow (some (.object members)) =
      fields.flatMap fun (name, v) =>
        (v.visits (present (Json.lookup name members))).map (Visit.behind (.member name)) := by
  rw [visitsBelow]
  induction fields with
  | nil => rfl
  | cons entry rest ih => rw [memberVisits, List.flatMap_cons, ih]; rfl

/-- The positions in a list are those in its items, at the index of the item. -/
theorem mem_visitsBelow_array {item : Validator} {minItems : UInt64} {message : String}
    {x : Option Json} {w : Visit} :
    w ∈ (array item minItems message).visitsBelow x ↔
      ∃ items i value u, x = some (.array items) ∧ items[i]? = some value ∧
        u ∈ item.visits (present (some value)) ∧ u.behind (.item i) = w := by
  constructor
  · intro hw
    cases x with
    | none => cases hw
    | some value =>
      cases value with
      | array items =>
        rw [visitsBelow_array] at hw
        obtain ⟨⟨value, i⟩, hvalue, hw⟩ := List.mem_flatMap.mp hw
        obtain ⟨u, hu, hbehind⟩ := List.mem_map.mp hw
        exact ⟨items, i, value, u, rfl, List.mem_zipIdx_iff_getElem?.mp hvalue, hu, hbehind⟩
      | null | bool | number | string | object => cases hw
  · rintro ⟨items, i, value, u, rfl, hvalue, hu, hbehind⟩
    rw [visitsBelow_array, List.mem_flatMap]
    exact ⟨(value, i), List.mem_zipIdx_iff_getElem?.mpr hvalue, List.mem_map.mpr ⟨u, hu, hbehind⟩⟩

/-- The positions in an object are those in the members that are named, at the name. -/
theorem mem_visitsBelow_object {fields : List (String × Validator)} {x : Option Json} {w : Visit} :
    w ∈ (object fields).visitsBelow x ↔
      ∃ members name v u, x = some (.object members) ∧ (name, v) ∈ fields ∧
        u ∈ v.visits (present (Json.lookup name members)) ∧ u.behind (.member name) = w := by
  constructor
  · intro hw
    cases x with
    | none => cases hw
    | some value =>
      cases value with
      | object members =>
        rw [visitsBelow_object] at hw
        obtain ⟨⟨name, v⟩, hentry, hw⟩ := List.mem_flatMap.mp hw
        obtain ⟨u, hu, hbehind⟩ := List.mem_map.mp hw
        exact ⟨members, name, v, u, rfl, hentry, hu, hbehind⟩
      | null | bool | number | string | array => cases hw
  · rintro ⟨members, name, v, u, rfl, hentry, hu, hbehind⟩
    rw [visitsBelow_object, List.mem_flatMap]
    exact ⟨(name, v), hentry, List.mem_map.mpr ⟨u, hu, hbehind⟩⟩

/-- No position inside a value is the position of the value itself. -/
theorem trail_ne_nil_of_mem_visitsBelow {w : Visit} (v : Validator) :
    ∀ x, w ∈ v.visitsBelow x → w.trail ≠ [] := by
  induction v using Validator.induction with
  | string | number | boolean | oneOf => exact fun _ hw => nomatch hw
  | array =>
    intro x hw
    obtain ⟨items, i, value, u, -, -, -, rfl⟩ := mem_visitsBelow_array.mp hw
    exact List.cons_ne_nil _ _
  | object =>
    intro x hw
    obtain ⟨members, name, v, u, -, -, -, rfl⟩ := mem_visitsBelow_object.mp hw
    exact List.cons_ne_nil _ _
  | optional inner acceptsEmptyString ih => exact fun x hw => ih x hw

/-! ## What is visited -/

/-- Some steps lead from a validator to another one. What is optional stands where it is. -/
inductive Reaches : Validator → List Step → Validator → Prop
  | here (v : Validator) : Reaches v [] v
  | member {fields : List (String × Validator)} {name : String} {v u : Validator}
      {trail : List Step} (hentry : (name, v) ∈ fields) (h : Reaches v trail u) :
      Reaches (.object fields) (.member name :: trail) u
  | item {item u : Validator} {minItems : UInt64} {message : String} {trail : List Step}
      (i : Nat) (h : Reaches item trail u) :
      Reaches (.array item minItems message) (.item i :: trail) u
  | optional {inner u : Validator} {acceptsEmptyString : Bool} {s : Step} {trail : List Step}
      (h : Reaches inner (s :: trail) u) :
      Reaches (.optional inner acceptsEmptyString) (s :: trail) u

/-- What is visited is what can be reached in the schema and is there in the value, if this is so
below the validator. -/
theorem mem_visits_iff_of_below {v : Validator}
    (h : ∀ x w, w ∈ v.visitsBelow x ↔
      w.trail ≠ [] ∧ v.Reaches w.trail w.validator ∧ Json.follow w.trail x = some w.value)
    {x : Option Json} {w : Visit} :
    w ∈ v.visits x ↔ v.Reaches w.trail w.validator ∧ Json.follow w.trail x = some w.value := by
  rw [visits, List.mem_cons, h]
  constructor
  · rintro (rfl | ⟨-, hreach⟩)
    · exact ⟨.here v, rfl⟩
    · exact hreach
  · rintro ⟨hreach, hfollow⟩
    obtain ⟨trail, u, y⟩ := w
    cases trail with
    | nil =>
      cases hreach
      obtain rfl := Option.some.inj hfollow
      exact .inl rfl
    | cons s trail => exact .inr ⟨List.cons_ne_nil _ _, hreach, hfollow⟩

theorem mem_visitsBelow_iff (v : Validator) : ∀ x w, w ∈ v.visitsBelow x ↔
    w.trail ≠ [] ∧ v.Reaches w.trail w.validator ∧ Json.follow w.trail x = some w.value := by
  induction v using Validator.induction with
  | string | number | boolean | oneOf =>
    intro x w
    refine iff_of_false (fun hw => nomatch hw) ?_
    rintro ⟨hne, hreach, -⟩
    obtain ⟨trail, u, y⟩ := w
    cases hreach
    exact hne rfl
  | array item minItems message ih =>
    rintro x ⟨trail, u, y⟩
    rw [mem_visitsBelow_array]
    constructor
    · rintro ⟨items, i, value, w, rfl, hvalue, hw, hbehind⟩
      obtain ⟨hreach, hfollow⟩ := (mem_visits_iff_of_below ih).mp hw
      obtain ⟨rfl, rfl, rfl⟩ := Visit.mk.inj hbehind
      exact ⟨List.cons_ne_nil _ _, .item i hreach,
        Json.follow_item_eq_some_iff.mpr ⟨items, value, rfl, hvalue, hfollow⟩⟩
    · rintro ⟨hne, hreach, hfollow⟩
      cases hreach with
      | here => exact absurd rfl hne
      | @item _ _ _ _ trail i hreach =>
        obtain ⟨items, value, rfl, hvalue, hfollow⟩ := Json.follow_item_eq_some_iff.mp hfollow
        exact ⟨items, i, value, ⟨trail, u, y⟩, rfl, hvalue,
          (mem_visits_iff_of_below ih).mpr ⟨hreach, hfollow⟩, rfl⟩
  | object fields ih =>
    rintro x ⟨trail, u, y⟩
    rw [mem_visitsBelow_object]
    constructor
    · rintro ⟨members, name, v, w, rfl, hentry, hw, hbehind⟩
      obtain ⟨hreach, hfollow⟩ := (mem_visits_iff_of_below (ih _ hentry)).mp hw
      obtain ⟨rfl, rfl, rfl⟩ := Visit.mk.inj hbehind
      exact ⟨List.cons_ne_nil _ _, .member hentry hreach,
        Json.follow_member_eq_some_iff.mpr ⟨members, rfl, hfollow⟩⟩
    · rintro ⟨hne, hreach, hfollow⟩
      cases hreach with
      | here => exact absurd rfl hne
      | @member _ name v _ trail hentry hreach =>
        obtain ⟨members, rfl, hfollow⟩ := Json.follow_member_eq_some_iff.mp hfollow
        exact ⟨members, name, v, ⟨trail, u, y⟩, rfl, hentry,
          (mem_visits_iff_of_below (ih _ hentry)).mpr ⟨hreach, hfollow⟩, rfl⟩
  | optional inner acceptsEmptyString ih =>
    rintro x ⟨trail, u, y⟩
    rw [visitsBelow, ih]
    refine and_congr_right fun hne => and_congr_left fun _ => ?_
    -- what is optional is left by its inner validator, so a first step is needed on both sides
    obtain ⟨s, rest, rfl⟩ := List.exists_cons_of_ne_nil hne
    constructor
    · exact fun hreach => .optional hreach
    · intro hreach
      cases hreach with
      | optional hreach => exact hreach

/-- What is visited is what can be reached in the schema and is there in the value. -/
theorem mem_visits_iff {v : Validator} {x : Option Json} {w : Visit} :
    w ∈ v.visits x ↔ v.Reaches w.trail w.validator ∧ Json.follow w.trail x = some w.value :=
  mem_visits_iff_of_below (mem_visitsBelow_iff v)

/-! ## The order of visits -/

/-- One position comes before another in preorder. -/
inductive Before : Validator → List Step → List Step → Prop
  /-- A value comes before what is inside it. -/
  | inside {v : Validator} (s : Step) (trail : List Step) : Before v [] (s :: trail)
  /-- Members come in the order in which they are declared. -/
  | members {fields : List (String × Validator)} {first second : String} {t u : List Step}
      (h : [first, second].Sublist (fields.map Prod.fst)) :
      Before (.object fields) (.member first :: t) (.member second :: u)
  | inMember {fields : List (String × Validator)} {name : String} {v : Validator}
      {t u : List Step} (hentry : (name, v) ∈ fields) (h : Before v t u) :
      Before (.object fields) (.member name :: t) (.member name :: u)
  /-- Items come in the order of their indices. -/
  | items {item : Validator} {minItems : UInt64} {message : String} {i j : Nat}
      {t u : List Step} (h : i < j) :
      Before (.array item minItems message) (.item i :: t) (.item j :: u)
  | inItem {item : Validator} {minItems : UInt64} {message : String} (i : Nat)
      {t u : List Step} (h : Before item t u) :
      Before (.array item minItems message) (.item i :: t) (.item i :: u)
  | optional {inner : Validator} {acceptsEmptyString : Bool} {t u : List Step}
      (h : Before inner t u) : Before (.optional inner acceptsEmptyString) t u

theorem pairwise_visits_of_below {v : Validator} {x : Option Json}
    (h : (v.visitsBelow x).Pairwise fun a b => v.Before a.trail b.trail) :
    (v.visits x).Pairwise fun a b => v.Before a.trail b.trail := by
  refine List.pairwise_cons.mpr ⟨fun w hw => ?_, h⟩
  obtain ⟨s, trail, htrail⟩ :=
    List.exists_cons_of_ne_nil (trail_ne_nil_of_mem_visitsBelow v x hw)
  rw [htrail]
  exact .inside s trail

theorem pairwise_visitsBelow (v : Validator) :
    ∀ x, (v.visitsBelow x).Pairwise fun a b => v.Before a.trail b.trail := by
  induction v using Validator.induction with
  | string | number | boolean | oneOf => exact fun _ => List.Pairwise.nil
  | array item minItems message ih =>
    intro x
    cases x with
    | none => exact List.Pairwise.nil
    | some value =>
      cases value with
      | array items =>
        rw [visitsBelow_array, List.pairwise_flatMap]
        constructor
        -- inside one item first, then between any two of them
        · rintro ⟨value, i⟩ -
          exact List.pairwise_map.mpr ((pairwise_visits_of_below (ih _)).imp fun h => .inItem i h)
        · have hindices : items.zipIdx.Pairwise fun a b => a.2 < b.2 := by
            rw [← List.pairwise_map, List.zipIdx_map_snd]
            exact List.pairwise_lt_range'
          refine hindices.imp ?_
          rintro ⟨value, i⟩ ⟨value', j⟩ hlt w hw w' hw'
          obtain ⟨u, -, rfl⟩ := List.mem_map.mp hw
          obtain ⟨u', -, rfl⟩ := List.mem_map.mp hw'
          exact .items hlt
      | null | bool | number | string | object => exact List.Pairwise.nil
  | object fields ih =>
    intro x
    cases x with
    | none => exact List.Pairwise.nil
    | some value =>
      cases value with
      | object members =>
        rw [visitsBelow_object, List.pairwise_flatMap]
        constructor
        · rintro ⟨name, v⟩ hentry
          exact List.pairwise_map.mpr
            ((pairwise_visits_of_below (ih _ hentry _)).imp fun h => .inMember hentry h)
        -- entries may share a name, so their order in the schema is all that can be said
        · refine List.pairwise_iff_forall_sublist.mpr ?_
          rintro ⟨first, v⟩ ⟨second, v'⟩ hsub w hw w' hw'
          obtain ⟨u, -, rfl⟩ := List.mem_map.mp hw
          obtain ⟨u', -, rfl⟩ := List.mem_map.mp hw'
          exact .members (hsub.map Prod.fst)
      | null | bool | number | string | array => exact List.Pairwise.nil
  | optional inner acceptsEmptyString ih =>
    intro x
    exact (ih x).imp fun h => .optional h

/-- Positions are visited in preorder. -/
theorem pairwise_visits (v : Validator) (x : Option Json) :
    (v.visits x).Pairwise fun a b => v.Before a.trail b.trail :=
  pairwise_visits_of_below (pairwise_visitsBelow v x)

end Validator

end WebForm.Schema
