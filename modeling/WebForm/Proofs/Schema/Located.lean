import Mathlib.Data.List.Forall2
import WebForm.Proofs.Schema.Refusal
/-!
# Errors are located

The errors of a check are those that the validators at the visited positions report about the values
there, one position after the other in preorder. Everything about where errors are reported follows
from this: they come in the order of the schema, each at the path of a position that is there in the
submission and about the value at this position, and no value that is refused goes without one.
-/

set_option autoImplicit false

namespace WebForm

/-! ## Paths -/

namespace Step

/-- The path that some steps lead to from another path. From the empty path the first step leads to
its own text. -/
def pathFrom (base : String) (trail : List Step) : String :=
  trail.foldl (fun path s => Field.joinPath path s.text) base

theorem pathFrom_cons (base : String) (s : Step) (trail : List Step) :
    pathFrom base (s :: trail) = pathFrom (Field.joinPath base s.text) trail := rfl

theorem pathFrom_pathOf {before : List Step} (h : pathOf before ≠ "") (trail : List Step) :
    pathFrom (pathOf before) trail = pathOf (before ++ trail) := by
  induction trail generalizing before with
  | nil => rw [List.append_nil]; rfl
  | cons s trail ih =>
    rw [pathFrom_cons, joinPath_pathOf (.inr h), ih (pathOf_append_singleton_ne h s),
      List.append_assoc, List.singleton_append]

/-- Behind a name that is not empty, the path is the dotted one. -/
theorem pathFrom_empty {name : String} (h : name ≠ "") (trail : List Step) :
    pathFrom "" (.member name :: trail) = pathOf (.member name :: trail) := by
  have hname : pathOf [.member name] = name := pathOf_singleton _
  have hpath := @pathFrom_pathOf [.member name] (by rwa [hname]) trail
  rwa [hname] at hpath

/-- What some steps add to a path does not depend on the path. -/
theorem exists_pathFrom_eq_append (trail : List Step) :
    ∃ rest, ∀ base, base ≠ "" → pathFrom base trail = base ++ rest := by
  induction trail with
  | nil => exact ⟨"", fun base _ => String.append_empty.symm⟩
  | cons s trail ih =>
    obtain ⟨rest, hrest⟩ := ih
    refine ⟨"." ++ s.text ++ rest, fun base hbase => ?_⟩
    have hjoin : Field.joinPath base s.text = base ++ "." ++ s.text := by
      rw [Field.joinPath, if_neg (by rwa [String.isEmpty_iff])]
    have hne : base ++ "." ++ s.text ≠ "" := by
      intro hempty
      rw [String.append_assoc] at hempty
      exact hbase (String.append_eq_empty_iff.mp hempty).1
    rw [pathFrom_cons, hjoin, hrest _ hne]
    simp only [String.append_assoc]

end Step

namespace Schema

/-! ## A check is a walk -/

/-- What is reported at a position about the value there, where checking starts at a path. -/
def Visit.errorsFrom (base : String) (w : Visit) : List FieldError :=
  w.validator.ownErrors (Step.pathFrom base w.trail) w.value

theorem flatMap_errorsFrom_behind (base : String) (s : Step) (ws : List Visit) :
    (ws.map (Visit.behind s)).flatMap (Visit.errorsFrom base) =
      ws.flatMap (Visit.errorsFrom (Field.joinPath base s.text)) := by
  rw [List.flatMap_map]
  rfl

namespace Validator

theorem checkItems_eq_flatMap (check : String → Option Json → List FieldError) (path : String)
    (start : Nat) (items : List Json) :
    checkItems check path start items =
      (items.zipIdx start).flatMap fun (value, i) =>
        check (Field.joinPath path (Step.item i).text) (present (some value)) := by
  induction items generalizing start with
  | nil => rfl
  | cons value rest ih => rw [checkItems, List.zipIdx_cons, List.flatMap_cons, ih]; rfl

theorem checkFields_eq_flatMap (fields : List (String × Validator)) (path : String)
    (members : List (String × Json)) :
    checkFields fields path members =
      fields.flatMap fun (name, v) =>
        v.checkPresent (Field.joinPath path (Step.member name).text)
          (present (Json.lookup name members)) := by
  induction fields with
  | nil => rfl
  | cons entry rest ih => rw [checkFields, List.flatMap_cons, ih]; rfl

/-- Only lists and objects have positions inside them. -/
theorem visitsBelow_eq_nil (v : Validator) {x : Option Json}
    (harray : ∀ items, x ≠ some (.array items)) (hobject : ∀ members, x ≠ some (.object members)) :
    v.visitsBelow x = [] := by
  rw [List.eq_nil_iff_forall_not_mem]
  intro w hw
  obtain ⟨hne, -, hfollow⟩ := (mem_visitsBelow_iff v x w).mp hw
  obtain ⟨s, trail, htrail⟩ := List.exists_cons_of_ne_nil hne
  rw [htrail] at hfollow
  cases s with
  | member name =>
    obtain ⟨members, hx, -⟩ := Json.follow_member_eq_some_iff.mp hfollow
    exact hobject members hx
  | item i =>
    obtain ⟨items, value, hx, -⟩ := Json.follow_item_eq_some_iff.mp hfollow
    exact harray items hx

theorem visitsBelow_none (v : Validator) : v.visitsBelow none = [] :=
  v.visitsBelow_eq_nil (fun _ h => nomatch h) fun _ h => nomatch h

theorem visitsBelow_string (v : Validator) (s : String) : v.visitsBelow (some (.string s)) = [] :=
  v.visitsBelow_eq_nil (fun _ h => nomatch h) fun _ h => nomatch h

/-- What is wrong with a value is what is wrong with the value itself, and then what is wrong at the
positions inside it. -/
theorem checkPresent_eq_append (v : Validator) : ∀ path x,
    v.checkPresent path x =
      v.ownErrors path x ++ (v.visitsBelow x).flatMap (Visit.errorsFrom path) := by
  induction v using Validator.induction with
  | string | number | boolean | oneOf => exact fun path x => (List.append_nil _).symm
  | array item minItems message ih =>
    intro path x
    cases x with
    | none => rfl
    | some value =>
      cases value with
      | array items =>
        rw [checkPresent, ownErrors, checkItems_eq_flatMap, visitsBelow_array, List.flatMap_assoc]
        simp only [flatMap_errorsFrom_behind, visits, List.flatMap_cons, ih]
        rfl
      | null | bool | number | string | object => rfl
  | object fields ih =>
    intro path x
    cases x with
    | none => rfl
    | some value =>
      cases value with
      | object members =>
        rw [checkPresent, ownErrors, checkFields_eq_flatMap, visitsBelow_object,
          List.flatMap_assoc, List.nil_append]
        refine List.flatMap_congr ?_
        rintro ⟨name, v⟩ hentry
        rw [flatMap_errorsFrom_behind, visits, List.flatMap_cons]
        exact ih _ hentry _ _
      | null | bool | number | string | array => rfl
  | optional inner acceptsEmptyString ih =>
    intro path x
    cases x with
    | none =>
      rw [visitsBelow_none]
      rfl
    | some value =>
      cases value with
      | string s =>
        -- nothing is inside a text, so the own errors are all there are
        have hinner := ih path (some (.string s))
        rw [visitsBelow_string] at hinner
        rw [checkPresent, ownErrors, visitsBelow_string, hinner]
        by_cases hempty : (acceptsEmptyString && s = "") = true
        · rw [if_pos hempty, if_pos hempty]
          rfl
        · rw [if_neg hempty, if_neg hempty]
      | null | bool | number | array | object => exact ih path _

/-- What is wrong with a value is what is wrong at each position that is visited, in preorder. -/
theorem checkPresent_eq_flatMap (v : Validator) (path : String) (x : Option Json) :
    v.checkPresent path x = (v.visits x).flatMap (Visit.errorsFrom path) := by
  rw [checkPresent_eq_append, visits, List.flatMap_cons]
  rfl

end Validator

/-! ## Values that are followed -/

theorem present_present (x : Option Json) : present (present x) = present x := by
  cases x with
  | none => rfl
  | some value => cases value <;> rfl

end Schema

namespace Json

/-- What is found inside a value is null nowhere. -/
theorem present_of_follow {trail : List Step} {x y : Option Json} (hx : Schema.present x = x)
    (h : follow trail x = some y) : Schema.present y = y := by
  induction trail generalizing x with
  | nil => rwa [← Option.some.inj h]
  | cons s trail ih =>
    cases s with
    | member name =>
      obtain ⟨members, -, hrest⟩ := follow_member_eq_some_iff.mp h
      exact ih (Schema.present_present _) hrest
    | item i =>
      obtain ⟨items, value, -, -, hrest⟩ := follow_item_eq_some_iff.mp h
      exact ih (Schema.present_present _) hrest

/-- Each index on the way to a value is below the length of the list that is there. -/
theorem exists_array_of_follow {before after : List Step} {i : Nat} {x y : Option Json}
    (h : follow (before ++ .item i :: after) x = some y) :
    ∃ items, follow before x = some (some (.array items)) ∧ i < items.length := by
  induction before generalizing x with
  | nil =>
    obtain ⟨items, value, rfl, hvalue, -⟩ := follow_item_eq_some_iff.mp h
    exact ⟨items, rfl, (List.getElem?_eq_some_iff.mp hvalue).1⟩
  | cons s before ih =>
    cases s with
    | member name =>
      obtain ⟨members, hx, hrest⟩ := follow_member_eq_some_iff.mp h
      obtain ⟨items, hitems, hlt⟩ := ih hrest
      exact ⟨items, follow_member_eq_some_iff.mpr ⟨members, hx, hitems⟩, hlt⟩
    | item j =>
      obtain ⟨elements, value, hx, hvalue, hrest⟩ := follow_item_eq_some_iff.mp h
      obtain ⟨items, hitems, hlt⟩ := ih hrest
      exact ⟨items, follow_item_eq_some_iff.mpr ⟨elements, value, hx, hvalue, hitems⟩, hlt⟩

end Json

namespace Schema

/-! ## Another base path -/

/-- Two lists of errors differ only in that the paths of the one start with `q` where those of the
other start with `p`. -/
def Rebased (p q : String) : List FieldError → List FieldError → Prop :=
  List.Forall₂ fun e e' => ∃ rest, e.field = p ++ rest ∧ e' = { e with field := q ++ rest }

theorem Visit.rebased_errorsFrom {p q : String} (hp : p ≠ "") (hq : q ≠ "") (w : Visit) :
    Rebased p q (w.errorsFrom p) (w.errorsFrom q) := by
  obtain ⟨rest, hrest⟩ := Step.exists_pathFrom_eq_append w.trail
  rw [errorsFrom, errorsFrom, hrest p hp, hrest q hq,
    ← w.validator.map_moveTo_ownErrors (q ++ rest) (p ++ rest) w.value, Rebased,
    List.forall₂_map_right_iff, List.forall₂_same]
  exact fun e he => ⟨rest, w.validator.allAt_ownErrors _ _ e he, rfl⟩

/-- The path at which a check starts is nothing but a prefix of the paths of its errors. -/
theorem Validator.rebased_check {p q : String} (hp : p ≠ "") (hq : q ≠ "") (v : Validator)
    (x : Option Json) : Rebased p q (v.check p x) (v.check q x) := by
  rw [check, check, checkPresent_eq_flatMap, checkPresent_eq_flatMap]
  induction v.visits (present x) with
  | nil => exact .nil
  | cons w ws ih => exact List.rel_append (w.rebased_errorsFrom hp hq) ih

/-! ## The errors of a submission -/

namespace ValidationSchema

/-- The validator of whole submissions. -/
def root (schema : ValidationSchema) : Validator := .object schema.fields

/-- The positions of a submission that are checked, in preorder. -/
def visits (schema : ValidationSchema) (submission : Json) : List Visit :=
  schema.root.visits (present (some submission))

end ValidationSchema

/-- The path of a position. -/
def Visit.path (w : Visit) : String := Step.pathFrom "" w.trail

/-- The errors of a submission are located. -/
structure LocatesErrors (schema : ValidationSchema) (submission : Json) : Prop where
  /-- The errors are those of the values at the visited positions, one position after the other. -/
  errors_eq : (schema.validate submission).errors =
    (schema.visits submission).flatMap fun w => w.validator.ownErrors w.path w.value
  /-- What is visited is what can be reached in the schema and is there in the submission. -/
  mem_visits : ∀ w, w ∈ schema.visits submission ↔
    schema.root.Reaches w.trail w.validator ∧
      Json.follow w.trail (present (some submission)) = some w.value
  /-- The positions come in preorder. -/
  preorder : (schema.visits submission).Pairwise fun a b => schema.root.Before a.trail b.trail
  /-- Each error is at the path of a visited position, and the validator of this position rejects
  the value there for it, also taken alone. -/
  rejected : ∀ e ∈ (schema.validate submission).errors, ∃ w ∈ schema.visits submission,
    e.field = w.path ∧ e ∈ w.validator.check w.path w.value
  /-- Each index on the way to a visited position is below the length of the submitted list. -/
  index_lt : ∀ w ∈ schema.visits submission, ∀ before i after,
    w.trail = before ++ .item i :: after →
      ∃ items, Json.follow before (present (some submission)) = some (some (.array items)) ∧
        i < items.length
  /-- A value that is refused on its own account has an error at its path. -/
  reported : ∀ w ∈ schema.visits submission, w.validator.Refuses w.value →
    ∃ e ∈ (schema.validate submission).errors, e.field = w.path
  /-- The path of a position is the dotted one, as long as no top-level field has an empty name. -/
  path_eq : (∀ entry ∈ schema.fields, entry.1 ≠ "") → ∀ w ∈ schema.visits submission,
    w.path = Step.pathOf w.trail

theorem ValidationSchema.errors_eq_flatMap_visits (schema : ValidationSchema) (submission : Json) :
    (schema.validate submission).errors =
      (schema.visits submission).flatMap fun w => w.validator.ownErrors w.path w.value := by
  rw [validate, Validator.validate, ValidationResult.errors_ofErrors, Validator.check,
    Validator.checkPresent_eq_flatMap]
  rfl

theorem Visit.path_eq_pathOf {schema : ValidationSchema}
    (hnames : ∀ entry ∈ schema.fields, entry.1 ≠ "") {w : Visit}
    (h : schema.root.Reaches w.trail w.validator) : w.path = Step.pathOf w.trail := by
  obtain ⟨trail, u, y⟩ := w
  cases h with
  | here => rfl
  | member hentry => exact Step.pathFrom_empty (hnames _ hentry) _

/-- Errors are located, for every schema and every submission. What an error says does not depend on
where checking starts, and its path does so only in its prefix. -/
theorem errors_are_located :
    (∀ (schema : ValidationSchema) (submission : Json), LocatesErrors schema submission) ∧
    ∀ (v : Validator) (value : Json) (p q : String), p ≠ "" → q ≠ "" →
      Rebased p q (v.validate value p).errors (v.validate value q).errors := by
  constructor
  · intro schema submission
    have herrors := schema.errors_eq_flatMap_visits submission
    have hvisits : ∀ w, w ∈ schema.visits submission ↔ _ := fun w => Validator.mem_visits_iff
    refine ⟨herrors, hvisits, Validator.pairwise_visits _ _, ?rejected, ?index, ?reported, ?path⟩
    case rejected =>
      intro e he
      rw [herrors, List.mem_flatMap] at he
      obtain ⟨w, hw, he⟩ := he
      refine ⟨w, hw, w.validator.allAt_ownErrors _ _ e he, ?_⟩
      -- checking the value by itself starts with its own errors
      have hvalue := Json.present_of_follow (present_present _) ((hvisits w).mp hw).2
      rw [Validator.check, hvalue, Validator.checkPresent_eq_append]
      exact List.mem_append_left _ he
    case index =>
      intro w hw before i after htrail
      have hfollow := ((hvisits w).mp hw).2
      rw [htrail] at hfollow
      exact Json.exists_array_of_follow hfollow
    case reported =>
      intro w hw hrefuses
      have hown : w.validator.ownErrors w.path w.value ≠ [] :=
        fun hnil => (w.validator.ownErrors_eq_nil_iff _ _).mp hnil hrefuses
      obtain ⟨e, he⟩ := List.exists_mem_of_ne_nil _ hown
      refine ⟨e, ?_, w.validator.allAt_ownErrors _ _ e he⟩
      rw [herrors]
      exact List.mem_flatMap.mpr ⟨w, hw, he⟩
    case path =>
      intro hnames w hw
      exact Visit.path_eq_pathOf hnames ((hvisits w).mp hw).1
  · intro v value p q hp hq
    exact v.rebased_check hp hq (some value)

/-- A list whose items hold a list of objects. -/
def leagueForm : Form :=
  ⟨"League",
    [⟨⟨"teams", .known .array, "Team", true, none, [], none, none, none⟩,
        [.leaf ⟨"city", .known .text, "City", true, none, [], none, none, none⟩,
          ⟨⟨"players", .known .array, "Player", true, none, [], none, none, none⟩,
            [.leaf ⟨"name", .known .text, "Name", true, none, [], none, none, none⟩,
              .leaf ⟨"shirt", .known .number, "Shirt", false, none, [], none, none, none⟩]⟩]⟩]⟩

/-- A submission with errors at different depths: a wrong number and an empty name of players of the
first team, no city and no players in the last one. -/
def leagueSubmission : Json :=
  .object
    [("teams", .array
      [.object
        [("players", .array
          [.object [("shirt", .string "nine"), ("name", .string "Ada")],
            .object [("name", .string ""), ("shirt", .null)]]),
          ("city", .string "Oslo")],
        .object [("players", .array [])]])]

/-- Each of the four errors is at the dotted path of its position. The empty list of players is
reported, and checking the submission elsewhere only changes the prefix of the paths. -/
theorem leagueForm_errors_are_located :
    ∃ schema, ValidationSchema.ofForm leagueForm = .ok schema ∧
      (schema.validate leagueSubmission).errors.map (·.field) =
        ["teams.0.players.0.shirt", "teams.0.players.1.name", "teams.1.city",
          "teams.1.players"] ∧
      (∀ e ∈ (schema.validate leagueSubmission).errors, ∃ w ∈ schema.visits leagueSubmission,
        e.field = Step.pathOf w.trail ∧ e ∈ w.validator.check w.path w.value) ∧
      Rebased "old" "new" (schema.root.validate leagueSubmission "old").errors
        (schema.root.validate leagueSubmission "new").errors := by
  obtain ⟨schema, hschema⟩ : ∃ schema, ValidationSchema.ofForm leagueForm = .ok schema := ⟨_, rfl⟩
  obtain ⟨hlocated, hrebased⟩ := errors_are_located
  have hleague := hlocated schema leagueSubmission
  have hnames : ∀ entry ∈ schema.fields, entry.1 ≠ "" := by
    cases hschema
    decide
  refine ⟨schema, hschema, ?_, ?_, hrebased _ _ _ _ (by decide) (by decide)⟩
  · cases hschema
    decide +kernel
  · intro e he
    obtain ⟨w, hw, hfield, hchecked⟩ := hleague.rejected e he
    exact ⟨w, hw, hfield.trans (hleague.path_eq hnames w hw), hchecked⟩

end Schema

end WebForm
