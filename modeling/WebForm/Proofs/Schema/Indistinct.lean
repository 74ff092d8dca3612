import Mathlib.Data.List.Forall2
import WebForm.Proofs.Json.Members
import WebForm.Proofs.Schema.Located
import WebForm.Proofs.Schema.Untouched
/-!
# Submissions that a schema cannot tell apart

What is reported about a submission depends on the values of declared fields only. Two values are
*alike* for a validator if they are the same wherever the validator looks: absent members are as
good as null ones, members that are not declared do not count, and neither does the order in which
members are written. `Validator.Alike` says this by recursion on the values, without a word about
errors, and `validate_eq_of_alike` says that alike submissions have the same result: the same
errors, in the same order.

Three ways of rewriting an object follow, at any depth of a submission: a member is added whose name
is not declared there, the members are put into another order, or a null member is removed.
-/

set_option autoImplicit false

namespace WebForm

open Schema

namespace Schema.Validator

/-! ## Alike values -/

/-- The entries that an object is checked against, required or not. -/
def entries : Validator → List (String × Validator)
  | .object fields => fields
  | .optional inner _ => inner.entries
  | .string _ | .number _ | .boolean _ | .oneOf _ _ | .array _ _ _ => []

/-- Two values that are the same wherever a validator looks, `none` being an absent value. Lists are
looked into only where a list is asked for, and objects only at the names that are declared. -/
inductive Alike : Validator → Option Json → Option Json → Prop
  | same (v : Validator) (x : Option Json) : Alike v x x
  /-- What is absent and what is null are the same to all validators. -/
  | missing {v : Validator} {x y : Option Json} (hx : present x = none) (hy : present y = none) :
      Alike v x y
  | items {v : Validator} {xs ys : List Json}
      (hlength : ∀ item, v.item? = some item → xs.length = ys.length)
      (h : ∀ item, v.item? = some item →
        ∀ x y, (x, y) ∈ xs.zip ys → Alike item (some x) (some y)) :
      Alike v (some (.array xs)) (some (.array ys))
  | members {v : Validator} {ms ns : List (String × Json)}
      (h : ∀ name u, (name, u) ∈ v.entries →
        Alike u (Json.lookup name ms) (Json.lookup name ns)) :
      Alike v (some (.object ms)) (some (.object ns))

theorem checkItems_eq_of_alike {item : Validator}
    (ih : ∀ x y, item.Alike x y → ∀ path,
      item.checkPresent path (present x) = item.checkPresent path (present y))
    {xs ys : List Json} (hlength : xs.length = ys.length)
    (h : ∀ x y, (x, y) ∈ xs.zip ys → item.Alike (some x) (some y)) (path : String) (start : Nat) :
    checkItems item.checkPresent path start xs = checkItems item.checkPresent path start ys := by
  have hpairs : List.Forall₂ (fun x y => item.Alike (some x) (some y)) xs ys :=
    List.forall₂_iff_zip.mpr ⟨hlength, fun {x y} => h x y⟩
  clear hlength h
  induction hpairs generalizing start with
  | nil => rfl
  | cons hfirst _ ihrest => rw [checkItems, checkItems, ih _ _ hfirst, ihrest]

theorem checkFields_eq_of_alike {fields : List (String × Validator)}
    (ih : ∀ entry ∈ fields, ∀ x y, entry.2.Alike x y → ∀ path,
      entry.2.checkPresent path (present x) = entry.2.checkPresent path (present y))
    {ms ns : List (String × Json)}
    (h : ∀ name u, (name, u) ∈ fields → u.Alike (Json.lookup name ms) (Json.lookup name ns))
    (path : String) : checkFields fields path ms = checkFields fields path ns := by
  induction fields with
  | nil => rfl
  | cons entry rest ihrest =>
    obtain ⟨name, u⟩ := entry
    rw [List.forall_mem_cons] at ih
    have hfirst := ih.1 _ _ (h name u List.mem_cons_self) (Field.joinPath path name)
    have hrest := ihrest ih.2 fun name u hentry => h name u (List.mem_cons_of_mem _ hentry)
    rw [checkFields, checkFields, hfirst, hrest]

/-- Values of the wrong shape are refused for their shape: what is inside a list or an object does
not matter to a validator of single values. -/
theorem checkPresent_eq_of_alike_leaf {v : Validator} {x y : Option Json}
    (hlist : ∀ path xs ys,
      v.checkPresent path (some (.array xs)) = v.checkPresent path (some (.array ys)))
    (hobject : ∀ path ms ns,
      v.checkPresent path (some (.object ms)) = v.checkPresent path (some (.object ns)))
    (h : v.Alike x y) (path : String) :
    v.checkPresent path (present x) = v.checkPresent path (present y) := by
  cases h with
  | same => rfl
  | missing hx hy => rw [hx, hy]
  | items => exact hlist path _ _
  | members => exact hobject path _ _

/-- A validator has the same against alike values. -/
theorem checkPresent_eq_of_alike (v : Validator) : ∀ x y, v.Alike x y → ∀ path,
    v.checkPresent path (present x) = v.checkPresent path (present y) := by
  induction v using Validator.induction with
  | string | number | boolean | oneOf =>
    intro x y h path
    exact checkPresent_eq_of_alike_leaf (fun _ _ _ => rfl) (fun _ _ _ => rfl) h path
  | array item minItems message ih =>
    intro x y h path
    cases h with
    | same => rfl
    | missing hx hy => rw [hx, hy]
    | members => rfl
    | items hlength hitems =>
      show failIf _ _ ++ checkItems _ _ _ _ = failIf _ _ ++ checkItems _ _ _ _
      rw [hlength item rfl, checkItems_eq_of_alike ih (hlength item rfl) (hitems item rfl)]
  | object fields ih =>
    intro x y h path
    cases h with
    | same => rfl
    | missing hx hy => rw [hx, hy]
    | items => rfl
    | members hmembers => exact checkFields_eq_of_alike ih hmembers path
  | optional inner acceptsEmptyString ih =>
    intro x y h path
    cases h with
    | same => rfl
    | missing hx hy => rw [hx, hy]
    -- what is optional looks where its inner validator looks
    | items hlength hitems => exact ih _ _ (.items hlength hitems) path
    | members hmembers => exact ih _ _ (.members hmembers) path

end Schema.Validator

/-! ## Rewriting an object -/

namespace Json

/-- The members of an object are rewritten without a change to those that are asked for, where a
null member is as good as none. -/
inductive Harmless (asked : String → Prop) :
    List (String × Json) → List (String × Json) → Prop
  /-- A member that is not asked for is added. -/
  | unknown {name : String} (before after : List (String × Json)) (value : Json)
      (h : ¬ asked name) : Harmless asked (before ++ after) (before ++ (name, value) :: after)
  /-- The members of an object, which have distinct names, are put into another order. -/
  | reorder {ms ns : List (String × Json)} (h : ms.Perm ns) (hnodup : (ms.map Prod.fst).Nodup) :
      Harmless asked ms ns
  /-- A null member is removed, and no other one has its name. -/
  | null {name : String} (before after : List (String × Json))
      (h : name ∉ (before ++ after).map Prod.fst) :
      Harmless asked (before ++ (name, .null) :: after) (before ++ after)

/-- One value is another one in which the object at the end of some steps has been changed. -/
inductive ChangedAt (change : List (String × Json) → List (String × Json) → Prop) :
    List Step → Json → Json → Prop
  | here {ms ns : List (String × Json)} (h : change ms ns) :
      ChangedAt change [] (.object ms) (.object ns)
  | member {trail : List Step} {x y : Json} (before after : List (String × Json)) (name : String)
      (h : ChangedAt change trail x y) :
      ChangedAt change (.member name :: trail) (.object (before ++ (name, x) :: after))
        (.object (before ++ (name, y) :: after))
  | item {trail : List Step} {x y : Json} (before after : List Json)
      (h : ChangedAt change trail x y) :
      ChangedAt change (.item before.length :: trail) (.array (before ++ x :: after))
        (.array (before ++ y :: after))

/-- After a harmless change the same is found under every name that is asked for, or nothing and
null. -/
theorem Harmless.lookup {asked : String → Prop} {ms ns : List (String × Json)}
    (h : Harmless asked ms ns) {name : String} (hasked : asked name) :
    Json.lookup name ms = Json.lookup name ns ∨
      Schema.present (Json.lookup name ms) = none ∧
        Schema.present (Json.lookup name ns) = none := by
  cases h with
  | @unknown key before after value hkey =>
    have hne : key ≠ name := by
      rintro rfl
      exact hkey hasked
    exact .inl (by rw [lookup_append, lookup_append, lookup_cons_ne hne])
  | reorder hperm hnodup => exact .inl (lookup_eq_of_perm hperm hnodup name)
  | @null key before after hkey =>
    by_cases hname : key = name
    · subst hname
      have hnone := lookup_eq_none_iff.mpr hkey
      rw [lookup_append, Option.or_eq_none_iff] at hnone
      refine .inr ⟨?_, ?_⟩
      · rw [lookup_append, hnone.1, lookup_cons_self]
        rfl
      · rw [lookup_append, hnone.1, hnone.2]
        rfl
    · exact .inl (by rw [lookup_append, lookup_append, lookup_cons_ne hname])

end Json

namespace Schema.Validator

/-- A member of some name is asked for in the object at the end of some steps. -/
def AsksAt (v : Validator) (trail : List Step) (name : String) : Prop :=
  ∃ u, v.Reaches trail u ∧ name ∈ u.entries.map Prod.fst

section
variable {v u : Validator} {trail : List Step}

/-- The members of an object are reached through the entries of its validator. -/
theorem reaches_member_of_mem_entries {name : String} (hentry : (name, u) ∈ v.entries)
    {w : Validator} (h : u.Reaches trail w) : v.Reaches (.member name :: trail) w := by
  induction v using Validator.induction with
  | string | number | boolean | oneOf | array => cases hentry
  | object fields => exact .member hentry h
  | optional inner acceptsEmptyString ih => exact .optional (ih hentry)

/-- The items of a list are reached through the validator of its items. -/
theorem reaches_item_of_item? (hitem : v.item? = some u) (i : Nat) {w : Validator}
    (h : u.Reaches trail w) : v.Reaches (.item i :: trail) w := by
  induction v using Validator.induction with
  | string | number | boolean | oneOf | object => cases hitem
  | array item minItems message =>
    obtain rfl := Option.some.inj hitem
    exact .item i h
  | optional inner acceptsEmptyString ih => exact .optional (ih hitem)

end

/-- A list in which one item has been replaced by an alike one. -/
theorem alike_zip_replace {item : Validator} {x y : Json} (h : item.Alike (some x) (some y))
    (before after : List Json) :
    ∀ a b, (a, b) ∈ (before ++ x :: after).zip (before ++ y :: after) →
      item.Alike (some a) (some b) := by
  have hsame : ∀ xs : List Json,
      List.Forall₂ (fun a b => item.Alike (some a) (some b)) xs xs :=
    fun xs => List.forall₂_same.mpr fun a _ => .same item (some a)
  have hpairs : List.Forall₂ (fun a b => item.Alike (some a) (some b)) (before ++ x :: after)
      (before ++ y :: after) := List.rel_append (hsame before) (.cons h (hsame after))
  exact fun a b => (List.forall₂_iff_zip.mp hpairs).2

/-- What is found under a name that has been given an alike value. -/
theorem alike_lookup_replace {u : Validator} {name key : String} {x y : Json}
    (h : key = name → u.Alike (some x) (some y)) (before after : List (String × Json)) :
    u.Alike (Json.lookup key (before ++ (name, x) :: after))
      (Json.lookup key (before ++ (name, y) :: after)) := by
  rw [Json.lookup_append, Json.lookup_append]
  cases Json.lookup key before with
  | some value => exact .same u _
  | none =>
    rw [Option.none_or, Option.none_or]
    by_cases hkey : key = name
    · subst hkey
      rw [Json.lookup_cons_self, Json.lookup_cons_self]
      exact h rfl
    · rw [Json.lookup_cons_ne (Ne.symm hkey), Json.lookup_cons_ne (Ne.symm hkey)]
      exact .same u _

/-- Values that differ by a change of one object are alike, if the change is harmless to all members
that are asked for there. -/
theorem alike_of_changedAt {asked : String → Prop} {trail : List Step} {x y : Json}
    (h : Json.ChangedAt (Json.Harmless asked) trail x y) {v : Validator}
    (hasked : ∀ name, v.AsksAt trail name → asked name) : v.Alike (some x) (some y) := by
  induction h generalizing v with
  | here hchange =>
    refine .members fun name u hentry => ?_
    have hname : asked name := hasked name ⟨v, .here v, List.mem_map_of_mem hentry⟩
    rcases hchange.lookup hname with hsame | ⟨hx, hy⟩
    · rw [hsame]
      exact .same u _
    · exact .missing hx hy
  | member before after name _ ih =>
    refine .members fun key u hentry => alike_lookup_replace ?_ before after
    rintro rfl
    refine ih fun other hother => hasked other ?_
    obtain ⟨w, hreach, hmem⟩ := hother
    exact ⟨w, reaches_member_of_mem_entries hentry hreach, hmem⟩
  | item before after _ ih =>
    refine .items (fun _ _ => by simp) fun item hitem => ?_
    refine alike_zip_replace (ih fun name hname => ?_) before after
    obtain ⟨w, hreach, hmem⟩ := hname
    exact hasked name ⟨w, reaches_item_of_item? hitem before.length hreach, hmem⟩

end Schema.Validator

namespace Schema.ValidationSchema

theorem validate_eq_of_alike {schema : ValidationSchema} {v w : Json}
    (h : schema.root.Alike (some v) (some w)) : schema.validate v = schema.validate w := by
  have hcheck := schema.root.checkPresent_eq_of_alike _ _ h ""
  rw [validate, validate, Validator.validate, Validator.validate]
  exact congrArg ValidationResult.ofErrors hcheck

/-- **Validation depends on the values of declared fields only.** Submissions that are alike for a
schema have the same result, errors in the same order included. In particular a submission has the
same result after one of its objects has been rewritten, wherever the object is: by a member that no
schema of an object asks for at this place, by another order of the members, or by the removal of a
null member. -/
theorem validate_eq_of_same_declared (schema : ValidationSchema) (v w : Json) :
    (schema.root.Alike (some v) (some w) → schema.validate v = schema.validate w) ∧
      ∀ trail, Json.ChangedAt (Json.Harmless (schema.root.AsksAt trail)) trail v w →
        schema.validate v = schema.validate w := by
  refine ⟨validate_eq_of_alike, fun trail h => ?_⟩
  exact validate_eq_of_alike (Validator.alike_of_changedAt h fun _ hname => hname)

/-- A team in Oslo with two players, the second of whom has no name. -/
def teamOfOslo (second : List (String × Json)) : Json :=
  .object
    [("players", .array
      [.object [("shirt", .string "nine"), ("name", .string "Ada")], .object second]),
      ("city", .string "Oslo")]

/-- A submission has the same errors with a member that nobody asked for, and with the members of a
team in another order and a city that is null instead of absent. It also has them without the null
shirt of a player, deep inside. -/
theorem leagueForm_validate_same_declared :
    ∃ schema, ofForm leagueForm = .ok schema ∧
      (schema.validate leagueSubmission).errors.map (·.field) =
        ["teams.0.players.0.shirt", "teams.0.players.1.name", "teams.1.city",
          "teams.1.players"] ∧
      schema.validate leagueSubmission =
        schema.validate (.object
          [("season", .number (.ofInt 3)),
            ("teams", .array
              [teamOfOslo [("name", .string ""), ("shirt", .null)],
                .object [("city", .null), ("players", .array [])]])]) ∧
      schema.validate leagueSubmission =
        schema.validate (.object
          [("teams", .array
            [teamOfOslo [("name", .string "")], .object [("players", .array [])]])]) := by
  obtain ⟨schema, hschema⟩ : ∃ schema, ofForm leagueForm = .ok schema := ⟨_, rfl⟩
  refine ⟨schema, hschema, ?_, (validate_eq_of_same_declared schema _ _).1 ?_,
    (validate_eq_of_same_declared schema _ _).2
      [.member "teams", .item 0, .member "players", .item 1] ?_⟩
  · cases hschema
    decide +kernel
  · cases hschema
    refine .members fun name u hentry => ?_
    obtain ⟨rfl, rfl⟩ := Prod.mk.inj (List.mem_singleton.mp hentry)
    refine .items (fun _ _ => rfl) fun team hteam x y hxy => ?_
    obtain rfl := Option.some.inj hteam
    rcases List.mem_pair.mp hxy with hxy | hxy <;> obtain ⟨rfl, rfl⟩ := Prod.mk.inj hxy
    · exact .same _ _
    · refine .members fun name u hentry => ?_
      rcases List.mem_pair.mp hentry with hentry | hentry <;>
        obtain ⟨rfl, rfl⟩ := Prod.mk.inj hentry
      -- no city on the one side, null on the other; no players on both
      · exact .missing rfl rfl
      · exact .same _ _
  · exact .member [] [] "teams" (.item [] [.object [("players", .array [])]]
      (.member [] [("city", .string "Oslo")] "players"
        (.item [.object [("shirt", .string "nine"), ("name", .string "Ada")]] []
          (.here (.null [("name", .string "")] [] (by decide))))))

end Schema.ValidationSchema

end WebForm
