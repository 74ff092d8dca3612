import WebForm.Proofs.Schema.Acceptance
import WebForm.Proofs.Schema.Visit
/-!
# What is wrong with a value itself

`v.Refuses x` says that a validator has something against a value on the value's own account,
whatever is inside it: the value is missing or of the wrong type, a bound or another rule is broken,
it is none of the options, or it has too few items. Each way to be refused is a rule of the
relation, which knows nothing of messages and paths.

`v.ownErrors path x` are the errors that a validator reports about the value itself. There are some
exactly if the value is refused, all of them are at the path, and their messages and codes do not
depend on it.
-/

set_option autoImplicit false

namespace WebForm.Schema

/-! ## Refused values -/

/-- A text breaks one of the rules for texts. -/
inductive StringRules.BrokenBy (rules : StringRules) (s : String) : Prop
  | short {n : UInt64} (hn : rules.minLength = some n) (h : s.length < n.toNat)
  | long {n : UInt64} (hn : rules.maxLength = some n) (h : n.toNat < s.length)
  | email (hrule : rules.email = true) (h : isEmail s = false)
  | pattern {p : Pattern} (hp : rules.pattern = some p) (h : p.occursIn s = false)

/-- A number breaks one of the rules for numbers. -/
inductive NumberRules.BrokenBy (rules : NumberRules) (n : Double) : Prop
  | small {bound : Double} (hbound : rules.min = some bound) (h : n.key < bound.key)
  | great {bound : Double} (hbound : rules.max = some bound) (h : bound.key < n.key)

namespace Validator

/-- A validator refuses a value on the value's own account, `none` being no value. -/
inductive Refuses : Validator → Option Json → Prop
  /-- A text is missing or left empty. -/
  | textMissing {rules : StringRules} {x : Option Json} (h : x = none ∨ x = some (.string "")) :
      Refuses (.string rules) x
  | textType {rules : StringRules} {v : Json} (h : ∀ s, v ≠ .string s) :
      Refuses (.string rules) (some v)
  | textRule {rules : StringRules} {s : String} (hs : s ≠ "") (h : rules.BrokenBy s) :
      Refuses (.string rules) (some (.string s))
  | numberMissing {rules : NumberRules} : Refuses (.number rules) none
  /-- A value is no number and spells none, as the empty text. -/
  | numberType {rules : NumberRules} {v : Json} (h : ∀ n, ¬ v.Spells n) :
      Refuses (.number rules) (some v)
  | numberRule {rules : NumberRules} {v : Json} {n : Double} (hn : v.Spells n)
      (h : rules.BrokenBy n) : Refuses (.number rules) (some v)
  | booleanMissing {mustBeChecked : Option String} : Refuses (.boolean mustBeChecked) none
  | booleanType {mustBeChecked : Option String} {v : Json} (h : ∀ b, v ≠ .bool b) :
      Refuses (.boolean mustBeChecked) (some v)
  | unchecked {message : String} : Refuses (.boolean (some message)) (some (.bool false))
  | optionMissing {label : String} {options : List String} : Refuses (.oneOf label options) none
  | noOption {label : String} {options : List String} {v : Json}
      (h : ∀ option ∈ options, v ≠ .string option) : Refuses (.oneOf label options) (some v)
  | listMissing {item : Validator} {minItems : UInt64} {message : String} :
      Refuses (.array item minItems message) none
  | listType {item : Validator} {minItems : UInt64} {message : String} {v : Json}
      (h : ∀ items, v ≠ .array items) : Refuses (.array item minItems message) (some v)
  | tooFewItems {item : Validator} {minItems : UInt64} {message : String} {items : List Json}
      (h : items.length < minItems.toNat) :
      Refuses (.array item minItems message) (some (.array items))
  /-- A value that is missing or is no object. -/
  | noObject {fields : List (String × Validator)} {x : Option Json}
      (h : ∀ members, x ≠ some (.object members)) : Refuses (.object fields) x
  /-- What is optional may be missing, and empty where this counts as missing. -/
  | optional {inner : Validator} {acceptsEmptyString : Bool} {v : Json}
      (hempty : ¬ (acceptsEmptyString = true ∧ v = .string "")) (h : Refuses inner (some v)) :
      Refuses (.optional inner acceptsEmptyString) (some v)

/-! ## Own errors -/

/-- What a validator reports about a value itself. -/
def ownErrors : Validator → String → Option Json → List FieldError
  | .array _ minItems message, path, x =>
    match x with
    | none => [.minItems path message]
    | some (.array items) => failIf (items.length < minItems.toNat) (.minItems path message)
    | some _ => [.invalidType path "a list"]
  | .object _, path, x =>
    match x with
    | some (.object _) => []
    | _ => [.invalidType path "an object"]
  | .optional inner acceptsEmptyString, path, x =>
    match x with
    | none => []
    | some (.string s) =>
      if acceptsEmptyString && s = "" then [] else inner.ownErrors path (some (.string s))
    | some v => inner.ownErrors path (some v)
  | .string rules, path, x => rules.check path x
  | .number rules, path, x => rules.check path x
  | .boolean mustBeChecked, path, x => (boolean mustBeChecked).checkPresent path x
  | .oneOf label options, path, x => checkOption label options path x
termination_by structural v => v

end Validator

/-! ## Own errors are those of refused values -/

theorem StringRules.errorsOf_eq_nil_iff {rules : StringRules} {path s : String} :
    rules.errorsOf path s = [] ↔ ¬ rules.BrokenBy s := by
  rw [errorsOf, List.append_eq_nil_iff, List.append_eq_nil_iff, List.append_eq_nil_iff,
    failRule_eq_nil_iff, failRule_eq_nil_iff, failIf_eq_nil_iff, failRule_eq_nil_iff]
  simp only [decide_eq_false_iff_not, Bool.and_eq_false_iff, Bool.not_eq_false']
  constructor
  · rintro ⟨⟨⟨hleast, hmost⟩, hemail⟩, hpattern⟩ hbroken
    cases hbroken with
    | short hn h => exact hleast _ hn h
    | long hn h => exact hmost _ hn h
    | email hrule h => simp [hrule, h] at hemail
    | pattern hp h => simp [hpattern _ hp] at h
  · intro hkept
    refine ⟨⟨⟨fun n hn h => hkept (.short hn h), fun n hn h => hkept (.long hn h)⟩, ?_⟩, ?_⟩
    · by_contra hemail
      simp only [not_or, Bool.not_eq_false, Bool.not_eq_true] at hemail
      exact hkept (.email hemail.1 hemail.2)
    · intro p hp
      by_contra hpattern
      exact hkept (.pattern hp (Bool.eq_false_iff.mpr hpattern))

theorem NumberRules.errorsOf_eq_nil_iff {rules : NumberRules} {path : String} {n : Double} :
    rules.errorsOf path n = [] ↔ ¬ rules.BrokenBy n := by
  rw [errorsOf, List.append_eq_nil_iff, failRule_eq_nil_iff, failRule_eq_nil_iff]
  simp only [Double.less, decide_eq_false_iff_not]
  constructor
  · rintro ⟨hleast, hmost⟩ hbroken
    cases hbroken with
    | small hbound h => exact hleast _ hbound h
    | great hbound h => exact hmost _ hbound h
  · intro hkept
    exact ⟨fun b hb h => hkept (.small hb h), fun b hb h => hkept (.great hb h)⟩

namespace Validator

theorem string_ownErrors_eq_nil_iff {rules : StringRules} {path : String} {x : Option Json} :
    (string rules).ownErrors path x = [] ↔ ¬ (string rules).Refuses x := by
  rw [ownErrors]
  cases x with
  | none => exact iff_of_false (List.cons_ne_nil _ _) (not_not_intro (.textMissing (.inl rfl)))
  | some v =>
    rw [StringRules.check_some_eq_nil_iff]
    simp only [StringRules.errorsOf_eq_nil_iff]
    constructor
    · rintro ⟨s, rfl, hs, hkept⟩ hrefuses
      cases hrefuses with
      | textMissing h => simp [hs] at h
      | textType h => exact h s rfl
      | textRule _ h => exact hkept h
    · intro haccepts
      by_cases htext : ∃ s, v = .string s
      · obtain ⟨s, rfl⟩ := htext
        have hs : s ≠ "" := fun hempty => haccepts (.textMissing (.inr (by rw [hempty])))
        exact ⟨s, rfl, hs, fun h => haccepts (.textRule hs h)⟩
      · exact absurd (.textType fun s hs => htext ⟨s, hs⟩) haccepts

theorem number_ownErrors_eq_nil_iff {rules : NumberRules} {path : String} {x : Option Json} :
    (number rules).ownErrors path x = [] ↔ ¬ (number rules).Refuses x := by
  rw [ownErrors]
  cases x with
  | none => exact iff_of_false (List.cons_ne_nil _ _) (not_not_intro .numberMissing)
  | some v =>
    rw [NumberRules.check_some_eq_nil_iff]
    simp only [NumberRules.errorsOf_eq_nil_iff]
    constructor
    · rintro ⟨n, hn, hkept⟩ hrefuses
      cases hrefuses with
      | numberType h => exact h n hn
      | numberRule hm h =>
        -- a value spells one number at most
        have hsame := (coerceNumber_eq_some_iff.mpr hn).symm.trans (coerceNumber_eq_some_iff.mpr hm)
        exact hkept (Option.some.inj hsame ▸ h)
    · intro haccepts
      by_cases hnumber : ∃ n, v.Spells n
      · obtain ⟨n, hn⟩ := hnumber
        exact ⟨n, hn, fun h => haccepts (.numberRule hn h)⟩
      · exact absurd (.numberType fun n hn => hnumber ⟨n, hn⟩) haccepts

theorem boolean_ownErrors_eq_nil_iff {mustBeChecked : Option String} {path : String}
    {x : Option Json} :
    (boolean mustBeChecked).ownErrors path x = [] ↔ ¬ (boolean mustBeChecked).Refuses x := by
  rw [ownErrors]
  cases x with
  | none =>
    refine iff_of_false ?_ (not_not_intro .booleanMissing)
    cases mustBeChecked <;> exact List.cons_ne_nil _ _
  | some v =>
    rw [checkPresent, Option.isNone_some, Bool.false_and, if_neg Bool.false_ne_true,
      checkBoolean_some_eq_nil_iff]
    constructor
    · rintro haccepts hrefuses
      cases hrefuses with
      | booleanType h => rcases haccepts with rfl | ⟨rfl, -⟩ <;> exact h _ rfl
      | unchecked => simp at haccepts
    · intro haccepts
      by_cases hboolean : ∃ b, v = .bool b
      · obtain ⟨b, rfl⟩ := hboolean
        cases b with
        | true => exact .inl rfl
        | false =>
          cases mustBeChecked with
          | none => exact .inr ⟨rfl, rfl⟩
          | some message => exact absurd .unchecked haccepts
      · exact absurd (.booleanType fun b hb => hboolean ⟨b, hb⟩) haccepts

theorem oneOf_ownErrors_eq_nil_iff {label path : String} {options : List String}
    {x : Option Json} :
    (oneOf label options).ownErrors path x = [] ↔ ¬ (oneOf label options).Refuses x := by
  rw [ownErrors]
  cases x with
  | none => exact iff_of_false (List.cons_ne_nil _ _) (not_not_intro .optionMissing)
  | some v =>
    rw [checkOption_some_eq_nil_iff]
    constructor
    · rintro ⟨option, hoption, rfl⟩ hrefuses
      cases hrefuses with
      | noOption h => exact h option hoption rfl
    · intro haccepts
      by_contra hnone
      exact haccepts (.noOption fun option hoption h => hnone ⟨option, hoption, h⟩)

theorem array_ownErrors_eq_nil_iff {item : Validator} {minItems : UInt64} {message path : String}
    {x : Option Json} :
    (array item minItems message).ownErrors path x = [] ↔
      ¬ (array item minItems message).Refuses x := by
  cases x with
  | none => exact iff_of_false (List.cons_ne_nil _ _) (not_not_intro .listMissing)
  | some v =>
    cases v with
    | array items =>
      rw [ownErrors, failIf_eq_nil_iff, decide_eq_false_iff_not, not_iff_not]
      constructor
      · exact .tooFewItems
      · intro hrefuses
        cases hrefuses with
        | listType h => exact absurd rfl (h items)
        | tooFewItems h => exact h
    | null | bool | number | string | object =>
      refine iff_of_false (List.cons_ne_nil _ _) (not_not_intro (.listType ?_))
      exact fun items h => nomatch h

theorem object_ownErrors_eq_nil_iff {fields : List (String × Validator)} {path : String}
    {x : Option Json} :
    (object fields).ownErrors path x = [] ↔ ¬ (object fields).Refuses x := by
  cases x with
  | none => exact iff_of_false (List.cons_ne_nil _ _) (not_not_intro (.noObject fun _ h => nomatch h))
  | some v =>
    cases v with
    | object members =>
      refine iff_of_true rfl fun hrefuses => ?_
      cases hrefuses with
      | noObject h => exact h members rfl
    | null | bool | number | string | array =>
      refine iff_of_false (List.cons_ne_nil _ _) (not_not_intro (.noObject ?_))
      exact fun members h => nomatch h

theorem optional_ownErrors_eq_nil_iff {inner : Validator} {acceptsEmptyString : Bool}
    {path : String} {x : Option Json}
    (ih : ∀ x, inner.ownErrors path x = [] ↔ ¬ inner.Refuses x) :
    (optional inner acceptsEmptyString).ownErrors path x = [] ↔
      ¬ (optional inner acceptsEmptyString).Refuses x := by
  cases x with
  | none => exact iff_of_true rfl fun hrefuses => nomatch hrefuses
  | some v =>
    have hown : (optional inner acceptsEmptyString).ownErrors path (some v) = [] ↔
        (acceptsEmptyString = true ∧ v = .string "") ∨ inner.ownErrors path (some v) = [] := by
      cases v with
      | string s => by_cases hs : s = "" <;> cases acceptsEmptyString <;> simp [ownErrors, hs]
      | null | bool | number | array | object => simp [ownErrors]
    rw [hown, ih]
    constructor
    · rintro haccepts hrefuses
      cases hrefuses with
      | optional hempty h => exact haccepts.elim hempty (absurd h)
    · intro haccepts
      by_contra hneither
      rw [not_or, not_not] at hneither
      exact haccepts (.optional hneither.1 hneither.2)

/-- A validator reports something about a value itself if and only if it refuses the value. -/
theorem ownErrors_eq_nil_iff (v : Validator) : ∀ path x,
    v.ownErrors path x = [] ↔ ¬ v.Refuses x := by
  induction v using Validator.induction with
  | string rules => exact fun _ _ => string_ownErrors_eq_nil_iff
  | number rules => exact fun _ _ => number_ownErrors_eq_nil_iff
  | boolean mustBeChecked => exact fun _ _ => boolean_ownErrors_eq_nil_iff
  | oneOf label options => exact fun _ _ => oneOf_ownErrors_eq_nil_iff
  | array item minItems message ih => exact fun _ _ => array_ownErrors_eq_nil_iff
  | object fields ih => exact fun _ _ => object_ownErrors_eq_nil_iff
  | optional inner acceptsEmptyString ih =>
    exact fun path _ => optional_ownErrors_eq_nil_iff (ih path)

end Validator

/-! ## Own errors at another path -/

namespace Validator

/-- Own errors at one path are the own errors at any other, moved there. -/
theorem map_moveTo_ownErrors (v : Validator) : ∀ path other x,
    (v.ownErrors other x).map (FieldError.moveTo path) = v.ownErrors path x := by
  induction v using Validator.induction with
  | string rules => exact fun _ _ x => rules.map_moveTo_check x
  | number rules => exact fun _ _ x => rules.map_moveTo_check x
  | boolean mustBeChecked => exact fun _ _ x => map_moveTo_boolean mustBeChecked x
  | oneOf label options => exact fun _ _ x => map_moveTo_checkOption label options x
  | array item minItems message ih =>
    intro path other x
    unfold ownErrors
    split
    · rfl
    · exact map_moveTo_failIf _ _
    · rfl
  | object fields ih =>
    intro path other x
    unfold ownErrors
    split <;> rfl
  | optional inner acceptsEmptyString ih =>
    intro path other x
    unfold ownErrors
    split
    · rfl
    · split
      · rfl
      · exact ih path other _
    · exact ih path other _

/-- Own errors are at the path of the value. -/
theorem allAt_ownErrors (v : Validator) (path : String) (x : Option Json) :
    AllAt path (v.ownErrors path x) :=
  allAt_of_map_moveTo (v.map_moveTo_ownErrors path path x)

end Validator

end WebForm.Schema
