import Mathlib.Data.List.TakeWhile
import WebForm.Proofs.Schema.Compile
/-!
# What a compiled schema accepts

The values that a form asks for, said on the fields themselves: `Field.Accepts` is a recursion over
the tree of fields and knows nothing of validators, messages, paths or the wrapping of optional
fields. `valid_validate_iff_accepts` says that the compiled schema of a form accepts exactly these.

Patterns enter as a relation between the source of a pattern and a text, so the definition does
not depend on how a pattern is matched. `none` stands for no value: an absent member or a null one.
-/

set_option autoImplicit false

namespace WebForm

open Schema Validator

/-! ## Accepted texts and numbers -/

/-- The pattern of this source can be read and has a match somewhere in the text. -/
def Pattern.Matches (source s : String) : Prop :=
  ∃ p, Pattern.ofSource source = .ok p ∧ p.occursIn s = true

/-- The finite number that a value stands for: a number stands for itself, and a text for the
number that it spells between its blanks. -/
inductive Json.Spells : Json → Double → Prop
  | number (n : JsonNumber) : Spells (.number n) n.toDouble
  | text {s : String} {n : Numeral} {x : Double}
      (hread : Numeral.ofChars? (Text.trim s).toList = some n) (hfinite : n.toDouble? = some x) :
      Spells (.string s) x

namespace Constraints

/-- A length within the bounds; a bound of zero imposes nothing. -/
structure AdmitsLength (c : Constraints) (n : Nat) : Prop where
  atLeast : ∀ b, c.minLength = some b → b ≠ 0 → b.toNat ≤ n
  atMost : ∀ b, c.maxLength = some b → b ≠ 0 → n ≤ b.toNat

/-- A number within the bounds. -/
structure AdmitsNumber (c : Constraints) (x : Double) : Prop where
  atLeast : ∀ b, c.min = some b → b.key ≤ x.key
  atMost : ∀ b, c.max = some b → x.key ≤ b.key

/-- A text that a field of a text-like kind takes when it is not left empty. -/
structure AdmitsText (matching : String → String → Prop) (kind : FieldKind) (c : Constraints)
    (s : String) : Prop where
  nonempty : s ≠ ""
  length : c.AdmitsLength s.length
  email : kind = .email → isEmail s = true
  pattern : ∀ source, c.pattern = some source → source ≠ "" → matching source s

end Constraints

/-! ## Accepted values -/

/-- A value that a list of primitives of some kind takes as an item. -/
def FieldKind.AcceptsItem (kind : FieldKind) (v : Json) : Prop :=
  match kind.base with
  | .number => ∃ x, v.Spells x
  | .boolean => ∃ b, v = .bool b
  | _ => ∃ s, v = .string s ∧ s ≠ "" ∧ (kind = .email → isEmail s = true)

namespace Field

mutual

/-- A value that a field takes, `none` being no value. A field of an unknown kind takes none. -/
def Accepts (matching : String → String → Prop) : Field → Option Json → Prop
  | ⟨spec, _⟩, none => spec.type.kind?.isSome = true ∧ spec.required = false
  | ⟨spec, children⟩, some v =>
    let c := spec.constraints.getD {}
    match spec.type.kind? with
    | none => False
    | some kind =>
      match kind.base with
      | .string =>
        v = .string "" ∧ spec.required = false ∨ ∃ s, v = .string s ∧ c.AdmitsText matching kind s
      | .number => v = .string "" ∧ spec.required = false ∨ ∃ x, v.Spells x ∧ c.AdmitsNumber x
      | .boolean => v = .bool true ∨ v = .bool false ∧ spec.required = false
      | .oneOf => ∃ option ∈ spec.options, v = .string option
      | .list =>
        ∃ items, v = .array items ∧ (spec.required = true → items ≠ []) ∧
          ((children = [] ∧ ∀ item ∈ items, (Field.mk spec children).itemKind.AcceptsItem item) ∨
            (children ≠ [] ∧ ∀ item ∈ items, ∃ members, item = .object members ∧
              AcceptsAll matching children members))
termination_by structural f => f

/-- The members of an object that siblings take: each field takes the member of its name. -/
def AcceptsAll (matching : String → String → Prop) : List Field → List (String × Json) → Prop
  | [], _ => True
  | f :: rest, members =>
    Accepts matching f (present (Json.lookup f.name members)) ∧ AcceptsAll matching rest members
termination_by structural fs => fs

end

theorem acceptsAll_iff {matching : String → String → Prop} {fs : List Field}
    {members : List (String × Json)} :
    AcceptsAll matching fs members ↔
      ∀ f ∈ fs, f.Accepts matching (present (Json.lookup f.name members)) := by
  induction fs with
  | nil => simp [AcceptsAll]
  | cons f rest ih => rw [AcceptsAll, ih, List.forall_mem_cons]

end Field

/-- A submission that a form takes: an object in which every field of the form takes the member of
its name. -/
def Form.Accepts (matching : String → String → Prop) (form : Form) (v : Json) : Prop :=
  ∃ members, v = .object members ∧
    ∀ f ∈ form.fields, f.Accepts matching (present (Json.lookup f.name members))

namespace Schema

/-! ## The rules of one value -/

@[simp] theorem failIf_eq_nil_iff {wrong : Bool} {e : FieldError} :
    failIf wrong e = [] ↔ wrong = false := by
  cases wrong <;> simp [failIf]

theorem coerceNumber_eq_some_iff {v : Json} {x : Double} :
    coerceNumber v = some x ↔ v.Spells x := by
  constructor
  · intro h
    cases v with
    | number n =>
      obtain rfl := Option.some.inj h
      exact .number n
    | string s =>
      obtain ⟨n, hread, hfinite⟩ := Option.bind_eq_some_iff.mp h
      exact .text (by rw [Text.trim, String.toList_ofList]; exact hread) hfinite
    | null => cases h
    | bool b => cases h
    | array items => cases h
    | object members => cases h
  · intro h
    cases h with
    | number n => rfl
    | text hread hfinite =>
      rw [Text.trim, String.toList_ofList] at hread
      rw [coerceNumber, hread, Option.bind_some, hfinite]

/-- A text of white space spells no number, so telling it apart as missing loses nothing. -/
theorem coerceNumber_of_isBlankText {v : Json} (h : isBlankText v = true) :
    coerceNumber v = none := by
  cases v with
  | string s =>
    have hdrop : s.toList.dropWhile Text.isSpace = [] := by
      rw [List.dropWhile_eq_nil_iff]
      exact List.all_eq_true.mp h
    have htrim : Text.trimChars s.toList = [] := by
      rw [Text.trimChars, hdrop]
      rfl
    rw [coerceNumber, htrim]
    rfl
  | null => cases h
  | bool b => cases h
  | number n => cases h
  | array items => cases h
  | object members => cases h

/-- What the pattern of a field was compiled from. -/
theorem patternOf_eq_ok_iff {path : String} {c : Constraints} {pattern : Option Pattern} :
    patternOf path c = .ok pattern ↔
      (c.patternInEffect = none ∧ pattern = none) ∨
        ∃ source p, c.patternInEffect = some source ∧ Pattern.ofSource source = .ok p ∧
          pattern = some p := by
  rw [patternOf]
  cases hsource : c.patternInEffect with
  | none => simp [eq_comm]
  | some source =>
    cases hp : Pattern.ofSource source with
    | error reason => simp [hp]
    | ok p => simp [hp, eq_comm]

@[simp] theorem failRule_eq_nil_iff {α : Type} {rule : Option α} {wrong : α → Bool}
    {e : α → FieldError} :
    failRule rule wrong e = [] ↔ ∀ r, rule = some r → wrong r = false := by
  cases rule <;> simp [failRule]

theorem minLengthInEffect_eq_some_iff {c : Constraints} {b : UInt64} :
    c.minLengthInEffect = some b ↔ c.minLength = some b ∧ b ≠ 0 := by
  rw [Constraints.minLengthInEffect, Option.filter_eq_some_iff, decide_eq_true_eq,
    UInt64.pos_iff_ne_zero]

theorem maxLengthInEffect_eq_some_iff {c : Constraints} {b : UInt64} :
    c.maxLengthInEffect = some b ↔ c.maxLength = some b ∧ b ≠ 0 := by
  rw [Constraints.maxLengthInEffect, Option.filter_eq_some_iff, decide_eq_true_eq,
    UInt64.pos_iff_ne_zero]

theorem patternInEffect_eq_some_iff {c : Constraints} {source : String} :
    c.patternInEffect = some source ↔ c.pattern = some source ∧ source ≠ "" := by
  rw [Constraints.patternInEffect, Option.filter_eq_some_iff, decide_eq_true_eq]

/-- The pattern that was read is found in a text exactly when its source matches the text. -/
theorem occursIn_iff_matches {path s : String} {c : Constraints} {pattern : Option Pattern}
    (hpattern : patternOf path c = .ok pattern) :
    (∀ p, pattern = some p → (!p.occursIn s) = false) ↔
      ∀ source, c.patternInEffect = some source → Pattern.Matches source s := by
  rcases patternOf_eq_ok_iff.mp hpattern with ⟨hnone, rfl⟩ | ⟨source, p, hsource, hp, rfl⟩
  · simp [hnone]
  · rw [hsource]
    constructor
    · intro h source' hsource'
      obtain rfl := Option.some.inj hsource'
      exact ⟨p, hp, by simpa using h p rfl⟩
    · intro h p' hp'
      obtain rfl := Option.some.inj hp'
      obtain ⟨q, hq, hocc⟩ := h source rfl
      obtain rfl := Except.ok.inj (hp.symm.trans hq)
      simpa using hocc

/-- A text that is not empty has no errors exactly when the field admits it. -/
theorem errorsOf_eq_nil_iff_admitsText {place path message s : String} {kind : FieldKind}
    {c : Constraints} {pattern : Option Pattern} (hpattern : patternOf place c = .ok pattern)
    (hs : s ≠ "") :
    StringRules.errorsOf ⟨message, c.minLengthInEffect, c.maxLengthInEffect, kind == .email,
      pattern⟩ path s = [] ↔ c.AdmitsText Pattern.Matches kind s := by
  rw [StringRules.errorsOf, List.append_eq_nil_iff, List.append_eq_nil_iff,
    List.append_eq_nil_iff, failRule_eq_nil_iff, failRule_eq_nil_iff, failIf_eq_nil_iff,
    failRule_eq_nil_iff, occursIn_iff_matches hpattern]
  simp only [minLengthInEffect_eq_some_iff, maxLengthInEffect_eq_some_iff,
    patternInEffect_eq_some_iff, decide_eq_false_iff_not, Nat.not_lt, and_imp]
  constructor
  · rintro ⟨⟨⟨hleast, hmost⟩, hemail⟩, hmatches⟩
    refine ⟨hs, ⟨hleast, hmost⟩, ?_, hmatches⟩
    intro hkind
    simpa [hkind] using hemail
  · rintro ⟨-, ⟨hleast, hmost⟩, hemail, hmatches⟩
    refine ⟨⟨⟨hleast, hmost⟩, ?_⟩, hmatches⟩
    by_cases hkind : kind = .email
    · simp [hemail hkind]
    · simp [hkind]

/-- A number has no errors exactly when the field admits it. -/
theorem errorsOf_eq_nil_iff_admitsNumber {label path : String} {c : Constraints} {x : Double} :
    (numberRulesOf label c).errorsOf path x = [] ↔ c.AdmitsNumber x := by
  rw [NumberRules.errorsOf, List.append_eq_nil_iff, failRule_eq_nil_iff, failRule_eq_nil_iff]
  simp only [numberRulesOf, Double.less, decide_eq_false_iff_not, Int.not_lt]
  constructor
  · rintro ⟨hleast, hmost⟩
    exact ⟨hleast, hmost⟩
  · rintro ⟨hleast, hmost⟩
    exact ⟨hleast, hmost⟩

/-! ## Values of the wrong shape -/

theorem StringRules.check_some_eq_nil_iff {rules : StringRules} {path : String} {v : Json} :
    rules.check path (some v) = [] ↔
      ∃ s, v = .string s ∧ s ≠ "" ∧ rules.errorsOf path s = [] := by
  cases v with
  | string s => by_cases hs : s = "" <;> simp [StringRules.check, hs]
  | null => simp [StringRules.check]
  | bool b => simp [StringRules.check]
  | number n => simp [StringRules.check]
  | array items => simp [StringRules.check]
  | object members => simp [StringRules.check]

/-- A value has no errors as the text of a field exactly when it is a text that the field
admits. -/
theorem check_eq_nil_iff_admitsText {place path message : String} {kind : FieldKind}
    {c : Constraints} {pattern : Option Pattern} (hpattern : patternOf place c = .ok pattern)
    {v : Json} :
    (StringRules.mk message c.minLengthInEffect c.maxLengthInEffect (kind == .email)
      pattern).check path (some v) = [] ↔
        ∃ s, v = .string s ∧ c.AdmitsText Pattern.Matches kind s := by
  rw [StringRules.check_some_eq_nil_iff]
  refine exists_congr fun s => and_congr_right fun _ => ?_
  constructor
  · rintro ⟨hs, herrors⟩
    exact (errorsOf_eq_nil_iff_admitsText hpattern hs).mp herrors
  · intro hadmits
    exact ⟨hadmits.nonempty,
      (errorsOf_eq_nil_iff_admitsText hpattern hadmits.nonempty).mpr hadmits⟩

theorem NumberRules.check_some_eq_nil_iff {rules : NumberRules} {path : String} {v : Json} :
    rules.check path (some v) = [] ↔ ∃ x, v.Spells x ∧ rules.errorsOf path x = [] := by
  simp only [← coerceNumber_eq_some_iff]
  rw [NumberRules.check]
  by_cases hblank : isBlankText v = true
  · rw [if_pos hblank, coerceNumber_of_isBlankText hblank]
    simp
  · rw [if_neg hblank]
    cases hx : coerceNumber v with
    | none => simp
    | some x => simp

theorem checkBoolean_some_eq_nil_iff {mustBeChecked : Option String} {path : String} {v : Json} :
    checkBoolean mustBeChecked path (some v) = [] ↔
      v = .bool true ∨ v = .bool false ∧ mustBeChecked = none := by
  cases v with
  | bool b => cases b <;> cases mustBeChecked <;> simp [checkBoolean]
  | null => simp [checkBoolean]
  | number n => simp [checkBoolean]
  | string s => simp [checkBoolean]
  | array items => simp [checkBoolean]
  | object members => simp [checkBoolean]

theorem checkOption_some_eq_nil_iff {label : String} {options : List String} {path : String}
    {v : Json} :
    checkOption label options path (some v) = [] ↔ ∃ option ∈ options, v = .string option := by
  cases v with
  | string s => simp [checkOption]
  | null => simp [checkOption]
  | bool b => simp [checkOption]
  | number n => simp [checkOption]
  | array items => simp [checkOption]
  | object members => simp [checkOption]

namespace Validator

/-- An item without a value is null, so a check that takes only values of some kind other than
null takes the items of that kind. -/
theorem exists_present_iff {ok : Json → Prop} (hnull : ¬ ok .null) {v : Json} :
    (∃ w, present (some v) = some w ∧ ok w) ↔ ok v := by
  cases v <;> simp [present, hnull]

/-- The items of a list have no errors exactly when all of them are taken, wherever they stand. -/
theorem checkItems_eq_nil_iff {check : String → Option Json → List FieldError}
    {ok : Json → Prop} (hcheck : ∀ path x, check path x = [] ↔ ∃ v, x = some v ∧ ok v)
    (hnull : ¬ ok .null) {path : String} {index : Nat} {items : List Json} :
    checkItems check path index items = [] ↔ ∀ item ∈ items, ok item := by
  induction items generalizing index with
  | nil => simp [checkItems]
  | cons item rest ih =>
    rw [checkItems, List.append_eq_nil_iff, hcheck, ih, exists_present_iff hnull,
      List.forall_mem_cons]

/-- The wrapping of a field: what is not required may be absent, and empty where the field is
edited as text. -/
theorem checkPresent_guard (required : Bool) (base : BaseRule) (v : Validator) (path : String)
    (x : Option Json) :
    (guard required base v).checkPresent path x = [] ↔
      (required = false ∧ (x = none ∨ (base = .string ∨ base = .number) ∧ x = some (.string ""))) ∨
        v.checkPresent path x = [] := by
  cases required with
  | true => simp [guard]
  | false =>
    rw [guard, if_neg Bool.false_ne_true, checkPresent_optional]
    simp [or_assoc]

theorem not_acceptsItem_null (kind : FieldKind) : ¬ kind.AcceptsItem .null := by
  rw [FieldKind.AcceptsItem]
  cases kind.base with
  | number =>
    rintro ⟨x, h⟩
    cases h
  | string => simp
  | boolean => simp
  | oneOf => simp
  | list => simp

/-- An item of a list of primitives has no errors exactly when its kind takes it; there is no
item without a value. -/
theorem checkPresent_ofItemKind (kind : FieldKind) (path : String) (x : Option Json) :
    (ofItemKind kind).checkPresent path x = [] ↔ ∃ v, x = some v ∧ kind.AcceptsItem v := by
  rcases x with _ | v
  · cases kind <;> simp [ofItemKind, FieldKind.base, checkPresent, NumberRules.check,
      StringRules.check]
  · have htext : ∀ email : Bool,
        (StringRules.mk Message.itemRequired none none email none).check path (some v) = [] ↔
          ∃ s, v = .string s ∧ s ≠ "" ∧ (email = true → isEmail s = true) := by
      intro email
      rw [StringRules.check_some_eq_nil_iff]
      cases email <;> simp [StringRules.errorsOf]
    have hnumber : (NumberRules.mk Message.itemRequired none none).check path (some v) = [] ↔
        ∃ x, v.Spells x := by
      rw [NumberRules.check_some_eq_nil_iff]
      simp [NumberRules.errorsOf]
    have hboolean : checkBoolean none path (some v) = [] ↔ ∃ b, v = .bool b := by
      rw [checkBoolean_some_eq_nil_iff]
      simp [or_comm]
    cases kind <;>
      simp [ofItemKind, FieldKind.AcceptsItem, FieldKind.base, checkPresent, htext, hnumber,
        hboolean]

/-- No validator of a field takes the absence of a value, before it is wrapped. -/
theorem checkPresent_none_ne_nil {place path : String} {f : Field} {kind : FieldKind}
    {inner : Validator} (h : Compiles place f kind inner) : inner.checkPresent path none ≠ [] := by
  cases h with
  | text => simp [checkPresent, StringRules.check]
  | number => simp [checkPresent, NumberRules.check]
  | boolean => cases hreq : f.required <;> simp [checkPresent, checkBoolean]
  | choice => simp [checkPresent, checkOption]
  | primitives => simp [checkPresent]
  | objects => simp [checkPresent]

/-- A list has no errors exactly when it is an array, not empty if its field is required, whose
items are all taken. -/
theorem checkPresent_array {item : Validator} {ok : Json → Prop} {required : Bool}
    {path message : String} {v : Json}
    (hitem : ∀ path x, item.checkPresent path x = [] ↔ ∃ w, x = some w ∧ ok w)
    (hnull : ¬ ok .null) :
    (array item (if required then 1 else 0) message).checkPresent path (some v) = [] ↔
      ∃ items, v = .array items ∧ (required = true → items ≠ []) ∧ ∀ w ∈ items, ok w := by
  cases v with
  | array items =>
    rw [checkPresent, List.append_eq_nil_iff, failIf_eq_nil_iff,
      checkItems_eq_nil_iff hitem hnull]
    cases required with
    | true => cases items <;> simp
    | false => simp
  | null => simp [checkPresent]
  | bool b => simp [checkPresent]
  | number n => simp [checkPresent]
  | string s => simp [checkPresent]
  | object members => simp [checkPresent]

/-- An object has no errors exactly when its members have none. -/
theorem checkPresent_object {fields : List (String × Validator)} {path : String}
    {x : Option Json} :
    (object fields).checkPresent path x = [] ↔
      ∃ v, x = some v ∧ ∃ members, v = .object members ∧ checkFields fields path members = [] := by
  rcases x with _ | v
  · simp [checkPresent]
  · cases v <;> simp [checkPresent]

end Validator

end Schema

/-! ## The agreement -/

/-- A list of objects that agrees field by field agrees on whole objects. -/
theorem Field.checkFields_eq_nil_iff_acceptsAll {fs : List Field}
    (ih : ∀ f ∈ fs, ∀ place v, ofField place f = .ok v →
      ∀ path x, v.checkPresent path x = [] ↔ f.Accepts Pattern.Matches x)
    {parent : String} {vs : List (String × Validator)} (h : ofFields parent fs = .ok vs)
    {path : String} {members : List (String × Json)} :
    checkFields vs path members = [] ↔ Field.AcceptsAll Pattern.Matches fs members := by
  induction fs generalizing vs with
  | nil =>
    obtain rfl := Except.ok.inj h
    simp [checkFields, Field.AcceptsAll]
  | cons f rest ihrest =>
    obtain ⟨v, tail, hv, htail, rfl⟩ := ofFields_cons_eq_ok_iff.mp h
    rw [checkFields, List.append_eq_nil_iff, Field.AcceptsAll,
      ih f List.mem_cons_self _ v hv, ihrest (fun g hg => ih g (List.mem_cons_of_mem f hg)) htail]

/-- The validator of a field has nothing against a value exactly when the field takes it. -/
theorem Field.checkPresent_eq_nil_iff_accepts (f : Field) :
    ∀ place v, ofField place f = .ok v →
      ∀ path x, v.checkPresent path x = [] ↔ f.Accepts Pattern.Matches x := by
  induction f using Field.induction with
  | mk spec children ih =>
    intro place v h path x
    obtain ⟨kind, inner, hkind, hinner, rfl⟩ := exists_compiles_of_ofField h
    rw [Field.kind?_mk] at hkind
    rw [checkPresent_guard]
    -- no value is taken care of by the wrapping alone, before the kinds are told apart
    rcases x with _ | x
    · have hnone : inner.checkPresent path none ≠ [] := checkPresent_none_ne_nil hinner
      simp [Field.Accepts, hkind, hnone, Field.required]
    · cases hinner with
      | text hbase hpattern =>
        simp only [Field.Accepts, hkind, hbase, checkPresent]
        rw [check_eq_nil_iff_admitsText hpattern]
        simp [Field.required, Field.constraints, and_comm]
      | number hbase =>
        simp only [Field.Accepts, hkind, hbase, checkPresent]
        rw [NumberRules.check_some_eq_nil_iff]
        simp only [errorsOf_eq_nil_iff_admitsNumber]
        simp [Field.required, Field.constraints, and_comm]
      | boolean hbase =>
        simp only [Field.Accepts, hkind, hbase, checkPresent]
        rw [Option.isNone_some, Bool.false_and, if_neg Bool.false_ne_true,
          checkBoolean_some_eq_nil_iff]
        cases hreq : spec.required <;> simp [Field.required, hreq]
      | choice hbase =>
        simp only [Field.Accepts, hkind, hbase, checkPresent]
        rw [checkOption_some_eq_nil_iff]
        simp [Field.options]
      | primitives hbase hnone =>
        change children = [] at hnone
        have hnull : ¬ (Field.mk spec children).itemKind.AcceptsItem .null :=
          not_acceptsItem_null _
        simp only [Field.Accepts, hkind, hbase]
        rw [checkPresent_array (fun path x => checkPresent_ofItemKind _ path x) hnull]
        simp [Field.required, hnone]
      | @objects fields hbase hsome hfields =>
        change children ≠ [] at hsome
        simp only [Field.Accepts, hkind, hbase]
        have hitem : ∀ path x, (object fields).checkPresent path x = [] ↔
            ∃ v, x = some v ∧ ∃ members, v = .object members ∧
              Field.AcceptsAll Pattern.Matches children members := by
          intro path x
          rw [checkPresent_object]
          simp only [Field.checkFields_eq_nil_iff_acceptsAll ih hfields]
        rw [checkPresent_array hitem (by simp)]
        simp [Field.required, hsome]

/-- A submission is valid exactly when it is an object whose members have no errors. -/
theorem valid_validate_iff_exists_members {schema : ValidationSchema} {v : Json} :
    (schema.validate v).valid = true ↔
      ∃ members, v = .object members ∧ checkFields schema.fields "" members = [] := by
  have hroot := @checkPresent_object schema.fields "" (present (some v))
  rw [ValidationSchema.validate, valid_validate, List.isEmpty_iff, check, hroot,
    exists_present_iff (by simp)]

/-- **Compiled schemas decide acceptance.** If a form compiles, its schema finds nothing wrong with
a submission exactly when the form takes it. -/
theorem valid_validate_iff_accepts {form : Form} {schema : ValidationSchema}
    (h : ValidationSchema.ofForm form = .ok schema) (v : Json) :
    (schema.validate v).valid = true ↔ form.Accepts Pattern.Matches v := by
  obtain ⟨fields, hfields, rfl⟩ := ofForm_eq_ok_iff.mp h
  rw [valid_validate_iff_exists_members, Form.Accepts]
  refine exists_congr fun members => and_congr_right fun _ => ?_
  rw [Field.checkFields_eq_nil_iff_acceptsAll
    (fun f _ => Field.checkPresent_eq_nil_iff_accepts f) hfields, Field.acceptsAll_iff]

/-- A form with a required address, an optional number and a required list of objects. -/
def bookingForm : Form :=
  ⟨"Booking",
    [.leaf ⟨"email", .known .email, "E-mail", true, some { maxLength := some 20 }, [], none,
        none, none⟩,
      .leaf ⟨"seats", .known .number, "Seats", false,
        some { min := some ⟨false, 0x3FF0000000000000, by decide⟩ }, [], none, none, none⟩,
      ⟨⟨"guests", .known .array, "Guest", true, none, [], none, none, none⟩,
        [.leaf ⟨"age", .known .select, "Age", true, none, ["adult", "child"], none, none, none⟩,
          .leaf ⟨"vegan", .known .boolean, "Vegan", false, none, [], none, none, none⟩]⟩]⟩

/-- The form takes a submission with a number in a text and an absent checkbox. -/
theorem bookingForm_accepts :
    ∃ schema, ValidationSchema.ofForm bookingForm = .ok schema ∧
      bookingForm.Accepts Pattern.Matches
        (.object [("email", .string "ada@x.io"), ("seats", .string " 2 "),
          ("guests", .array [.object [("age", .string "child"), ("vegan", .null)]])]) := by
  refine ⟨_, rfl, (valid_validate_iff_accepts rfl _).mp ?_⟩
  decide +kernel

end WebForm
