import Mathlib.Data.List.DropRight
import WebForm.Proofs.Schema.Acceptance
import WebForm.Proofs.Zod.File
/-!
# What generated parsers accept

The parsers of the expressions that fields are generated to, each said to accept what its field
takes: the checks of a text, the guard in front of a number, the wrapping of what is not required,
and the items of a list of primitives.

How the engine reads literals comes in by two facts about it: it reads a bound as the number that
was printed, and a regular expression as the pattern that was escaped. `Literals.ReadsBack` says
this of the literals of one field.
-/

set_option autoImplicit false

namespace WebForm

/-! ## Trimmed texts -/

namespace Text

/-- A text that is trimmed already stays as it is. -/
theorem trimChars_trimChars (cs : List Char) : trimChars (trimChars cs) = trimChars cs := by
  have hfront : trimChars cs <+: cs.dropWhile isSpace := List.rdropWhile_prefix isSpace _
  have hleft : (trimChars cs).dropWhile isSpace = trimChars cs := by
    rw [List.dropWhile_eq_self_iff]
    intro hlen
    -- what is left at the front is what the first pass stopped at
    have hlen' : 0 < (cs.dropWhile isSpace).length := Nat.lt_of_lt_of_le hlen hfront.length_le
    rw [hfront.getElem hlen]
    exact List.dropWhile_get_zero_not isSpace cs hlen'
  rw [trimChars, hleft]
  exact List.rdropWhile_idempotent isSpace (cs.dropWhile isSpace)

/-- What is left of a trimmed text is not blank. -/
theorem isBlank_trim_of_ne {s : String} (h : trim s ≠ "") : isBlank (trim s) = false := by
  rw [Bool.eq_false_iff]
  intro hblank
  have hdrop : (trim s).toList.dropWhile isSpace = [] := by
    rw [List.dropWhile_eq_nil_iff]
    exact List.all_eq_true.mp hblank
  have htrim : trimChars (trim s).toList = [] := by
    rw [trimChars, hdrop]
    rfl
  rw [trim, String.toList_ofList, trimChars_trimChars] at htrim
  exact h (by rw [trim, htrim])

end Text

namespace Zod

open Script Source Schema

/-! ## Bounds -/

section
variable {lits : Literals}

theorem count?_toString (n : Nat) : count? (toString n) = some n := by
  have hne : toString n ≠ "" := by
    intro h
    have hnumber : isNumberText "" = true := h ▸ isNumberText_toString_nat n
    cases hnumber
  have hdigits : (toString n).toList.all Char.isDigit = true := by
    rw [Nat.toString_eq_ofList_toDigits, String.toList_ofList, List.all_eq_true]
    exact fun c hc => Nat.isDigit_of_mem_toDigits (by decide) (by decide) hc
  rw [count?, if_pos ⟨hne, hdigits⟩, Nat.toString_eq_ofList_toDigits, String.toList_ofList,
    Nat.ofDigitChars_ten_toDigits]

theorem atLeast_toString {n : Nat} {s : String} :
    atLeast lits (toString n) (some (.string s)) = true ↔ n ≤ s.length := by
  rw [atLeast, count?_toString, Option.any_some, decide_eq_true_eq]

theorem atMost_toString {n : Nat} {s : String} :
    atMost lits (toString n) (some (.string s)) = true ↔ s.length ≤ n := by
  rw [atMost, count?_toString, Option.any_some, decide_eq_true_eq]

theorem atLeast_one_text {s : String} :
    atLeast lits "1" (some (.string s)) = true ↔ s ≠ "" := by
  rw [show "1" = toString 1 from rfl, atLeast_toString, Nat.one_le_iff_ne_zero, Ne,
    String.length_eq_zero_iff]

theorem atLeast_one_list {items : List Json} :
    atLeast lits "1" (some (.array items)) = true ↔ items ≠ [] := by
  rw [show "1" = toString 1 from rfl, atLeast, count?_toString, Option.any_some,
    decide_eq_true_eq, Nat.one_le_iff_ne_zero, Ne, List.length_eq_zero_iff]

end

/-- How the engine reads the literals that a field is generated with: each bound as the number
that it is, and the pattern, which has to be a literal at all, as what it matches. -/
structure Literals.ReadsBack (lits : Literals) (f : Field) : Prop where
  bound : ∀ kind, f.kind? = some kind → kind.base = .number →
    ∀ b, f.constraints.min = some b ∨ f.constraints.max = some b →
      ∃ x, lits.number b.plainText = some x ∧ x.key = b.key
  pattern : ∀ kind, f.kind? = some kind → kind.base = .string →
    ∀ source, f.constraints.patternInEffect = some source →
      IsRegexText source ∧
        ∀ s, lits.regex (escapeRegex source) s = true ↔ Pattern.Matches source s

/-! ## Chains of checks -/

namespace Parser

theorem accepts_checks {p : Parser} {tests : List (Option Json → Bool)} {x : Option Json} :
    (p.checks tests).accepts x = true ↔
      p.accepts x = true ∧ ∀ t ∈ tests, t (p.output x) = true := by
  rw [checks]
  induction tests generalizing p with
  | nil => simp
  | cons t rest ih =>
    rw [List.foldl_cons, ih, check, Bool.and_eq_true, List.forall_mem_cons, and_assoc]

theorem accepts_string_checks {tests : List (Option Json → Bool)} {x : Option Json} :
    (string.checks tests).accepts x = true ↔
      ∃ s, x = some (.string s) ∧ ∀ t ∈ tests, t (some (.string s)) = true := by
  rw [accepts_checks]
  rcases x with _ | v
  · simp [string, ofTest]
  · cases v <;> simp [string, ofTest]

end Parser

section
variable {lits : Literals} {x : Option Json}

/-- The wrapping of a field: what is not required may be absent, and empty where empty texts would
be rejected. -/
theorem accepts_guard {required rejectsEmpty : Bool} {e : Zod} :
    ((guard required rejectsEmpty e).parser lits).accepts x = true ↔
      (required = false ∧ (x = none ∨ rejectsEmpty = true ∧ x = some (.string ""))) ∨
        (e.parser lits).accepts x = true := by
  have hempty : (Parser.enum [""]).accepts x = true ↔ x = some (.string "") := by
    rcases x with _ | v
    · simp [Parser.enum, Parser.ofTest, onText]
    · cases v <;> simp [Parser.enum, Parser.ofTest, onText]
  cases required with
  | true => simp [guard]
  | false =>
    cases rejectsEmpty with
    | true =>
      simp only [guard, parser, Parser.union, Parser.optional, List.any_cons, List.any_nil,
        Bool.or_false, Bool.or_eq_true, Option.isNone_iff_eq_none, hempty, Bool.false_eq_true,
        if_false, if_true, true_and]
      exact or_right_comm
    | false => simp [guard, parser, Parser.optional]

/-! ## Texts -/

theorem forall_mem_toList_map {α β : Type} {o : Option α} {f : α → β} {P : β → Prop} :
    (∀ b ∈ (o.map f).toList, P b) ↔ ∀ a, o = some a → P (f a) := by
  cases o <;> simp

/-- The checks on a text ask for what the field admits, and for a text at all if one is required. -/
theorem forall_stringChecks_iff {kind : FieldKind} {required : Bool} {label s : String}
    {c : Constraints}
    (hpattern : ∀ source, c.patternInEffect = some source →
      (lits.regex (escapeRegex source) s = true ↔ Pattern.Matches source s)) :
    (∀ check ∈ stringChecks kind required label c, check.test lits (some (.string s)) = true) ↔
      (required = true → s ≠ "") ∧ c.AdmitsLength s.length ∧ (kind = .email → isEmail s = true) ∧
        ∀ source, c.patternInEffect = some source → Pattern.Matches source s := by
  have hrequired : (∀ check ∈ (if required then [StringCheck.min 1 (Message.required label)]
      else []), check.test lits (some (.string s)) = true) ↔ (required = true → s ≠ "") := by
    cases required with
    | true =>
      rw [if_pos rfl, List.forall_mem_singleton]
      show atLeast lits "1" (some (.string s)) = true ↔ (true = true → s ≠ "")
      rw [atLeast_one_text]
      simp
    | false => simp
  have hleast : (∀ check ∈ (c.minLengthInEffect.map fun n =>
      StringCheck.min n (Message.minLength n)).toList, check.test lits (some (.string s)) = true) ↔
        ∀ b, c.minLength = some b → b ≠ 0 → b.toNat ≤ s.length := by
    rw [forall_mem_toList_map]
    simp only [minLengthInEffect_eq_some_iff, and_imp, StringCheck.test, atLeast_toString]
  have hmost : (∀ check ∈ (c.maxLengthInEffect.map fun n =>
      StringCheck.max n (Message.maxLength n)).toList, check.test lits (some (.string s)) = true) ↔
        ∀ b, c.maxLength = some b → b ≠ 0 → s.length ≤ b.toNat := by
    rw [forall_mem_toList_map]
    simp only [maxLengthInEffect_eq_some_iff, and_imp, StringCheck.test, atMost_toString]
  have hemail : (∀ check ∈ (if kind = .email then [StringCheck.email Message.email] else []),
      check.test lits (some (.string s)) = true) ↔ (kind = .email → isEmail s = true) := by
    by_cases hkind : kind = .email
    · rw [if_pos hkind, List.forall_mem_singleton]
      simp [hkind, StringCheck.test, onText]
    · simp [hkind]
  have hmatches : (∀ check ∈ (c.patternInEffect.map fun p =>
      StringCheck.regex p Message.pattern).toList, check.test lits (some (.string s)) = true) ↔
        ∀ source, c.patternInEffect = some source → Pattern.Matches source s := by
    rw [forall_mem_toList_map]
    exact forall₂_congr hpattern
  rw [stringChecks, List.forall_mem_append, List.forall_mem_append, List.forall_mem_append,
    List.forall_mem_append, hrequired, hleast, hmost, hemail, hmatches]
  constructor
  · rintro ⟨⟨⟨⟨h, hmin⟩, hmax⟩, hmail⟩, hsource⟩
    exact ⟨h, ⟨hmin, hmax⟩, hmail, hsource⟩
  · rintro ⟨h, ⟨hmin, hmax⟩, hmail, hsource⟩
    exact ⟨⟨⟨⟨h, hmin⟩, hmax⟩, hmail⟩, hsource⟩

/-- Where an empty text is not rejected, no check is left that would reject it. -/
theorem of_rejectsEmpty_eq_false {kind : FieldKind} {c : Constraints}
    (h : rejectsEmpty kind c = false) :
    c.minLengthInEffect = none ∧ kind ≠ .email ∧ c.patternInEffect = none := by
  rw [rejectsEmpty, Bool.or_eq_false_iff, Bool.or_eq_false_iff] at h
  obtain ⟨⟨hleast, hemail⟩, hpattern⟩ := h
  exact ⟨Option.not_isSome_iff_eq_none.mp (by simp [hleast]), beq_eq_false_iff_ne.mp hemail,
    Option.not_isSome_iff_eq_none.mp (by simp [hpattern])⟩

theorem admitsLength_zero {c : Constraints} (h : c.minLengthInEffect = none) :
    c.AdmitsLength 0 := by
  refine ⟨?_, fun b _ _ => Nat.zero_le _⟩
  intro b hb hne
  have heffect : c.minLengthInEffect = some b := minLengthInEffect_eq_some_iff.mpr ⟨hb, hne⟩
  rw [h] at heffect
  cases heffect

/-- The expression of a text accepts what the field takes. -/
theorem accepts_text_iff {kind : FieldKind} {required : Bool} {label : String} {c : Constraints}
    (hpattern : ∀ source, c.patternInEffect = some source → ∀ s,
      (lits.regex (escapeRegex source) s = true ↔ Pattern.Matches source s)) {v : Json} :
    ((guard required (rejectsEmpty kind c)
      (.string (stringChecks kind required label c))).parser lits).accepts (some v) = true ↔
        v = .string "" ∧ required = false ∨
          ∃ s, v = .string s ∧ c.AdmitsText Pattern.Matches kind s := by
  have hchecks : ((Zod.string (stringChecks kind required label c)).parser lits).accepts (some v) =
      true ↔ ∃ s, v = .string s ∧ (required = true → s ≠ "") ∧ c.AdmitsLength s.length ∧
        (kind = .email → isEmail s = true) ∧
          ∀ source, c.patternInEffect = some source → Pattern.Matches source s := by
    rw [parser, Parser.accepts_string_checks]
    simp only [List.forall_mem_map, Option.some.injEq]
    exact exists_congr fun s => and_congr_right fun _ =>
      forall_stringChecks_iff fun source hsource => hpattern source hsource s
  rw [accepts_guard, hchecks]
  simp only [patternInEffect_eq_some_iff, and_imp]
  constructor
  -- the empty text is where the two differ in how they say it: one wraps it around the checks,
  -- the other one lets it through them if none of them would reject it
  · rintro (⟨hfalse, hv | ⟨-, hv⟩⟩ | ⟨s, rfl, hrequired, hlength, hemail, hmatches⟩)
    · cases hv
    · exact .inl ⟨Option.some.inj hv, hfalse⟩
    · by_cases hs : s = ""
      · subst hs
        refine .inl ⟨rfl, ?_⟩
        rw [← Bool.not_eq_true]
        exact fun h => hrequired h rfl
      · exact .inr ⟨s, rfl, hs, hlength, hemail, hmatches⟩
  · rintro (⟨rfl, hfalse⟩ | ⟨s, rfl, hs, hlength, hemail, hmatches⟩)
    · cases hrejects : rejectsEmpty kind c with
      | true => exact .inl ⟨hfalse, .inr ⟨rfl, rfl⟩⟩
      | false =>
        obtain ⟨hleast, hkind, hnone⟩ := of_rejectsEmpty_eq_false hrejects
        refine .inr ⟨"", rfl, ?_, admitsLength_zero hleast, fun h => absurd h hkind, ?_⟩
        · intro htrue
          rw [hfalse] at htrue
          cases htrue
        · intro source hsource hne
          rw [patternInEffect_eq_some_iff.mpr ⟨hsource, hne⟩] at hnone
          cases hnone
    · exact .inr ⟨s, rfl, fun _ => hs, hlength, hemail, hmatches⟩

/-! ## Numbers -/

theorem test_number (check : NumberCheck) (n : JsonNumber) :
    check.test lits (some (.number n)) = check.test lits (some (.number (.double n.toDouble))) := by
  cases check <;> rfl

theorem coerceNumber_trim (s : String) :
    coerceNumber (.string (Text.trim s)) = coerceNumber (.string s) := by
  rw [coerceNumber, coerceNumber, Text.trim, String.toList_ofList, Text.trimChars_trimChars]

/-- A text that is trimmed to nothing spells no number. -/
theorem coerceNumber_of_trim_eq {s : String} (h : Text.trim s = "") :
    coerceNumber (.string s) = none := by
  rw [← coerceNumber_trim, h]
  rfl

theorem accepts_guarded_number (n : JsonNumber) :
    (Parser.guarded lits).accepts (some (.number n)) = true ∧
      (Parser.guarded lits).output (some (.number n)) = some (.number n) := ⟨rfl, rfl⟩

theorem accepts_number_string (s : String) :
    Parser.number.accepts (some (.string s)) = false := rfl

theorem accepts_trimmed_string {s : String} :
    (Parser.string.trim.check (atLeast lits "1")).accepts (some (.string s)) = true ↔
      Text.trim s ≠ "" := by
  have hpassed : (Parser.string.trim.check (atLeast lits "1")).accepts (some (.string s)) =
      atLeast lits "1" (some (.string (Text.trim s))) := by
    simp only [Parser.check, Parser.trim, Parser.string, Parser.ofTest, trimmed, id, Bool.true_and]
  rw [hpassed, atLeast_one_text]

theorem accepts_guarded_string {s : String} :
    (Parser.guarded lits).accepts (some (.string s)) = true ↔ Text.trim s ≠ "" := by
  rw [Parser.guarded, Parser.union, ← @accepts_trimmed_string lits]
  simp only [List.any_cons, List.any_nil, Bool.or_false, accepts_number_string, Bool.false_or]

theorem output_guarded_string {s : String} (h : Text.trim s ≠ "") :
    (Parser.guarded lits).output (some (.string s)) = some (.string (Text.trim s)) := by
  have haccepts := (@accepts_trimmed_string lits s).mpr h
  rw [Parser.guarded, Parser.union]
  simp only [List.find?_cons, accepts_number_string, haccepts]
  rfl

/-- Nothing but numbers and texts passes the guard. -/
theorem not_accepts_guarded {v : Json} (hnumber : ∀ n, v ≠ .number n)
    (hstring : ∀ s, v ≠ .string s) :
    (Parser.guarded lits).accepts (some v) = false := by
  cases v with
  | number n => exact absurd rfl (hnumber n)
  | string s => exact absurd rfl (hstring s)
  | null => rfl
  | bool b => rfl
  | array items => rfl
  | object members => rfl

/-- What passes the guard in front of a coercion is coerced to the number that it spells. -/
theorem accepts_number_iff {message : String} {checks : List NumberCheck} {v : Json} :
    ((Zod.number message checks).parser lits).accepts (some v) = true ↔
      ∃ d, v.Spells d ∧ ∀ check ∈ checks, check.test lits (some (.number (.double d))) = true := by
  simp only [← coerceNumber_eq_some_iff]
  rw [parser, Parser.pipe, Bool.and_eq_true, Parser.accepts_checks, List.forall_mem_map]
  cases v with
  | number n =>
    obtain ⟨haccepts, houtput⟩ := @accepts_guarded_number lits n
    rw [haccepts, houtput]
    simp only [Parser.coercion, coerced, Option.isSome_some, true_and, test_number _ n,
      coerceNumber, Option.some.injEq, exists_eq_left']
  | string s =>
    rw [accepts_guarded_string]
    by_cases htrim : Text.trim s = ""
    · simp [htrim, coerceNumber_of_trim_eq htrim]
    · rw [output_guarded_string htrim]
      -- the guard has trimmed the text, and trimming it again changes nothing
      have hcoerced : coerced (some (.string (Text.trim s))) =
          (coerceNumber (.string s)).map fun x => .number (.double x) := by
        rw [coerced, Text.isBlank_trim_of_ne htrim, if_neg Bool.false_ne_true, coerceNumber_trim]
      simp only [Parser.coercion, hcoerced]
      cases coerceNumber (.string s) with
      | none => simp
      | some d => simp [htrim]
  | null => simp [coerceNumber, not_accepts_guarded]
  | bool b => simp [coerceNumber, not_accepts_guarded]
  | array items => simp [coerceNumber, not_accepts_guarded]
  | object members => simp [coerceNumber, not_accepts_guarded]

/-- The bounds on a number ask for what the field admits. -/
theorem forall_numberChecks_iff {c : Constraints} {d : Double}
    (hbound : ∀ b, c.min = some b ∨ c.max = some b →
      ∃ x, lits.number b.plainText = some x ∧ x.key = b.key) :
    (∀ check ∈ numberChecks c, check.test lits (some (.number (.double d))) = true) ↔
      c.AdmitsNumber d := by
  rw [numberChecks, List.forall_mem_append, forall_mem_toList_map, forall_mem_toList_map]
  have hleast : (∀ b, c.min = some b →
      (NumberCheck.min b (Message.minValue b)).test lits (some (.number (.double d))) = true) ↔
        ∀ b, c.min = some b → b.key ≤ d.key := by
    refine forall₂_congr fun b hb => ?_
    obtain ⟨x, hread, hkey⟩ := hbound b (.inl hb)
    rw [NumberCheck.test, atLeast, hread, ← hkey, Option.any_some, Bool.not_eq_true', Double.less,
      decide_eq_false_iff_not, Int.not_lt, JsonNumber.toDouble]
  have hmost : (∀ b, c.max = some b →
      (NumberCheck.max b (Message.maxValue b)).test lits (some (.number (.double d))) = true) ↔
        ∀ b, c.max = some b → d.key ≤ b.key := by
    refine forall₂_congr fun b hb => ?_
    obtain ⟨x, hread, hkey⟩ := hbound b (.inr hb)
    rw [NumberCheck.test, atMost, hread, ← hkey, Option.any_some, Bool.not_eq_true', Double.less,
      decide_eq_false_iff_not, Int.not_lt, JsonNumber.toDouble]
  rw [hleast, hmost]
  constructor
  · rintro ⟨hmin, hmax⟩
    exact ⟨hmin, hmax⟩
  · rintro ⟨hmin, hmax⟩
    exact ⟨hmin, hmax⟩

/-- The expression of a number accepts what the field takes. -/
theorem accepts_bounded_iff {required : Bool} {message : String} {c : Constraints}
    (hbound : ∀ b, c.min = some b ∨ c.max = some b →
      ∃ x, lits.number b.plainText = some x ∧ x.key = b.key) {v : Json} :
    ((guard required true (.number message (numberChecks c))).parser lits).accepts (some v) =
      true ↔ v = .string "" ∧ required = false ∨ ∃ d, v.Spells d ∧ c.AdmitsNumber d := by
  rw [accepts_guard, accepts_number_iff]
  simp only [forall_numberChecks_iff hbound]
  simp [and_comm]

/-! ## Checkboxes and choices -/

theorem accepts_boolean_iff {required : Bool} {message : String} {v : Json} :
    ((guard required false (if required then .mustBeTrue message else .boolean)).parser
      lits).accepts (some v) = true ↔ v = .bool true ∨ v = .bool false ∧ required = false := by
  rw [accepts_guard]
  cases required with
  | true =>
    rw [if_pos rfl, parser]
    cases v <;> simp [Parser.check, Parser.boolean, Parser.ofTest]
  | false =>
    rw [if_neg Bool.false_ne_true, parser]
    cases v <;> simp [Parser.boolean, Parser.ofTest]

theorem accepts_choice_iff {required : Bool} {options : List String} {v : Json} :
    ((guard required false (if options.isEmpty then .never else .enum options)).parser
      lits).accepts (some v) = true ↔ ∃ option ∈ options, v = .string option := by
  rw [accepts_guard]
  cases options with
  | nil => simp [parser, Parser.never, Parser.ofTest]
  | cons first rest =>
    rw [if_neg (by simp), parser]
    cases v <;> simp [Parser.enum, Parser.ofTest, onText]

/-! ## Lists -/

theorem accepts_listOf_iff {spec : FieldSpec} {item : Parser} {v : Json} :
    (Parser.listOf lits (minItemsOf spec) (.array item)).accepts (some v) = true ↔
      ∃ items, v = .array items ∧ (spec.required = true → items ≠ []) ∧
        ∀ w ∈ items, item.accepts (some w) = true := by
  have hlist : (Parser.array item).accepts (some v) = true ↔
      ∃ items, v = .array items ∧ ∀ w ∈ items, item.accepts (some w) = true := by
    cases v <;> simp [Parser.array, Parser.ofTest]
  have houtput : (Parser.array item).output (some v) = some v := rfl
  rw [minItemsOf]
  cases spec.required with
  | true =>
    rw [if_pos rfl, Parser.listOf, Parser.check, Bool.and_eq_true, hlist, houtput]
    constructor
    · rintro ⟨⟨items, rfl, hitems⟩, hleast⟩
      exact ⟨items, rfl, fun _ => atLeast_one_list.mp hleast, hitems⟩
    · rintro ⟨items, rfl, hne, hitems⟩
      exact ⟨⟨items, rfl, hitems⟩, atLeast_one_list.mpr (hne rfl)⟩
  | false =>
    rw [if_neg Bool.false_ne_true, Parser.listOf, Parser.optional]
    simp only [Option.isNone_some, Bool.false_or, hlist, Bool.false_eq_true, false_implies,
      true_and]

theorem accepts_listOf_none {spec : FieldSpec} {item : Parser} :
    (Parser.listOf lits (minItemsOf spec) (.array item)).accepts none = true ↔
      spec.required = false := by
  rw [minItemsOf]
  cases spec.required with
  | true => simp [Parser.listOf, Parser.check, Parser.array, Parser.ofTest]
  | false => simp [Parser.listOf, Parser.optional]

/-- A list of primitives is written like a list of objects. -/
theorem parser_ofLeaf_list {kind itemKind : FieldKind} (hbase : kind.base = .list)
    (spec : FieldSpec) :
    (ofLeaf kind spec itemKind).parser lits =
      .listOf lits (minItemsOf spec) (.array ((ofItemKind itemKind).parser lits)) := by
  rw [ofLeaf]
  simp only [hbase]
  cases minItemsOf spec <;> rfl

/-- The expression of an item of a list of primitives accepts what its kind takes. -/
theorem accepts_ofItemKind_iff {kind : FieldKind} {v : Json} :
    ((ofItemKind kind).parser lits).accepts (some v) = true ↔ kind.AcceptsItem v := by
  have hone : ∀ s message, ((StringCheck.min 1 message).test lits (some (.string s)) = true ↔
      s ≠ "") := fun s _ => @atLeast_one_text lits s
  have htext : ∀ checks : List StringCheck,
      ((Zod.string (.min 1 Message.itemRequired :: checks)).parser lits).accepts (some v) = true ↔
        ∃ s, v = .string s ∧ s ≠ "" ∧
          ∀ check ∈ checks, check.test lits (some (.string s)) = true := by
    intro checks
    rw [parser, Parser.accepts_string_checks]
    simp only [List.forall_mem_map, List.forall_mem_cons, hone, Option.some.injEq]
  have hboolean : (Zod.boolean.parser lits).accepts (some v) = true ↔ ∃ b, v = .bool b := by
    rw [parser]
    cases v <;> simp [Parser.boolean, Parser.ofTest]
  cases kind <;>
    simp [ofItemKind, FieldKind.AcceptsItem, FieldKind.base, accepts_number_iff, htext, hboolean,
      StringCheck.test, onText]

/-! ## No value -/

/-- What is not wrapped as optional does not accept the absent value. -/
theorem accepts_guard_none {required rejectsEmpty : Bool} {e : Zod}
    (h : (e.parser lits).accepts none = false) :
    ((guard required rejectsEmpty e).parser lits).accepts none = true ↔ required = false := by
  rw [accepts_guard, h]
  simp

/-- The expression of a field that is no list of objects accepts the absent value unless one is
required. -/
theorem accepts_ofLeaf_none {kind : FieldKind} {spec : FieldSpec} {itemKind : FieldKind} :
    ((ofLeaf kind spec itemKind).parser lits).accepts none = true ↔ spec.required = false := by
  cases hbase : kind.base with
  | string =>
    simp only [ofLeaf, hbase]
    refine accepts_guard_none ?_
    rw [parser, ← Bool.not_eq_true, Parser.accepts_string_checks]
    simp
  | number =>
    simp only [ofLeaf, hbase]
    exact accepts_guard_none rfl
  | boolean =>
    simp only [ofLeaf, hbase]
    refine accepts_guard_none ?_
    cases spec.required <;> rfl
  | oneOf =>
    simp only [ofLeaf, hbase]
    refine accepts_guard_none ?_
    cases spec.options <;> rfl
  | list =>
    rw [parser_ofLeaf_list hbase]
    exact accepts_listOf_none

end

end Zod

end WebForm
