import WebForm.Proofs.Compiled
import WebForm.Proofs.Component.LineEnding
import WebForm.Proofs.Zod.Text
/-!
# Line endings of artifacts

Which line endings the artifacts of a form have. The types hold names and options only, all of them
escaped. The schema holds the patterns of its fields between slashes, where line breaks stay. An
artifact therefore keeps the line ending it is written with exactly when the texts do that it has
as they are; whatever the form says elsewhere brings no line breaks.
-/

set_option autoImplicit false

namespace WebForm

open Source

/-! ## The schema -/

namespace Zod

section
variable {ending : LineEnding}

theorem unbroken_call {name argument : String} (hname : Unbroken name)
    (hargument : Unbroken argument) (message : String) : Unbroken (call name argument message) := by
  simp only [call, unbroken_append, hname, hargument, unbroken_quote, and_true]
  decide

theorem unbroken_callMessage {name : String} (hname : Unbroken name) (message : String) :
    Unbroken (callMessage name message) := by
  simp only [callMessage, unbroken_append, hname, unbroken_quote, and_true]
  decide

theorem unbroken_atLeastOne (message : String) : Unbroken (atLeastOne message) :=
  unbroken_call (by decide) (by decide) message

/-- The pattern of a check, if it has one. -/
def StringCheck.pattern? : StringCheck → Option String
  | .regex pattern _ => some pattern
  | .min _ _ | .max _ _ | .email _ => none

theorem StringCheck.keeps_text {check : StringCheck} :
    ending.Keeps check.text ↔ ∀ pattern ∈ check.pattern?, ending.Keeps pattern := by
  cases check with
  | min n message | max n message =>
    refine iff_of_true (LineEnding.keeps_of_unbroken (unbroken_call (by decide) ?_ message))
      fun _ h => by cases h
    exact unbroken_of_isNumberText (isNumberText_toString_nat _)
  | email message =>
    exact iff_of_true (LineEnding.keeps_of_unbroken (unbroken_callMessage (by decide) message))
      fun _ h => by cases h
  | regex pattern message =>
    have hend : Unbroken ("/" ++ ", " ++ quote message ++ ")") := by
      simp only [unbroken_append, unbroken_quote, and_true]
      decide
    have hstart : Unbroken ("." ++ "regex" ++ "(" ++ "/") := by decide
    have htext : (StringCheck.regex pattern message).text =
        "." ++ "regex" ++ "(" ++ "/" ++ escapeRegex pattern ++
          ("/" ++ ", " ++ quote message ++ ")") := by
      simp only [text, call, String.append_assoc]
    rw [htext, LineEnding.keeps_append_right hend, LineEnding.keeps_append_left hstart,
      keeps_escapeRegex]
    exact ⟨fun h _ hp => Option.some.inj hp ▸ h, fun h => h pattern rfl⟩

theorem unbroken_numberCheck (check : NumberCheck) : Unbroken check.text := by
  cases check with
  | min bound message | max bound message =>
    exact unbroken_call (by decide)
      (unbroken_of_isNumberText (Double.isNumberText_plainText bound)) message

/-- A chained call ends with a parenthesis. -/
theorem StringCheck.exists_text_eq (check : StringCheck) : ∃ inside, check.text = inside ++ ")" := by
  cases check with
  | min n message => exact ⟨_, call_eq "min" _ message⟩
  | max n message => exact ⟨_, call_eq "max" _ message⟩
  | email message => exact ⟨"." ++ "email" ++ "(" ++ quote message, rfl⟩
  | regex pattern message => exact ⟨_, call_eq "regex" _ message⟩

/-- The patterns in an expression. -/
def patterns : Zod → List String
  | .string checks => checks.filterMap StringCheck.pattern?
  | .array item => item.patterns
  | .nonEmpty list _ => list.patterns
  | .optional inner | .orEmpty inner => inner.patterns
  | .number _ _ | .boolean | .mustBeTrue _ | .never | .enum _ => []

theorem keeps_string {checks : List StringCheck} :
    ending.Keeps (Zod.string checks).text ↔
      ∀ pattern ∈ checks.filterMap StringCheck.pattern?, ending.Keeps pattern := by
  have hlast : ∀ s ∈ checks.map StringCheck.text, s.toList.getLast? ≠ some '\r' := by
    rw [List.forall_mem_map]
    intro check _
    obtain ⟨inside, htext⟩ := check.exists_text_eq
    have hparen : ")".toList.getLast? = some ')' := rfl
    rw [htext, String.toList_append, List.getLast?_append, hparen, Option.some_or]
    decide
  show ending.Keeps ("z.string()" ++ String.join (checks.map StringCheck.text)) ↔ _
  rw [LineEnding.keeps_append_left (by decide), LineEnding.keeps_join hlast, List.forall_mem_map]
  simp only [StringCheck.keeps_text, List.mem_filterMap, Option.mem_def]
  constructor
  · rintro h pattern ⟨check, hcheck, hpattern⟩
    exact h check hcheck pattern hpattern
  · intro h check hcheck pattern hpattern
    exact h pattern ⟨check, hcheck, hpattern⟩

theorem unbroken_number (message : String) (checks : List NumberCheck) :
    Unbroken (Zod.number message checks).text := by
  have hchecks : Unbroken (String.join (checks.map NumberCheck.text)) := by
    rw [unbroken_join, List.forall_mem_map]
    exact fun check _ => unbroken_numberCheck check
  have hcoercion : Unbroken coercion := by decide +kernel
  show Unbroken ("z.union([z.number(), z.string().trim()" ++ atLeastOne message ++ "]).pipe(" ++
    coercion ++ String.join (checks.map NumberCheck.text) ++ ")")
  simp only [unbroken_append, unbroken_atLeastOne, hcoercion, hchecks, and_true]
  exact ⟨⟨unbroken_ofList rfl, unbroken_ofList rfl⟩, unbroken_ofList rfl⟩

/-- **The line breaks of an expression** are those of its patterns. -/
theorem keeps_text (e : Zod) :
    ending.Keeps e.text ↔ ∀ pattern ∈ e.patterns, ending.Keeps pattern := by
  have hnone : ∀ pattern ∈ ([] : List String), ending.Keeps pattern := List.forall_mem_nil _
  induction e with
  | string checks => exact keeps_string
  | number message checks =>
    exact iff_of_true (LineEnding.keeps_of_unbroken (unbroken_number message checks)) hnone
  | boolean | never => exact iff_of_true (LineEnding.keeps_of_unbroken (by decide)) hnone
  | mustBeTrue message =>
    refine iff_of_true (LineEnding.keeps_of_unbroken ?_) hnone
    show Unbroken ("z.boolean().refine((val) => val === true, \x7b message: " ++ quote message ++
      " \x7d)")
    simp only [unbroken_append, unbroken_quote, and_true]
    decide
  | enum options =>
    have hoptions : Unbroken (", ".intercalate (options.map quote)) :=
      unbroken_intercalate (by decide) (List.forall_mem_map.mpr fun s _ => unbroken_quote s)
    refine iff_of_true (LineEnding.keeps_of_unbroken ?_) hnone
    show Unbroken ("z.enum([" ++ ", ".intercalate (options.map quote) ++ "])")
    simp only [unbroken_append, hoptions, and_true]
    decide
  | array item ih =>
    show ending.Keeps ("z.array(" ++ item.text ++ ")") ↔ _
    rw [LineEnding.keeps_append_right (by decide), LineEnding.keeps_append_left (by decide)]
    exact ih
  | nonEmpty list message ih =>
    show ending.Keeps (list.text ++ atLeastOne message) ↔ _
    rw [LineEnding.keeps_append_right (unbroken_atLeastOne message)]
    exact ih
  | optional inner ih =>
    show ending.Keeps (inner.text ++ optionalCall) ↔ _
    rw [LineEnding.keeps_append_right (by decide)]
    exact ih
  | orEmpty inner ih =>
    show ending.Keeps (inner.text ++ ".or(z.literal(''))") ↔ _
    rw [LineEnding.keeps_append_right (by decide)]
    exact ih

end

theorem patterns_guard (required rejectsEmpty : Bool) (e : Zod) :
    (guard required rejectsEmpty e).patterns = e.patterns := by
  cases required <;> cases rejectsEmpty <;> rfl

theorem patterns_ofItemKind (kind : FieldKind) : (ofItemKind kind).patterns = [] := by
  cases kind <;> rfl

theorem patterns_stringChecks (kind : FieldKind) (required : Bool) (label : String)
    (c : Constraints) :
    (Zod.string (stringChecks kind required label c)).patterns = c.patternInEffect.toList := by
  have hrequired : (if required then [StringCheck.min 1 (Schema.Message.required label)]
      else []).filterMap StringCheck.pattern? = [] := by
    cases required <;> rfl
  have hmin : (c.minLengthInEffect.map fun n =>
      StringCheck.min n (Schema.Message.minLength n)).toList.filterMap StringCheck.pattern? = [] := by
    cases c.minLengthInEffect <;> rfl
  have hmax : (c.maxLengthInEffect.map fun n =>
      StringCheck.max n (Schema.Message.maxLength n)).toList.filterMap StringCheck.pattern? = [] := by
    cases c.maxLengthInEffect <;> rfl
  have hemail : (if kind = .email then [StringCheck.email Schema.Message.email]
      else []).filterMap StringCheck.pattern? = [] := by
    split <;> rfl
  have hpattern : (c.patternInEffect.map fun p =>
      StringCheck.regex p Schema.Message.pattern).toList.filterMap StringCheck.pattern? =
        c.patternInEffect.toList := by
    cases c.patternInEffect <;> rfl
  rw [patterns, stringChecks, List.filterMap_append, List.filterMap_append, List.filterMap_append,
    List.filterMap_append, hrequired, hmin, hmax, hemail, hpattern]
  rfl

/-- The expression of a field has the pattern in effect, if the field holds texts. -/
theorem patterns_ofLeaf (kind : FieldKind) (spec : FieldSpec) (itemKind : FieldKind) :
    (ofLeaf kind spec itemKind).patterns =
      if kind.base = .string then (spec.constraints.getD {}).patternInEffect.toList else [] := by
  rw [ofLeaf]
  cases hbase : kind.base with
  | string => rw [if_pos rfl, patterns_guard, patterns_stringChecks]
  | number =>
    rw [if_neg (show ¬ BaseRule.number = .string by decide), patterns_guard]
    rfl
  | boolean =>
    rw [if_neg (show ¬ BaseRule.boolean = .string by decide), patterns_guard]
    cases spec.required <;> rfl
  | oneOf =>
    rw [if_neg (show ¬ BaseRule.oneOf = .string by decide), patterns_guard]
    cases spec.options <;> rfl
  | list =>
    rw [if_neg (show ¬ BaseRule.list = .string by decide)]
    cases minItemsOf spec <;> exact patterns_ofItemKind itemKind

end Zod

/-- The pattern of a field that holds texts, if it has one. -/
def Field.patterns (f : Field) : List String :=
  match f.kind? with
  | some kind => if kind.base = .string then f.constraints.patternInEffect.toList else []
  | none => []

theorem Field.patterns_of_kind {f : Field} {kind : FieldKind} (h : f.kind? = some kind) :
    f.patterns =
      if kind.base = .string then f.constraints.patternInEffect.toList else [] := by
  rw [patterns, h]

namespace Zod

section
variable {ending : LineEnding}

/-- Lines of members, one after the other. -/
theorem forall_allLines_iff {P : Line → Prop} {depth : Nat} {parent : String} {fs : List Field} :
    (∀ l ∈ Member.allLines depth (Member.ofFields parent fs), P l) ↔
      ∀ f ∈ fs, ∀ l ∈ (Member.ofField (Field.joinPath parent f.name) f).lines depth, P l := by
  rw [Member.lines_ofFields, List.forall_mem_flatMap]

/-- A member with an expression has the line breaks of the expression. -/
theorem keeps_value {name : String} {e : Zod} {depth : Nat} :
    (∀ l ∈ (Member.value name e).lines depth, ending.Keeps l.text) ↔
      ∀ pattern ∈ e.patterns, ending.Keeps pattern := by
  have hkey : Unbroken (propertyKey name ++ ": ") :=
    unbroken_append.mpr ⟨unbroken_propertyKey name, by decide⟩
  rw [Member.lines, List.forall_mem_singleton, LineEnding.keeps_append_right (by decide),
    LineEnding.keeps_append_left hkey, keeps_text]

/-- A list of objects has the line breaks of its members. -/
theorem keeps_objects {name : String} {members : List Member} {minItems : Option String}
    {depth : Nat} :
    (∀ l ∈ (Member.objects name members minItems).lines depth, ending.Keeps l.text) ↔
      ∀ l ∈ Member.allLines (depth + 1) members, ending.Keeps l.text := by
  have hopen : Unbroken (propertyKey name ++ ": z.array(z.object(\x7b") :=
    unbroken_append.mpr ⟨unbroken_propertyKey name, by decide⟩
  have hsuffix : Unbroken (Member.listSuffix minItems) := by
    cases minItems with
    | none => decide
    | some message => exact unbroken_atLeastOne message
  have hclose : Unbroken ("\x7d))" ++ Member.listSuffix minItems ++ ",") :=
    unbroken_append.mpr ⟨unbroken_append.mpr ⟨by decide, hsuffix⟩, by decide⟩
  rw [Member.lines, List.cons_append, List.forall_mem_cons, List.forall_mem_append,
    List.forall_mem_singleton, and_iff_right (LineEnding.keeps_of_unbroken hopen),
    and_iff_left (LineEnding.keeps_of_unbroken hclose)]

/-- The member of a field has the line breaks of the patterns that are reached in it. -/
theorem keeps_ofField (f : Field) (hknown : Field.Everywhere Field.IsKnown f) : ∀ path depth,
    (∀ l ∈ (Member.ofField path f).lines depth, ending.Keeps l.text) ↔
      Field.Everywhere (fun g => ∀ pattern ∈ g.patterns, ending.Keeps pattern) f := by
  induction f using Field.induction with
  | mk spec children ih =>
    intro path depth
    obtain ⟨⟨kind, hkind⟩, hchildren⟩ := Field.everywhere_iff.mp hknown
    rw [Field.everywhere_iff, Field.patterns_of_kind hkind, Member.ofField,
      Field.kind?_eq_some_iff.mp hkind]
    dsimp only
    split
    · next hobjects =>
      rw [Field.isObjectArray, hkind, Bool.and_eq_true, beq_iff_eq] at hobjects
      obtain rfl := Option.some.inj hobjects.1
      rw [keeps_objects, forall_allLines_iff, if_neg (by decide),
        and_iff_right (List.forall_mem_nil _), imp_iff_right hkind]
      exact forall₂_congr fun c hc => ih c hc (hchildren hkind c hc) _ _
    · next hobjects =>
      rw [keeps_value, patterns_ofLeaf]
      refine (and_iff_left fun harray c hc => ?_).symm
      -- a list that is no list of objects has no children
      rw [Field.isObjectArray, harray, beq_self_eq_true, Bool.true_and, Bool.not_eq_true',
        Bool.not_eq_false, List.isEmpty_iff] at hobjects
      rw [show children = [] from hobjects] at hc
      cases hc

/-- The texts that a schema file has as they are: the patterns of the fields that are reached. -/
theorem keeps_schemaLines {ids : Identifiers} {form : Form}
    (hids : Identifiers.ofTitle form.title = .ok ids)
    (hknown : Field.EverywhereIn Field.IsKnown form.fields) :
    (∀ l ∈ schemaLines ids form.fields, ending.Keeps l.text) ↔
      ∀ pattern ∈ form.places.flatMap (fun p => p.field.patterns), ending.Keeps pattern := by
  have hschema : Unbroken ids.schemaName :=
    unbroken_of_isIdentifier (Identifiers.isIdentifier_of_ofTitle hids).1
  have htype : Unbroken ids.formDataType :=
    unbroken_of_isIdentifier (Identifiers.isIdentifier_of_ofTitle hids).2
  have hhead : ∀ l ∈ [⟨0, "import \x7b z \x7d from 'zod';"⟩, Line.blank,
      ⟨0, "export const " ++ ids.schemaName ++ " = z.object(\x7b"⟩], Unbroken l.text := by
    simp only [List.forall_mem_cons, unbroken_append, hschema, and_true]
    exact ⟨unbroken_ofList rfl, unbroken_ofList rfl, ⟨unbroken_ofList rfl, unbroken_ofList rfl⟩,
      List.forall_mem_nil _⟩
  have hfoot : ∀ l ∈ [⟨0, "\x7d);"⟩, Line.blank, ⟨0, "export type " ++ ids.formDataType ++
      " = z.infer<typeof " ++ ids.schemaName ++ ">;"⟩], Unbroken l.text := by
    simp only [List.forall_mem_cons, unbroken_append, hschema, htype, and_true]
    exact ⟨by decide, by decide, by decide, List.forall_mem_nil _⟩
  have hmembers : (∀ l ∈ Member.allLines 1 (Member.ofFields "" form.fields), ending.Keeps l.text) ↔
      ∀ p ∈ form.places, ∀ pattern ∈ p.field.patterns, ending.Keeps pattern := by
    rw [Field.everywhereIn_iff_forall_mem] at hknown
    rw [forall_allLines_iff,
      forall₂_congr fun f hf => @keeps_ofField ending f (hknown f hf) _ 1,
      ← Field.everywhereIn_iff_forall_mem]
    exact Field.everywhereIn_iff_forall_places
  rw [schemaLines, List.forall_mem_append, List.forall_mem_append, hmembers,
    and_iff_right fun l hl => LineEnding.keeps_of_unbroken (hhead l hl),
    and_iff_left fun l hl => LineEnding.keeps_of_unbroken (hfoot l hl), List.forall_mem_flatMap]

end

end Zod

/-! ## The types -/

namespace Interface

theorem Ty.unbroken_text (ty : Ty) : Unbroken ty.text := by
  induction ty with
  | string | number | boolean => decide
  | union first rest =>
    exact unbroken_intercalate (by decide)
      (List.forall_mem_map.mpr fun s _ => unbroken_quote s)
  | arrayOf item ih => exact unbroken_append.mpr ⟨ih, by decide⟩

theorem Member.unbroken_head (name : String) (required : Bool) : Unbroken (head name required) := by
  have hmark : Unbroken (if required then "" else "?") := by
    cases required <;> decide
  simp only [head, unbroken_append, unbroken_propertyKey, hmark, true_and]
  decide

/-- The member of a field has no line breaks, whatever the form says. -/
theorem unbroken_ofField (f : Field) (hknown : Field.Everywhere Field.IsKnown f) : ∀ path depth,
    ∀ l ∈ (Member.ofField path f).lines depth, Unbroken l.text := by
  induction f using Field.induction with
  | mk spec children ih =>
    intro path depth
    obtain ⟨⟨kind, hkind⟩, hchildren⟩ := Field.everywhere_iff.mp hknown
    rw [Member.ofField, Field.kind?_eq_some_iff.mp hkind]
    dsimp only
    split
    · next hobjects =>
      rw [Field.isObjectArray, Bool.and_eq_true, beq_iff_eq] at hobjects
      have hclose : Unbroken "\x7d>;" := by decide
      rw [Member.lines, List.cons_append, List.forall_mem_cons, List.forall_mem_append,
        List.forall_mem_singleton, Member.lines_ofFields, List.forall_mem_flatMap]
      exact ⟨unbroken_append.mpr ⟨Member.unbroken_head _ _, by decide⟩,
        fun c hc => ih c hc (hchildren hobjects.1 c hc) _ _, hclose⟩
    · rw [Member.lines, List.forall_mem_singleton, unbroken_append, unbroken_append]
      exact ⟨⟨Member.unbroken_head _ _, Ty.unbroken_text _⟩, by decide⟩

theorem unbroken_fileLines {ids : Identifiers} {form : Form}
    (hids : Identifiers.ofTitle form.title = .ok ids)
    (hknown : Field.EverywhereIn Field.IsKnown form.fields) :
    ∀ l ∈ fileLines ids form.fields, Unbroken l.text := by
  have htype : Unbroken ids.formDataType :=
    unbroken_of_isIdentifier (Identifiers.isIdentifier_of_ofTitle hids).2
  have hopen : Unbroken ("export interface " ++ ids.formDataType ++ " \x7b") :=
    unbroken_append.mpr ⟨unbroken_append.mpr ⟨by decide, htype⟩, by decide⟩
  rw [Field.everywhereIn_iff_forall_mem] at hknown
  rw [fileLines, List.cons_append, List.forall_mem_cons, List.forall_mem_append,
    List.forall_mem_singleton, Member.lines_ofFields, List.forall_mem_flatMap]
  exact ⟨hopen, fun f hf => unbroken_ofField f (hknown f hf) _ _, by decide⟩

end Interface

/-! ## Artifacts -/

/-- The texts of a form that an artifact has as they are. All others are escaped. -/
def ArtifactKind.verbatim (kind : ArtifactKind) (form : Form) : List String :=
  match kind with
  | .component => form.componentTexts
  | .schema => form.places.flatMap fun p => p.field.patterns
  | .types => []

namespace Form

open Outcome Schema

/-- **Which artifacts use their line ending throughout.** A form that compiles has three artifacts.
Each of them uses the line ending that it is written with throughout exactly when the texts of the
form do that the artifact has as they are: patterns in the schema; in the component file the title,
and labels and options between elements, if they have no characters of the markup, and the names in
the paths of items; and no texts at all in the types. -/
theorem keeps_lineEnding_iff {style : Style} {form : Form} {c : CompiledForm}
    (h : form.compile style = .ok c) :
    c.artifacts.map Artifact.kind = ArtifactKind.all ∧
      ∀ a ∈ c.artifacts, style.lineEnding.Keeps a.content ↔
        ∀ t ∈ a.kind.verbatim form, style.lineEnding.Keeps t := by
  obtain ⟨ids, hids, h⟩ := bind_eq_ok_iff.mp h
  obtain ⟨schema, hschema, h⟩ := bind_eq_ok_iff.mp h
  obtain rfl := Except.ok.inj h
  have hids := mapError_eq_ok_iff.mp hids
  have hknown := everywhereIn_isKnown_of_ofForm (mapError_eq_ok_iff.mp hschema)
  refine ⟨rfl, List.forall_mem_map.mpr fun kind _ => ?_⟩
  show style.lineEnding.Keeps (style.lines (kind.lines ids form)) ↔
    ∀ t ∈ kind.verbatim form, style.lineEnding.Keeps t
  rw [Style.keeps_lines]
  cases kind with
  | component => exact keeps_componentTexts hids hknown
  | schema => exact Zod.keeps_schemaLines hids hknown
  | types =>
    have hunbroken := Interface.unbroken_fileLines hids hknown
    exact iff_of_true (fun l hl => LineEnding.keeps_of_unbroken (hunbroken l hl))
      (List.forall_mem_nil _)

/-- A form with texts that have line breaks, none of which is written as it is. -/
def noticeForm : Form :=
  ⟨"Notice {1}",
    [.leaf ⟨"text", .known .text, "Text\nof the notice", true, none, [], none,
        some "One line\nor two", none⟩,
      ⟨⟨"readers", .known .array, "Reader", false, none, [], none, none, some "All\rreaders"⟩,
        [.leaf ⟨"seen", .known .boolean, "Seen\n<and read>", false, none, [], none, none, none⟩]⟩]⟩

/-- The artifacts of the form use the line ending throughout. -/
theorem noticeForm_keeps_lineEnding :
    ∃ c, noticeForm.compile ⟨.spaces2, .crlf⟩ = .ok c ∧ c.artifacts.length = 3 ∧
      ∀ a ∈ c.artifacts, LineEnding.crlf.Keeps a.content := by
  have hcompiles : ∃ c, noticeForm.compile ⟨.spaces2, .crlf⟩ = .ok c := ⟨_, rfl⟩
  have hverbatim : ∀ kind : ArtifactKind, ∀ t ∈ kind.verbatim noticeForm,
      LineEnding.crlf.Keeps t := by
    intro kind
    cases kind <;> decide +kernel
  obtain ⟨c, hc⟩ := hcompiles
  obtain ⟨hkinds, hkeeps⟩ := keeps_lineEnding_iff hc
  refine ⟨c, hc, ?_, fun a ha => (hkeeps a ha).mpr (hverbatim a.kind)⟩
  rw [← List.length_map Artifact.kind, hkinds]
  rfl

/-- A form with a title over two lines. -/
def twoLineForm : Form :=
  ⟨"Contact\nUs",
    [.leaf ⟨"email", .known .email, "Email", false, none, [], none, none, none⟩]⟩

/-- The form compiles, and its component file has a feed without a return. -/
theorem twoLineForm_breaks_lineEnding :
    ∃ c, twoLineForm.compile ⟨.spaces2, .crlf⟩ = .ok c ∧
      ∃ a ∈ c.artifacts, ¬ LineEnding.crlf.Keeps a.content := by
  have hids : Identifiers.ofTitle twoLineForm.title = .ok ⟨"ContactUs", "contactUs"⟩ := rfl
  refine ⟨_, rfl, _, List.mem_cons_self, fun h => ?_⟩
  have hlines := (@Style.keeps_lines ⟨.spaces2, .crlf⟩ _).mp h
  have htitle := ((Component.keeps_fileLines hids).mp hlines).1
  exact absurd htitle (by decide +kernel)

end Form

end WebForm
