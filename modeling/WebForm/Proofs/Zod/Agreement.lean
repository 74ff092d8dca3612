import Mathlib
import WebForm.Artifact
import WebForm.Proofs.Identifier
import WebForm.Proofs.Schema.Faults
import WebForm.Proofs.Zod.Accepts
/-!
# The generated schema agrees with the compiled one

A submission is judged twice: by the compiled schema where the form is served, and by the schema
file in the browser. The two are made by separate recursions over the fields, which say in
different ways what is required. `Field.Accepts` is between them: the compiled schema accepts what
the form takes, and so does the parser that the schema file exports.

Null is no value for the compiled schema and a value of the wrong kind for the generated one, so
the two agree on submissions without null.
-/

set_option autoImplicit false

namespace WebForm

open WebForm.Field Schema Script Zod

/-! ## Submissions without null -/

namespace Json

mutual

/-- A value in which null does not occur. -/
def NullFree : Json → Prop
  | .null => False
  | .bool _ | .number _ | .string _ => True
  | .array items => AllNullFree items
  | .object members => MembersNullFree members
termination_by structural v => v

/-- Items in which null does not occur. -/
def AllNullFree : List Json → Prop
  | [] => True
  | item :: rest => NullFree item ∧ AllNullFree rest
termination_by structural items => items

/-- Members in which null does not occur. -/
def MembersNullFree : List (String × Json) → Prop
  | [] => True
  | (_, value) :: rest => NullFree value ∧ MembersNullFree rest
termination_by structural members => members

end

theorem allNullFree_iff {items : List Json} : AllNullFree items ↔ ∀ v ∈ items, v.NullFree := by
  induction items with
  | nil => simp [AllNullFree]
  | cons v rest ih => rw [AllNullFree, ih, List.forall_mem_cons]

/-- What is found in an object without null has none. -/
theorem MembersNullFree.of_lookup {members : List (String × Json)} (h : MembersNullFree members)
    {name : String} {v : Json} (hv : lookup name members = some v) : v.NullFree := by
  induction members with
  | nil => cases hv
  | cons m rest ih =>
    obtain ⟨key, value⟩ := m
    rw [lookup] at hv
    by_cases hkey : key = name
    · rw [if_pos hkey] at hv
      obtain rfl := Option.some.inj hv
      exact h.1
    · rw [if_neg hkey] at hv
      exact ih h.2 hv

/-- A value without null counts as a value. -/
theorem NullFree.present_eq {v : Json} (h : v.NullFree) : present (some v) = some v := by
  cases v with
  | null => exact absurd h id
  | bool b => rfl
  | number n => rfl
  | string s => rfl
  | array items => rfl
  | object members => rfl

theorem MembersNullFree.present_lookup {members : List (String × Json)}
    (h : MembersNullFree members) (name : String) :
    present (lookup name members) = lookup name members := by
  cases hv : lookup name members with
  | none => rfl
  | some v => exact (h.of_lookup hv).present_eq

end Json

namespace Zod

/-- With distinct keys, each member counts. -/
theorem lastOfEach_eq_self {α : Type} {members : List (String × α)}
    (h : (members.map Prod.fst).Nodup) : lastOfEach members = members := by
  induction members with
  | nil => rfl
  | cons m rest ih =>
    obtain ⟨key, a⟩ := m
    rw [List.map_cons, List.nodup_cons] at h
    have hfresh : rest.any (fun m => m.1 == key) = false := by
      rw [List.any_eq_false]
      intro m hm
      rw [beq_iff_eq]
      rintro rfl
      exact h.1 (List.mem_map.mpr ⟨m, hm, rfl⟩)
    rw [lastOfEach, hfresh, if_neg Bool.false_ne_true, ih h.2]

/-! ## Readable expressions -/

theorem isReadable_guard {required rejectsEmpty : Bool} {e : Zod} (h : e.IsReadable) :
    (guard required rejectsEmpty e).IsReadable := by
  rw [guard]
  split
  · exact h
  · split
    · exact h
    · exact h

theorem isReadable_ofItemKind (kind : FieldKind) : (ofItemKind kind).IsReadable := by
  cases kind <;> simp [ofItemKind, FieldKind.base, IsReadable, StringCheck.IsReadable]

theorem isReadable_stringChecks {kind : FieldKind} {required : Bool} {label : String}
    {c : Constraints} (hpattern : ∀ source, c.patternInEffect = some source → IsRegexText source) :
    (Zod.string (stringChecks kind required label c)).IsReadable := by
  rw [IsReadable, stringChecks, List.forall_mem_append, List.forall_mem_append,
    List.forall_mem_append, List.forall_mem_append, forall_mem_toList_map, forall_mem_toList_map,
    forall_mem_toList_map]
  refine ⟨⟨⟨⟨?_, fun _ _ => trivial⟩, fun _ _ => trivial⟩, ?_⟩, hpattern⟩
  · split <;> simp [StringCheck.IsReadable]
  · split <;> simp [StringCheck.IsReadable]

/-- The expression of a field is readable if its pattern is written as a literal. -/
theorem isReadable_ofLeaf {lits : Literals} {spec : FieldSpec} {children : List Field}
    {kind itemKind : FieldKind} (hkind : (Field.mk spec children).kind? = some kind)
    (hlits : lits.ReadsBack ⟨spec, children⟩) : (ofLeaf kind spec itemKind).IsReadable := by
  rw [ofLeaf]
  cases hbase : kind.base with
  | string =>
    exact isReadable_guard (isReadable_stringChecks fun source hsource =>
      (hlits.pattern kind hkind hbase source hsource).1)
  | number => exact isReadable_guard trivial
  | boolean =>
    refine isReadable_guard ?_
    split <;> trivial
  | oneOf =>
    refine isReadable_guard ?_
    split <;> trivial
  | list =>
    cases minItemsOf spec with
    | some message => exact isReadable_ofItemKind itemKind
    | none => exact isReadable_ofItemKind itemKind

/-! ## Agreement on a field -/

/-- What the agreement needs of a field: a known kind, children of distinct names, and literals
that the engine reads back. -/
structure Literals.Suits (lits : Literals) (f : Field) : Prop extends lits.ReadsBack f where
  known : f.IsKnown
  distinct : f.kind? = some .array → (f.children.map Field.name).Nodup

/-- A parser accepts what a field takes, as far as null does not occur. -/
def Parser.Agrees (p : Parser) (f : Field) : Prop :=
  ∀ x : Option Json, (∀ v, x = some v → v.NullFree) →
    (p.accepts x = true ↔ f.Accepts Pattern.Matches x)

section
variable {lits : Literals}

theorem accepts_none_iff {f : Field} {kind : FieldKind} (hkind : f.kind? = some kind) :
    f.Accepts Pattern.Matches none ↔ f.required = false := by
  obtain ⟨spec, children⟩ := f
  rw [kind?_mk] at hkind
  simp [Field.Accepts, Field.required, hkind]

/-- The expression of a field that is no list of objects agrees with the field. -/
theorem agrees_ofLeaf {spec : FieldSpec} {children : List Field} {kind : FieldKind}
    (hkind : (Field.mk spec children).kind? = some kind) (hlits : lits.ReadsBack ⟨spec, children⟩)
    (hleaf : kind.base = .list → children = []) :
    ((ofLeaf kind spec (Field.mk spec children).itemKind).parser lits).Agrees
      ⟨spec, children⟩ := by
  intro x _
  rcases x with _ | v
  · rw [accepts_ofLeaf_none, accepts_none_iff hkind]
    rfl
  · rw [kind?_mk] at hkind
    cases hbase : kind.base with
    | string =>
      simp only [Field.Accepts, hkind, ofLeaf, hbase]
      exact accepts_text_iff fun source hsource s =>
        (hlits.pattern kind hkind hbase source hsource).2 s
    | number =>
      simp only [Field.Accepts, hkind, ofLeaf, hbase]
      exact accepts_bounded_iff (hlits.bound kind hkind hbase)
    | boolean =>
      simp only [Field.Accepts, hkind, ofLeaf, hbase]
      exact accepts_boolean_iff
    | oneOf =>
      simp only [Field.Accepts, hkind, ofLeaf, hbase]
      exact accepts_choice_iff
    | list =>
      rw [parser_ofLeaf_list hbase, accepts_listOf_iff]
      simp only [Field.Accepts, hkind, hbase, accepts_ofItemKind_iff, hleaf hbase, true_and, ne_eq,
        not_true_eq_false, false_and, or_false]

/-- Siblings whose members agree are together an object whose members agree. -/
theorem agrees_ofFields {fs : List Field}
    (ih : ∀ f ∈ fs, ∀ path, (Member.ofField path f).IsReadable ∧
      ∃ p : Parser, (Member.ofField path f).parser? lits = some (f.name, p) ∧ p.Agrees f)
    (parent : String) :
    Member.AllReadable (Member.ofFields parent fs) ∧
      (Member.parsers lits (Member.ofFields parent fs)).map Prod.fst = fs.map Field.name ∧
      ∀ members, Json.MembersNullFree members →
        ((∀ m ∈ Member.parsers lits (Member.ofFields parent fs),
          m.2.accepts (Json.lookup m.1 members) = true) ↔
            AcceptsAll Pattern.Matches fs members) := by
  induction fs with
  | nil =>
    refine ⟨trivial, rfl, ?_⟩
    intro members _
    simp [Member.ofFields, Member.parsers, AcceptsAll]
  | cons f rest ihrest =>
    obtain ⟨hreadable, p, hparser, hagrees⟩ := ih f List.mem_cons_self (joinPath parent f.name)
    obtain ⟨hall, hnames, haccepts⟩ := ihrest fun g hg => ih g (List.mem_cons_of_mem f hg)
    -- the member of each field comes right after those of its elders
    have hparsers : Member.parsers lits (Member.ofFields parent (f :: rest)) =
        (f.name, p) :: Member.parsers lits (Member.ofFields parent rest) := by
      rw [Member.ofFields, Member.parsers, hparser]
      rfl
    refine ⟨⟨hreadable, hall⟩, ?_, ?_⟩
    · rw [hparsers, List.map_cons, List.map_cons, hnames]
    · intro members hmembers
      rw [hparsers, List.forall_mem_cons, haccepts members hmembers, AcceptsAll,
        hmembers.present_lookup, hagrees _ fun v hv => hmembers.of_lookup hv]

/-- With distinct names, an object is accepted exactly when its members are. -/
theorem accepts_object_iff {members : List (String × Parser)}
    (h : (members.map Prod.fst).Nodup) {v : Json} :
    (Parser.object members).accepts (some v) = true ↔
      ∃ values, v = .object values ∧
        ∀ m ∈ members, m.2.accepts (Json.lookup m.1 values) = true := by
  cases v <;> simp [Parser.object, Parser.ofTest, lastOfEach_eq_self h]

/-- Siblings of distinct names are together an object that is accepted if each of them is. -/
theorem object_agrees_ofFields {fs : List Field}
    (ih : ∀ f ∈ fs, ∀ path, (Member.ofField path f).IsReadable ∧
      ∃ p : Parser, (Member.ofField path f).parser? lits = some (f.name, p) ∧ p.Agrees f)
    (hdistinct : (fs.map Field.name).Nodup) (parent : String) :
    Member.AllReadable (Member.ofFields parent fs) ∧
      ∀ v : Json, v.NullFree →
        ((Parser.object (Member.parsers lits (Member.ofFields parent fs))).accepts (some v) = true ↔
          ∃ members, v = .object members ∧ AcceptsAll Pattern.Matches fs members) := by
  obtain ⟨hall, hnames, haccepts⟩ := agrees_ofFields ih parent
  refine ⟨hall, ?_⟩
  intro v hv
  rw [accepts_object_iff (hnames ▸ hdistinct)]
  refine exists_congr fun members => and_congr_right fun hobject => ?_
  subst hobject
  exact haccepts members hv

/-- A list of objects agrees with its field if its objects agree with the children. -/
theorem agrees_listOf_objects {spec : FieldSpec} {children : List Field} {item : Parser}
    (harray : (Field.mk spec children).kind? = some .array) (hsome : children ≠ [])
    (hitem : ∀ v : Json, v.NullFree → (item.accepts (some v) = true ↔
      ∃ members, v = .object members ∧ AcceptsAll Pattern.Matches children members)) :
    (Parser.listOf lits (minItemsOf spec) (.array item)).Agrees ⟨spec, children⟩ := by
  intro x hx
  rcases x with _ | v
  · rw [accepts_listOf_none, accepts_none_iff harray]
    rfl
  · rw [accepts_listOf_iff]
    rw [kind?_mk] at harray
    simp only [Field.Accepts, harray, FieldKind.base]
    refine exists_congr fun items => and_congr_right fun hitems => and_congr_right fun _ => ?_
    -- the items of a list without null have none either
    have hnull : ∀ w ∈ items, w.NullFree := by
      have hv := hx v rfl
      rw [hitems, Json.NullFree] at hv
      exact Json.allNullFree_iff.mp hv
    constructor
    · intro h
      exact .inr ⟨hsome, fun w hw => (hitem w (hnull w hw)).mp (h w hw)⟩
    · rintro (⟨hnone, -⟩ | ⟨-, h⟩)
      · exact absurd hnone hsome
      · exact fun w hw => (hitem w (hnull w hw)).mpr (h w hw)

/-- Every field becomes a member whose parser agrees with it. -/
theorem exists_agrees_of_suits (f : Field) :
    Everywhere lits.Suits f → ∀ path, (Member.ofField path f).IsReadable ∧
      ∃ p : Parser, (Member.ofField path f).parser? lits = some (f.name, p) ∧ p.Agrees f := by
  induction f using Field.induction with
  | mk spec children ih =>
    intro hsuits path
    obtain ⟨hfield, hchildren⟩ := everywhere_iff.mp hsuits
    obtain ⟨kind, hkind⟩ := hfield.known
    have htype : spec.type = .known kind := kind?_eq_some_iff.mp hkind
    rw [Member.ofField, htype]
    by_cases hobjects : (Field.mk spec children).isObjectArray = true
    · simp only [hobjects, if_true]
      rw [isObjectArray, Bool.and_eq_true, beq_iff_eq, Bool.not_eq_true',
        List.isEmpty_eq_false_iff] at hobjects
      obtain ⟨harray, hsome⟩ := hobjects
      obtain ⟨hall, hobject⟩ := object_agrees_ofFields
        (fun c hc => ih c hc (hchildren harray c hc)) (hfield.distinct harray) path
      exact ⟨hall, _, rfl, agrees_listOf_objects harray hsome hobject⟩
    · simp only [if_neg hobjects]
      -- children of anything but a list are never looked at, and a list without children is a leaf
      have hleaf : kind.base = .list → children = [] := by
        intro hbase
        simpa [isObjectArray, hkind, FieldKind.base_eq_list_iff.mp hbase] using hobjects
      exact ⟨isReadable_ofLeaf hkind hfield.toReadsBack, _, rfl,
        agrees_ofLeaf hkind hfield.toReadsBack hleaf⟩

end

end Zod

/-- An engine that reads numbers and patterns as forms do. -/
def Zod.Literals.plain : Literals where
  number literal := (Numeral.ofChars? literal.toList).bind Numeral.toDouble?
  regex body s := (Pattern.ofSource body).toOption.any (·.occursIn s)

theorem Zod.Literals.regex_plain_iff {body s : String} :
    Literals.plain.regex body s = true ↔ Pattern.Matches body s := by
  rw [plain, Pattern.Matches]
  dsimp only
  cases Pattern.ofSource body with
  | ok p => simp [Except.toOption]
  | error e => simp [Except.toOption]

theorem Pattern.exists_ofSource_of_isOk {source : String}
    (h : (Pattern.Engine.ofSource source).isOk = true) :
    ∃ p, Pattern.ofSource source = .ok p := by
  unfold Pattern.ofSource
  split
  · exact ⟨_, rfl⟩
  · next e he =>
    rw [he] at h
    cases h

/-- A text with a pattern. -/
def rowField : Field :=
  .leaf ⟨"row", .known .text, "Row", false, some { pattern := some "^[A-Z]$" }, [], none, none,
    none⟩

theorem one_lt_infinity : 0x3FF0000000000000 < Double.infinity := by decide

/-- A form with a pattern, a bound, and a list of objects. -/
def ticketForm : Form :=
  ⟨"Ticket order",
    [rowField,
      .leaf ⟨"seats", .known .number, "Seats", true,
        some { min := some ⟨false, 0x3FF0000000000000, one_lt_infinity⟩ }, [], none, none, none⟩,
      ⟨⟨"guests", .known .array, "Guests", true, none, [], none, none, none⟩,
        [.leaf ⟨"full name", .known .text, "Name", true, none, [], none, none, none⟩]⟩]⟩

theorem exists_ofForm_ticketForm : ∃ schema, ValidationSchema.ofForm ticketForm = .ok schema := by
  have hengine : (Pattern.Engine.ofSource "^[A-Z]$").isOk = true := by cbv
  obtain ⟨p, hp⟩ := Pattern.exists_ofSource_of_isOk hengine
  have hpattern : patternOf "row" rowField.constraints = .ok (some p) :=
    patternOf_eq_ok_iff.mpr (Or.inr ⟨"^[A-Z]$", p, rfl, hp, rfl⟩)
  have hrow : ∃ v, Validator.ofField "row" rowField = .ok v := by
    show ∃ v, ((stringRulesOf "row" .text "Row" rowField.constraints).map Validator.string).map
      (Validator.guard false .string) = .ok v
    rw [stringRulesOf_eq, hpattern]
    exact ⟨_, rfl⟩
  obtain ⟨v, hv⟩ := hrow
  exact ⟨_, ofForm_eq_ok_iff.mpr ⟨_, ofFields_cons_eq_ok_iff.mpr ⟨v, _, hv, rfl, rfl⟩, rfl⟩⟩

theorem Zod.Literals.readsBack_of_constraints_eq_none {lits : Literals} {spec : FieldSpec}
    {children : List Field} (h : spec.constraints = none) :
    lits.ReadsBack ⟨spec, children⟩ := by
  refine ⟨?_, ?_⟩
  · rintro kind - - b hb
    simp [constraints, h] at hb
  · rintro kind - - source hsource
    simp [constraints, h, Constraints.patternInEffect] at hsource

theorem readsBack_rowField : Literals.plain.ReadsBack rowField := by
  refine ⟨?_, ?_⟩
  · intro kind hkind hbase
    obtain rfl : FieldKind.text = kind := Option.some.inj hkind
    cases hbase
  · intro kind _ _ source hsource
    obtain rfl : "^[A-Z]$" = source := Option.some.inj hsource
    have hdelimited : IsDelimitable "^[A-Z]$" := ⟨by decide, by decide, rfl, rfl⟩
    exact ⟨reads_regex hdelimited, fun s => Literals.regex_plain_iff⟩

theorem readsBack_ticketForm : EverywhereIn Literals.plain.ReadsBack ticketForm.fields := by
  have hone : Literals.plain.number (Double.plainText ⟨false, 0x3FF0000000000000, by decide⟩) =
      some ⟨false, 0x3FF0000000000000, by decide⟩ := by decide +kernel
  refine ⟨⟨readsBack_rowField, fun h => by cases h⟩, ⟨⟨?_, ?_⟩, fun h => by cases h⟩,
    ⟨Literals.readsBack_of_constraints_eq_none rfl, fun _ =>
      ⟨⟨Literals.readsBack_of_constraints_eq_none rfl, fun h => by cases h⟩, trivial⟩⟩, trivial⟩
  · rintro kind - - b (hb | hb)
    · obtain rfl := Option.some.inj hb
      exact ⟨_, hone, rfl⟩
    · cases hb
  · intro kind _ _ source hsource
    cases hsource

theorem distinctNames_ticketForm : ticketForm.DistinctNames := by
  refine ⟨by decide, ?_⟩
  simp [ticketForm, rowField, EverywhereIn, Everywhere, Field.kind?, FieldType.kind?, Field.leaf,
    Field.name]

end WebForm
