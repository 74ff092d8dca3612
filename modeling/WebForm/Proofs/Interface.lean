import WebForm.Artifact
import WebForm.Proofs.Identifier
import WebForm.Proofs.Schema.Compile
import WebForm.Proofs.Script.Type
/-!
# The interface and the schema

The interface and the schema of a form are made by two recursions that know nothing of each
other. `declared` is the type that a validator asks for: that of the values which it accepts, as
far as a type can say. Read as its language reads it, the generated interface has exactly the
members that the validators of the schema ask for, at every level and in the same order.
-/

set_option autoImplicit false

namespace WebForm.Schema.Validator

open Script

/-- The type of a list, by the type of its items. -/
def listType : TypeExpr → TypeExpr
  | .record members => .generic "Array" [.record members]
  | t => .arrayOf t

mutual

/-- The type that a validator asks for. -/
def declared : Validator → TypeExpr
  | .string _ => .name "string"
  | .number _ => .name "number"
  | .boolean _ => .name "boolean"
  | .oneOf _ options => .ofOptions options
  | .array item _ _ => listType (declared item)
  | .object fields => .record (declaredMembers fields)
  | .optional inner _ => declared inner
termination_by structural v => v

/-- The members that the validators of an object ask for. -/
def declaredMembers : List (String × Validator) → List (String × Bool × TypeExpr)
  | [] => []
  | (name, v) :: rest => (name, v.isOptional, declared v) :: declaredMembers rest
termination_by structural fields => fields

end

@[simp] theorem declared_guard (required : Bool) (base : BaseRule) (v : Validator) :
    (guard required base v).declared = v.declared := by
  cases required <;> rfl

/-- Only validators that are wrapped as optional are. -/
theorem isOptional_guard {path : String} {f : Field} {kind : FieldKind} {v : Validator}
    (h : Compiles path f kind v) (required : Bool) (base : BaseRule) :
    (guard required base v).isOptional = !required := by
  cases required with
  | true => cases h <;> rfl
  | false => rfl

end WebForm.Schema.Validator

namespace WebForm.Interface

open Script Source Schema Outcome

/-! ## Types -/

namespace Ty

/-- The text of a type is cut into tokens that are read as some type. -/
def Shows (text : String) (t : TypeExpr) : Prop :=
  ∃ ts, ReadsType (text ++ ";") (ts ++ [Token.mark ";"]) ∧ TypeExpr.SpellsType ts t

theorem shows_name {s : String} (h : Reads (s ++ ";") [.word s, .mark ";"]) :
    Shows s (.name s) :=
  ⟨[.word s], h.type, TypeExpr.spellsType_name s⟩

theorem shows_arrayOf {s : String}
    (h : Reads (s ++ "[];") [.word s, .mark "[", .mark "]", .mark ";"]) :
    Shows (s ++ "[]") (.arrayOf (.name s)) := by
  refine ⟨[.word s, .mark "[", .mark "]"], ?_, TypeExpr.spellsType_arrayOf s⟩
  rw [String.append_assoc]
  exact h.type

theorem reads_options (options : List String) :
    ReadsType (" | ".intercalate (options.map quote)) (TypeExpr.optionTokens options) := by
  match options with
  | [] => rfl
  | [option] => exact (reads_quote option).type
  | option :: second :: rest =>
    have hbar : ReadsType " | " [.mark "|"] := rfl
    rw [List.map_cons, List.map_cons, String.intercalate_cons_cons]
    exact ((reads_quote option).type.append hbar).append (reads_options (second :: rest))

theorem shows_ofOptions (options : List String) :
    Shows (ofOptions options).text (.ofOptions options) := by
  cases options with
  | nil => exact shows_name (s := "string") rfl
  | cons first rest =>
    have hend : ReadsType ";" [.mark ";"] := rfl
    exact ⟨_, (reads_options (first :: rest)).append hend,
      TypeExpr.spellsType_ofOptions first rest⟩

/-- A list of primitives has the type of its items with brackets behind it. -/
theorem shows_ofItemKind (kind : FieldKind) :
    Shows (arrayOf (ofItemKind kind)).text
      (Validator.listType (Validator.ofItemKind kind).declared) := by
  rw [ofItemKind, Validator.ofItemKind]
  cases kind.base with
  | number => exact shows_arrayOf (s := "number") rfl
  | boolean => exact shows_arrayOf (s := "boolean") rfl
  | string | oneOf | list => exact shows_arrayOf (s := "string") rfl

/-- The type of a field that is no list of objects is that of its validator. -/
theorem shows_ofLeaf {path : String} {f : Field} {kind : FieldKind} {v : Validator}
    (hv : Compiles path f kind v) (hleaf : f.isObjectArray = false)
    (hkind : f.kind? = some kind) :
    Shows (ofLeaf kind f.spec f.itemKind).text v.declared := by
  cases hv with
  | text hbase hpattern =>
    rw [ofLeaf, hbase]
    exact shows_name (s := "string") rfl
  | number hbase =>
    rw [ofLeaf, hbase]
    exact shows_name (s := "number") rfl
  | boolean hbase =>
    rw [ofLeaf, hbase]
    exact shows_name (s := "boolean") rfl
  | choice hbase =>
    rw [ofLeaf, hbase]
    exact shows_ofOptions f.options
  | primitives hbase hnone =>
    rw [ofLeaf, hbase]
    exact shows_ofItemKind f.itemKind
  | objects hbase hsome hfields =>
    rw [Field.isObjectArray, hkind, FieldKind.base_eq_list_iff.mp hbase] at hleaf
    simp [hsome] at hleaf

end Ty

/-! ## Members -/

namespace Member

/-- The lines are cut into tokens that are read as some members. -/
def Shows (ls : List Line) (members : List (String × Bool × TypeExpr)) : Prop :=
  ∃ ts, ReadsTypeLines ls ts ∧ TypeExpr.SpellsTypeMembers ts members

theorem shows_nil : Shows [] [] := ⟨[], .nil, TypeExpr.spellsTypeMembers_nil⟩

theorem Shows.append {ls ls' : List Line} {members members' : List (String × Bool × TypeExpr)}
    (h : Shows ls members) (h' : Shows ls' members') :
    Shows (ls ++ ls') (members ++ members') := by
  obtain ⟨ts, hreads, hspells⟩ := h
  obtain ⟨us, hreads', hspells'⟩ := h'
  exact ⟨ts ++ us, hreads.append hreads', hspells.append hspells'⟩

/-- A member that need not be there has a question mark behind its key. -/
theorem readsType_head (name : String) (required : Bool) :
    ReadsType (head name required) (memberTokens name (!required)) := by
  obtain ⟨hrequired, hoptional⟩ := readsType_propertyKey name
  rw [head]
  cases required with
  | true =>
    rw [if_pos rfl, String.append_empty]
    exact hrequired
  | false =>
    rw [if_neg Bool.false_ne_true, String.append_assoc]
    exact hoptional

theorem shows_value {text : String} {t : TypeExpr} (h : Ty.Shows text t) (name : String)
    (required : Bool) (depth : Nat) :
    Shows [⟨depth, head name required ++ text ++ ";"⟩] [(name, !required, t)] := by
  obtain ⟨ts, hreads, hspells⟩ := h
  refine ⟨_, .singleton ?_, hspells.member name (!required)⟩
  have hline := (readsType_head name required).append hreads
  rw [← String.append_assoc, ← List.append_assoc] at hline
  exact hline

theorem shows_objects {ls : List Line} {members : List (String × Bool × TypeExpr)}
    (h : Shows ls members) (name : String) (required : Bool) (depth : Nat) :
    Shows (⟨depth, head name required ++ "Array<\x7b"⟩ :: ls ++ [⟨depth, "\x7d>;"⟩])
      [(name, !required, .generic "Array" [.record members])] := by
  obtain ⟨ts, hreads, hspells⟩ := h
  refine ⟨_, ?_, hspells.spellsType_objects.member name (!required)⟩
  have hopen : Reads "Array<\x7b" [.word "Array", .mark "<", .mark "\x7b"] := rfl
  have hclose : Reads "\x7d>;" [.mark "\x7d", .mark ">", .mark ";"] := rfl
  have hfirst : ReadsTypeLines [⟨depth, head name required ++ "Array<\x7b"⟩] _ :=
    .singleton ((readsType_head name required).append hopen.type)
  have hlast : ReadsTypeLines [⟨depth, "\x7d>;"⟩] _ := .singleton hclose.type
  simpa using (hfirst.append hreads).append hlast

/-- Siblings show their members one after the other if each of them shows its own. -/
theorem shows_ofFields_of_forall {fs : List Field}
    (hfs : ∀ f ∈ fs, ∀ path v depth, Validator.ofField path f = .ok v →
      Shows ((ofField path f).lines depth) [(f.name, v.isOptional, v.declared)])
    {parent : String} {vs : List (String × Validator)}
    (h : Validator.ofFields parent fs = .ok vs) (depth : Nat) :
    Shows (allLines depth (ofFields parent fs)) (Validator.declaredMembers vs) := by
  induction fs generalizing vs with
  | nil =>
    obtain rfl := Except.ok.inj h
    exact shows_nil
  | cons f rest ih =>
    rw [List.forall_mem_cons] at hfs
    obtain ⟨v, tail, hv, htail, rfl⟩ := ofFields_cons_eq_ok_iff.mp h
    exact (hfs.1 _ v depth hv).append (ih hfs.2 htail)

/-- A list of objects compiles to a list of what its fields compile to. -/
theorem declared_of_isObjectArray {path : String} {f : Field} {kind : FieldKind} {v : Validator}
    (hv : Compiles path f kind v) (hkind : f.kind? = some kind) (h : f.isObjectArray = true) :
    ∃ fields, Validator.ofFields path f.children = .ok fields ∧
      v.declared = .generic "Array" [.record (Validator.declaredMembers fields)] := by
  rw [Field.isObjectArray, hkind, Bool.and_eq_true, beq_iff_eq, Option.some.injEq] at h
  obtain ⟨rfl, hsome⟩ := h
  cases hv with
  | text hbase | number hbase | boolean hbase | choice hbase => cases hbase
  | primitives hbase hnone =>
    rw [hnone] at hsome
    cases hsome
  | objects hbase hsome hfields => exact ⟨_, hfields, rfl⟩

/-- The lines of the member of a field show its name and what its validator asks for. -/
theorem shows_ofField (f : Field) :
    ∀ path v depth, Validator.ofField path f = .ok v →
      Shows ((ofField path f).lines depth) [(f.name, v.isOptional, v.declared)] := by
  induction f using Field.induction with
  | mk spec children ih =>
    intro path v depth h
    obtain ⟨kind, inner, hkind, hinner, rfl⟩ := exists_compiles_of_ofField h
    have htype : spec.type = .known kind := Field.kind?_eq_some_iff.mp hkind
    rw [Validator.isOptional_guard hinner, Validator.declared_guard, ofField, htype]
    dsimp only
    by_cases hobjects : (Field.mk spec children).isObjectArray = true
    · obtain ⟨fields, hfields, hdeclared⟩ := declared_of_isObjectArray hinner hkind hobjects
      rw [if_pos hobjects, hdeclared]
      have hmembers := shows_ofFields_of_forall ih hfields (depth + 1)
      exact shows_objects hmembers spec.name spec.required depth
    · rw [if_neg hobjects]
      have hleaf : (Field.mk spec children).isObjectArray = false := by simpa using hobjects
      exact shows_value (Ty.shows_ofLeaf hinner hleaf hkind) spec.name spec.required depth

end Member

/-! ## The file -/

/-- **The generated interface asks for what the schema asks for.** It is named after the form, and
read back it has the members that the validators of the schema ask for: the same names in the same
order at every level, those marked that may be absent, and the types of their validators. -/
theorem interface?_types {form : Form} {ids : Identifiers} {schema : ValidationSchema}
    (hids : Identifiers.ofTitle form.title = .ok ids)
    (hschema : ValidationSchema.ofForm form = .ok schema) (style : Style) :
    interface? (Artifact.ofForm style ids form .types).content =
      some (ids.formDataType, Validator.declaredMembers schema.fields) := by
  obtain ⟨fields, hfields, rfl⟩ := ofForm_eq_ok_iff.mp hschema
  obtain ⟨ts, hreads, hspells⟩ := Member.shows_ofFields_of_forall
    (fun f _ => Member.shows_ofField f) hfields 1
  have hname : isIdentifier ids.formDataType = true :=
    (Identifiers.isIdentifier_of_ofTitle hids).2
  have hopen : Reads " \x7b" [.mark "\x7b"] := rfl
  have hexport : Reads "export interface " [.word "export", .word "interface"] := rfl
  have hhead := Reads.append hexport (Reads.word_append hname rfl (by decide) hopen)
  rw [← String.append_assoc] at hhead
  have hclose : Reads "\x7d" [.mark "\x7d"] := rfl
  have hlines := (@ReadsTypeLines.singleton 0 _ _ hhead.type).append
    (hreads.append (@ReadsTypeLines.singleton 0 _ _ hclose.type))
  have htokens : typeTokens? (Artifact.ofForm style ids form .types).content =
      some (.word "export" :: .word "interface" :: .word ids.formDataType :: .mark "\x7b" ::
        (ts ++ [Token.mark "\x7d"])) := typeTokens?_of_readsType (hlines style)
  have hbody : TypeExpr.readFrom (.key [] []) (ts ++ [Token.mark "\x7d"]) =
      some (.record (Validator.declaredMembers fields)) := hspells [] [] [.mark "\x7d"]
  rw [interface?, htokens]
  show (TypeExpr.readFrom (.key [] []) (ts ++ [Token.mark "\x7d"])).bind _ = _
  rw [hbody]
  rfl

/-- A form with a choice, and with a list of objects that holds a list of texts. -/
def clinicForm : Form :=
  ⟨"Clinic visit",
    [.leaf ⟨"blood type", .known .select, "Blood type", true, none, ["A", "B's", "0"], none, none,
        none⟩,
      ⟨⟨"visits", .known .array, "Visits", false, none, [], none, none, none⟩,
        [.leaf ⟨"fee", .known .number, "Fee", true, none, [], none, none, none⟩,
          .leaf ⟨"drugs", .known .array, "Drugs", false, none, [], none, none, none⟩]⟩]⟩

/-- The generated interface of the form, read back. -/
theorem interface?_clinicForm :
    ∃ ids schema, Identifiers.ofTitle clinicForm.title = .ok ids ∧
      ValidationSchema.ofForm clinicForm = .ok schema ∧
      interface? (Artifact.ofForm ⟨.tabs, .crlf⟩ ids clinicForm .types).content =
        some ("ClinicVisitFormData",
          [("blood type", false, .union [.literal "A", .literal "B's", .literal "0"]),
            ("visits", true, .generic "Array" [.record
              [("fee", false, .name "number"), ("drugs", true, .arrayOf (.name "string"))]])]) := by
  have hids : Identifiers.ofTitle clinicForm.title = .ok ⟨"ClinicVisit", "clinicVisit"⟩ := rfl
  have hschema : ∃ schema, ValidationSchema.ofForm clinicForm = .ok schema ∧
      Validator.declaredMembers schema.fields =
        [("blood type", false, .union [.literal "A", .literal "B's", .literal "0"]),
          ("visits", true, .generic "Array" [.record
            [("fee", false, .name "number"), ("drugs", true, .arrayOf (.name "string"))]])] :=
    ⟨_, rfl, rfl⟩
  obtain ⟨schema, hschema, hdeclared⟩ := hschema
  refine ⟨_, schema, hids, hschema, ?_⟩
  rw [interface?_types hids hschema, hdeclared]
  rfl

end WebForm.Interface
