import WebForm.Proofs.Zod.Text
/-!
# What the schema file means

The schema file imports the library, exports one constant that holds a parser for objects, and
exports a type that is inferred from it. `schemaConstant?` reads a file of this shape and runs the
expression of the constant; what it gives for the file that is generated is said by
`schemaConstant?_schemaLines`.
-/

set_option autoImplicit false

namespace WebForm.Zod

open Script Source Schema

/-! ## Parsers of members -/

/-- A list that wants at least one item, or that need not be there. -/
def Parser.listOf (lits : Literals) : Option String → Parser → Parser
  | some _, p => p.check (atLeast lits "1")
  | none, p => p.optional

namespace Member

mutual

/-- The key and the parser of a member; a comment has none. -/
def parser? (lits : Literals) : Member → Option (String × Parser)
  | .unsupported _ _ => none
  | .value name expr => some (name, expr.parser lits)
  | .objects name members minItems =>
    some (name, .listOf lits minItems (.array (.object (parsers lits members))))
termination_by structural m => m

/-- The keys and parsers of members. -/
def parsers (lits : Literals) : List Member → List (String × Parser)
  | [] => []
  | m :: rest => (parser? lits m).toList ++ parsers lits rest
termination_by structural ms => ms

end

mutual

/-- The member is code, and all patterns in it are written as literals. -/
def IsReadable : Member → Prop
  | .unsupported _ _ => False
  | .value _ expr => expr.IsReadable
  | .objects _ members _ => AllReadable members
termination_by structural m => m

/-- The members are code, and all patterns in them are written as literals. -/
def AllReadable : List Member → Prop
  | [] => True
  | m :: rest => IsReadable m ∧ AllReadable rest
termination_by structural ms => ms

end

/-! ## Texts of members -/

section
variable {lits : Literals}

/-- The lines of a member are a key, an expression of its parser, and a comma. -/
def Shows (lits : Literals) (m : Member) (ls : List Line) : Prop :=
  ∃ name p ts e, m.parser? lits = some (name, p) ∧
    ReadsLines ls (keyToken name :: .mark ":" :: ts ++ [Token.mark ","]) ∧
    SpellsWhole ts e ∧ eval lits e = some (.parser p)

/-- The lines of members are the members of a record. -/
def ShowsAll (lits : Literals) (ms : List Member) (ls : List Line) : Prop :=
  ∃ ts members, ReadsLines ls ts ∧ SpellsMembers ts members ∧
    evalMembers lits members = some ((parsers lits ms).map fun m => (m.1, .parser m.2))

theorem showsAll_nil : ShowsAll lits [] [] := ⟨[], [], fun _ => Reads.empty, .nil, rfl⟩

theorem Shows.cons {m : Member} {ms : List Member} {ls rest : List Line} (h : Shows lits m ls)
    (hrest : ShowsAll lits ms rest) : ShowsAll lits (m :: ms) (ls ++ rest) := by
  obtain ⟨name, p, ts, e, hparser, hreads, hspells, heval⟩ := h
  obtain ⟨us, members, hreads', hmembers, hall⟩ := hrest
  refine ⟨keyToken name :: .mark ":" :: ts ++ .mark "," :: us, (name, e) :: members, ?_,
    .cons hspells hmembers, ?_⟩
  · have hlines := hreads.append hreads'
    rw [List.append_assoc] at hlines
    exact hlines
  · rw [evalMembers, heval, Option.bind_some, hall, parsers, hparser]
    rfl

theorem shows_value {expr : Zod} (h : expr.IsReadable) (name : String) (depth : Nat) :
    Shows lits (.value name expr) [⟨depth, propertyKey name ++ ": " ++ expr.text ++ ","⟩] := by
  obtain ⟨e, ⟨ts, hreads, hspells⟩, heval⟩ := @denotes_text lits expr h
  refine ⟨name, expr.parser lits, ts, e, rfl, .singleton ?_, hspells.whole, heval⟩
  have hcolon : Reads ": " [.mark ":"] := rfl
  have hcomma : Reads "," [.mark ","] := rfl
  have hrest := Reads.append (Reads.append hcolon hreads) hcomma
  have hchars : (": " ++ expr.text ++ ",").toList = ':' :: ' ' :: (expr.text.toList ++ [',']) := by
    rw [String.toList_append, String.toList_append]
    rfl
  have hline : Reads (propertyKey name ++ (": " ++ expr.text ++ ","))
      (keyToken name :: ([Token.mark ":"] ++ ts ++ [Token.mark ","])) :=
    Reads.propertyKey_append hchars (by decide) hrest
  simp only [String.append_assoc] at hline ⊢
  exact hline

/-- With what stands around it, a record of members is a parser for objects. -/
theorem ShowsAll.exists_object {ms : List Member} {ls : List Line} (h : ShowsAll lits ms ls) :
    ∃ ts e, ReadsLines ls ts ∧
      Spells ([Token.word "z", .mark ".", .word "object", .mark "(", .mark "\x7b"] ++ ts ++
        [Token.mark "\x7d", .mark ")"]) e ∧
      eval lits e = some (.parser (.object (parsers lits ms))) := by
  obtain ⟨ts, members, hreads, hmembers, hall⟩ := h
  have hobject := (spells_name "z").method "object" (.last (spells_record hmembers).whole)
  have hshape : ((parsers lits ms).map fun m => (m.1, Value.parser m.2)).mapM
      (fun (m : String × Value) => m.2.parser?.map fun p => (m.1, p)) = some (parsers lits ms) :=
    mapM_map_of_forall (by intro _; rfl) _
  have hrecord : eval lits (.record members) =
      some (.record ((parsers lits ms).map fun m => (m.1, .parser m.2))) := by
    rw [eval, hall]
    rfl
  have hcall : Value.callLibrary "object"
      [.record ((parsers lits ms).map fun m => (m.1, .parser m.2))] =
        some (.object (parsers lits ms)) := by
    rw [Value.callLibrary, hshape]
    rfl
  refine ⟨ts, _, hreads, ?_, eval_library (evalAll_singleton hrecord) hcall⟩
  simpa using hobject

/-- With what stands around it, a record of members is a parser for lists of objects. -/
theorem ShowsAll.exists_objects {ms : List Member} {ls : List Line} (h : ShowsAll lits ms ls) :
    ∃ ts e, ReadsLines ls ts ∧
      Spells ([Token.word "z", .mark ".", .word "array", .mark "(", .word "z", .mark ".",
        .word "object", .mark "(", .mark "\x7b"] ++ ts ++
          [Token.mark "\x7d", .mark ")", .mark ")"]) e ∧
      eval lits e = some (.parser (.array (.object (parsers lits ms)))) := by
  obtain ⟨ts, e, hreads, hobject, heval⟩ := h.exists_object
  have harray := (spells_name "z").method "array" (.last hobject.whole)
  have hcall : Value.callLibrary "array" [.parser (.object (parsers lits ms))] =
      some (.array (.object (parsers lits ms))) := rfl
  refine ⟨ts, _, hreads, ?_, eval_library (evalAll_singleton heval) hcall⟩
  simpa using harray

/-- What follows a list of objects is chained to it. -/
theorem exists_suffix (minItems : Option String) :
    ∃ us, Reads (listSuffix minItems) us ∧
      ∀ {ts e p}, Spells ts e → eval lits e = some (.parser p) →
        ∃ e', Spells (ts ++ us) e' ∧ eval lits e' = some (.parser (.listOf lits minItems p)) := by
  cases minItems with
  | none =>
    have htext : Reads optionalCall [.mark ".", .word "optional", .mark "(", .mark ")"] := rfl
    exact ⟨_, htext, fun hspells heval => ⟨_, hspells.method_nil "optional",
      eval_method heval rfl rfl⟩⟩
  | some message =>
    obtain ⟨es, ⟨us, hreads, hitems⟩, hall⟩ :=
      @denotesItems_number lits "1" message rfl
    have hhead : Reads ".min(" [.mark ".", .word "min", .mark "("] := rfl
    have hclose : Reads ")" [.mark ")"] := rfl
    refine ⟨_, ?_, fun hspells heval => ⟨_, hspells.method "min" hitems,
      eval_method heval hall rfl⟩⟩
    rw [listSuffix, atLeastOne, call_eq]
    exact Reads.append (Reads.append hhead hreads) hclose

theorem shows_objects {ms : List Member} {ls : List Line} (h : ShowsAll lits ms ls)
    (name : String) (minItems : Option String) (depth : Nat) :
    Shows lits (.objects name ms minItems)
      (⟨depth, propertyKey name ++ ": z.array(z.object(\x7b"⟩ :: ls ++
        [⟨depth, "\x7d))" ++ listSuffix minItems ++ ","⟩]) := by
  obtain ⟨ts, e, hreads, hspells, heval⟩ := h.exists_objects
  -- the suffix stands on the last line, behind everything that is around the members
  obtain ⟨us, hsuffix, hchain⟩ := @exists_suffix lits minItems
  obtain ⟨e', hspells', heval'⟩ := hchain hspells heval
  refine ⟨name, _, _, e', rfl, ?_, hspells'.whole, heval'⟩
  have hopen : Reads ": z.array(z.object(\x7b" [.mark ":", .word "z", .mark ".", .word "array",
      .mark "(", .word "z", .mark ".", .word "object", .mark "(", .mark "\x7b"] := rfl
  have hfirst : Reads (propertyKey name ++ ": z.array(z.object(\x7b")
      (keyToken name :: [.mark ":", .word "z", .mark ".", .word "array", .mark "(", .word "z",
        .mark ".", .word "object", .mark "(", .mark "\x7b"]) :=
    Reads.propertyKey_append rfl (by decide) hopen
  have hend : Reads "\x7d))" [.mark "\x7d", .mark ")", .mark ")"] := rfl
  have hcomma : Reads "," [.mark ","] := rfl
  have hlast := Reads.append (Reads.append hend hsuffix) hcomma
  have hbody : ReadsLines (⟨depth, propertyKey name ++ ": z.array(z.object(\x7b"⟩ :: ls) _ :=
    .cons hfirst hreads
  have htail : ReadsLines [⟨depth, "\x7d))" ++ listSuffix minItems ++ ","⟩] _ := .singleton hlast
  simpa using hbody.append htail

mutual

/-- The lines of a member show its parser. -/
theorem shows_lines (m : Member) (h : m.IsReadable) (depth : Nat) :
    Shows lits m (lines depth m) := by
  match m with
  | .unsupported type path => exact absurd h id
  | .value name expr => exact shows_value h name depth
  | .objects name members minItems =>
    exact shows_objects (showsAll_allLines members h (depth + 1)) name minItems depth

/-- The lines of members show their parsers. -/
theorem showsAll_allLines (ms : List Member) (h : AllReadable ms) (depth : Nat) :
    ShowsAll lits ms (allLines depth ms) := by
  match ms with
  | [] => exact showsAll_nil
  | m :: rest => exact (shows_lines m h.1 depth).cons (showsAll_allLines rest h.2 depth)

end

end

end Member

/-! ## The file -/

/-- Whether some tokens export a type that is inferred from a constant. -/
def isInferredType (constant : String) : List Token → Bool
  | [.word "export", .word "type", .word _, .mark "=", .word "z", .mark ".", .word "infer",
      .mark "<", .word "typeof", .word name, .mark ">", .mark ";"] => name == constant
  | _ => false

/-- The parser that an expression gives a constant, if what is behind it is the inferred type. -/
def parserOf? (lits : Literals) (constant : String) : Expr × List Token → Option (String × Parser)
  | (e, behind) =>
    if isInferredType constant behind then
      ((eval lits e).bind Value.parser?).map fun p => (constant, p)
    else none

/-- The constant that a schema file exports, and the parser that it holds. -/
def schemaConstant? (lits : Literals) (text : String) : Option (String × Parser) :=
  match tokens? text with
  | some (.word "import" :: .mark "\x7b" :: .word "z" :: .mark "\x7d" :: .word "from" ::
      .string "zod" :: .mark ";" :: .word "export" :: .word "const" :: .word name :: .mark "=" ::
      rest) =>
    (readFrom (.want []) rest).bind (parserOf? lits name)
  | _ => none

/-- The tokens of the type that is inferred. -/
def typeTokens (ids : Identifiers) : List Token :=
  [.word "export", .word "type", .word ids.formDataType, .mark "=", .word "z", .mark ".",
    .word "infer", .mark "<", .word "typeof", .word ids.schemaName, .mark ">", .mark ";"]

theorem reads_head {ids : Identifiers} (hschema : isIdentifier ids.schemaName = true) :
    ReadsLines
      [⟨0, "import \x7b z \x7d from 'zod';"⟩, .blank,
        ⟨0, "export const " ++ ids.schemaName ++ " = z.object(\x7b"⟩]
      [.word "import", .mark "\x7b", .word "z", .mark "\x7d", .word "from", .string "zod",
        .mark ";", .word "export", .word "const", .word ids.schemaName, .mark "=", .word "z",
        .mark ".", .word "object", .mark "(", .mark "\x7b"] := by
  have himport : Reads "import \x7b z \x7d from 'zod';"
      [.word "import", .mark "\x7b", .word "z", .mark "\x7d", .word "from", .string "zod",
        .mark ";"] := rfl
  have hexport : Reads "export const " [.word "export", .word "const"] := rfl
  have hopen : Reads " = z.object(\x7b"
      [.mark "=", .word "z", .mark ".", .word "object", .mark "(", .mark "\x7b"] := rfl
  have hconstant := Reads.append hexport (Reads.word_append hschema rfl (by decide) hopen)
  rw [← String.append_assoc] at hconstant
  exact .cons himport (.cons Reads.empty (.singleton hconstant))

theorem reads_foot {ids : Identifiers} (hschema : isIdentifier ids.schemaName = true)
    (htype : isIdentifier ids.formDataType = true) :
    ReadsLines
      [⟨0, "\x7d);"⟩, .blank,
        ⟨0, "export type " ++ ids.formDataType ++ " = z.infer<typeof " ++ ids.schemaName ++ ">;"⟩]
      (.mark "\x7d" :: .mark ")" :: .mark ";" :: typeTokens ids) := by
  have hclose : Reads "\x7d);" [.mark "\x7d", .mark ")", .mark ";"] := rfl
  have hexport : Reads "export type " [.word "export", .word "type"] := rfl
  have hinfer : Reads " = z.infer<typeof "
      [.mark "=", .word "z", .mark ".", .word "infer", .mark "<", .word "typeof"] := rfl
  have hend : Reads ">;" [.mark ">", .mark ";"] := rfl
  have hinferred := Reads.append hinfer (Reads.word_append hschema rfl (by decide) hend)
  have hchars : (" = z.infer<typeof " ++ (ids.schemaName ++ ">;")).toList =
      ' ' :: ("= z.infer<typeof ".toList ++ (ids.schemaName ++ ">;").toList) := by
    rw [String.toList_append]
    rfl
  have htypeLine := Reads.append hexport (Reads.word_append htype hchars (by decide) hinferred)
  simp only [← String.append_assoc] at htypeLine
  exact .cons hclose (.cons Reads.empty (.singleton htypeLine))

/-- **The generated schema file exports the parser of its members**, in whichever style it is
written. -/
theorem schemaConstant?_schemaLines {lits : Literals} {ids : Identifiers} {fields : List Field}
    (hschema : isIdentifier ids.schemaName = true) (htype : isIdentifier ids.formDataType = true)
    (hfields : Member.AllReadable (Member.ofFields "" fields)) (style : Style) :
    schemaConstant? lits (style.lines (schemaLines ids fields)) =
      some (ids.schemaName, .object (Member.parsers lits (Member.ofFields "" fields))) := by
  have hmembers : Member.ShowsAll lits (Member.ofFields "" fields)
      (Member.allLines 1 (Member.ofFields "" fields)) := Member.showsAll_allLines _ hfields 1
  obtain ⟨ts, e, hreads, hspells, heval⟩ := hmembers.exists_object
  have hlines := ((reads_head hschema).append hreads).append (reads_foot hschema htype)
  have htokens : tokens? (style.lines (schemaLines ids fields)) =
      some (.word "import" :: .mark "\x7b" :: .word "z" :: .mark "\x7d" :: .word "from" ::
        .string "zod" :: .mark ";" :: .word "export" :: .word "const" :: .word ids.schemaName ::
        .mark "=" :: ([Token.word "z", .mark ".", .word "object", .mark "(", .mark "\x7b"] ++ ts ++
          [Token.mark "\x7d", .mark ")"] ++ .mark ";" :: typeTokens ids)) := by
    rw [schemaLines, tokens?_of_reads (hlines style)]
    simp
  -- the expression of the constant ends at the first semicolon behind it
  have hconstant : readFrom (.want []) ([Token.word "z", .mark ".", .word "object", .mark "(",
      .mark "\x7b"] ++ ts ++ [Token.mark "\x7d", .mark ")"] ++ .mark ";" :: typeTokens ids) =
        some (e, typeTokens ids) := by
    rw [hspells]
    rfl
  have hinferred : isInferredType ids.schemaName (typeTokens ids) = true :=
    beq_self_eq_true ids.schemaName
  rw [schemaConstant?, htokens]
  show (readFrom (.want []) _).bind (parserOf? lits ids.schemaName) = _
  rw [hconstant, Option.bind_some, parserOf?, if_pos hinferred, heval]
  rfl

end WebForm.Zod
