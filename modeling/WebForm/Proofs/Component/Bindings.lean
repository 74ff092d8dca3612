import WebForm.Proofs.Component.Clashes
/-!
# Names that a component binds

The main component binds what it takes from the form, three handles for each list at the top, and
its own function for submitted data. Handles are named after fields, so they could be anything; but
each of them ends like its role, as nothing does that the language reserves, that the component
binds for itself or that the file imports. What is in front of the ending was put aside when it was
given out, so it belongs to one list only.

The bindings are read from the statements of the component, which stand one step deep in it.
-/

set_option autoImplicit false

namespace WebForm.Component

open Script Source Identifier Markup

/-! ## Endings of handles -/

/-- What handles end in, by their roles. -/
def handleEndings : List String := ["Fields", "Append", "Remove"]

/-- The names that handles bind. -/
def Handles.names (h : Handles) : List String := [h.fields, h.append, h.remove]

/-- All names that the lists among some fields bind. -/
def handleNames (fields : List Field) : List String :=
  (arrayHandles fields).flatMap fun entry => entry.2.names

/-- Whether a name ends like a handle. -/
def endsLikeHandle (name : String) : Bool :=
  handleEndings.any fun ending => ending.toList.isSuffixOf name.toList

/-- The words that may not be bound in a module although they are written like names. -/
def reservedWords : List String :=
  ["arguments", "await", "break", "case", "catch", "class", "const", "continue", "debugger",
    "default", "delete", "do", "else", "enum", "eval", "export", "extends", "false", "finally",
    "for", "function", "if", "implements", "import", "in", "instanceof", "interface", "let", "new",
    "null", "package", "private", "protected", "public", "return", "static", "super", "switch",
    "this", "throw", "true", "try", "typeof", "var", "void", "while", "with", "yield"]

/-- What the component binds besides the handles, at most. -/
def ownNames : List String :=
  ["control", "handleSubmit", "register", "formState", "onSubmit", "onSubmitProp"]

theorem endsLikeHandle_append {ending : String} (h : ending ∈ handleEndings) (base : String) :
    endsLikeHandle (base ++ ending) = true := by
  rw [endsLikeHandle, List.any_eq_true]
  refine ⟨ending, h, List.isSuffixOf_iff_suffix.mpr ?_⟩
  rw [String.toList_append]
  exact List.suffix_append _ _

/-- A name that ends like a handle is none of some names that do not. -/
theorem not_mem_of_endsLikeHandle {name : String} (h : endsLikeHandle name = true)
    {others : List String} (hothers : ∀ other ∈ others, endsLikeHandle other = false) :
    name ∉ others := by
  intro hmem
  rw [hothers name hmem] at h
  cases h

/-- The endings are equally long, so what is in front of them is told apart from them. -/
theorem eq_of_append_ending {base base' ending ending' : String} (h : ending ∈ handleEndings)
    (h' : ending' ∈ handleEndings) (heq : base ++ ending = base' ++ ending') :
    base = base' ∧ ending = ending' := by
  have hsix : ∀ e ∈ handleEndings, e.toList.length = 6 := by decide
  have hchars := congrArg String.toList heq
  rw [String.toList_append, String.toList_append] at hchars
  obtain ⟨hbase, hending⟩ := List.append_inj' hchars ((hsix _ h).trans (hsix _ h').symm)
  exact ⟨String.toList_injective hbase, String.toList_injective hending⟩

/-! ## Names of handles -/

namespace Handles

/-- The handles of lists are named after bases that are free, one for each list. -/
theorem exists_bases_ofFields (taken : List String) (fs : List Field) :
    ∃ bases : List String, (ofFields taken fs).map Prod.snd = bases.map ofBase ∧
      (∀ base ∈ bases, isIdentifier base = true ∧ base ∉ taken) ∧ bases.Nodup := by
  induction fs generalizing taken with
  | nil => exact ⟨[], rfl, by simp, List.nodup_nil⟩
  | cons f rest ih =>
    rw [ofFields]
    split
    · -- the bases of the other lists are chosen with this one put aside
      obtain ⟨bases, hhandles, hbases, hnodup⟩ := ih (freeName taken (base f.name) :: taken)
      refine ⟨freeName taken (base f.name) :: bases, ?_, ?_, ?_⟩
      · rw [List.map_cons, List.map_cons, hhandles]
      · rw [List.forall_mem_cons]
        refine ⟨⟨isIdentifier_freeName (isIdentifier_base f.name) taken,
          freeName_not_mem taken _⟩, fun b hb => ?_⟩
        exact ⟨(hbases b hb).1, fun htaken => (hbases b hb).2 (List.mem_cons_of_mem _ htaken)⟩
      · exact List.nodup_cons.mpr ⟨fun hmem => (hbases _ hmem).2 List.mem_cons_self, hnodup⟩
    · exact ih taken

/-- The names that are bound are those bases with each of the endings. -/
theorem exists_bases_handleNames (fields : List Field) :
    ∃ bases : List String,
      handleNames fields = bases.flatMap (fun base => handleEndings.map (base ++ ·)) ∧
      (∀ base ∈ bases, isIdentifier base = true) ∧ bases.Nodup := by
  obtain ⟨bases, hhandles, hbases, hnodup⟩ := exists_bases_ofFields [] fields
  refine ⟨bases, ?_, fun b hb => (hbases b hb).1, hnodup⟩
  have hnames : handleNames fields = ((arrayHandles fields).map Prod.snd).flatMap names := by
    rw [List.flatMap_map]
    rfl
  rw [hnames, arrayHandles, hhandles, List.flatMap_map]
  rfl

end Handles

section
variable {fields : List Field} {name : String}

theorem exists_base_of_mem_handleNames (h : name ∈ handleNames fields) :
    ∃ base ending, isIdentifier base = true ∧ ending ∈ handleEndings ∧ name = base ++ ending := by
  obtain ⟨bases, hnames, hbases, -⟩ := Handles.exists_bases_handleNames fields
  rw [hnames] at h
  obtain ⟨base, hbase, h⟩ := List.mem_flatMap.mp h
  obtain ⟨ending, hending, rfl⟩ := List.mem_map.mp h
  exact ⟨base, ending, hbases base hbase, hending, rfl⟩

theorem isIdentifier_of_mem_handleNames (h : name ∈ handleNames fields) :
    isIdentifier name = true := by
  obtain ⟨base, ending, hbase, hending, rfl⟩ := exists_base_of_mem_handleNames h
  have hparts : ∀ e ∈ handleEndings, e.toList.all isIdentifierPart = true := by decide
  exact isIdentifier_append hbase (hparts ending hending)

theorem endsLikeHandle_of_mem_handleNames (h : name ∈ handleNames fields) :
    endsLikeHandle name = true := by
  obtain ⟨base, ending, -, hending, rfl⟩ := exists_base_of_mem_handleNames h
  exact endsLikeHandle_append hending base

/-- Handles of different lists and of different roles have different names. -/
theorem nodup_handleNames (fields : List Field) : (handleNames fields).Nodup := by
  obtain ⟨bases, hnames, -, hnodup⟩ := Handles.exists_bases_handleNames fields
  rw [hnames, List.nodup_flatMap]
  constructor
  · intro base _
    refine List.Nodup.map_on (fun e he e' he' heq => ?_) (by decide)
    exact (eq_of_append_ending he he' heq).2
  · refine hnodup.imp fun {base base'} hne name hname hname' => hne ?_
    obtain ⟨e, he, rfl⟩ := List.mem_map.mp hname
    obtain ⟨e', he', heq⟩ := List.mem_map.mp hname'
    exact (eq_of_append_ending he' he heq).1.symm

theorem not_mem_reservedWords (h : name ∈ handleNames fields) : name ∉ reservedWords :=
  not_mem_of_endsLikeHandle (endsLikeHandle_of_mem_handleNames h) (by decide)

theorem not_mem_ownNames (h : name ∈ handleNames fields) : name ∉ ownNames :=
  not_mem_of_endsLikeHandle (endsLikeHandle_of_mem_handleNames h) (by decide)

/-- Nothing that a file imports ends like a handle. -/
theorem not_mem_importedNames {title : String} {ids : Identifiers}
    (hids : Identifiers.ofTitle title = .ok ids) (form : Form) (h : name ∈ handleNames fields) :
    name ∉ importedNames (fileLines ids form) := by
  obtain ⟨hschema, htype⟩ := Identifiers.isIdentifier_of_ofTitle hids
  have hends := endsLikeHandle_of_mem_handleNames h
  have hlibrary : ∀ other ∈ libraryNames .all, endsLikeHandle other = false := by decide
  have hlast : lastChar? name ≠ some 'a' := by
    obtain ⟨base, ending, -, hending, rfl⟩ := exists_base_of_mem_handleNames h
    have hendings : ∀ e ∈ handleEndings, e ≠ "" ∧ lastChar? e ≠ some 'a' := by decide
    rw [lastChar?_append (hendings ending hending).1]
    exact (hendings ending hending).2
  rw [importedNames_fileLines hschema htype, List.mem_append, List.mem_pair, not_or, not_or]
  refine ⟨fun hmem => not_mem_of_endsLikeHandle hends hlibrary (libraryNames_subset _ hmem), ?_, ?_⟩
  · exact (ne_of_lastChar? (lastChar?_schemaName ids) hlast).symm
  · exact (ne_of_lastChar? (lastChar?_formDataType ids) hlast).symm

end

/-! ## Reading bindings -/

/-- The entries of a pattern up to the brace that closes it: what each takes, and the name that it
binds. -/
def patternEntries : List Token → List (String × String)
  | .word taken :: .mark ":" :: .word name :: rest => (taken, name) :: patternEntries rest
  | .word name :: rest => (name, name) :: patternEntries rest
  | .mark "," :: rest => patternEntries rest
  | _ => []

/-- What a statement takes from a value and the names that it binds, told from its first line. -/
def boundEntries : List Token → List (String × String)
  | .word "const" :: .mark "\x7b" :: pattern => patternEntries pattern
  | .word "const" :: .word name :: _ => [(name, name)]
  | _ => []

/-- The names that a line binds, if it starts a statement of a component. -/
def bindingsOf (l : Line) : List String :=
  if l.depth = 1 then (((tokens? l.text).map boundEntries).getD []).map Prod.snd else []

/-- The names that the statements of a component bind. -/
def bindings (body : List Line) : List String := body.flatMap bindingsOf

@[simp] theorem bindings_append (ls ls' : List Line) :
    bindings (ls ++ ls') = bindings ls ++ bindings ls' := List.flatMap_append

theorem bindings_cons (l : Line) (rest : List Line) :
    bindings (l :: rest) = bindingsOf l ++ bindings rest := List.flatMap_cons

theorem bindingsOf_of_tokens? {text : String} {ts : List Token} (h : tokens? text = some ts) :
    bindingsOf ⟨1, text⟩ = (boundEntries ts).map Prod.snd := by
  rw [bindingsOf, if_pos rfl, h]
  rfl

/-- Deeper lines start no statement. -/
theorem bindings_of_atLeast {ls : List Line} (h : ∀ l ∈ ls, AtLeast 2 l) : bindings ls = [] := by
  refine List.flatMap_eq_nil_iff.mpr fun l hl => if_neg fun hdepth => ?_
  rcases h l hl with hdeep | rfl
  · omega
  · cases hdepth

/-! ## Reading the hooks -/

/-- The handles that are bound by the call of a hook. -/
def hookHandles? (ts : List Token) : Option Handles :=
  match (boundEntries ts).lookup "fields", (boundEntries ts).lookup "append",
    (boundEntries ts).lookup "remove" with
  | some fields, some append, some remove => some ⟨fields, append, remove⟩
  | _, _, _ => none

/-- The name of the list that a hook is for. -/
def hookList? : List Token → Option String
  | [.word "name", .mark ":", .string name, .mark ","] => some name
  | _ => none

/-- The list that a hook is for and the handles that it binds: the list is named on the second line
behind the call. -/
def hookOf? (call : Line) (rest : List Line) : Option (String × Handles) :=
  ((rest[1]?.bind fun (l : Line) => tokens? l.text).bind hookList?).bind fun name =>
    ((tokens? call.text).bind hookHandles?).map fun handles => (name, handles)

theorem hookOf?_eq_some {call list name : String} {h : Handles}
    (hlist : (tokens? list).bind hookList? = some name)
    (hhandles : (tokens? call).bind hookHandles? = some h) (first : Line) (rest : List Line) :
    hookOf? ⟨1, call⟩ (first :: ⟨2, list⟩ :: rest) = some (name, h) := by
  have hsecond : (first :: ⟨2, list⟩ :: rest)[1]? = some ⟨2, list⟩ := rfl
  rw [hookOf?, hsecond, Option.bind_some, hlist, Option.bind_some, hhandles]
  rfl

/-- The hooks that some lines call, each with its list and its handles. -/
def boundHooks : List Line → List (String × Handles)
  | [] => []
  | l :: rest => (if isHook l.text then (hookOf? l rest).toList else []) ++ boundHooks rest

/-- Lines where no hook is seen are passed over. -/
theorem boundHooks_append {ls : List Line} (h : Sign.hook ∉ signs ls) (rest : List Line) :
    boundHooks (ls ++ rest) = boundHooks rest := by
  induction ls with
  | nil => rfl
  | cons l ls ih =>
    rw [signs_cons, List.mem_append, not_or] at h
    rw [List.cons_append, boundHooks, ih h.2, if_neg fun hl => h.1 (hook_mem_signsOf_iff.mpr hl),
      List.nil_append]

/-! ## The statements of the main component -/

/-- The call of a hook that binds handles. -/
def hookCall (h : Handles) : String :=
  "const \x7b fields: " ++ h.fields ++ ", append: " ++ h.append ++ ", remove: " ++ h.remove ++
    " \x7d = useFieldArray(\x7b"

/-- Whether all names of handles are identifiers. -/
def Handles.Nameable (h : Handles) : Prop := ∀ name ∈ h.names, isIdentifier name = true

/-- The tokens of the call. -/
def hookTokens (h : Handles) : List Token :=
  [.word "const", .mark "\x7b", .word "fields", .mark ":", .word h.fields, .mark ",",
    .word "append", .mark ":", .word h.append, .mark ",", .word "remove", .mark ":",
    .word h.remove, .mark "\x7d", .mark "=", .word "useFieldArray", .mark "(", .mark "\x7b"]

theorem tokens?_hookCall {h : Handles} (hnames : h.Nameable) :
    tokens? (hookCall h) = some (hookTokens h) := by
  simp only [Handles.Nameable, Handles.names, List.forall_mem_cons] at hnames
  obtain ⟨hfields, happend, hremove, -⟩ := hnames
  have hopen : Reads "const \x7b fields: "
      [.word "const", .mark "\x7b", .word "fields", .mark ":"] := rfl
  have hsecond : Reads ", append: " [.mark ",", .word "append", .mark ":"] := rfl
  have hthird : Reads ", remove: " [.mark ",", .word "remove", .mark ":"] := rfl
  have hclose : Reads " \x7d = useFieldArray(\x7b"
      [.mark "\x7d", .mark "=", .word "useFieldArray", .mark "(", .mark "\x7b"] := rfl
  -- a name ends where the piece behind it starts
  have hlast := hthird.append (Reads.word_append hremove rfl (by decide) hclose)
  have hmiddle := hsecond.append
    (Reads.word_append happend (by rw [String.toList_append]; rfl) (by decide) hlast)
  have hall := hopen.append
    (Reads.word_append hfields (by rw [String.toList_append]; rfl) (by decide) hmiddle)
  have hcall := tokens?_of_reads hall
  simp only [← String.append_assoc, List.cons_append, List.nil_append] at hcall
  exact hcall

theorem boundEntries_hookTokens (h : Handles) :
    boundEntries (hookTokens h) =
      [("fields", h.fields), ("append", h.append), ("remove", h.remove)] := rfl

theorem tokens?_listLine (name : String) :
    tokens? (listLine name) = some [.word "name", .mark ":", .string name, .mark ","] := by
  have hopen : Reads "name: " [.word "name", .mark ":"] := rfl
  have hclose : Reads "," [.mark ","] := rfl
  exact tokens?_of_reads ((hopen.append (reads_quote name)).append hclose)

/-- The hook of a list binds its handles. -/
theorem bindings_hookLines {h : Handles} (hnames : h.Nameable) (name : String) :
    bindings (hookLines name h) = h.names := by
  have hcall : bindingsOf ⟨1, hookCall h⟩ = h.names := by
    rw [bindingsOf_of_tokens? (tokens?_hookCall hnames)]
    rfl
  have hinside : bindings [⟨2, "control,"⟩, ⟨2, listLine name⟩] = [] :=
    bindings_of_atLeast (by simp [AtLeast])
  have hend : bindings [⟨1, "\x7d);"⟩, .blank] = [] := rfl
  have hlines : hookLines name h = ⟨1, hookCall h⟩ ::
      ([⟨2, "control,"⟩, ⟨2, listLine name⟩] ++ [⟨1, "\x7d);"⟩, Line.blank]) := rfl
  rw [hlines, bindings_cons, hcall, bindings_append, hinside, hend]
  exact List.append_nil _

/-- The hook of a list is read with the name of the list and its handles. -/
theorem boundHooks_hookLines {h : Handles} (hnames : h.Nameable) (name : String)
    (rest : List Line) :
    boundHooks (hookLines name h ++ rest) = (name, h) :: boundHooks rest := by
  have hsign : signsOf (hookCall h) = [.hook] := signsOf_hookCall h
  have hhook : isHook (hookCall h) = true :=
    hook_mem_signsOf_iff.mp (by rw [hsign]; exact .head _)
  have hbehind : .hook ∉ signs [⟨2, "control,"⟩, ⟨2, listLine name⟩, ⟨1, "\x7d);"⟩, .blank] := by
    rw [signs_cons, signs_cons, signsOf_listLine]
    exact List.not_mem_nil
  have hlist : (tokens? (listLine name)).bind hookList? = some name := by
    rw [tokens?_listLine]
    rfl
  have hhandles : (tokens? (hookCall h)).bind hookHandles? = some h := by
    rw [tokens?_hookCall hnames, Option.bind_some, hookHandles?, boundEntries_hookTokens]
    rfl
  have hlines : hookLines name h ++ rest = ⟨1, hookCall h⟩ ::
      ([⟨2, "control,"⟩, ⟨2, listLine name⟩, ⟨1, "\x7d);"⟩, Line.blank] ++ rest) := rfl
  rw [hlines, boundHooks, if_pos hhook, boundHooks_append hbehind]
  simp only [List.cons_append]
  rw [hookOf?_eq_some hlist hhandles]
  rfl

/-- The tokens of a pattern that takes some names from a value. -/
def patternTokens (names : List String) : List Token :=
  [Token.word "const", .mark "\x7b"] ++ (names.map Token.word).intersperse (.mark ",") ++
    [Token.mark "\x7d", .mark "="]

/-- The names that are taken from the form are read one by one. -/
theorem reads_formBindings (u : Usage) :
    Reads ("const \x7b " ++ ", ".intercalate (formBindings u) ++ " \x7d = ")
        (patternTokens (formBindings u)) ∧
      ∀ rest, (boundEntries (patternTokens (formBindings u) ++ rest)).map Prod.snd =
        formBindings u := by
  rw [formBindings]
  cases u.control <;> cases u.register <;> exact ⟨rfl, fun _ => rfl⟩

/-- An operator ends where a name starts. -/
theorem reads_less_append {name rest : String} {ts : List Token} (hname : isIdentifier name = true)
    (h : Reads (name ++ rest) ts) : Reads ("<" ++ (name ++ rest)) (.mark "<" :: ts) := by
  rw [isIdentifier] at hname
  cases hchars : name.toList with
  | nil =>
    rw [hchars] at hname
    cases hname
  | cons c cs =>
    rw [hchars, Bool.and_eq_true] at hname
    have hrest : (name ++ rest).toList = c :: (cs ++ rest.toList) := by
      rw [String.toList_append, hchars, List.cons_append]
    have hc : isOperatorPart c = false := by
      refine Bool.eq_false_iff.mpr fun hoperator => ?_
      simp only [isOperatorPart, Bool.or_eq_true, beq_iff_eq] at hoperator
      rcases hoperator with (rfl | rfl) | rfl <;> exact absurd hname.1 (by decide)
    exact @Reads.append_of_step .operator isOperatorPart .mark (fun _ _ => rfl) "<" _ c '<' _ [] ts
      rfl rfl rfl hrest hc h

/-- The call that makes the form. -/
theorem tokens?_formCall {ids : Identifiers} (htype : isIdentifier ids.formDataType = true)
    (u : Usage) :
    tokens? ("const \x7b " ++ ", ".intercalate (formBindings u) ++ " \x7d = useForm<" ++
      ids.formDataType ++ ">(\x7b") = some (patternTokens (formBindings u) ++
        [Token.word "useForm", .mark "<", .word ids.formDataType, .mark ">", .mark "(",
          .mark "\x7b"]) := by
  have hclose : Reads ">(\x7b" [.mark ">", .mark "(", .mark "\x7b"] := rfl
  have hless := reads_less_append htype (Reads.word_append htype rfl (by decide) hclose)
  have hform := @Reads.word_append "useForm" _ _ _ _ (by decide)
    (by rw [String.toList_append]; rfl) (by decide) hless
  have hsplit : " \x7d = useForm<" = " \x7d = " ++ ("useForm" ++ "<") := rfl
  have hall := tokens?_of_reads ((reads_formBindings u).1.append hform)
  simp only [String.append_assoc] at hall
  rw [hsplit]
  simp only [String.append_assoc]
  exact hall

/-- What the component takes from the form. -/
theorem bindings_formLines {ids : Identifiers} (htype : isIdentifier ids.formDataType = true)
    (u : Usage) (fields : List Field) :
    bindings (formLines ids u fields) = formBindings u := by
  have hmembers : bindings (fields.map fun f =>
      ⟨3, propertyKey f.name ++ ": " ++ f.defaultRule.literal ++ ","⟩) = [] := by
    refine bindings_of_atLeast ?_
    rw [List.forall_mem_map]
    exact fun f _ => .inl (Nat.le_succ 2)
  have hresolver : bindingsOf ⟨2, "resolver: zodResolver(" ++ ids.schemaName ++ "),"⟩ = [] :=
    if_neg (by simp)
  have hvalues : bindings [⟨2, "defaultValues: \x7b"⟩] = [] := rfl
  have hend : bindings [⟨2, "\x7d,"⟩, ⟨2, "mode: 'onChange',"⟩, ⟨1, "\x7d);"⟩] = [] := rfl
  rw [formLines, bindings_append, bindings_append, hmembers, hend, bindings_cons,
    bindingsOf_of_tokens? (tokens?_formCall htype u), (reads_formBindings u).2, bindings_cons,
    hresolver, hvalues]
  simp

/-- The line that begins the function for submitted data. -/
theorem tokens?_submitCall {ids : Identifiers} (htype : isIdentifier ids.formDataType = true) :
    tokens? ("const onSubmit = async (data: " ++ ids.formDataType ++ ") => \x7b") =
      some [.word "const", .word "onSubmit", .mark "=", .word "async", .mark "(", .word "data",
        .mark ":", .word ids.formDataType, .mark ")", .mark "=>", .mark "\x7b"] := by
  have hopen : Reads "const onSubmit = async (data: "
      [.word "const", .word "onSubmit", .mark "=", .word "async", .mark "(", .word "data",
        .mark ":"] := rfl
  have hclose : Reads ") => \x7b" [.mark ")", .mark "=>", .mark "\x7b"] := rfl
  have hall := tokens?_of_reads (hopen.append (Reads.word_append htype rfl (by decide) hclose))
  rwa [← String.append_assoc] at hall

theorem bindings_submitLines {ids : Identifiers} (htype : isIdentifier ids.formDataType = true) :
    bindings (submitLines ids) = ["onSubmit"] := by
  have hrest : bindings (submitLines ids).tail = [] := rfl
  rw [submitLines, List.tail_cons] at hrest
  rw [submitLines, bindings_cons, bindingsOf_of_tokens? (tokens?_submitCall htype), hrest]
  rfl

theorem nameable_of_mem_arrayHandles {fields : List Field} :
    ∀ entry ∈ arrayHandles fields, entry.2.Nameable :=
  fun entry hentry _ hname =>
    isIdentifier_of_mem_handleNames (List.mem_flatMap.mpr ⟨entry, hentry, hname⟩)

section
variable {ids : Identifiers} {form : Form}

/-- The main component binds what it takes from the form, then the handles of the lists, and then
the function that is called with the submitted data. -/
theorem bindings_mainBodyOf (htype : isIdentifier ids.formDataType = true) :
    bindings (mainBodyOf ids form) =
      formBindings (Usage.ofFields false form.fields) ++ handleNames form.fields ++
        ["onSubmit"] := by
  have hhooks : bindings ((arrayHandles form.fields).flatMap
      fun entry => hookLines entry.1 entry.2) = handleNames form.fields := by
    rw [bindings, List.flatMap_assoc, handleNames]
    exact List.flatMap_congr fun entry hentry =>
      bindings_hookLines (nameable_of_mem_arrayHandles entry hentry) entry.1
  have hreturn : bindings (⟨1, "return ("⟩ ::
      (pageMarkup form.title (shownFields ids form)).lines 2 ++ [⟨1, ");"⟩]) = [] := by
    have hpage := bindings_of_atLeast
      (atLeast_lines (pageMarkup form.title (shownFields ids form)) 2)
    have hopen : bindingsOf ⟨1, "return ("⟩ = [] := rfl
    have hend : bindings [⟨1, ");"⟩] = [] := rfl
    rw [List.cons_append, bindings_cons, bindings_append, hopen, hpage, hend]
    rfl
  have hblank : bindings [.blank] = [] := rfl
  rw [mainBodyOf, mainBody, bindings_append, bindings_append, bindings_append, bindings_append,
    bindings_append, bindings_formLines htype, hhooks, bindings_submitLines htype, hblank, hreturn]
  simp

/-- The hooks of the main component are those of the lists at the top, in order. -/
theorem boundHooks_mainBodyOf (hword : IsWord ids.componentName.toList) :
    boundHooks (mainBodyOf ids form) = arrayHandles form.fields := by
  obtain ⟨hhook, -, -, -⟩ := rendering_ofFields hword form
  have hentries : ∀ (entries : List (String × Handles)) (rest : List Line),
      (∀ entry ∈ entries, entry.2.Nameable) →
        boundHooks (entries.flatMap (fun entry => hookLines entry.1 entry.2) ++ rest) =
          entries ++ boundHooks rest := by
    intro entries rest hnames
    induction entries with
    | nil => rfl
    | cons entry entries ih =>
      rw [List.forall_mem_cons] at hnames
      rw [List.flatMap_cons, List.append_assoc, boundHooks_hookLines hnames.1, ih hnames.2]
      rfl
  have hbefore : .hook ∉ signs (formLines ids (Usage.ofFields false form.fields) form.fields ++
      [Line.blank]) := by
    rw [signs_before_hooks]
    exact List.not_mem_nil
  have hbehind := boundHooks_append (by rw [signs_behind_hooks ids form]; exact hhook) []
  rw [List.append_nil] at hbehind
  rw [mainBodyOf, mainBody, List.append_assoc, boundHooks_append hbefore,
    hentries _ _ nameable_of_mem_arrayHandles, hbehind]
  exact List.append_nil _

end

end WebForm.Component
