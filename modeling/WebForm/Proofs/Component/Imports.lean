import Mathlib.Data.List.TakeWhile
import WebForm.Proofs.Component.File
/-!
# Imports of a component file

The imports at the head of a component file are read from its lines, as its declarations are: each
of them starts at the top of the file and goes on until its source is named. What is read of the
file of a form are the names that its fields need from the libraries, and the names of its schema.
-/

set_option autoImplicit false

namespace WebForm.Component

open Script Source Markup

/-! ## Reading imports -/

/-- The name that a token of an import lists; its keywords list none. -/
def listedName? : Token → Option String
  | .word s => if s ∈ ["import", "type"] then none else some s
  | _ => none

/-- Where an import is from, and the names that it lists, once all its tokens are there. -/
def readImport? (ts : List Token) : Option (String × List String) :=
  match ts.dropWhile (· ≠ .word "from") with
  | [.word _, .string source, .mark ";"] =>
    some (source, (ts.takeWhile (· ≠ .word "from")).filterMap listedName?)
  | _ => none

/-- The tokens of an import up to the end of a line, given those before the line if the import goes
on there. A new one starts at the top of the file. -/
def importTokens? (before : Option (List Token)) (l : Line) : Option (List Token) :=
  (before <|> (declared? "import " l).map fun _ => []).bind fun ts =>
    (tokens? l.text).map fun us => ts ++ us

/-- Reads imports, inside of one or between two of them. -/
def importsFrom : Option (List Token) → List Line → List (String × List String)
  | _, [] => []
  | before, l :: rest =>
    match importTokens? before l with
    | none => importsFrom none rest
    | some ts =>
      match readImport? ts with
      | none => importsFrom (some ts) rest
      | some found => found :: importsFrom none rest

/-- The imports of a file, each with its source and the names that it lists. -/
def imports (ls : List Line) : List (String × List String) := importsFrom none ls

/-- All names that a file imports. -/
def importedNames (ls : List Line) : List String := (imports ls).flatMap Prod.snd

theorem readImport?_eq_none {ts : List Token} (h : .word "from" ∉ ts) : readImport? ts = none := by
  have hnone : ts.dropWhile (· ≠ .word "from") = [] := by
    rw [List.dropWhile_eq_nil_iff]
    rintro t ht
    exact decide_eq_true fun hfrom => h (hfrom ▸ ht)
  rw [readImport?, hnone]

/-- An import is complete with its source. -/
theorem readImport?_append {clause : List Token} (h : .word "from" ∉ clause) (source : String) :
    readImport? (clause ++ [Token.word "from", .string source, .mark ";"]) =
      some (source, clause.filterMap listedName?) := by
  have hclause : ∀ t ∈ clause, decide (t ≠ .word "from") = true :=
    fun t ht => decide_eq_true fun hfrom => h (hfrom ▸ ht)
  rw [readImport?, List.dropWhile_append_of_pos hclause, List.takeWhile_append_of_pos hclause]
  simp

/-- What is imported by some lines, whatever lines come behind them. -/
def Imports (ls : List Line) (found : List (String × List String)) : Prop :=
  ∀ rest, importsFrom none (ls ++ rest) = found ++ importsFrom none rest

namespace Imports

variable {ls ls' : List Line} {found found' : List (String × List String)}

theorem imports_eq (h : Imports ls found) : imports ls = found := by
  have hall := h []
  rwa [List.append_nil, importsFrom, List.append_nil] at hall

theorem append (h : Imports ls found) (h' : Imports ls' found') :
    Imports (ls ++ ls') (found ++ found') := by
  intro rest
  rw [List.append_assoc, h, h', List.append_assoc]

/-- Lines that start no import are passed over. -/
theorem nothing (h : ∀ l ∈ ls, declared? "import " l = none) : Imports ls [] := by
  intro rest
  rw [List.nil_append]
  induction ls with
  | nil => rfl
  | cons l ls ih =>
    rw [List.forall_mem_cons] at h
    rw [List.cons_append, importsFrom, importTokens?, h.1]
    exact ih h.2

end Imports

/-- A line that starts an import. -/
theorem importTokens?_of_start {text : String} {ts : List Token}
    (hstart : (declared? "import " ⟨0, text⟩).isSome = true) (h : tokens? text = some ts) :
    importTokens? none ⟨0, text⟩ = some ts := by
  obtain ⟨name, hname⟩ := Option.isSome_iff_exists.mp hstart
  rw [importTokens?, hname]
  simp [h]

/-- A line that goes on with an import. -/
theorem importTokens?_of_inside {depth : Nat} {text : String} {us : List Token}
    (h : tokens? text = some us) (ts : List Token) :
    importTokens? (some ts) ⟨depth, text⟩ = some (ts ++ us) := by
  simp [importTokens?, h]

/-! The characters of a literal are looked at one by one, and not decoded from its bytes. -/

theorem isSome_declared?_ofList {keyword : String} {cs : List Char}
    (h : keyword.toList.isPrefixOf cs = true) :
    (declared? keyword ⟨0, String.ofList cs⟩).isSome = true := by
  have hprefix : keyword.toList <+: (String.ofList cs).toList := by
    rw [String.toList_ofList]
    exact List.isPrefixOf_iff_prefix.mp h
  rw [declared?, if_pos ⟨rfl, hprefix⟩]
  rfl

theorem tokens?_ofList {cs : List Char} {ts : List Token}
    (h : Mode.between.Leads cs ts .between) : tokens? (String.ofList cs) = some ts := by
  rw [tokens?, String.toList_ofList, h]
  rfl

/-- An import on a single line. -/
theorem Imports.line {text source : String} (clause : List Token)
    (hstart : (declared? "import " ⟨0, text⟩).isSome = true) (hclause : .word "from" ∉ clause)
    (h : tokens? text = some (clause ++ [Token.word "from", .string source, .mark ";"])) :
    Imports [⟨0, text⟩] [(source, clause.filterMap listedName?)] := by
  intro rest
  rw [List.singleton_append, List.singleton_append]
  simp only [importsFrom, importTokens?_of_start hstart h, readImport?_append hclause]

/-! ### Imports on several lines -/

/-- The name that an entry of an import lists, which may be marked as the name of a type. -/
def bareName (entry : String) : String :=
  if "type ".toList <+: entry.toList then String.ofList (entry.toList.drop 5) else entry

/-- Whether a text can be an entry of an import: it lists its name and does not end the names. -/
def isEntry (entry : String) : Bool :=
  (tokens? (entry ++ ",")).any fun ts =>
    !ts.contains (.word "from") && ts.filterMap listedName? == [bareName entry]

/-- Inside an import every entry adds its name. -/
theorem importsFrom_entries {entries : List String} (h : ∀ e ∈ entries, isEntry e = true)
    {ts : List Token} (hts : .word "from" ∉ ts) (rest : List Line) :
    ∃ us, .word "from" ∉ us ∧
      us.filterMap listedName? = ts.filterMap listedName? ++ entries.map bareName ∧
      importsFrom (some ts) (entries.map (fun e => ⟨1, e ++ ","⟩) ++ rest) =
        importsFrom (some us) rest := by
  induction entries generalizing ts with
  | nil => exact ⟨ts, hts, (List.append_nil _).symm, rfl⟩
  | cons e entries ih =>
    rw [List.forall_mem_cons] at h
    obtain ⟨es, hes, hentry⟩ := (Option.any_eq_true _ _).mp h.1
    simp only [Bool.and_eq_true, Bool.not_eq_true', List.contains_eq_mem, decide_eq_false_iff_not,
      beq_iff_eq] at hentry
    have hboth : .word "from" ∉ ts ++ es := by
      rw [List.mem_append, not_or]
      exact ⟨hts, hentry.1⟩
    obtain ⟨us, hus, hnames, hrest⟩ := ih h.2 hboth
    refine ⟨us, hus, ?_, ?_⟩
    · rw [hnames, List.filterMap_append, hentry.2, List.append_assoc]
      rfl
    · have htokens : importTokens? (some ts) ⟨1, e ++ ","⟩ = some (ts ++ es) :=
        importTokens?_of_inside hes ts
      rw [List.map_cons, List.cons_append, importsFrom, htokens]
      simp only [readImport?_eq_none hboth]
      exact hrest

/-- An import with an entry on each line. -/
theorem Imports.importLines {entries : List String} (h : ∀ e ∈ entries, isEntry e = true)
    (source : String)
    (hsource : tokens? ("\x7d from '" ++ source ++ "';") =
      some [.mark "\x7d", .word "from", .string source, .mark ";"]) :
    Imports (importLines entries source) [(source, entries.map bareName)] := by
  intro rest
  have hopen : importTokens? none ⟨0, "import \x7b"⟩ = some [.word "import", .mark "\x7b"] :=
    importTokens?_of_start (by decide) rfl
  have hfirst : Token.word "from" ∉ [Token.word "import", .mark "\x7b"] := by decide
  obtain ⟨us, hus, hnames, hentries⟩ :=
    importsFrom_entries h hfirst (⟨0, "\x7d from '" ++ source ++ "';"⟩ :: rest)
  have hclose : importTokens? (some us) ⟨0, "\x7d from '" ++ source ++ "';"⟩ =
      some ((us ++ [Token.mark "\x7d"]) ++ [Token.word "from", .string source, .mark ";"]) := by
    rw [importTokens?_of_inside hsource]
    simp
  have hclause : .word "from" ∉ us ++ [Token.mark "\x7d"] := by
    rw [List.mem_append, not_or]
    exact ⟨hus, by decide⟩
  rw [Component.importLines, List.cons_append, List.cons_append, importsFrom, hopen,
    List.append_assoc, List.singleton_append]
  simp only [readImport?_eq_none hfirst]
  rw [hentries, importsFrom, hclose]
  simp only [readImport?_append hclause]
  have hbraces : [Token.word "import", .mark "\x7b"].filterMap listedName? = [] ∧
      [Token.mark "\x7d"].filterMap listedName? = [] := ⟨rfl, rfl⟩
  rw [List.filterMap_append, hnames, hbraces.1, hbraces.2, List.nil_append, List.append_nil,
    List.singleton_append]

/-! ## Imports of the file -/

/-- The last character of a name, by which the names of different parts are told apart. -/
def lastChar? (name : String) : Option Char := name.toList.getLast?

theorem lastChar?_append {ending : String} (h : ending ≠ "") (s : String) :
    lastChar? (s ++ ending) = lastChar? ending := by
  rw [lastChar?, String.toList_append, List.getLast?_append_of_ne_nil]
  · rfl
  · exact fun hnil => h (String.toList_eq_nil_iff.mp hnil)

theorem lastChar?_schemaName (ids : Identifiers) : lastChar? ids.schemaName = some 'a' :=
  lastChar?_append (by decide) _

theorem lastChar?_formDataType (ids : Identifiers) : lastChar? ids.formDataType = some 'a' :=
  lastChar?_append (by decide) _

/-- Names with different last characters differ. -/
theorem ne_of_lastChar? {name other : String} {c : Char} (h : lastChar? name = some c)
    (hother : lastChar? other ≠ some c) : name ≠ other := by
  rintro rfl
  exact hother h

/-- The imports that do not depend on the title of the form, by their sources. -/
def libraryImports (u : Usage) : List (String × List String) :=
  [("react", ["React"]), ("react-hook-form", (formImports u).map bareName),
    ("@chakra-ui/react", (elementImports u).map bareName),
    ("@hookform/resolvers/zod", ["zodResolver"]), ("./FieldWrapper", ["FieldWrapper"])] ++
  (if u.select then [("./SelectFieldWrapper", ["SelectFieldWrapper"])] else [])

/-- The names that these import. -/
def libraryNames (u : Usage) : List String := (libraryImports u).flatMap Prod.snd

/-- What the file imports, by its sources. -/
def importsOf (ids : Identifiers) (u : Usage) : List (String × List String) :=
  libraryImports u ++ [("./schema", [ids.schemaName, ids.formDataType])]

theorem isEntry_of_mem_usedNames {names : List (String × Bool)}
    (h : (names.map Prod.fst).all isEntry = true) : ∀ e ∈ usedNames names, isEntry e = true :=
  fun e he => List.all_eq_true.mp h e (mem_of_mem_usedNames he)

/-- The line that imports the names of the schema. -/
theorem tokens?_schemaImport {ids : Identifiers} (hschema : isIdentifier ids.schemaName = true)
    (htype : isIdentifier ids.formDataType = true) :
    tokens? ("import \x7b " ++ ids.schemaName ++ ", type " ++ ids.formDataType ++
      " \x7d from './schema';") =
        some ([Token.word "import", .mark "\x7b", .word ids.schemaName, .mark ",", .word "type",
          .word ids.formDataType, .mark "\x7d"] ++
            [Token.word "from", .string "./schema", .mark ";"]) := by
  have hopen : Reads "import \x7b " [.word "import", .mark "\x7b"] := rfl
  have hcomma : Reads ", type " [.mark ",", .word "type"] := rfl
  have hclose : Reads " \x7d from './schema';"
      [.mark "\x7d", .word "from", .string "./schema", .mark ";"] := rfl
  have htail := hcomma.append (Reads.word_append htype rfl (by decide) hclose)
  have hchars : (", type " ++ (ids.formDataType ++ " \x7d from './schema';")).toList =
      ',' :: (" type ".toList ++ (ids.formDataType ++ " \x7d from './schema';").toList) := by
    rw [String.toList_append]
    rfl
  have hall := hopen.append (Reads.word_append hschema hchars (by decide) htail)
  simp only [String.append_assoc]
  exact tokens?_of_reads hall

theorem isSome_declared?_append (keyword rest : String) :
    (declared? keyword ⟨0, keyword ++ rest⟩).isSome = true := by
  rw [declared?, if_pos ⟨rfl, by rw [String.toList_append]; exact List.prefix_append _ _⟩]
  rfl

theorem Imports.schemaImport {ids : Identifiers} (hschema : isIdentifier ids.schemaName = true)
    (htype : isIdentifier ids.formDataType = true) :
    Imports [⟨0, "import \x7b " ++ ids.schemaName ++ ", type " ++ ids.formDataType ++
      " \x7d from './schema';"⟩] [("./schema", [ids.schemaName, ids.formDataType])] := by
  have hstart : (declared? "import " ⟨0, "import \x7b " ++ ids.schemaName ++ ", type " ++
      ids.formDataType ++ " \x7d from './schema';"⟩).isSome = true := by
    have hopen : "import \x7b " = "import " ++ "\x7b " := rfl
    rw [hopen]
    simp only [String.append_assoc]
    exact isSome_declared?_append _ _
  -- neither name is a word that has a meaning in an import
  have hkeywords : ∀ s ∈ ["from", "import", "type"], ids.schemaName ≠ s ∧ ids.formDataType ≠ s := by
    have hlast : ∀ s ∈ ["from", "import", "type"], lastChar? s ≠ some 'a' := by decide
    exact fun s hs => ⟨ne_of_lastChar? (lastChar?_schemaName ids) (hlast s hs),
      ne_of_lastChar? (lastChar?_formDataType ids) (hlast s hs)⟩
  simp only [List.forall_mem_cons] at hkeywords
  obtain ⟨hfrom, himport, hmark, -⟩ := hkeywords
  have hline := Imports.line _ hstart ?_ (tokens?_schemaImport hschema htype)
  · simpa [List.filterMap_cons, listedName?, himport, hmark] using hline
  · simp [hfrom.1.symm, hfrom.2.symm]

/-- The imports of the file are read back. -/
theorem Imports.fileImports {ids : Identifiers} (hschema : isIdentifier ids.schemaName = true)
    (htype : isIdentifier ids.formDataType = true) (u : Usage) :
    Imports (fileImports ids u) (importsOf ids u) := by
  have hreact : Imports [⟨0, "import React from 'react';"⟩] [("react", ["React"])] :=
    .line [.word "import", .word "React"] (isSome_declared?_ofList rfl) (by decide)
      (tokens?_ofList rfl)
  have hform : Imports (Component.importLines (formImports u) "react-hook-form")
      [("react-hook-form", (formImports u).map bareName)] := by
    refine .importLines (isEntry_of_mem_usedNames ?_) "react-hook-form" rfl
    simp only [List.map_cons, List.map_nil]
    decide
  have helements : Imports (Component.importLines (elementImports u) "@chakra-ui/react")
      [("@chakra-ui/react", (elementImports u).map bareName)] := by
    refine .importLines (isEntry_of_mem_usedNames ?_) "@chakra-ui/react" rfl
    simp only [List.map_cons, List.map_nil]
    decide
  have hresolver : Imports
      [⟨0, "import \x7b zodResolver \x7d from '@hookform/resolvers/zod';"⟩]
      [("@hookform/resolvers/zod", ["zodResolver"])] :=
    .line [.word "import", .mark "\x7b", .word "zodResolver", .mark "\x7d"]
      (isSome_declared?_ofList rfl) (by decide) (tokens?_ofList rfl)
  have hwrapper : Imports [⟨0, "import \x7b FieldWrapper \x7d from './FieldWrapper';"⟩]
      [("./FieldWrapper", ["FieldWrapper"])] :=
    .line [.word "import", .mark "\x7b", .word "FieldWrapper", .mark "\x7d"]
      (isSome_declared?_ofList rfl) (by decide) (tokens?_ofList rfl)
  have hselect : Imports
      (if u.select then
        [⟨0, "import \x7b SelectFieldWrapper \x7d from './SelectFieldWrapper';"⟩] else [])
      (if u.select then [("./SelectFieldWrapper", ["SelectFieldWrapper"])] else []) := by
    split
    · exact .line [.word "import", .mark "\x7b", .word "SelectFieldWrapper", .mark "\x7d"]
        (isSome_declared?_ofList rfl) (by decide) (tokens?_ofList rfl)
    · exact .nothing fun l hl => by cases hl
  have hschemaLine := Imports.schemaImport hschema htype
  have hall := (((hreact.append (hform.append helements)).append
    (hresolver.append hwrapper)).append hselect).append hschemaLine
  simpa [Component.fileImports, importsOf, libraryImports] using hall

/-! ## The rest of the file -/

/-- Nothing is imported inside a component. -/
theorem Imports.component {name props tail : String} {body : List Line}
    (h : ∀ l ∈ body, AtLeast 1 l) :
    Imports (⟨0, "const " ++ name ++ ": React.FC<" ++ props ++ tail⟩ :: (body ++ [closingLine]))
      [] := by
  refine .nothing ?_
  simp only [List.forall_mem_cons, List.forall_mem_append, String.append_assoc]
  exact ⟨declared?_of_any (by decide) 0 _, fun l hl => declared?_of_atLeast (by decide) (h l hl),
    rfl, fun l hl => by cases hl⟩

theorem Imports.interface (name : String) {ls : List Line}
    (h : ∀ l ∈ ls, declared? "import " l = none) :
    Imports (⟨0, "interface " ++ name ++ " \x7b"⟩ :: ls) [] := by
  refine .nothing ?_
  simp only [List.forall_mem_cons, String.append_assoc]
  exact ⟨declared?_of_any (by decide) 0 _, h⟩

theorem Imports.blank : Imports [.blank] [] := .nothing (by decide)

theorem SubComponent.imports_lines (c : SubComponent) : Imports (c.lines ++ [Line.blank]) [] := by
  rw [c.lines_eq]
  exact ((Imports.interface _ (by decide)).append (.component c.atLeast_bodyLines)).append .blank

theorem Imports.flatMap {α : Type} {ls : α → List Line} (h : ∀ a, Imports (ls a) []) (as : List α) :
    Imports (as.flatMap ls) [] := by
  induction as with
  | nil => exact .nothing fun l hl => by cases hl
  | cons a rest ih => exact (h a).append ih

/-- Only the imports are imports: nothing is imported behind them. -/
theorem imports_fileLines {ids : Identifiers} (hschema : isIdentifier ids.schemaName = true)
    (htype : isIdentifier ids.formDataType = true) (form : Form) :
    imports (fileLines ids form) = importsOf ids (Usage.ofFields false form.fields) := by
  have himports := Imports.fileImports hschema htype (Usage.ofFields false form.fields)
  have hprops : Imports (propsLines ids) [] := by
    refine .interface _ ?_
    simp only [List.forall_mem_cons]
    exact ⟨declared?_of_depth Nat.one_ne_zero _, by decide, fun l hl => by cases hl⟩
  have hinner := Imports.flatMap SubComponent.imports_lines (innerComponents ids form)
  have hmain : Imports
      (mainLines ids form (Usage.ofFields false form.fields) (shownFields ids form)) [] := by
    rw [mainLines_eq]
    exact .component (atLeast_mainBody ids form _ _)
  have hexport : Imports [.blank, ⟨0, "export default " ++ ids.componentName ++ ";"⟩] [] := by
    refine .nothing ?_
    simp only [List.forall_mem_cons, String.append_assoc]
    exact ⟨rfl, declared?_of_any (by decide) 0 _, fun l hl => by cases hl⟩
  have hall := (((((himports.append .blank).append hprops).append .blank).append hinner).append
    hmain).append hexport
  simp only [List.append_nil] at hall
  exact hall.imports_eq

theorem importedNames_fileLines {ids : Identifiers} (hschema : isIdentifier ids.schemaName = true)
    (htype : isIdentifier ids.formDataType = true) (form : Form) :
    importedNames (fileLines ids form) =
      libraryNames (Usage.ofFields false form.fields) ++ [ids.schemaName, ids.formDataType] := by
  rw [importedNames, imports_fileLines hschema htype, importsOf, List.flatMap_append, libraryNames,
    List.flatMap_singleton]

end WebForm.Component
