import WebForm.Component.File
import WebForm.Proofs.Component.InnerLists
/-!
# The outline of a generated file

Which components and interfaces the file of a form declares, which hooks it calls, and what its
lines show. The file has imports first, then each inner component behind its properties, and the
main component at the end. The body of a component is indented, so that only the line that closes
it can be taken for this line.
-/

set_option autoImplicit false

namespace WebForm.Component

open Source Identifier Markup Script

/-! ## Lines that declare nothing -/

theorem declared?_of_any {keyword head : String}
    (h : (keyword.toList.zip head.toList).any (fun (c, d) => c ≠ d) = true) (depth : Nat)
    (rest : String) : declared? keyword ⟨depth, head ++ rest⟩ = none := by
  refine if_neg fun hdeclared => ?_
  rw [String.toList_append] at hdeclared
  exact Scope.not_prefix_append _ h hdeclared.2

/-- Inside a component there are no declarations at the top of the file. -/
theorem declared?_of_atLeast {keyword : String} (hkeyword : keyword ≠ "") {l : Line}
    (h : AtLeast 1 l) : declared? keyword l = none := by
  rcases h with hdepth | rfl
  · exact declared?_of_depth (by omega) keyword
  · refine if_neg fun hdeclared => hkeyword ?_
    rw [← String.toList_eq_nil_iff]
    exact List.prefix_nil.mp hdeclared.2

theorem ne_closingLine_of_atLeast {l : Line} (h : AtLeast 1 l) : l ≠ closingLine := by
  rintro rfl
  rcases h with h | h
  · exact absurd h (by decide)
  · exact absurd h (by decide)

/-- A line that declares and shows nothing. -/
structure Silent (l : Line) : Prop where
  component : declared? "const " l = none
  interface : declared? "interface " l = none
  signs : signsOf l.text = []

theorem Silent.blank : Silent .blank := ⟨rfl, rfl, rfl⟩

theorem Silent.inside {l : Line} (hdepth : AtLeast 1 l) (h : signsOf l.text = []) : Silent l :=
  ⟨declared?_of_atLeast (by decide) hdepth, declared?_of_atLeast (by decide) hdepth, h⟩

/-- A text that starts like no element, no handler and no declaration, whatever comes behind it. -/
def startsSilent (head : String) : Bool :=
  startsPlain head && ["const ", "interface "].all fun keyword =>
    (keyword.toList.zip head.toList).any fun (c, d) => c ≠ d

/-- A text between two pieces of code. -/
theorem Silent.between {head tail : String} (hhead : startsSilent head = true)
    (htail : endsPlain tail = true) (depth : Nat) (text : String) :
    Silent ⟨depth, head ++ text ++ tail⟩ := by
  rw [startsSilent, Bool.and_eq_true, List.all_cons, List.all_cons, Bool.and_eq_true,
    Bool.and_eq_true] at hhead
  refine ⟨?_, ?_, signsOf_between hhead.1 htail text⟩
  · rw [String.append_assoc]
    exact declared?_of_any hhead.2.1 depth _
  · rw [String.append_assoc]
    exact declared?_of_any hhead.2.2.1 depth _

theorem signs_of_silent {ls : List Line} (h : ∀ l ∈ ls, Silent l) : signs ls = [] :=
  List.flatMap_eq_nil_iff.mpr fun l hl => (h l hl).signs

theorem interfaces_append (ls ls' : List Line) :
    interfaces (ls ++ ls') = interfaces ls ++ interfaces ls' := List.filterMap_append

theorem interfaces_of_silent {ls : List Line} (h : ∀ l ∈ ls, Silent l) : interfaces ls = [] :=
  List.filterMap_eq_nil_iff.mpr fun l hl => (h l hl).interface

theorem interfaces_of_atLeast {ls : List Line} (h : ∀ l ∈ ls, AtLeast 1 l) :
    interfaces ls = [] :=
  List.filterMap_eq_nil_iff.mpr fun l hl => declared?_of_atLeast (by decide) (h l hl)

/-! ## Imports -/

theorem mem_of_mem_usedNames {names : List (String × Bool)} {name : String}
    (h : name ∈ usedNames names) : name ∈ names.map Prod.fst :=
  (List.filter_sublist.map Prod.fst).subset h

/-- A name on a line of its own. -/
def isPlainImport (name : String) : Bool := (signsOf (name ++ ",")).isEmpty

theorem silent_importLines {names : List (String × Bool)}
    (hnames : (names.map Prod.fst).all isPlainImport = true) (source : String) :
    ∀ l ∈ importLines (usedNames names) source, Silent l := by
  simp only [importLines, List.cons_append, List.forall_mem_cons, List.forall_mem_append,
    List.forall_mem_map]
  refine ⟨⟨rfl, rfl, rfl⟩, fun name hname => ?_, .between (by decide) (by decide) 0 source,
    fun l hl => by cases hl⟩
  refine .inside (Or.inl (Nat.le_refl 1)) (List.isEmpty_iff.mp ?_)
  exact List.all_eq_true.mp hnames name (mem_of_mem_usedNames hname)

theorem silent_fileImports (ids : Identifiers) (u : Usage) :
    ∀ l ∈ fileImports ids u, Silent l := by
  have hform : ∀ l ∈ importLines (formImports u) "react-hook-form", Silent l := by
    refine silent_importLines ?_ _
    simp only [List.map_cons, List.map_nil]
    decide
  have helements : ∀ l ∈ importLines (elementImports u) "@chakra-ui/react", Silent l := by
    refine silent_importLines ?_ _
    simp only [List.map_cons, List.map_nil]
    decide
  have hselect : ∀ l ∈ (if u.select then
      [⟨0, "import \x7b SelectFieldWrapper \x7d from './SelectFieldWrapper';"⟩] else [] :
        List Line), Silent l := by
    split
    · rw [List.forall_mem_singleton]
      exact ⟨rfl, rfl, rfl⟩
    · intro l hl
      cases hl
  have hschema : Silent ⟨0, "import \x7b " ++ ids.schemaName ++ ", type " ++ ids.formDataType ++
      " \x7d from './schema';"⟩ := by
    have hinside : "import \x7b " ++ ids.schemaName ++ ", type " ++ ids.formDataType =
        "import \x7b " ++ (ids.schemaName ++ ", type " ++ ids.formDataType) := by
      simp only [String.append_assoc]
    rw [hinside]
    exact .between (by decide) (by decide) 0 _
  simp only [fileImports, List.cons_append, List.forall_mem_cons, List.forall_mem_append]
  exact ⟨⟨rfl, rfl, rfl⟩, ⟨⟨⟨hform, helements⟩, ⟨rfl, rfl, rfl⟩, ⟨rfl, rfl, rfl⟩,
    fun l hl => by cases hl⟩, hselect⟩, hschema, fun l hl => by cases hl⟩

/-! ## Hooks -/

/-- The lines of a hook: the line that calls it, and the line that says which list it is for. -/
def hookBlock (call list : String) : List Line :=
  [⟨1, call⟩, ⟨2, "control,"⟩, ⟨2, list⟩, ⟨1, "\x7d);"⟩, .blank]

section
variable {call list : String}

theorem atLeast_hookBlock (call list : String) : ∀ l ∈ hookBlock call list, AtLeast 1 l := by
  simp [hookBlock, AtLeast]

theorem signs_hookBlock (hcall : signsOf call = [.hook]) (hlist : signsOf list = []) :
    signs (hookBlock call list) = [.hook] := by
  have hcontrol : signsOf "control," = [] := rfl
  have hend : signsOf "\x7d);" = [] := rfl
  have hblank : signsOf Line.blank.text = [] := rfl
  simp [hookBlock, hcall, hlist, hcontrol, hend, hblank]

/-- A hook is told its list on the second line behind the call. -/
theorem hooks_hookBlock (hcall : signsOf call = [.hook]) (hlist : signsOf list = [])
    (rest : List Line) : hooks (hookBlock call list ++ rest) = some list :: hooks rest := by
  have hhook : isHook call = true := hook_mem_signsOf_iff.mp (by rw [hcall]; exact .head _)
  have hbehind : Sign.hook ∉ signs [⟨2, "control,"⟩, ⟨2, list⟩, ⟨1, "\x7d);"⟩, .blank] := by
    have hall := signs_hookBlock hcall hlist
    rw [hookBlock, signs_cons, hcall, List.singleton_append] at hall
    rw [(List.cons.inj hall).2]
    exact List.not_mem_nil
  have hrest := hooks_append hbehind rest
  rw [hookBlock, List.cons_append, hooks, if_pos hhook, hrest]
  rfl

end

/-! ## Outlines -/

/-- What is read of some lines, whatever lines come behind them: the components and the interfaces,
the lists of the hooks, and what else is shown. -/
structure Outlines (ls : List Line) (components : List (String × List Line))
    (props : List String) (lists : List (Option String)) (shown : List Sign) : Prop where
  components : ∀ rest, definitionsFrom none (ls ++ rest) = components ++ definitionsFrom none rest
  props : interfaces ls = props
  lists : ∀ rest, hooks (ls ++ rest) = lists ++ hooks rest
  shown : signs ls = shown

namespace Outlines

theorem silent {ls : List Line} (h : ∀ l ∈ ls, Silent l) : Outlines ls [] [] [] [] := by
  have hsigns := signs_of_silent h
  refine ⟨definitionsFrom_append fun l hl => (h l hl).component, interfaces_of_silent h,
    hooks_append ?_, hsigns⟩
  rw [hsigns]
  exact List.not_mem_nil

theorem append {ls ls' : List Line} {components components' : List (String × List Line)}
    {props props' : List String} {lists lists' : List (Option String)} {shown shown' : List Sign}
    (h : Outlines ls components props lists shown)
    (h' : Outlines ls' components' props' lists' shown') :
    Outlines (ls ++ ls') (components ++ components') (props ++ props') (lists ++ lists')
      (shown ++ shown') := by
  refine ⟨fun rest => ?_, ?_, fun rest => ?_, ?_⟩
  · rw [List.append_assoc, h.components, h'.components, List.append_assoc]
  · rw [interfaces_append, h.props, h'.props]
  · rw [List.append_assoc, h.lists, h'.lists, List.append_assoc]
  · rw [signs_append, h.shown, h'.shown]

theorem flatMap {α : Type} {cs : List α} {ls : α → List Line} {component : α → String × List Line}
    {prop : α → String} {list : α → Option String} {shown : α → List Sign}
    (h : ∀ c ∈ cs, Outlines (ls c) [component c] [prop c] [list c] (shown c)) :
    Outlines (cs.flatMap ls) (cs.map component) (cs.map prop) (cs.map list)
      (cs.flatMap shown) := by
  induction cs with
  | nil => exact .silent (fun l hl => by cases hl)
  | cons c rest ih =>
    rw [List.forall_mem_cons] at h
    exact h.1.append (ih h.2)

/-- An interface is declared by its first line. -/
theorem interface {name : String} (h : isIdentifier name = true) {ls : List Line}
    (hls : ∀ l ∈ ls, Silent l) :
    Outlines (⟨0, "interface " ++ name ++ " \x7b"⟩ :: ls) [] [name] [] [] := by
  have hsigns : signsOf ("interface " ++ name ++ " \x7b") = [] :=
    signsOf_between (by decide) (by decide) name
  have hcomponent : declared? "const " ⟨0, "interface " ++ name ++ " \x7b"⟩ = none := by
    rw [String.append_assoc]
    exact declared?_of_any (by decide) 0 _
  have hinterface : declared? "interface " ⟨0, "interface " ++ name ++ " \x7b"⟩ = some name := by
    refine declared?_append h fun c hc => ?_
    obtain rfl := Option.some.inj hc
    decide
  have hfirst : Outlines [⟨0, "interface " ++ name ++ " \x7b"⟩] [] [name] [] [] := by
    refine ⟨definitionsFrom_append fun l hl => ?_, ?_, hooks_append ?_, ?_⟩
    · rw [List.mem_singleton.mp hl, hcomponent]
    · rw [interfaces, List.filterMap_cons, hinterface]
      rfl
    · simp [hsigns]
    · simp [hsigns]
  exact hfirst.append (silent hls)

/-- A component is read up to the line that closes it. -/
theorem component {name props tail : String} {body : List Line} {lists : List (Option String)}
    {shown : List Sign} (hname : isIdentifier name = true) (htail : endsPlain tail = true)
    (hbody : ∀ l ∈ body, AtLeast 1 l) (hlists : ∀ rest, hooks (body ++ rest) = lists ++ hooks rest)
    (hshown : signs body = shown) :
    Outlines (⟨0, "const " ++ name ++ ": React.FC<" ++ props ++ tail⟩ :: (body ++ [closingLine]))
      [(name, body)] [] lists shown := by
  have hinterface : declared? "interface "
      ⟨0, "const " ++ name ++ ": React.FC<" ++ props ++ tail⟩ = none := by
    simp only [String.append_assoc]
    exact declared?_of_any (by decide) 0 _
  have hcomponent : declared? "const " ⟨0, "const " ++ name ++ ": React.FC<" ++ props ++ tail⟩ =
      some name := by
    have htext : "const " ++ name ++ ": React.FC<" ++ props ++ tail =
        "const " ++ name ++ (": React.FC<" ++ (props ++ tail)) := by
      simp only [String.append_assoc]
    rw [htext]
    refine declared?_append hname fun c hc => ?_
    rw [String.toList_append] at hc
    obtain rfl := Option.some.inj hc
    decide
  have hfirst : signsOf ("const " ++ name ++ ": React.FC<" ++ props ++ tail) = [] := by
    have htext : "const " ++ name ++ ": React.FC<" ++ props =
        "const " ++ (name ++ ": React.FC<" ++ props) := by
      simp only [String.append_assoc]
    rw [htext]
    exact signsOf_between (by decide) htail _
  have hclose : Silent closingLine := ⟨rfl, rfl, rfl⟩
  refine ⟨fun rest => ?_, ?_, fun rest => ?_, ?_⟩
  · rw [List.cons_append, List.append_assoc, List.singleton_append,
      definitionsFrom_definition hcomponent fun l hl => ne_closingLine_of_atLeast (hbody l hl)]
    rfl
  · rw [interfaces, List.filterMap_cons, hinterface, ← interfaces, interfaces_append,
      interfaces_of_atLeast hbody]
    rfl
  · rw [← List.singleton_append, List.append_assoc, List.append_assoc, hooks_append, hlists,
      (silent (List.forall_mem_singleton.mpr hclose)).lists, List.nil_append]
    simp [hfirst]
  · simp [hfirst, hshown, hclose.signs]

section
variable {ls : List Line} {components : List (String × List Line)} {props : List String}
  {lists : List (Option String)} {shown : List Sign}

theorem definitions_eq (h : Outlines ls components props lists shown) :
    definitions ls = components := by
  have hall := h.components []
  rwa [List.append_nil, definitionsFrom, List.append_nil] at hall

theorem hooks_eq (h : Outlines ls components props lists shown) : hooks ls = lists := by
  have hall := h.lists []
  rwa [List.append_nil, hooks, List.append_nil] at hall

end

end Outlines

/-- What a component returns is what it shows. -/
theorem signs_return (m : Markup) :
    signs (⟨1, "return ("⟩ :: m.lines 2 ++ [⟨1, ");"⟩]) = m.signs := by
  have hreturn : signsOf "return (" = [] := rfl
  have hend : signsOf ");" = [] := rfl
  simp [hreturn, hend, signs_lines]

theorem atLeast_return (m : Markup) :
    ∀ l ∈ ⟨1, "return ("⟩ :: m.lines 2 ++ [⟨1, ");"⟩], AtLeast 1 l := by
  have hbody : ∀ l ∈ m.lines 2, AtLeast 1 l :=
    fun l hl => (atLeast_lines m 2 l hl).mono (by decide)
  rw [List.cons_append, List.forall_mem_cons, List.forall_mem_append]
  exact ⟨Or.inl (Nat.le_refl 1), hbody, by simp [AtLeast]⟩

/-! ## Inner components -/

namespace SubComponent

/-- The body of an inner component. -/
def bodyLines (c : SubComponent) : List Line :=
  hookBlock "const \x7b fields, append, remove \x7d = useFieldArray(\x7b" "name: path," ++
    (⟨1, "return ("⟩ :: c.body.lines 2 ++ [⟨1, ");"⟩])

theorem atLeast_bodyLines (c : SubComponent) : ∀ l ∈ c.bodyLines, AtLeast 1 l := by
  rw [bodyLines, List.forall_mem_append]
  exact ⟨atLeast_hookBlock _ _, atLeast_return _⟩

/-- An inner component stands behind its properties, and is closed behind its body. -/
theorem lines_eq (c : SubComponent) :
    c.lines =
      (⟨0, "interface " ++ subComponentProps c.name ++ " \x7b"⟩ ::
        [⟨1, "control: Control<any>;"⟩, ⟨1, "register: UseFormRegister<any>;"⟩,
          ⟨1, "formState: FormState<any>;"⟩, ⟨1, "path: string;"⟩, ⟨0, "\x7d"⟩, Line.blank]) ++
      (⟨0, "const " ++ c.name ++ ": React.FC<" ++ subComponentProps c.name ++
          "> = (\x7b control, register, formState, path \x7d) => \x7b"⟩ ::
        (c.bodyLines ++ [closingLine])) := by
  simp [lines, bodyLines, hookBlock, closingLine]

theorem signs_bodyLines (c : SubComponent) :
    Component.signs c.bodyLines = Sign.hook :: c.body.signs := by
  rw [bodyLines, signs_append, signs_hookBlock rfl rfl, signs_return, List.singleton_append]

/-- An inner component calls the hook of the list that it is handed. -/
theorem hooks_bodyLines {c : SubComponent} (h : Sign.hook ∉ c.body.signs) (rest : List Line) :
    hooks (c.bodyLines ++ rest) = some "name: path," :: hooks rest := by
  rw [bodyLines, List.append_assoc, hooks_hookBlock rfl rfl, hooks_append]
  rwa [signs_return]

/-- The file defines an inner component behind its properties. -/
theorem outlines {c : SubComponent} (hname : isIdentifier c.name = true)
    (h : Sign.hook ∉ c.body.signs) :
    Outlines (c.lines ++ [Line.blank]) [(c.name, c.bodyLines)] [subComponentProps c.name]
      [some "name: path,"] (.hook :: c.body.signs) := by
  have hprops : isIdentifier (subComponentProps c.name) = true :=
    isIdentifier_append hname (by decide)
  have hinterface : Outlines (⟨0, "interface " ++ subComponentProps c.name ++ " \x7b"⟩ ::
      [⟨1, "control: Control<any>;"⟩, ⟨1, "register: UseFormRegister<any>;"⟩,
        ⟨1, "formState: FormState<any>;"⟩, ⟨1, "path: string;"⟩, ⟨0, "\x7d"⟩, Line.blank])
      [] [subComponentProps c.name] [] [] := by
    refine .interface hprops ?_
    simp only [List.forall_mem_cons]
    exact ⟨⟨rfl, rfl, rfl⟩, ⟨rfl, rfl, rfl⟩, ⟨rfl, rfl, rfl⟩, ⟨rfl, rfl, rfl⟩, ⟨rfl, rfl, rfl⟩,
      .blank, fun l hl => by cases hl⟩
  have hcomponent : Outlines (⟨0, "const " ++ c.name ++ ": React.FC<" ++
      subComponentProps c.name ++ "> = (\x7b control, register, formState, path \x7d) => \x7b"⟩ ::
        (c.bodyLines ++ [closingLine]))
      [(c.name, c.bodyLines)] [] [some "name: path,"] (.hook :: c.body.signs) :=
    .component hname (by decide) c.atLeast_bodyLines (hooks_bodyLines h) c.signs_bodyLines
  have hblank := Outlines.silent (List.forall_mem_singleton.mpr Silent.blank)
  have hall := (hinterface.append hcomponent).append hblank
  rw [c.lines_eq]
  simpa using hall

end SubComponent

/-! ## The main component -/

/-- A member of an object literal on a line of its own. -/
theorem signsOf_member (name text : String) :
    signsOf (propertyKey name ++ ": " ++ text ++ ",") = [] := by
  have hchars : (propertyKey name ++ ": " ++ text ++ ",").toList =
      (propertyKey name).toList ++ ':' :: (' ' :: text.toList ++ [',']) := by
    simp
  have hlast : (propertyKey name ++ ": " ++ text ++ ",").toList.getLast? ≠ some '\x7b' := by
    rw [getLast?_append_of_ne (by decide)]
    decide
  by_cases hidentifier : isIdentifier name = true
  · -- a brace does not belong to the key, nor does the colon belong to a handler
    have hkey : propertyKey name = name := if_pos hidentifier
    have hparts := isIdentifierPart_of_isIdentifier hidentifier
    rw [hkey] at hchars hlast ⊢
    refine signsOf_eq_nil ?_ ?_ hlast
    · rw [hchars, List.head?_append]
      intro hhead
      cases hname : name.toList with
      | nil =>
        rw [isIdentifier, hname] at hidentifier
        cases hidentifier
      | cons c rest =>
        rw [hname] at hhead hparts
        obtain rfl := Option.some.inj hhead
        exact absurd (hparts _ List.mem_cons_self) (by decide)
    · rw [hchars]
      intro hhandler
      have hbrace := (prefix_of_prefix_append (by decide) hhandler).subset
      exact absurd (hparts '\x7b' (hbrace (by decide))) (by decide)
  · have hkey : propertyKey name = "'" ++ (escapeString name ++ "'") := by
      rw [propertyKey, if_neg hidentifier, quote, String.append_assoc]
    rw [hkey] at hlast ⊢
    simp only [String.append_assoc] at hlast ⊢
    exact signsOf_append (by decide) hlast

/-- The lines of the form show nothing. -/
theorem signs_formLines (ids : Identifiers) (u : Usage) (fields : List Field) :
    signs (formLines ids u fields) = [] := by
  have hform : signsOf ("const \x7b " ++ ", ".intercalate (formBindings u) ++ " \x7d = useForm<" ++
      ids.formDataType ++ ">(\x7b") = [] := by
    have htext : "const \x7b " ++ ", ".intercalate (formBindings u) ++ " \x7d = useForm<" ++
        ids.formDataType = "const \x7b " ++ (", ".intercalate (formBindings u) ++
          " \x7d = useForm<" ++ ids.formDataType) := by
      simp only [String.append_assoc]
    rw [htext]
    exact signsOf_between (by decide) (by decide) _
  have hresolver : signsOf ("resolver: zodResolver(" ++ ids.schemaName ++ "),") = [] :=
    signsOf_between (by decide) (by decide) _
  have hvalues : signsOf "defaultValues: \x7b" = [] := rfl
  have hmembers : signs (fields.map fun f =>
      ⟨3, propertyKey f.name ++ ": " ++ f.defaultRule.literal ++ ","⟩) = [] := by
    refine List.flatMap_eq_nil_iff.mpr ?_
    rw [List.forall_mem_map]
    exact fun f _ => signsOf_member _ _
  have hclose : signsOf "\x7d," = [] := rfl
  have hmode : signsOf "mode: 'onChange'," = [] := rfl
  have hend : signsOf "\x7d);" = [] := rfl
  simp [formLines, hform, hresolver, hvalues, hmembers, hclose, hmode, hend]

theorem signs_submitLines (ids : Identifiers) : signs (submitLines ids) = [] := by
  have hsubmit : signsOf ("const onSubmit = async (data: " ++ ids.formDataType ++
      ") => \x7b") = [] := signsOf_between (by decide) (by decide) _
  have hrest : signs (submitLines ids).tail = [] := rfl
  rw [submitLines, signs_cons, hsubmit, List.nil_append]
  exact hrest

/-- What the main component tells the hook of a list. -/
def listLine (name : String) : String := "name: " ++ quote name ++ ","

theorem hookLines_eq (name : String) (h : Handles) :
    hookLines name h =
      hookBlock ("const \x7b fields: " ++ h.fields ++ ", append: " ++ h.append ++ ", remove: " ++
        h.remove ++ " \x7d = useFieldArray(\x7b") (listLine name) := rfl

theorem signsOf_hookCall (h : Handles) :
    signsOf ("const \x7b fields: " ++ h.fields ++ ", append: " ++ h.append ++ ", remove: " ++
      h.remove ++ " \x7d = useFieldArray(\x7b") = [.hook] := by
  have htext : "const \x7b fields: " ++ h.fields ++ ", append: " ++ h.append ++ ", remove: " ++
      h.remove ++ " \x7d = useFieldArray(\x7b" = "const \x7b fields: " ++ (h.fields ++
        ", append: " ++ h.append ++ ", remove: " ++ h.remove ++ " \x7d ") ++
          "= useFieldArray(\x7b" := by
    have hcall : " \x7d = useFieldArray(\x7b" = " \x7d " ++ "= useFieldArray(\x7b" := rfl
    simp only [hcall, String.append_assoc]
  rw [htext]
  exact signsOf_hook (by decide) _

theorem signsOf_listLine (name : String) : signsOf (listLine name) = [] :=
  signsOf_between (by decide) (by decide) _

theorem signs_hookLines (entry : String × Handles) :
    signs (hookLines entry.1 entry.2) = [.hook] := by
  rw [hookLines_eq]
  exact signs_hookBlock (signsOf_hookCall entry.2) (signsOf_listLine entry.1)

theorem hooks_flatMap_hookLines (entries : List (String × Handles)) (rest : List Line) :
    hooks (entries.flatMap (fun entry => hookLines entry.1 entry.2) ++ rest) =
      entries.map (fun entry => some (listLine entry.1)) ++ hooks rest := by
  induction entries with
  | nil => rfl
  | cons entry entries ih =>
    rw [List.flatMap_cons, List.append_assoc, hookLines_eq,
      hooks_hookBlock (signsOf_hookCall entry.2) (signsOf_listLine entry.1), ih]
    rfl

theorem signs_flatMap_hookLines (entries : List (String × Handles)) :
    signs (entries.flatMap fun entry => hookLines entry.1 entry.2) =
      entries.map fun _ => Sign.hook := by
  induction entries with
  | nil => rfl
  | cons entry entries ih =>
    rw [List.flatMap_cons, signs_append, signs_hookLines, ih]
    rfl

/-- The body of the main component. -/
def mainBody (ids : Identifiers) (form : Form) (u : Usage) (fields : List Markup) : List Line :=
  formLines ids u form.fields ++ [Line.blank] ++
    (arrayHandles form.fields).flatMap (fun entry => hookLines entry.1 entry.2) ++
    (submitLines ids ++ [Line.blank] ++
      (⟨1, "return ("⟩ :: (pageMarkup form.title fields).lines 2 ++ [⟨1, ");"⟩]))

section
variable (ids : Identifiers) (form : Form) (u : Usage) (fields : List Markup)

theorem mainLines_eq :
    mainLines ids form u fields =
      ⟨0, "const " ++ ids.componentName ++ ": React.FC<" ++ ids.propsName ++
          "> = (\x7b onSubmit: onSubmitProp \x7d) => \x7b"⟩ ::
        (mainBody ids form u fields ++ [closingLine]) := by
  simp [mainLines, mainBody, closingLine]

theorem atLeast_mainBody : ∀ l ∈ mainBody ids form u fields, AtLeast 1 l := by
  have hform : ∀ l ∈ formLines ids u form.fields, AtLeast 1 l := by
    simp only [formLines, List.forall_mem_append, List.forall_mem_cons, List.forall_mem_map]
    simp [AtLeast]
  have hsubmit : ∀ l ∈ submitLines ids, AtLeast 1 l := by simp [submitLines, AtLeast]
  have hblank : ∀ l ∈ [Line.blank], AtLeast 1 l := by simp [AtLeast]
  have hhooks : ∀ l ∈ (arrayHandles form.fields).flatMap
      (fun entry => hookLines entry.1 entry.2), AtLeast 1 l := by
    intro l hl
    obtain ⟨entry, -, hl⟩ := List.mem_flatMap.mp hl
    exact atLeast_hookBlock _ _ l hl
  simp only [mainBody, List.forall_mem_append]
  exact ⟨⟨⟨hform, hblank⟩, hhooks⟩, ⟨hsubmit, hblank⟩, List.forall_mem_append.mp
    (atLeast_return (pageMarkup form.title fields))⟩

/-- Behind its hooks the main component shows what the fields show. -/
theorem signs_behind_hooks :
    signs (submitLines ids ++ [Line.blank] ++
      (⟨1, "return ("⟩ :: (pageMarkup form.title fields).lines 2 ++ [⟨1, ");"⟩])) =
        allSigns fields := by
  have hblank : signs [Line.blank] = [] := rfl
  rw [signs_append, signs_append, signs_submitLines, hblank, signs_return, signs_pageMarkup]
  rfl

theorem signs_before_hooks : signs (formLines ids u form.fields ++ [Line.blank]) = [] := by
  rw [signs_append, signs_formLines]
  rfl

/-- The main component shows its hooks, and what the fields show. -/
theorem signs_mainBody :
    signs (mainBody ids form u fields) =
      (arrayHandles form.fields).map (fun _ => Sign.hook) ++ allSigns fields := by
  rw [mainBody, signs_append, signs_append, signs_before_hooks, signs_flatMap_hookLines,
    signs_behind_hooks, List.nil_append]

/-- The main component calls a hook for each list at the top. -/
theorem hooks_mainBody {fields : List Markup} (h : Sign.hook ∉ allSigns fields) (rest : List Line) :
    hooks (mainBody ids form u fields ++ rest) =
      (Field.lists form.fields).map (fun f => some (listLine f.name)) ++ hooks rest := by
  have hnames : (arrayHandles form.fields).map (fun entry => some (listLine entry.1)) =
      (Field.lists form.fields).map (fun f => some (listLine f.name)) := by
    have hmap := congrArg (List.map fun name => some (listLine name))
      (Handles.map_fst_ofFields [] form.fields)
    rwa [List.map_map, List.map_map] at hmap
  have hbefore : Sign.hook ∉ signs (formLines ids u form.fields ++ [Line.blank]) := by
    rw [signs_before_hooks]
    exact List.not_mem_nil
  rw [mainBody, List.append_assoc, List.append_assoc, hooks_append hbefore,
    hooks_flatMap_hookLines, hnames, hooks_append]
  rw [signs_behind_hooks]
  exact h

/-- The file defines the main component. -/
theorem outlines_mainLines {fields : List Markup} (hname : isIdentifier ids.componentName = true)
    (h : Sign.hook ∉ allSigns fields) :
    Outlines (mainLines ids form u fields) [(ids.componentName, mainBody ids form u fields)] []
      ((Field.lists form.fields).map fun f => some (listLine f.name))
      ((arrayHandles form.fields).map (fun _ => Sign.hook) ++ allSigns fields) := by
  have hcomponent : Outlines (⟨0, "const " ++ ids.componentName ++ ": React.FC<" ++ ids.propsName ++
      "> = (\x7b onSubmit: onSubmitProp \x7d) => \x7b"⟩ ::
        (mainBody ids form u fields ++ [closingLine]))
      [(ids.componentName, mainBody ids form u fields)] []
      ((Field.lists form.fields).map fun f => some (listLine f.name))
      ((arrayHandles form.fields).map (fun _ => Sign.hook) ++ allSigns fields) :=
    .component hname (by decide) (atLeast_mainBody ids form u fields)
      (hooks_mainBody ids form u h) (signs_mainBody ids form u fields)
  rw [mainLines_eq]
  exact hcomponent

end

/-! ## The file -/

/-- The body of the main component of a form. -/
def mainBodyOf (ids : Identifiers) (form : Form) : List Line :=
  mainBody ids form (Usage.ofFields false form.fields) (shownFields ids form)

/-- The outline of the file of a form: the inner components first, and the main one last. -/
theorem outlines_fileLines {ids : Identifiers} {form : Form}
    (hword : IsWord ids.componentName.toList) :
    Outlines (fileLines ids form)
      ((innerComponents ids form).map (fun c => (c.name, c.bodyLines)) ++
        [(ids.componentName, mainBodyOf ids form)])
      (ids.propsName :: (innerComponents ids form).map fun c => subComponentProps c.name)
      ((innerComponents ids form).map (fun _ => some "name: path,") ++
        (Field.lists form.fields).map fun f => some (listLine f.name))
      ((innerComponents ids form).flatMap (fun c => Sign.hook :: c.body.signs) ++
        ((arrayHandles form.fields).map (fun _ => Sign.hook) ++
          allSigns (shownFields ids form))) := by
  obtain ⟨hhook, -, hlists, -⟩ := rendering_ofFields hword form
  have hinner : ∀ c ∈ innerComponents ids form,
      isIdentifier c.name = true ∧ Sign.hook ∉ c.body.signs :=
    forall_mem_of_forall₂ hlists fun _ _ h => ⟨h.name.isIdentifier hword, h.hook⟩
  have himports : Outlines (fileImports ids (Usage.ofFields false form.fields) ++ [Line.blank])
      [] [] [] [] := by
    refine .silent ?_
    rw [List.forall_mem_append, List.forall_mem_singleton]
    exact ⟨silent_fileImports ids _, .blank⟩
  have hprops : Outlines (propsLines ids ++ [Line.blank]) [] [ids.propsName] [] [] := by
    have hbehind : ∀ l ∈ [⟨1, "onSubmit?: (data: " ++ ids.formDataType ++ ") => void;"⟩,
        ⟨0, "\x7d"⟩, .blank], Silent l := by
      simp only [List.forall_mem_cons]
      exact ⟨.between (by decide) (by decide) 1 _, ⟨rfl, rfl, rfl⟩, .blank,
        fun l hl => by cases hl⟩
    exact .interface (hword.isIdentifier_append (by decide)) hbehind
  have hcomponents := Outlines.flatMap fun c hc =>
    SubComponent.outlines (hinner c hc).1 (hinner c hc).2
  have hmain := outlines_mainLines ids form (Usage.ofFields false form.fields)
    (isIdentifier_of_isWord hword) hhook
  have hexport : Outlines [.blank, ⟨0, "export default " ++ ids.componentName ++ ";"⟩]
      [] [] [] [] := by
    refine .silent ?_
    simp only [List.forall_mem_cons]
    exact ⟨.blank, .between (by decide) (by decide) 0 _, fun l hl => by cases hl⟩
  have hall := (((himports.append hprops).append hcomponents).append hmain).append hexport
  simpa [fileLines, innerComponents, mainBodyOf, shownFields] using hall

end WebForm.Component
