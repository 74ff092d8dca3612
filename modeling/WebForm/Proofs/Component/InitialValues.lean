import WebForm.Proofs.Component.File
import WebForm.Proofs.Field.Defaults
/-!
# Initial values in a generated file

The values that a form starts from are written into its component twice: the defaults of the fields
where the form is set up, and what a new item starts from at each button that adds one. Both are
read back here as literals. What is read is what the form itself says, in whichever style the lines
are written.
-/

set_option autoImplicit false

namespace WebForm

namespace Component

open Script Source Identifier

/-! ## Reading the defaults -/

/-- The lines that stand below a line of some text, deeper than it. -/
def linesBelow (head : String) : List Line → List Line
  | [] => []
  | l :: rest =>
    if l.text = head then rest.takeWhile fun m => l.depth < m.depth else linesBelow head rest

/-- The values that a component starts from, read from its lines as they are written in a style. -/
def defaultValues? (style : Style) (body : List Line) : Option Json :=
  value? ("\x7b" ++ style.lines (linesBelow "defaultValues: \x7b" body) ++ "\x7d")

/-- The initial value of a rule is written as a literal of it. -/
theorem literal_value (rule : DefaultRule) : literal rule.value = rule.literal := by
  cases rule <;> rfl

/-- The line of a field among the default values. -/
def defaultLine (f : Field) : Line :=
  ⟨3, propertyKey f.name ++ ": " ++ f.defaultRule.literal ++ ","⟩

/-- The lines of the default values are the members of an object. -/
theorem exists_readsLines_defaultLines (fs : List Field) :
    ∃ ts members, ReadsLines (fs.map defaultLine) ts ∧ SpellsMembers ts members ∧
      Expr.jsonMembers? members = some (fs.map fun f => (f.name, f.defaultRule.value)) := by
  induction fs with
  | nil => exact ⟨[], [], fun _ => .empty, .nil, rfl⟩
  | cons f rest ih =>
    obtain ⟨us, members, hlines, hmembers, hvalues⟩ := ih
    obtain ⟨e, ⟨ts, hreads, hspells⟩, hvalue⟩ := exists_writesApart_literal f.defaultRule.value
      (numberless_value f.defaultRule)
    rw [literal_value] at hreads
    have hcomma : Reads "," [.mark ","] := rfl
    have hline := WritesApart.readsApart_member hreads f.name ⟨',', [], rfl, by decide⟩ hcomma
    have hcons : SpellsMembers (keyToken f.name :: .mark ":" :: ts ++ .mark "," :: us)
        ((f.name, e) :: members) := .cons hspells.whole hmembers
    refine ⟨_, (f.name, e) :: members, ReadsLines.cons hline hlines, ?_, ?_⟩
    · simpa using hcons
    · rw [Expr.jsonMembers?, hvalue, Option.bind_some, hvalues]
      rfl

theorem ne_of_any {text head : String}
    (h : (text.toList.zip head.toList).any (fun (c, d) => c ≠ d) = true) (rest : String) :
    head ++ rest ≠ text := by
  intro hsame
  refine Scope.not_prefix_append rest.toList h ⟨[], ?_⟩
  rw [List.append_nil, ← String.toList_append, hsame]

/-- Lines of one depth are taken up to the next line that is not as deep. -/
theorem takeWhile_deeper {depth : Nat} {ls : List Line} (hls : ∀ l ∈ ls, depth < l.depth)
    (l : Line) (hl : ¬ depth < l.depth) (rest : List Line) :
    (ls ++ l :: rest).takeWhile (fun m => depth < m.depth) = ls := by
  rw [List.takeWhile_append_of_pos fun m hm => decide_eq_true (hls m hm),
    List.takeWhile_cons_of_neg (by simpa using hl), List.append_nil]

theorem linesBelow_cons_of_ne {head : String} {l : Line} (h : l.text ≠ head) (rest : List Line) :
    linesBelow head (l :: rest) = linesBelow head rest := if_neg h

/-- The default values stand below the line that opens them. -/
theorem linesBelow_formLines (ids : Identifiers) (u : Usage) (fields : List Field)
    (rest : List Line) :
    linesBelow "defaultValues: \x7b" (formLines ids u fields ++ rest) =
      fields.map defaultLine := by
  have hform : "const \x7b " ++ ", ".intercalate (formBindings u) ++ " \x7d = useForm<" ++
      ids.formDataType ++ ">(\x7b" ≠ "defaultValues: \x7b" := by
    simp only [String.append_assoc]
    exact ne_of_any (by decide) _
  have hresolver : "resolver: zodResolver(" ++ ids.schemaName ++ ")," ≠ "defaultValues: \x7b" := by
    rw [String.append_assoc]
    exact ne_of_any (by decide) _
  have hdeeper : ∀ l ∈ fields.map defaultLine, 2 < l.depth := by
    rw [List.forall_mem_map]
    exact fun f _ => Nat.lt_succ_self 2
  have hlines : formLines ids u fields ++ rest =
      ⟨1, "const \x7b " ++ ", ".intercalate (formBindings u) ++ " \x7d = useForm<" ++
          ids.formDataType ++ ">(\x7b"⟩ ::
        ⟨2, "resolver: zodResolver(" ++ ids.schemaName ++ "),"⟩ ::
        ⟨2, "defaultValues: \x7b"⟩ ::
        (fields.map defaultLine ++ ⟨2, "\x7d,"⟩ ::
          ⟨2, "mode: 'onChange',"⟩ :: ⟨1, "\x7d);"⟩ :: rest) := by
    simp [formLines, defaultLine]
  rw [hlines, linesBelow_cons_of_ne hform, linesBelow_cons_of_ne hresolver, linesBelow, if_pos rfl]
  exact takeWhile_deeper hdeeper _ (Nat.lt_irrefl 2) _

/-- The main component starts from the defaults of all fields. -/
theorem defaultValues?_mainBodyOf (style : Style) (ids : Identifiers) (form : Form) :
    defaultValues? style (mainBodyOf ids form) =
      some (.object (form.fields.map fun f => (f.name, f.defaultRule.value))) := by
  obtain ⟨ts, members, hlines, hmembers, hvalues⟩ := exists_readsLines_defaultLines form.fields
  have hopen : Reads "\x7b" [.mark "\x7b"] := rfl
  have hclose : Reads "\x7d" [.mark "\x7d"] := rfl
  have hreads := Reads.append (Reads.append hopen (hlines style)) hclose
  have hrecord :
      expr? ([Token.mark "\x7b"] ++ ts ++ [Token.mark "\x7d"]) = some (.record members) :=
    (spells_record hmembers).expr?_eq
  rw [defaultValues?, mainBodyOf, mainBody, List.append_assoc, List.append_assoc,
    linesBelow_formLines, value?, tokens?_of_reads hreads, Option.bind_some, hrecord,
    Option.bind_some, Expr.json?, hvalues]
  rfl

/-! ## Reading the buttons -/

/-- The buttons of the main component add to each list at the top, by its own handle, what a new
item of the list starts from. -/
theorem literalCalls_mainBodyOf {ids : Identifiers} {form : Form}
    (hword : IsWord ids.componentName.toList) (hnames : (form.fields.map Field.name).Nodup) :
    literalCalls (mainBodyOf ids form) =
      ((arrayHandles form.fields).map fun entry => entry.2.append).zip
        ((Field.lists form.fields).map Field.itemTemplate) := by
  obtain ⟨-, hcalls, -, -⟩ := rendering_ofFields hword form
  have hhooks : ((arrayHandles form.fields).map fun _ => Sign.hook).filterMap Sign.call? = [] := by
    rw [List.filterMap_eq_nil_iff, List.forall_mem_map]
    exact fun _ _ => rfl
  have hhandles : (arrayHandles form.fields).map (fun entry => entry.2.append) =
      (Field.lists form.fields).map fun f =>
        (Handles.ofList (arrayHandles form.fields) f).append := by
    have hown := congrArg (List.map Handles.append) (Handles.map_ofList hnames)
    rw [List.map_map, List.map_map] at hown
    exact hown.symm
  rw [literalCalls_eq_filterMap, mainBodyOf, signs_mainBody, List.filterMap_append, hhooks,
    List.nil_append, hcalls, hhandles, List.zip_map']
  rfl

/-- The button of an inner component adds what a new item of its list starts from. -/
theorem literalCalls_bodyLines {component : String} {list : Field} {c : SubComponent}
    (h : RendersList component list c) :
    literalCalls c.bodyLines = [("append", list.itemTemplate)] := by
  rw [literalCalls_eq_filterMap, c.signs_bodyLines, List.filterMap_cons, ← h.calls]
  rfl

end Component

namespace Form

open Component Source Identifier

/-- **The file starts from the values of the form.** Let a form have distinct names at every level,
and let its title give names. Read back in any style, the main component starts from the defaults
of the form: those of its fields, in order. Every list that is reached is at the top or inside a
list. The button of a list at the top adds what a new item of it starts from, and so does the
button in the component of each list inside a list. What a new item of a list with fields starts
from has the names of these fields, in order. -/
theorem initial_values_read_back {form : Form} {ids : Identifiers}
    (hids : Identifiers.ofTitle form.title = .ok ids) (hnames : form.DistinctNames)
    (style : Style) :
    (Field.lists form.fields ++ form.innerLists).Perm
        (Field.lists (form.places.map Field.Place.field)) ∧
      form.defaults = form.fields.map (fun f => (f.name, f.defaultRule.value)) ∧
      (∀ list ∈ Field.lists (form.places.map Field.Place.field), list.children ≠ [] →
        ∃ members, list.itemTemplate = .object members ∧
          members.map Prod.fst = list.children.map Field.name) ∧
      ∃ inner main,
        definitions (fileLines ids form) = inner ++ [(ids.componentName, main)] ∧
        defaultValues? style main = some (.object form.defaults) ∧
        literalCalls main =
          ((arrayHandles form.fields).map fun entry => entry.2.append).zip
            ((Field.lists form.fields).map Field.itemTemplate) ∧
        List.Forall₂ (fun list c => literalCalls c.2 = [("append", list.itemTemplate)])
          form.innerLists inner := by
  have hword : IsWord ids.componentName.toList := Identifiers.isWord_of_ofTitle hids
  obtain ⟨-, -, hlists, -⟩ := rendering_ofFields hword form
  have hdefaults := Field.defaults_of_nodup hnames.top
  refine ⟨form.perm_lists_places, hdefaults, ?_,
    (innerComponents ids form).map fun c => (c.name, c.bodyLines), mainBodyOf ids form,
    (outlines_fileLines hword).definitions_eq, ?_, literalCalls_mainBodyOf hword hnames.top, ?_⟩
  · intro list hlist hchildren
    obtain ⟨hreached, harray⟩ := List.mem_filter.mp hlist
    obtain ⟨p, hp, rfl⟩ := List.mem_map.mp hreached
    have hdistinct := Field.everywhereIn_iff_forall_places.mp hnames.below p hp
      (of_decide_eq_true harray)
    exact ⟨_, Field.itemTemplate_of_children hchildren hdistinct, by rw [List.map_map]; rfl⟩
  · rw [defaultValues?_mainBodyOf, Form.defaults, hdefaults]
  · rw [List.forall₂_map_right_iff]
    exact hlists.imp fun _ _ h => literalCalls_bodyLines h

/-- A list inside a list. -/
def partList : Field :=
  ⟨⟨"parts", .known .array, "Part", false, none, [], none, none, none⟩,
    [.leaf ⟨"spare", .known .boolean, "Spare", false, none, [], none, none, none⟩]⟩

/-- A form with all kinds of defaults, a name that is no identifier, and a list inside a list. -/
def orderForm : Form :=
  ⟨"Order",
    [.leaf ⟨"it's", .known .text, "Note", false, none, [], none, none, none⟩,
      .leaf ⟨"gift", .known .boolean, "Gift", false, none, [], none, none, none⟩,
      .leaf ⟨"colour", .unrecognized "colour", "Colour", false, none, [], none, none, none⟩,
      ⟨⟨"lines", .known .array, "Line", false, none, [], none, none, none⟩,
        [.leaf ⟨"unit price", .known .number, "Price", false, none, [], none, none, none⟩,
          partList]⟩]⟩

/-- What is read back from the file of the form. -/
theorem orderForm_values_read_back :
    ∃ parts main,
      definitions (fileLines ⟨"Order", "order"⟩ orderForm) = [parts, ("Order", main)] ∧
      defaultValues? ⟨.tabs, .crlf⟩ main =
        some (.object [("it's", .string ""), ("gift", .bool false), ("colour", .string ""),
          ("lines", .array [])]) ∧
      literalCalls main =
        [("linesAppend", .object [("unit price", .string ""), ("parts", .array [])])] ∧
      literalCalls parts.2 = [("append", .object [("spare", .bool false)])] := by
  have hids : Identifiers.ofTitle orderForm.title = .ok ⟨"Order", "order"⟩ := rfl
  have hnames : orderForm.DistinctNames := by
    refine ⟨by decide, ?_⟩
    simp [orderForm, partList, Field.EverywhereIn, Field.Everywhere, Field.kind?, FieldType.kind?,
      Field.leaf, Field.name]
  obtain ⟨-, -, -, inner, main, hdefinitions, hdefaults, hcalls, hinner⟩ :=
    initial_values_read_back hids hnames ⟨.tabs, .crlf⟩
  have hlists : orderForm.innerLists = [partList] := rfl
  have hvalues : orderForm.defaults = [("it's", .string ""), ("gift", .bool false),
      ("colour", .string ""), ("lines", .array [])] := rfl
  have hhandles : (arrayHandles orderForm.fields).map (fun entry => entry.2.append) =
      ["linesAppend"] := by decide
  rw [hlists] at hinner
  obtain ⟨parts, rest, hparts, hrest, rfl⟩ := List.forall₂_cons_left_iff.mp hinner
  obtain rfl := List.forall₂_nil_left_iff.mp hrest
  rw [hvalues] at hdefaults
  rw [hhandles] at hcalls
  exact ⟨parts, main, hdefinitions, hdefaults, hcalls, hparts⟩

end Form

end WebForm
