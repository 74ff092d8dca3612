import WebForm.Proofs.Component.Mentions
import WebForm.Proofs.Component.Usage
/-!
# What the main component takes from the form

The main component takes the control of the form and the function that registers inputs from the
hook of the form if it refers to them, and only then. The references are read from the code of its
body: statements up to the line that returns the markup, and the code in the markup behind it. A
field refers to what its control needs; a list inside the items of a list is handed both, whatever
is in it, and the hook of a list at the top is handed the control.
-/

set_option autoImplicit false

namespace WebForm.Component

open Script Source Identifier Markup

/-! ## Reading -/

/-- What a line of a statement computes: of a declaration, what stands behind the names that it
binds. -/
def computed (l : Line) : String :=
  if l.depth = 1 ∧ "const ".toList <+: l.text.toList then
    String.ofList (l.text.toList.dropWhile fun c => c != '=')
  else l.text

/-- The names that a line of a statement refers to. -/
def statementNames (l : Line) : List String := (Spot.code .statement 0 []).names (computed l)

/-- The line behind which the markup of a component starts. -/
def returnLine : Line := ⟨1, "return ("⟩

/-- The names that a component refers to. -/
def referredNames (body : List Line) : List String :=
  (body.takeWhile fun l => l ≠ returnLine).flatMap statementNames ++
    (body.dropWhile fun l => l ≠ returnLine).flatMap fun l => markupNames l.text

/-! ## Fields -/

theorem mentioned_unsupportedElement (type path : String) :
    mentioned (unsupportedElement type path) = [] := by
  have hcomment : isElementComment (unsupportedElement type path) = true :=
    Note.isElementComment_element ⟨type, path⟩
  rw [mentioned, markupNames, hcomment, if_pos rfl, List.filter_nil]

/-- What a field of an item takes from the form in its place. -/
def itemTaken (f : Field) : List String :=
  match f.spec.type with
  | .unrecognized _ => []
  | .known .array => ["control", "register"]
  | .known kind => takenBy kind.control

/-- What a field at the top takes from the form in its place. -/
def topTaken (f : Field) : List String :=
  match f.spec.type with
  | .unrecognized _ => []
  | .known .array =>
    (if f.children.isEmpty then takenBy f.itemKind.control else []) ++ f.children.flatMap itemTaken
  | .known kind => takenBy kind.control

section
variable {f : Field}

theorem itemTaken_of_unrecognized {raw : String} (h : f.spec.type = .unrecognized raw) :
    itemTaken f = [] := by rw [itemTaken, h]

theorem itemTaken_of_array (h : f.kind? = some .array) : itemTaken f = formNames := by
  rw [itemTaken, Field.kind?_eq_some_iff.mp h]
  rfl

theorem itemTaken_of_known {kind : FieldKind} (h : f.spec.type = .known kind)
    (hkind : kind ≠ .array) : itemTaken f = takenBy kind.control := by
  rw [itemTaken, h]
  cases kind <;> first | rfl | exact absurd rfl hkind

theorem topTaken_of_unrecognized {raw : String} (h : f.spec.type = .unrecognized raw) :
    topTaken f = [] := by rw [topTaken, h]

theorem topTaken_of_array (h : f.kind? = some .array) :
    topTaken f = (if f.children.isEmpty then takenBy f.itemKind.control else []) ++
      f.children.flatMap itemTaken := by
  rw [topTaken, Field.kind?_eq_some_iff.mp h]

theorem topTaken_of_known {kind : FieldKind} (h : f.spec.type = .known kind)
    (hkind : kind ≠ .array) : topTaken f = takenBy kind.control := by
  rw [topTaken, h]
  cases kind <;> first | rfl | exact absurd rfl hkind

/-- What stands in the place of a field of an item refers to what the field takes. -/
theorem mentionedIn_itemTexts {within : FieldPath} (hp : Spot.IsPath within) (parent : String)
    (f : Field) : mentionedIn (itemTexts within parent f) = itemTaken f := by
  have hchild := hp.child f.name
  cases htype : f.spec.type with
  | unrecognized raw =>
    rw [itemTexts_of_unrecognized htype, itemTaken_of_unrecognized htype, mentionedIn_cons,
      mentioned_unsupportedElement]
    rfl
  | known kind =>
    by_cases hkind : kind = .array
    · have harray := Field.kind?_eq_some_iff.mpr (hkind ▸ htype)
      have hcontrol : mentioned (Attribute.binding "control").write = ["control"] := rfl
      have hregister : mentioned (Attribute.binding "register").write = ["register"] := rfl
      have hstate : mentioned (Attribute.binding "formState").write = [] := rfl
      have hpath := mentioned_path (show isIdentifier "path" = true by decide) hchild
      have hend : mentioned "/>" = [] := rfl
      have hhanded : allMentions (handedOn (within.child f.name)) = formNames := by
        simp [handedOn, hcontrol, hregister, hstate, hpath, formNames]
      rw [itemTexts_of_array harray, itemTaken_of_array harray, mentionedIn_append, ← allMentions,
        hhanded, mentionedIn_cons, hend]
      rfl
    · rw [itemTexts_of_known htype hkind, itemTaken_of_known htype hkind, ← Markup.mentions,
        mentions_leafElement hchild]

/-- What stands in the place of a field at the top refers to what the field takes. -/
theorem mentionedIn_topTexts (fields : List Field) (f : Field) :
    mentionedIn (topTexts (arrayHandles fields) f) = topTaken f := by
  have hp : Spot.IsPath (.literal f.name) := trivial
  cases htype : f.spec.type with
  | unrecognized raw =>
    rw [topTexts_of_unrecognized htype, topTaken_of_unrecognized htype, mentionedIn_cons,
      mentioned_unsupportedElement]
    rfl
  | known kind =>
    by_cases hkind : kind = .array
    · have harray := Field.kind?_eq_some_iff.mpr (hkind ▸ htype)
      have hitems : mentionedIn
          (f.children.flatMap (itemTexts (FieldPath.literal f.name).item f.name)) =
            f.children.flatMap itemTaken := by
        rw [mentionedIn_flatMap]
        exact List.flatMap_congr fun c _ => mentionedIn_itemTexts hp.item f.name c
      rw [topTexts_of_array harray, topTaken_of_array harray, mentionedIn_append, hitems,
        ← Markup.mentions, mentions_listElement hp (Handles.isApart_ofList fields f)]
    · rw [topTexts_of_known htype hkind, topTaken_of_known htype hkind, ← Markup.mentions,
        mentions_leafElement hp]

/-! ### Usage -/

theorem mem_takenBy (control : Control) :
    ("control" ∈ takenBy control ↔ (Usage.ofControl control).control = true) ∧
      ("register" ∈ takenBy control ↔ (Usage.ofControl control).register = true) := by
  cases control <;> simp [takenBy, Usage.ofControl, Usage.control, Usage.register]

/-- A field of an item takes the function that registers inputs exactly if something in it does: a
list in it is handed the function in any case. -/
theorem register_mem_itemTaken (f : Field) :
    "register" ∈ itemTaken f ↔ (Usage.ofField true f).register = true := by
  cases htype : f.spec.type with
  | unrecognized raw =>
    rw [itemTaken_of_unrecognized htype, Usage.ofField_of_unrecognized htype]
    simp [Usage.register]
  | known kind =>
    by_cases hkind : kind = .array
    · have harray := Field.kind?_eq_some_iff.mpr (hkind ▸ htype)
      rw [itemTaken_of_array harray, Usage.ofField_of_array harray, Usage.isPart_register.union]
      simp [formNames, Usage.register]
    · rw [itemTaken_of_known htype hkind, Usage.ofField_of_known htype hkind]
      exact (mem_takenBy kind.control).2

theorem register_mem_topTaken (f : Field) :
    "register" ∈ topTaken f ↔ (Usage.ofField false f).register = true := by
  cases htype : f.spec.type with
  | unrecognized raw =>
    rw [topTaken_of_unrecognized htype, Usage.ofField_of_unrecognized htype]
    simp [Usage.register]
  | known kind =>
    by_cases hkind : kind = .array
    · have harray := Field.kind?_eq_some_iff.mpr (hkind ▸ htype)
      have hown : ({ fieldArray := true, nestedArray := false } : Usage).register = false := rfl
      rw [topTaken_of_array harray, Usage.ofField_of_array harray, Usage.isPart_register.union, hown,
        Bool.false_or]
      by_cases hchildren : f.children.isEmpty = true
      · rw [if_pos hchildren, if_pos hchildren, List.isEmpty_iff.mp hchildren, List.flatMap_nil,
          List.append_nil]
        exact (mem_takenBy f.itemKind.control).2
      · rw [if_neg hchildren, if_neg hchildren, List.nil_append, List.mem_flatMap,
          Usage.isPart_register.ofFields_iff]
        exact exists_congr fun c => and_congr_right fun _ => register_mem_itemTaken c
    · rw [topTaken_of_known htype hkind, Usage.ofField_of_known htype hkind]
      exact (mem_takenBy kind.control).2

/-- A field at the top needs the control of the form if it takes it in its place, or if it is a
list, which has a hook. -/
theorem control_mem_topTaken_or (f : Field) :
    ("control" ∈ topTaken f ∨ f.kind? = some .array) ↔
      (Usage.ofField false f).control = true := by
  cases htype : f.spec.type with
  | unrecognized raw =>
    have hkind := Field.kind?_ne_array_of_unrecognized htype
    rw [topTaken_of_unrecognized htype, Usage.ofField_of_unrecognized htype]
    simp [Usage.control, hkind]
  | known kind =>
    by_cases hkind : kind = .array
    · have harray := Field.kind?_eq_some_iff.mpr (hkind ▸ htype)
      rw [Usage.ofField_of_array harray, Usage.isPart_control.union]
      simp [harray, Usage.control]
    · have hother := Field.kind?_ne_array_of_known htype hkind
      rw [topTaken_of_known htype hkind, Usage.ofField_of_known htype hkind]
      simp [hother, (mem_takenBy kind.control).1]

end

/-! ## Statements -/

/-- The references of a line of a statement to what is taken from the form. -/
def stated (l : Line) : List String := (statementNames l).filter formNames.contains

/-- The references of some lines of statements. -/
def statedIn (ls : List Line) : List String := ls.flatMap stated

@[simp] theorem statedIn_nil : statedIn [] = [] := rfl

@[simp] theorem statedIn_cons (l : Line) (rest : List Line) :
    statedIn (l :: rest) = stated l ++ statedIn rest := List.flatMap_cons

@[simp] theorem statedIn_append (ls ls' : List Line) :
    statedIn (ls ++ ls') = statedIn ls ++ statedIn ls' := List.flatMap_append

/-- A declaration computes what stands behind the equals sign. -/
theorem computed_declaration {before : String} (hconst : "const ".toList <+: before.toList)
    (hbefore : '=' ∉ before.toList) (rest : String) :
    computed ⟨1, before ++ ("= " ++ rest)⟩ = "= " ++ rest := by
  have hprefix : "const ".toList <+: (before ++ ("= " ++ rest)).toList := by
    rw [String.toList_append]
    exact hconst.trans (List.prefix_append _ _)
  have hno : ∀ c ∈ before.toList, (c != '=') = true := by
    intro c hc
    rw [bne_iff_ne]
    rintro rfl
    exact hbefore hc
  have hdrop : (before ++ ("= " ++ rest)).toList.dropWhile (fun c => c != '=') =
      ("= " ++ rest).toList := by
    rw [String.toList_append, List.dropWhile_append_of_pos hno, String.toList_append]
    rfl
  rw [computed, if_pos ⟨rfl, hprefix⟩, hdrop, String.ofList_toList]

theorem stated_eq_nil {l : Line} {code : String} (hcode : computed l = code)
    (h : ∀ n ∈ (Spot.code .statement 0 []).names code, n ∉ formNames) : stated l = [] := by
  rw [stated, statementNames, hcode]
  exact filter_formNames_eq_nil h

/-- Code around a name that is not taken from the form. -/
theorem stated_name {l : Line} {head name tail : String} {ns : List String}
    (hcode : computed l = head ++ (name ++ tail))
    (hhead : (Spot.code .statement 0 []).Leads head.toList ns (.code .statement 0 []))
    (hns : ∀ n ∈ ns, n ∉ formNames) (hname : isIdentifier name = true ∧ lastChar? name = some 'a')
    {c : Char} {cs : List Char} (htail : tail.toList = c :: cs)
    (hc : isIdentifierPart c = false ∧ c ≠ ':')
    (hnames : ∀ n ∈ (Spot.code .statement 0 []).names tail, n ∉ formNames) : stated l = [] := by
  have hother : name ∉ formNames := by
    intro hmem
    have hlast : ∀ n ∈ formNames, lastChar? n ≠ some 'a' := by decide
    exact hlast name hmem hname.2
  refine stated_eq_nil hcode ?_
  rw [Spot.names_append hhead, Spot.names_name _ hname.1 htail hc.1 hc.2]
  exact List.forall_mem_append.mpr ⟨hns, List.forall_mem_cons.mpr ⟨hother, hnames⟩⟩

section
variable {ids : Identifiers}

/-- The initial value of a field refers to nothing. -/
theorem stated_member (f : Field) :
    stated ⟨3, propertyKey f.name ++ ": " ++ f.defaultRule.literal ++ ","⟩ = [] := by
  have hvalue : f.defaultRule.literal = literal f.defaultRule.value := by
    cases f.defaultRule <;> rfl
  obtain ⟨ns, hns, hleads⟩ := Spot.isLiteral_literal f.defaultRule.value (numberless_value _)
    .statement ',' (by decide) (by decide)
  have hwords : ∀ n ∈ Spot.literalWords, n ∉ formNames := by decide
  have hline : (Spot.code .statement 0 []).Leads
      (propertyKey f.name ++ ": " ++ f.defaultRule.literal ++ ",").toList ns
      (.code .statement 0 []) := by
    have hall := (Spot.leads_propertyKey .statement f.name).append hleads
    rw [String.toList_append, String.toList_append, hvalue, List.append_assoc]
    exact hall
  refine stated_eq_nil (if_neg fun h => absurd (show 3 = 1 from h.1) (by decide)) ?_
  rw [Spot.names_of_leads hline]
  exact List.forall_mem_append.mpr ⟨fun n hn => hwords n (hns n hn), List.forall_mem_nil _⟩

/-- What the component takes from the form is bound, not referred to, where it is taken. -/
theorem statedIn_formLines (htype : isIdentifier ids.formDataType = true)
    (hschema : isIdentifier ids.schemaName = true) (u : Usage) (fields : List Field) :
    statedIn (formLines ids u fields) = [] := by
  have hbefore : "const ".toList <+:
        ("const \x7b " ++ ", ".intercalate (formBindings u) ++ " \x7d ").toList ∧
      '=' ∉ ("const \x7b " ++ ", ".intercalate (formBindings u) ++ " \x7d ").toList := by
    rw [formBindings]
    cases u.control <;> cases u.register <;> decide
  have hcall : stated ⟨1, "const \x7b " ++ ", ".intercalate (formBindings u) ++ " \x7d = useForm<" ++
      ids.formDataType ++ ">(\x7b"⟩ = [] := by
    have hsplit : "const \x7b " ++ ", ".intercalate (formBindings u) ++ " \x7d = useForm<" ++
        ids.formDataType ++ ">(\x7b" =
          ("const \x7b " ++ ", ".intercalate (formBindings u) ++ " \x7d ") ++
            ("= " ++ ("useForm<" ++ (ids.formDataType ++ ">(\x7b"))) := by
      have hopen : " \x7d = useForm<" = " \x7d " ++ ("= " ++ "useForm<") := rfl
      rw [hopen]
      simp only [String.append_assoc]
    have hcode := computed_declaration hbefore.1 hbefore.2
      ("useForm<" ++ (ids.formDataType ++ ">(\x7b"))
    rw [hsplit]
    exact @stated_name _ ("= " ++ "useForm<") _ _ ["useForm"]
      (hcode.trans (String.append_assoc.symm)) rfl (by decide)
      ⟨htype, lastChar?_formDataType ids⟩ _ _ rfl (by decide) (by decide)
  have hresolver : stated ⟨2, "resolver: zodResolver(" ++ ids.schemaName ++ "),"⟩ = [] := by
    refine @stated_name _ "resolver: zodResolver(" ids.schemaName ")," ["zodResolver"] ?_ rfl
      (by decide) ⟨hschema, lastChar?_schemaName ids⟩ _ _ rfl (by decide) (by decide)
    rw [computed, if_neg fun h => absurd (show 2 = 1 from h.1) (by decide), String.append_assoc]
  have hvalues : stated ⟨2, "defaultValues: \x7b"⟩ = [] := rfl
  have hend : statedIn [⟨2, "\x7d,"⟩, ⟨2, "mode: 'onChange',"⟩, ⟨1, "\x7d);"⟩] = [] := rfl
  have hmembers : statedIn (fields.map fun f =>
      ⟨3, propertyKey f.name ++ ": " ++ f.defaultRule.literal ++ ","⟩) = [] :=
    List.flatMap_eq_nil_iff.mpr (List.forall_mem_map.mpr fun f _ => stated_member f)
  rw [formLines, statedIn_append, statedIn_append, hmembers, hend]
  simp only [statedIn_cons, statedIn_nil, hcall, hresolver, hvalues, List.append_nil]

theorem statedIn_submitLines (htype : isIdentifier ids.formDataType = true) :
    statedIn (submitLines ids) = [] := by
  have hcall : stated ⟨1, "const onSubmit = async (data: " ++ ids.formDataType ++ ") => \x7b"⟩ =
      [] := by
    have hopen : "const onSubmit = async (data: " =
        "const onSubmit " ++ ("= " ++ "async (data: ") := rfl
    have hcode := @computed_declaration "const onSubmit " (by decide) (by decide)
      ("async (data: " ++ (ids.formDataType ++ ") => \x7b"))
    rw [hopen]
    simp only [String.append_assoc]
    exact @stated_name _ ("= " ++ "async (data: ") _ _ ["async"]
      (hcode.trans (String.append_assoc.symm)) rfl (by decide)
      ⟨htype, lastChar?_formDataType ids⟩ _ _ rfl (by decide) (by decide)
  have hrest : statedIn (submitLines ids).tail = [] := rfl
  rw [submitLines, List.tail_cons] at hrest
  rw [submitLines, statedIn_cons, hcall, hrest]
  rfl

/-- The hook of a list is handed the control of the form. -/
theorem statedIn_hookLines {h : Handles} (hnames : h.Nameable) (name : String) :
    statedIn (hookLines name h) = ["control"] := by
  have hcall : stated ⟨1, hookCall h⟩ = [] := by
    have hsplit : "const \x7b fields: " ++ h.fields ++ ", append: " ++ h.append ++ ", remove: " ++
        h.remove ++ " \x7d = useFieldArray(\x7b" =
          ("const \x7b fields: " ++ h.fields ++ ", append: " ++ h.append ++ ", remove: " ++
            h.remove ++ " \x7d ") ++ ("= " ++ "useFieldArray(\x7b") := by
      have hopen : " \x7d = useFieldArray(\x7b" = " \x7d " ++ ("= " ++ "useFieldArray(\x7b") := rfl
      rw [hopen]
      simp only [String.append_assoc]
    have hconst : "const ".toList <+: ("const \x7b fields: " ++ h.fields ++ ", append: " ++ h.append ++
        ", remove: " ++ h.remove ++ " \x7d ").toList := by
      simp only [String.append_assoc]
      rw [String.toList_append]
      exact List.IsPrefix.trans (by decide) (List.prefix_append _ _)
    have hno : '=' ∉ ("const \x7b fields: " ++ h.fields ++ ", append: " ++ h.append ++
        ", remove: " ++ h.remove ++ " \x7d ").toList := by
      have hpart : ∀ n ∈ h.names, '=' ∉ n.toList := fun n hn hmem =>
        absurd (isIdentifierPart_of_isIdentifier (hnames n hn) _ hmem) (by decide)
      simp only [Handles.names, List.forall_mem_cons] at hpart
      simp only [String.toList_append, List.mem_append, not_or]
      exact ⟨⟨⟨⟨⟨⟨by decide, hpart.1⟩, by decide⟩, hpart.2.1⟩, by decide⟩, hpart.2.2.1⟩, by decide⟩
    refine stated_eq_nil ?_ (by decide : ∀ n ∈ (Spot.code .statement 0 []).names
      ("= " ++ "useFieldArray(\x7b"), n ∉ formNames)
    exact (congrArg (fun text => computed ⟨1, text⟩) hsplit).trans
      (computed_declaration hconst hno "useFieldArray(\x7b")
  have hlist : stated ⟨2, listLine name⟩ = [] := by
    have hopen : (Spot.code .statement 0 []).Leads "name: ".toList [] (.code .statement 0 []) := rfl
    refine stated_eq_nil (if_neg fun h => absurd (show 2 = 1 from h.1) (by decide)) ?_
    show ∀ n ∈ (Spot.code .statement 0 []).names (listLine name), n ∉ formNames
    rw [listLine, String.append_assoc, Spot.names_append hopen,
      Spot.names_append (Spot.leads_quote .statement 0 name)]
    decide
  have hcontrol : stated ⟨2, "control,"⟩ = ["control"] := rfl
  have hend : statedIn [⟨1, "\x7d);"⟩, .blank] = [] := rfl
  have hlines : hookLines name h =
      [⟨1, hookCall h⟩, ⟨2, "control,"⟩, ⟨2, listLine name⟩] ++ [⟨1, "\x7d);"⟩, Line.blank] := rfl
  rw [hlines, statedIn_append, hend]
  simp only [statedIn_cons, statedIn_nil, hcall, hcontrol, hlist, List.append_nil, List.nil_append]

end

/-! ## The page -/

/-- The page itself refers to nothing that is only taken if fields need it. -/
theorem mentions_pageMarkup (title : String) : (pageMarkup title []).mentions = [] := by
  have htitle : mentioned (childText title) = [] := by
    have hline : mentioned (childText title ++ "") = [] :=
      mentioned_childText_append title (by rintro spot (rfl | rfl | rfl) <;> decide)
    rwa [String.append_empty] at hline
  have hheading : (Markup.inline "Heading" [.constant "size" "lg", .constant "color" "gray.700",
      .constant "textAlign" "center"] [.text (childText title)]).mentions = [] :=
    (mentions_inline (by rfl) (by decide) _).trans (by simp [htitle])
  have hbutton : (Markup.stacked "Button"
      [.attr (.code "onClick" "handleSubmit(onSubmit)"), .attr (.constant "type" "submit"),
        .attr (.constant "colorPalette" "blue"), .attr (.constant "size" "lg"),
        .attr (.code "loading" "formState.isSubmitting"),
        .attr (.constant "loadingText" "Submitting..."), .attr (.code "mt" "6")]
      [.text "Submit Form"]).mentions = [] := by rfl
  rw [pageMarkup, mentions_inline (by rfl) (by decide), allMentions_cons, allMentions_nil,
    List.append_nil, mentions_inline (by rfl) (by decide)]
  simp [hheading, hbutton, spaced]

theorem mem_mentionedIn {name : String} {lines : List String} :
    name ∈ mentionedIn lines ↔ ∃ line ∈ lines, name ∈ mentioned line := List.mem_flatMap

/-- The order of lines does not matter for what they refer to. -/
theorem mem_mentionedIn_of_perm {lines lines' : List String} (h : lines.Perm lines')
    (name : String) : name ∈ mentionedIn lines ↔ name ∈ mentionedIn lines' := by
  rw [mem_mentionedIn, mem_mentionedIn]
  exact exists_congr fun line => and_congr_left fun _ => h.mem_iff

section
variable {ids : Identifiers} {form : Form}

/-- The page refers to what the fields at the top take. -/
theorem mem_mentionedIn_page (hword : IsWord ids.componentName.toList) (name : String) :
    name ∈ mentionedIn (pageMarkup form.title (shownFields ids form)).texts ↔
      name ∈ form.fields.flatMap topTaken := by
  obtain ⟨names, hnames, hfields⟩ := (texts_rendered ids form).1
  have htags : mentionedIn (names.map ("<" ++ ·)) = [] := by
    refine mentionedIn_eq_nil (List.forall_mem_map.mpr fun tag htag => mentioned_open ?_)
    intro hbrace
    have hpart := isIdentifierPart_of_isIdentifier ((hnames tag htag).isIdentifier hword) _ hbrace
    exact absurd hpart (by decide)
  have hblank : ∀ n, mentionedIn (List.replicate n "") = [] :=
    fun n => mentionedIn_eq_nil fun line hline => by rw [List.eq_of_mem_replicate hline]; rfl
  have htop : mentionedIn (form.fields.flatMap (topTexts (arrayHandles form.fields))) =
      form.fields.flatMap topTaken := by
    rw [mentionedIn_flatMap]
    exact List.flatMap_congr fun f _ => mentionedIn_topTexts form.fields f
  have hpage : mentionedIn (pageMarkup form.title []).texts = [] := mentions_pageMarkup form.title
  have hperm := (perm_texts_pageMarkup form.title (shownFields ids form)).trans
    (hfields.append_left _)
  rw [mem_mentionedIn_of_perm hperm, mentionedIn_append, mentionedIn_append, mentionedIn_append,
    hpage, hblank, htags, htop]
  rfl

/-! ## The main component -/

theorem ne_returnLine {l : Line} (h : l.depth = 1 → l.text.toList.head? ≠ some 'r') :
    l ≠ returnLine := by
  rintro rfl
  exact h rfl rfl

/-- The statements of the main component in front of its markup. -/
def mainStatements (ids : Identifiers) (form : Form) : List Line :=
  formLines ids (Usage.ofFields false form.fields) form.fields ++ [Line.blank] ++
    (arrayHandles form.fields).flatMap (fun entry => hookLines entry.1 entry.2) ++
    (submitLines ids ++ [Line.blank])

/-- The markup of the main component. -/
def mainPage (ids : Identifiers) (form : Form) : List Line :=
  (pageMarkup form.title (shownFields ids form)).lines 2 ++ [⟨1, ");"⟩]

theorem mainBodyOf_eq :
    mainBodyOf ids form = mainStatements ids form ++ returnLine :: mainPage ids form := by
  rw [mainBodyOf, mainBody, mainStatements]
  simp only [List.append_assoc]
  rfl

theorem forall_ne_returnLine : ∀ l ∈ mainStatements ids form, l ≠ returnLine := by
  have hconst : ∀ {head : String}, head.toList.head? = some 'c' → ∀ rest : String,
      (⟨1, head ++ rest⟩ : Line) ≠ returnLine := by
    intro head hhead rest
    refine ne_returnLine fun _ h => ?_
    rw [String.toList_append, List.head?_append, hhead] at h
    exact absurd (Option.some.inj h) (by decide)
  have hdeep : ∀ {depth : Nat}, depth ≠ 1 → ∀ text, (⟨depth, text⟩ : Line) ≠ returnLine :=
    fun hdepth text => ne_returnLine fun h => absurd h hdepth
  have hform : ∀ l ∈ formLines ids (Usage.ofFields false form.fields) form.fields,
      l ≠ returnLine := by
    simp only [formLines, List.forall_mem_append, List.forall_mem_cons, List.forall_mem_map,
      String.append_assoc]
    exact ⟨⟨⟨hconst rfl _, hdeep (by decide) _, by decide, List.forall_mem_nil _⟩,
      fun f _ => hdeep (by decide) _⟩, by decide, by decide, by decide, List.forall_mem_nil _⟩
  have hhooks : ∀ l ∈ (arrayHandles form.fields).flatMap
      (fun entry => hookLines entry.1 entry.2), l ≠ returnLine := by
    have hentry : ∀ entry : String × Handles, ∀ l ∈ hookLines entry.1 entry.2, l ≠ returnLine := by
      intro entry
      simp only [hookLines, List.forall_mem_cons, String.append_assoc]
      exact ⟨hconst rfl _, by decide, hdeep (by decide) _, by decide, by decide,
        List.forall_mem_nil _⟩
    intro l hl
    obtain ⟨entry, -, hl⟩ := List.mem_flatMap.mp hl
    exact hentry entry l hl
  have hsubmit : ∀ l ∈ submitLines ids, l ≠ returnLine := by
    have hrest : ∀ l ∈ (submitLines ids).tail, l ≠ returnLine := by
      rw [submitLines, List.tail_cons]
      decide
    rw [submitLines, List.forall_mem_cons, String.append_assoc]
    exact ⟨hconst rfl _, hrest⟩
  have hblank : ∀ l ∈ [Line.blank], l ≠ returnLine := by decide
  simp only [mainStatements, List.forall_mem_append]
  exact ⟨⟨⟨hform, hblank⟩, hhooks⟩, hsubmit, hblank⟩

/-- The statements refer to the control if there is a list at the top, and to nothing else that is
only taken if fields need it. -/
theorem statedIn_mainStatements (htype : isIdentifier ids.formDataType = true)
    (hschema : isIdentifier ids.schemaName = true) :
    statedIn (mainStatements ids form) =
      (arrayHandles form.fields).flatMap fun _ => ["control"] := by
  have hhooks : statedIn ((arrayHandles form.fields).flatMap
      fun entry => hookLines entry.1 entry.2) =
        (arrayHandles form.fields).flatMap fun _ => ["control"] := by
    rw [statedIn, List.flatMap_assoc]
    exact List.flatMap_congr fun entry hentry =>
      statedIn_hookLines (nameable_of_mem_arrayHandles entry hentry) entry.1
  have hblank : statedIn [.blank] = [] := rfl
  rw [mainStatements, statedIn_append, statedIn_append, statedIn_append, statedIn_append,
    statedIn_formLines htype hschema, statedIn_submitLines htype, hhooks, hblank]
  simp

/-- The references of the main component: those of its statements, and those of its page. -/
theorem mem_referredNames_mainBodyOf (hword : IsWord ids.componentName.toList)
    (htype : isIdentifier ids.formDataType = true) (hschema : isIdentifier ids.schemaName = true)
    {name : String} (hname : name ∈ formNames) :
    name ∈ referredNames (mainBodyOf ids form) ↔
      (arrayHandles form.fields ≠ [] ∧ name = "control") ∨
        name ∈ form.fields.flatMap topTaken := by
  have hstatements : ∀ l ∈ mainStatements ids form, decide (l ≠ returnLine) = true :=
    fun l hl => decide_eq_true (forall_ne_returnLine l hl)
  have htake : (returnLine :: mainPage ids form).takeWhile (fun l => l ≠ returnLine) = [] :=
    List.takeWhile_cons_of_neg (by decide)
  have hdrop : (returnLine :: mainPage ids form).dropWhile (fun l => l ≠ returnLine) =
      returnLine :: mainPage ids form := List.dropWhile_cons_of_neg (by decide)
  have hstated : ∀ l : Line, name ∈ statementNames l ↔ name ∈ stated l := by
    intro l
    rw [stated, List.mem_filter, List.contains_iff_mem]
    exact (and_iff_left hname).symm
  have hmentioned : ∀ l : Line, name ∈ markupNames l.text ↔ name ∈ mentioned l.text := by
    intro l
    rw [mentioned, List.mem_filter, List.contains_iff_mem]
    exact (and_iff_left hname).symm
  have hpage : name ∈ ((returnLine :: mainPage ids form).flatMap fun l => mentioned l.text) ↔
      name ∈ form.fields.flatMap topTaken := by
    have htexts : ((returnLine :: mainPage ids form).flatMap fun l => mentioned l.text) =
        mentionedIn (pageMarkup form.title (shownFields ids form)).texts := by
      have hopen : mentioned returnLine.text = [] := rfl
      have hend : mentioned ");" = [] := rfl
      rw [List.flatMap_cons, hopen, List.nil_append, mainPage, List.flatMap_append,
        List.flatMap_singleton, hend, List.append_nil, ← map_text_lines _ 2, mentionedIn,
        List.flatMap_map]
    rw [htexts, mem_mentionedIn_page hword]
  have hlists : name ∈ statedIn (mainStatements ids form) ↔
      arrayHandles form.fields ≠ [] ∧ name = "control" := by
    rw [statedIn_mainStatements htype hschema, List.mem_flatMap]
    constructor
    · rintro ⟨entry, hentry, hcontrol⟩
      exact ⟨List.ne_nil_of_mem hentry, List.mem_singleton.mp hcontrol⟩
    · rintro ⟨hne, rfl⟩
      obtain ⟨entry, hentry⟩ := List.exists_mem_of_ne_nil _ hne
      exact ⟨entry, hentry, List.mem_singleton_self _⟩
  rw [mainBodyOf_eq, referredNames, List.takeWhile_append_of_pos hstatements,
    List.dropWhile_append_of_pos hstatements, htake, hdrop, List.append_nil, List.mem_append,
    ← hlists, ← hpage]
  refine or_congr ?_ ?_
  · rw [statedIn, List.mem_flatMap, List.mem_flatMap]
    exact exists_congr fun l => and_congr_right fun _ => hstated l
  · rw [List.mem_flatMap, List.mem_flatMap]
    exact exists_congr fun l => and_congr_right fun _ => hmentioned l

/-- The main component refers to the control of the form, and to the function that registers inputs,
exactly if its fields need them. -/
theorem mem_referredNames_iff_usage (hword : IsWord ids.componentName.toList)
    (htype : isIdentifier ids.formDataType = true) (hschema : isIdentifier ids.schemaName = true) :
    ("control" ∈ referredNames (mainBodyOf ids form) ↔
        (Usage.ofFields false form.fields).control = true) ∧
      ("register" ∈ referredNames (mainBodyOf ids form) ↔
        (Usage.ofFields false form.fields).register = true) := by
  have hlists : arrayHandles form.fields ≠ [] ↔ ∃ f ∈ form.fields, f.kind? = some .array := by
    rw [← Usage.fieldArray_iff_arrayHandles, Usage.isPart_fieldArray.ofFields_iff]
    simp only [Usage.fieldArray_ofField_iff]
  constructor
  · rw [mem_referredNames_mainBodyOf hword htype hschema (by decide),
      Usage.isPart_control.ofFields_iff, hlists, List.mem_flatMap]
    simp only [← control_mem_topTaken_or, and_or_left, exists_or, and_true]
    exact or_comm
  · rw [mem_referredNames_mainBodyOf hword htype hschema (by decide),
      Usage.isPart_register.ofFields_iff, List.mem_flatMap]
    simp only [← register_mem_topTaken]
    exact or_iff_right fun h => absurd h.2 (by decide)

end

end WebForm.Component
