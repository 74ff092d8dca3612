import WebForm.Proofs.Component.Code
import WebForm.Proofs.Component.Written
import WebForm.Proofs.Source.Comment
/-!
# References in markup

Which of the names that the main component takes from the form the markup of a field refers to: the
control of the form, and the function that registers inputs. The references are read from the code
in each line of the markup. What is inside texts, templates and paths is no code, and no handle of a
list is named like something that is taken from the form.
-/

set_option autoImplicit false

namespace WebForm.Component

open Script Source Identifier Markup

/-! ## Reading -/

/-- Whether a line starts like an attribute with its value. -/
def isAttributeLine (line : String) : Bool :=
  ["=\"", "=\x7b"].any fun sign =>
    sign.toList.isPrefixOf (line.toList.dropWhile isIdentifierPart)

/-- The names that a line of markup refers to. A comment refers to none. -/
def markupNames (line : String) : List String :=
  if isElementComment line then []
  else (if isAttributeLine line then Spot.tag else Spot.text).names line

/-- What the main component takes from the form if it needs it. -/
def formNames : List String := ["control", "register"]

/-- The references of a line of markup to what is taken from the form. -/
def mentioned (line : String) : List String := (markupNames line).filter formNames.contains

/-- The references of some lines of markup. -/
def mentionedIn (lines : List String) : List String := lines.flatMap mentioned

@[simp] theorem mentionedIn_nil : mentionedIn [] = [] := rfl

@[simp] theorem mentionedIn_cons (line : String) (rest : List String) :
    mentionedIn (line :: rest) = mentioned line ++ mentionedIn rest := List.flatMap_cons

@[simp] theorem mentionedIn_append (lines lines' : List String) :
    mentionedIn (lines ++ lines') = mentionedIn lines ++ mentionedIn lines' := List.flatMap_append

theorem mentionedIn_flatMap {α : Type} (as : List α) (lines : α → List String) :
    mentionedIn (as.flatMap lines) = as.flatMap fun a => mentionedIn (lines a) :=
  List.flatMap_assoc

theorem mentionedIn_eq_nil {lines : List String} (h : ∀ line ∈ lines, mentioned line = []) :
    mentionedIn lines = [] := List.flatMap_eq_nil_iff.mpr h

/-! ### Lines -/

theorem filter_formNames_eq_nil {ns : List String} (h : ∀ n ∈ ns, n ∉ formNames) :
    ns.filter formNames.contains = [] := by
  rw [List.filter_eq_nil_iff]
  intro n hn
  rw [List.contains_iff_mem]
  exact h n hn

theorem not_mem_of_pathVariables {ns : List String} (h : ∀ n ∈ ns, n ∈ Spot.pathVariables) :
    ∀ n ∈ ns, n ∉ formNames := by
  have hother : ∀ n ∈ Spot.pathVariables, n ∉ formNames := by decide
  exact fun n hn => hother n (h n hn)

/-- A line that refers to nothing that is taken from the form, wherever its reading starts. -/
theorem mentioned_eq_nil {line : String}
    (htext : ∀ n ∈ Spot.text.names line, n ∉ formNames)
    (htag : ∀ n ∈ Spot.tag.names line, n ∉ formNames) : mentioned line = [] := by
  rw [mentioned, markupNames]
  split
  · rfl
  · split
    · exact filter_formNames_eq_nil htag
    · exact filter_formNames_eq_nil htext

theorem mentioned_of_no_brace {line : String} (h : '\x7b' ∉ line.toList) : mentioned line = [] := by
  refine mentioned_eq_nil ?_ ?_
  · rw [Spot.names_of_no_brace h (.inl rfl)]
    exact List.forall_mem_nil _
  · rw [Spot.names_of_no_brace h (.inr (.inl rfl))]
    exact List.forall_mem_nil _

/-- A line between elements. -/
theorem mentioned_of_text {line : String} {ns : List String}
    (hcomment : isElementComment line = false) (hattribute : isAttributeLine line = false)
    (h : Spot.text.names line = ns) : mentioned line = ns.filter formNames.contains := by
  rw [mentioned, markupNames, hcomment, if_neg Bool.false_ne_true, hattribute,
    if_neg Bool.false_ne_true, h]

/-- A line does not start like an attribute if something else stands behind its first word. -/
theorem isAttributeLine_append {head : String}
    (h : (head.toList.dropWhile isIdentifierPart).head?.any (· ≠ '=') = true) (rest : String) :
    isAttributeLine (head ++ rest) = false := by
  cases hdrop : head.toList.dropWhile isIdentifierPart with
  | nil =>
    rw [hdrop] at h
    cases h
  | cons c cs =>
    rw [hdrop] at h
    have hc : c ≠ '=' := of_decide_eq_true h
    have hline : (head ++ rest).toList.dropWhile isIdentifierPart = c :: (cs ++ rest.toList) := by
      rw [String.toList_append, List.dropWhile_append, hdrop]
      rfl
    rw [isAttributeLine, hline]
    have hquote : "=\"".toList.isPrefixOf (c :: (cs ++ rest.toList)) = false := by
      simp [List.isPrefixOf, Ne.symm hc]
    have hbrace : "=\x7b".toList.isPrefixOf (c :: (cs ++ rest.toList)) = false := by
      simp [List.isPrefixOf, Ne.symm hc]
    rw [List.any_cons, hquote, List.any_cons, hbrace]
    rfl

/-- A line that starts like no attribute is read as one between elements. -/
theorem mentioned_eq_nil_of_text {line : String} (hattribute : isAttributeLine line = false)
    (h : ∀ n ∈ Spot.text.names line, n ∉ formNames) : mentioned line = [] := by
  rw [mentioned, markupNames]
  split
  · rfl
  · rw [hattribute, if_neg Bool.false_ne_true]
    exact filter_formNames_eq_nil h

/-! ### Attributes -/

section
variable {name : String}

theorem isElementComment_of_isIdentifier (hname : isIdentifier name = true) (rest : String) :
    isElementComment (name ++ rest) = false := by
  have hkey := (not_comment_propertyKey name rest).2
  rwa [propertyKey, if_pos hname] at hkey

/-- An attribute refers to what its value refers to. -/
theorem mentioned_attribute (hname : isIdentifier name = true) {value : String} {ns : List String}
    (hvalue : value.toList.head? = some '"' ∨ value.toList.head? = some '\x7b')
    (h : Spot.tag.Leads value.toList ns .tag) :
    mentioned (name ++ "=" ++ value) = ns.filter formNames.contains := by
  have hparts := isIdentifierPart_of_isIdentifier hname
  have hline : isAttributeLine (name ++ "=" ++ value) = true := by
    have hdrop : (name ++ "=" ++ value).toList.dropWhile isIdentifierPart = '=' :: value.toList := by
      rw [String.append_assoc, String.toList_append, String.toList_append,
        List.dropWhile_append_of_pos hparts]
      rfl
    rw [isAttributeLine, hdrop, List.any_cons, List.any_cons, Bool.or_eq_true, Bool.or_eq_true]
    rcases hvalue with hhead | hhead
    · obtain ⟨cs, hcs⟩ := List.head?_eq_some_iff.mp hhead
      exact .inl (by rw [hcs]; rfl)
    · obtain ⟨cs, hcs⟩ := List.head?_eq_some_iff.mp hhead
      exact .inr (.inl (by rw [hcs]; rfl))
  have hopen : Spot.tag.Leads (name ++ "=").toList [] .tag := by
    refine Spot.leads_tag fun c hc => ?_
    rw [String.toList_append] at hc
    rcases List.mem_append.mp hc with hc | hc
    · have hpart := hparts c hc
      refine ⟨?_, ?_, ?_⟩ <;> rintro rfl <;> exact absurd hpart (by decide)
    · obtain rfl : c = '=' := List.mem_singleton.mp hc
      decide
  have hnames : Spot.tag.names (name ++ "=" ++ value) = ns := by
    rw [Spot.names_append hopen, Spot.names_of_leads h]
    exact List.append_nil _
  have hcomment : isElementComment (name ++ "=" ++ value) = false := by
    rw [String.append_assoc]
    exact isElementComment_of_isIdentifier hname _
  rw [mentioned, markupNames, hcomment, if_neg Bool.false_ne_true, hline, if_pos rfl, hnames]

@[simp] theorem head?_braced (code : String) : (braced code).toList.head? = some '\x7b' := by
  rw [braced, String.append_assoc, String.toList_append]
  rfl

theorem head?_attributeText (s : String) :
    (attributeText s).toList.head? = some '"' ∨ (attributeText s).toList.head? = some '\x7b' := by
  rw [attributeText]
  split
  · exact .inr (head?_braced _)
  · refine .inl ?_
    rw [String.append_assoc, String.toList_append]
    rfl

theorem mentioned_constant (hname : '\x7b' ∉ name.toList) {value : String}
    (hvalue : '\x7b' ∉ value.toList) : mentioned (Attribute.constant name value).write = [] := by
  refine mentioned_of_no_brace ?_
  simp only [Attribute.write, String.toList_append, List.mem_append, not_or]
  exact ⟨⟨⟨hname, by decide⟩, hvalue⟩, by decide⟩

theorem mentioned_text (hname : isIdentifier name = true) (value : String) :
    mentioned (Attribute.text name value).write = [] :=
  mentioned_attribute hname (head?_attributeText value) (Spot.leads_attributeText value)

theorem mentioned_path (hname : isIdentifier name = true) {p : FieldPath} (h : Spot.IsPath p) :
    mentioned (Attribute.path name p).write = [] := by
  obtain ⟨ns, hns, hleads⟩ := h.leads_inAttribute
  have hhead : p.inAttribute.toList.head? = some '"' ∨ p.inAttribute.toList.head? = some '\x7b' := by
    cases p with
    | literal path => exact head?_attributeText path
    | «variable» name => exact .inr (head?_braced _)
    | template body => exact .inr (head?_braced _)
  refine (mentioned_attribute hname hhead hleads).trans ?_
  exact filter_formNames_eq_nil (not_mem_of_pathVariables hns)

/-- An attribute with code. -/
theorem mentioned_code (hname : isIdentifier name = true) {value : String} {ns : List String}
    (h : (Spot.code (.markup true 0) 0 []).Leads (value.toList ++ ['\x7d']) ns .tag) :
    mentioned (Attribute.code name value).write = ns.filter formNames.contains :=
  mentioned_attribute hname (.inr (head?_braced value)) (Spot.leads_braced h)

end

theorem write_register (p : FieldPath) :
    (Attribute.register p).write = "\x7b...register(" ++ (p.inCall ++ ")\x7d") := by
  have hopen : "\x7b...register(" = "\x7b" ++ "...register(" := rfl
  have hclose : ")\x7d" = ")" ++ "\x7d" := rfl
  rw [Attribute.write, braced, hopen, hclose]
  simp only [String.append_assoc]

/-- The attributes that register an input. -/
theorem mentioned_register {p : FieldPath} (h : Spot.IsPath p) :
    mentioned (Attribute.register p).write = ["register"] := by
  obtain ⟨ns, hns, hleads⟩ := h.leads_inCall (.markup false 0) (c := ')') (by decide) (by decide)
  have hopen : Spot.text.Leads "\x7b...register(".toList ["register"]
      (.code (.markup false 0) 0 []) := rfl
  have hclose : (Spot.code (.markup false 0) 0 []).Leads ['\x7d'] [] .text := rfl
  have hall : Spot.text.Leads (Attribute.register p).write.toList ("register" :: ns) .text := by
    have hall := hopen.append (hleads.append hclose)
    rw [List.append_assoc, List.append_nil] at hall
    rw [write_register, String.toList_append, String.toList_append]
    exact hall
  have hline : isAttributeLine (Attribute.register p).write = false := by
    rw [write_register]
    exact isAttributeLine_append (by decide) _
  have hcomment : isElementComment (Attribute.register p).write = false := by
    rw [write_register]
    exact isElementComment_append (by decide) _
  have hpath := filter_formNames_eq_nil (not_mem_of_pathVariables hns)
  have hlast : Spot.text.last = [] := rfl
  rw [mentioned_of_text hcomment hline (Spot.names_of_leads hall), hlast, List.append_nil,
    List.filter_cons_of_pos (by decide), hpath]

/-! ### Pieces of markup -/

namespace Markup

/-- What the lines of a piece of markup mention. -/
def mentions (m : Markup) : List String := mentionedIn m.texts

/-- What pieces mention one after the other. -/
def allMentions (ms : List Markup) : List String := mentionedIn (allTexts ms)

@[simp] theorem allMentions_nil : allMentions [] = [] := rfl

@[simp] theorem allMentions_cons (m : Markup) (rest : List Markup) :
    allMentions (m :: rest) = m.mentions ++ allMentions rest := by
  rw [allMentions, allTexts_cons, mentionedIn_append, mentions, allMentions]

@[simp] theorem allMentions_append (ms ms' : List Markup) :
    allMentions (ms ++ ms') = allMentions ms ++ allMentions ms' := by
  rw [allMentions, allTexts_append, mentionedIn_append, allMentions, allMentions]

theorem allMentions_eq_nil {ms : List Markup} (h : ∀ m ∈ ms, m.mentions = []) :
    allMentions ms = [] := by
  induction ms with
  | nil => rfl
  | cons m rest ih =>
    rw [List.forall_mem_cons] at h
    rw [allMentions_cons, h.1, ih h.2, List.append_nil]

@[simp] theorem mentions_blank : Markup.blank.mentions = [] := rfl

@[simp] theorem mentions_text (line : String) : (Markup.text line).mentions = mentioned line := by
  simp [mentions, texts]

@[simp] theorem mentions_attr (a : Attribute) : (Markup.attr a).mentions = mentioned a.write := by
  simp [mentions, texts]

section
variable {tag head tail : String}

theorem mentioned_open (h : '\x7b' ∉ tag.toList) : mentioned ("<" ++ tag) = [] := by
  refine mentioned_of_no_brace ?_
  rw [String.toList_append, List.mem_append, not_or]
  exact ⟨by decide, h⟩

theorem mentioned_closing (h : '\x7b' ∉ tag.toList) : mentioned (closing tag) = [] := by
  refine mentioned_of_no_brace ?_
  rw [closing, String.toList_append, String.toList_append, List.mem_append, List.mem_append,
    not_or, not_or]
  exact ⟨⟨by decide, h⟩, by decide⟩

theorem mentions_block (hhead : mentioned head = []) (htail : mentioned tail = []) (steps : Nat)
    (inner : List Markup) : (Markup.block steps head inner tail).mentions = allMentions inner := by
  simp [mentions, texts, hhead, htail, allMentions]

theorem mentions_void (h : '\x7b' ∉ tag.toList) (attributes : List Markup) :
    (Markup.void tag attributes).mentions = allMentions attributes := by
  have hend : mentioned "/>" = [] := rfl
  simp [mentions, texts, mentioned_open h, hend, allMentions]

theorem mentions_stacked (h : '\x7b' ∉ tag.toList) (attributes content : List Markup) :
    (Markup.stacked tag attributes content).mentions =
      allMentions attributes ++ allMentions content := by
  have hend : mentioned ">" = [] := rfl
  simp [mentions, texts, mentioned_open h, mentioned_closing h, hend, allMentions]

theorem mentions_inline {attributes : List Attribute}
    (hopen : mentioned ("<" ++ tag ++ attributesText attributes ++ ">") = [])
    (h : '\x7b' ∉ tag.toList) (content : List Markup) :
    (Markup.inline tag attributes content).mentions = allMentions content := by
  simp [mentions, texts, hopen, mentioned_closing h, allMentions]

theorem mentions_mark (h : '\x7b' ∉ tag.toList) : (Markup.mark tag).mentions = [] := by
  have hline : mentioned ("<" ++ tag ++ " />") = [] := by
    refine mentioned_of_no_brace ?_
    rw [String.toList_append, String.toList_append, List.mem_append, List.mem_append, not_or,
      not_or]
    exact ⟨⟨by decide, h⟩, by decide⟩
  simp [mentions, texts, hline]

/-- A text of the form holds no names, wherever its reading starts. -/
theorem exists_leads_childText (s : String) {spot : Spot} (h : spot = .text ∨ spot = .tag) :
    ∃ spot' : Spot, spot'.IsOutside ∧ spot.Leads (childText s).toList [] spot' := by
  rcases h with rfl | rfl
  · exact ⟨.text, .inl rfl, Spot.leads_childText s⟩
  · rcases childText_cases s with ⟨hs, hbrace, -⟩ | hs
    · rw [hs]
      exact Spot.exists_leads_of_no_brace hbrace (.inr (.inl rfl))
    · rw [hs]
      exact ⟨.tag, .inr (.inl rfl), Spot.leads_braced
        ((Spot.leads_quote _ 0 s).append (Spot.leads_separator _ (by decide)))⟩

/-- A text of the form at the start of a line. -/
theorem mentioned_childText_append (s : String) {tail : String}
    (h : ∀ spot : Spot, spot.IsOutside → ∀ n ∈ spot.names tail, n ∉ formNames) :
    mentioned (childText s ++ tail) = [] := by
  have hnames : ∀ spot : Spot, spot = .text ∨ spot = .tag →
      ∀ n ∈ spot.names (childText s ++ tail), n ∉ formNames := by
    intro spot hspot
    obtain ⟨spot', houtside, htext⟩ := exists_leads_childText s hspot
    rw [Spot.names_append htext, List.nil_append]
    exact h spot' houtside
  exact mentioned_eq_nil (hnames .text (.inl rfl)) (hnames .tag (.inr rfl))

/-- A text of the form behind a piece that starts like no attribute. -/
theorem mentioned_append_childText
    (hattribute : (head.toList.dropWhile isIdentifierPart).head?.any (· ≠ '=') = true)
    (hcomment : startsUncommented head = true) (hhead : Spot.text.Leads head.toList [] .text)
    (htail : '\x7b' ∉ tail.toList) (s : String) : mentioned (head ++ childText s ++ tail) = [] := by
  have hnames : Spot.text.names (head ++ childText s ++ tail) = [] := by
    rw [String.append_assoc, Spot.names_append hhead, Spot.names_append (Spot.leads_childText s),
      Spot.names_of_no_brace htail (.inl rfl)]
    rfl
  rw [String.append_assoc] at hnames ⊢
  exact mentioned_of_text (isElementComment_append hcomment _) (isAttributeLine_append hattribute _)
    hnames

end

end Markup

/-! ## Single values -/

/-- What the control of a single value takes from the form. -/
def takenBy : Control → List String
  | .input _ | .textArea => ["register"]
  | .checkbox | .radioGroup | .select => ["control"]
  | .fieldArray => []

section
variable {p : FieldPath}

@[simp] theorem allMentions_sizeAttribute (compact : Bool) :
    allMentions (sizeAttribute compact) = [] := by
  cases compact <;> rfl

@[simp] theorem allMentions_helperAttribute (spec : FieldSpec) :
    allMentions (helperAttribute spec) = [] := by
  rw [helperAttribute]
  cases spec.helperText with
  | none => rfl
  | some text => simp (disch := decide) [mentioned_text]

@[simp] theorem mentioned_requiredAttribute (spec : FieldSpec) :
    (requiredAttribute spec).mentions = [] := by
  rw [requiredAttribute]
  cases spec.required <;> rfl

theorem mentions_wrapped (h : Spot.IsPath p) (spec : FieldSpec) (content : List Markup) :
    (wrapped spec p content).mentions = allMentions content := by
  have hstate : mentioned (Attribute.binding "formState").write = [] := rfl
  have hfield := mentions_block (show mentioned "field=\x7b" = [] from rfl)
    (show mentioned "\x7d" = [] from rfl) 1 content
  have hpath := mentioned_path (show isIdentifier "name" = true by decide) h
  simp (disch := decide) [wrapped, wrapperAttributes, mentions_void, mentioned_text, hpath, hstate,
    hfield]

theorem mentions_controlled (h : Spot.IsPath p) (element : Markup) :
    (controlled p element).mentions = "control" :: element.mentions := by
  have hcontrol : mentioned (Attribute.binding "control").write = ["control"] := rfl
  have hrender := mentions_block
    (show mentioned "render=\x7b(\x7b field: controllerField \x7d) => (" = [] from rfl)
    (show mentioned ")\x7d" = [] from rfl) 2 [element]
  have hpath := mentioned_path (show isIdentifier "name" = true by decide) h
  simp (disch := decide) [controlled, mentions_void, hpath, hcontrol, hrender]

theorem mentions_label {tag : String} (htag : '\x7b' ∉ tag.toList)
    (hcomment : startsUncommented ("<" ++ tag ++ ">") = true)
    (hopen : Spot.text.Leads ("<" ++ tag ++ ">").toList [] .text) (s : String) :
    (Markup.label tag s).mentions = [] := by
  have hclosing : '\x7b' ∉ (closing tag).toList := by
    rw [closing, String.toList_append, String.toList_append, List.mem_append, List.mem_append,
      not_or, not_or]
    exact ⟨⟨by decide, htag⟩, by decide⟩
  have hstart : ((("<" ++ tag ++ ">").toList.dropWhile isIdentifierPart).head?.any (· ≠ '=')) =
      true := by
    rw [String.append_assoc, String.toList_append]
    rfl
  have hline := mentioned_append_childText hstart hcomment hopen hclosing s
  simp [Markup.mentions, texts, hline]

theorem mentioned_inputType {kind : FieldKind} {type : String} (h : kind.control = .input type) :
    mentioned (Attribute.constant "type" type).write = [] := by
  cases kind <;> cases h <;> rfl

theorem mentions_radioItem (option : String) : (radioItem option).mentions = [] := by
  have hopen : mentioned ("<" ++ "RadioGroup.Item" ++
      attributesText [Attribute.text "value" option] ++ ">") = [] := by
    have htag : Spot.text.Leads "<RadioGroup.Item value=".toList [] .tag := rfl
    have hend : Spot.tag.Leads [('>' : Char)] [] .text := rfl
    have hline : "<" ++ "RadioGroup.Item" ++ attributesText [Attribute.text "value" option] ++ ">" =
        "<RadioGroup.Item value=" ++ (attributeText option ++ ">") := by
      have hsplit : "<RadioGroup.Item value=" =
          "<" ++ ("RadioGroup.Item" ++ (" " ++ ("value" ++ "="))) := rfl
      rw [hsplit]
      simp only [attributesText, List.map_cons, List.map_nil, String.join_cons, String.join_nil,
        String.append_empty, Attribute.write, String.append_assoc]
    have hnames : Spot.text.names ("<RadioGroup.Item value=" ++ (attributeText option ++ ">")) =
        [] := by
      rw [Spot.names_append htag, Spot.names_append (Spot.leads_attributeText option)]
      rfl
    rw [hline]
    exact mentioned_of_text (isElementComment_append (by decide) _)
      (isAttributeLine_append (by decide) _) hnames
  have htext : (Markup.label "RadioGroup.ItemText" option).mentions = [] :=
    mentions_label (by decide) (by decide) (by rfl) option
  rw [radioItem, mentions_inline hopen (by decide)]
  simp (disch := decide) [mentions_mark, htext]

/-- What the control of a single value refers to. A choice from a list has an element of its own. -/
theorem allMentions_controlElement (h : Spot.IsPath p) (f : Field) {kind : FieldKind}
    (hselect : kind.control ≠ .select) (compact : Bool) :
    allMentions (controlElement f kind.control p compact) = takenBy kind.control := by
  have hregister := mentioned_register h
  cases hcontrol : kind.control with
  | input type =>
    have htype := mentioned_inputType hcontrol
    simp (disch := decide) [controlElement, placeholderAttribute, mentions_void, mentioned_text,
      hregister, htype, takenBy]
  | textArea =>
    have hresize : mentioned (Attribute.constant "resize" "vertical").write = [] := rfl
    simp (disch := decide) [controlElement, placeholderAttribute, mentions_void, mentioned_text,
      hregister, hresize, takenBy]
  | checkbox =>
    have hchecked : mentioned (Attribute.code "checked" "controllerField.value").write = [] := rfl
    have hchange : mentioned (Attribute.code "onCheckedChange"
        "(e) => controllerField.onChange(!!e.checked)").write = [] := rfl
    have hlabel : (Markup.label "Checkbox.Label" f.label).mentions = [] :=
      mentions_label (by decide) (by decide) (by rfl) f.label
    simp (disch := decide) [controlElement, mentions_controlled h, mentions_stacked, mentions_mark,
      hchecked, hchange, hlabel, takenBy]
  | radioGroup =>
    have hvalue : mentioned (Attribute.code "value" "controllerField.value").write = [] := rfl
    have hchange : mentioned (Attribute.code "onValueChange"
        "(e) => controllerField.onChange(e.value)").write = [] := rfl
    have hoptions : allMentions (f.options.map radioItem) = [] :=
      allMentions_eq_nil (List.forall_mem_map.mpr fun option _ => mentions_radioItem option)
    have hstack : (Markup.inline "Stack" [.constant "direction" "column"]
        (f.options.map radioItem)).mentions = [] :=
      (mentions_inline (by rfl) (by decide) _).trans hoptions
    simp (disch := decide) [controlElement, mentions_controlled h, mentions_stacked, hvalue,
      hchange, hstack, takenBy]
  | select => exact absurd hcontrol hselect
  | fieldArray => rfl

@[simp] theorem mentions_optionsAttribute (options : List String) :
    (optionsAttribute options).mentions = [] := by
  rw [optionsAttribute]
  split
  · rfl
  · refine (mentions_block rfl rfl 1 _).trans (allMentions_eq_nil ?_)
    rw [List.forall_mem_map]
    intro option _
    have hopen : Spot.text.Leads "\x7b label: ".toList [] (.code (.markup false 0) 0 []) := rfl
    have hmiddle : (Spot.code (.markup false 0) 0 []).Leads ", value: ".toList []
        (.code (.markup false 0) 0 []) := rfl
    have hclose : (Spot.code (.markup false 0) 0 []).Leads " \x7d,".toList [] .text := rfl
    have hquote := Spot.leads_quote (.markup false 0) 0 option
    have hnames : Spot.text.names ("\x7b label: " ++ (quote option ++
        (", value: " ++ (quote option ++ " \x7d,")))) = [] := by
      rw [Spot.names_append hopen, Spot.names_append hquote, Spot.names_append hmiddle,
        Spot.names_append hquote, Spot.names_of_leads hclose]
      rfl
    simp only [mentions_text, String.append_assoc]
    exact mentioned_of_text (isElementComment_append (by decide) _)
      (isAttributeLine_append (by decide) _) hnames

/-- What a field with a single value refers to. -/
theorem mentions_leafElement (h : Spot.IsPath p) (f : Field) (kind : FieldKind) (compact : Bool) :
    (leafElement f kind p compact).mentions = takenBy kind.control := by
  rw [leafElement]
  by_cases hselect : kind.control = .select
  · have hcontrol : mentioned (Attribute.binding "control").write = ["control"] := rfl
    have hstate : mentioned (Attribute.binding "formState").write = [] := rfl
    have hpath := mentioned_path (show isIdentifier "name" = true by decide) h
    rw [if_pos hselect, hselect]
    simp (disch := decide) [selectElement, placeholderAttribute, mentions_void, mentioned_text,
      hpath, hcontrol, hstate, takenBy]
  · rw [if_neg hselect, mentions_wrapped h, allMentions_controlElement h f hselect]

end

/-! ## Lists -/

/-- Handles whose names are not those of what is taken from the form. -/
def Handles.IsApart (h : Handles) : Prop :=
  ∀ name ∈ h.names, isIdentifier name = true ∧ name ∉ formNames

/-- The handles that a list at the top is rendered with end like their roles. -/
theorem Handles.isApart_ofList (fields : List Field) (f : Field) :
    (ofList (arrayHandles fields) f).IsApart := by
  intro name hname
  refine ⟨nameable_ofList fields f name hname,
    not_mem_of_endsLikeHandle (?_ : endsLikeHandle name = true) (by decide)⟩
  rw [ofList] at hname
  cases hfound : (arrayHandles fields).lookup f.name with
  | none =>
    rw [hfound, Option.getD_none] at hname
    simp only [names, ofBase, List.mem_cons, List.not_mem_nil, or_false] at hname
    rcases hname with rfl | rfl | rfl <;> exact endsLikeHandle_append (by decide) _
  | some own =>
    rw [hfound, Option.getD_some] at hname
    exact endsLikeHandle_of_mem_handleNames
      (List.mem_flatMap.mpr ⟨(f.name, own), mem_of_lookup hfound, hname⟩)

section
variable {p : FieldPath} {f : Field} {handles : Handles}

theorem Handles.IsApart.fields (h : handles.IsApart) :
    isIdentifier handles.fields = true ∧ handles.fields ∉ formNames := h _ (by simp [names])

/-- A line that starts with a member of a name. -/
theorem mentioned_member {name : String} (hname : isIdentifier name = true ∧ name ∉ formNames)
    {rest : String} (h : ∀ n ∈ (Spot.code (.markup false 0) 1 []).names rest, n ∉ formNames) :
    mentioned ("\x7b" ++ (name ++ ("." ++ rest))) = [] := by
  have hopen : Spot.text.Leads "\x7b".toList [] (.code (.markup false 0) 0 []) := rfl
  refine mentioned_eq_nil_of_text (isAttributeLine_append (by decide) _) ?_
  rw [Spot.names_append hopen, Spot.names_member _ hname.1]
  exact List.forall_mem_cons.mpr ⟨hname.2, h⟩

/-- A button refers to the function that it calls, and to what it calls it with. -/
theorem mentions_button {function argument text palette : String} {ns : List String}
    (hfunction : isIdentifier function = true ∧ function ∉ formNames)
    (hns : ∀ n ∈ ns, n ∉ formNames)
    (hargument : (Spot.code (.markup true 0) 0 []).Leads (argument.toList ++ [')']) ns
      (.code (.markup true 0) 0 []))
    (htext : mentioned text = []) (hpalette : '\x7b' ∉ palette.toList) :
    (button ("() => " ++ function ++ "(" ++ argument ++ ")") palette text).mentions = [] := by
  have hopen : (Spot.code (.markup true 0) 0 []).Leads "() => ".toList []
      (.code (.markup true 0) 0 []) := rfl
  have hcall : (Spot.code (.markup true 0) 0 []).Leads (function.toList ++ ['(']) [function]
      (.code (.markup true 0) 0 []) :=
    Spot.leads_name _ hfunction.1 Nat.zero_ne_one (by decide) (by decide)
  have hclose : (Spot.code (.markup true 0) 0 []).Leads ['\x7d'] [] .tag := rfl
  have hcode : (Spot.code (.markup true 0) 0 []).Leads
      (("() => " ++ function ++ "(" ++ argument ++ ")").toList ++ ['\x7d']) (function :: ns)
      .tag := by
    have hall := hopen.append (hcall.append (hargument.append hclose))
    rw [List.append_nil] at hall
    simp only [String.toList_append, List.append_assoc] at hall ⊢
    exact hall
  have hclick : mentioned (Attribute.code "onClick"
      ("() => " ++ function ++ "(" ++ argument ++ ")")).write = [] := by
    rw [mentioned_code (by decide) hcode]
    exact filter_formNames_eq_nil (List.forall_mem_cons.mpr ⟨hfunction.2, hns⟩)
  simp (disch := first | decide | assumption) [button, mentions_stacked, mentioned_constant, hclick,
    htext]

theorem mentions_removeButton (h : handles.IsApart) : (removeButton handles).mentions = [] := by
  have hindex : (Spot.code (.markup true 0) 0 []).Leads ("index".toList ++ [')']) ["index"]
      (.code (.markup true 0) 0 []) := rfl
  have hcode : "() => " ++ handles.remove ++ "(index)" =
      "() => " ++ handles.remove ++ "(" ++ "index" ++ ")" := by
    simp only [String.append_assoc]
    rfl
  rw [removeButton, hcode]
  exact mentions_button (h _ (by simp [Handles.names])) (by decide) hindex rfl (by decide)

/-- The line above the items refers to the handles of the list. -/
theorem mentions_listHeader (h : handles.IsApart) : (listHeader f handles).mentions = [] := by
  obtain ⟨ns, hns, hliteral⟩ := Spot.isLiteral_literal f.itemTemplate (numberless_itemTemplate f)
    (.markup true 0) ')' (by decide) (by decide)
  have hwords : ∀ n ∈ Spot.literalWords, n ∉ formNames := by decide
  have hadd : mentioned ("Add " ++ childText f.label ++ " Item") = [] :=
    mentioned_append_childText (by decide) (by decide) (by rfl) (by decide) f.label
  have hbutton := @mentions_button handles.append (literal f.itemTemplate)
    ("Add " ++ childText f.label ++ " Item") "green" ns (h _ (by simp [Handles.names]))
    (fun n hn => hwords n (hns n hn)) hliteral hadd (by decide)
  have hcount : mentioned (braced (handles.fields ++ ".length") ++ " item" ++
      braced (handles.fields ++ ".length !== 1 ? 's' : ''")) = [] := by
    have hsplit : braced (handles.fields ++ ".length") ++ " item" ++
        braced (handles.fields ++ ".length !== 1 ? 's' : ''") =
          "\x7b" ++ (handles.fields ++ ("." ++ ("length\x7d item\x7b" ++
            (handles.fields ++ ("." ++ "length !== 1 ? 's' : ''\x7d"))))) := by
      have hfirst : ".length" = "." ++ "length" := rfl
      have hbetween : "length\x7d item\x7b" = "length" ++ ("\x7d" ++ (" item" ++ "\x7b")) := rfl
      have hlast : "." ++ "length !== 1 ? 's' : ''\x7d" = ".length !== 1 ? 's' : ''" ++ "\x7d" := rfl
      rw [hbetween, hlast, hfirst]
      simp only [braced, String.append_assoc]
    have hbetween : (Spot.code (.markup false 0) 1 []).Leads "length\x7d item\x7b".toList []
        (.code (.markup false 0) 0 []) := rfl
    rw [hsplit]
    refine mentioned_member h.fields ?_
    rw [Spot.names_append hbetween, Spot.names_member _ h.fields.1]
    exact List.forall_mem_cons.mpr ⟨h.fields.2, by decide⟩
  have htext : (Markup.inline "Text" [.constant "fontSize" "sm", .constant "color" "gray.600"]
      [.text (braced (handles.fields ++ ".length") ++ " item" ++
        braced (handles.fields ++ ".length !== 1 ? 's' : ''"))]).mentions = [] :=
    (mentions_inline (by rfl) (by decide) _).trans (by simp [hcount])
  rw [listHeader, mentions_inline (by rfl) (by decide)]
  simp [htext, hbutton]

theorem mentions_primitiveItem (hp : Spot.IsPath p) (h : handles.IsApart) :
    (primitiveItem f p handles).mentions = takenBy f.itemKind.control := by
  have hselect := (control_of_isPrimitive f.isPrimitive_itemKind).1
  rw [primitiveItem, mentions_inline (by rfl) (by decide)]
  simp [allMentions_controlElement hp f hselect, mentions_removeButton h]

theorem mentions_objectItem (h : handles.IsApart) : (objectItem f handles []).mentions = [] := by
  have htitle : mentioned (childText f.label ++ " #" ++ braced "index + 1") = [] := by
    rw [String.append_assoc]
    refine mentioned_childText_append f.label ?_
    rintro spot (rfl | rfl | rfl) <;> decide
  have htext : (Markup.inline "Text" [.constant "fontWeight" "medium", .constant "color" "gray.700"]
      [.text (childText f.label ++ " #" ++ braced "index + 1")]).mentions = [] :=
    (mentions_inline (by rfl) (by decide) _).trans (by simp [htitle])
  have hhead : (Markup.inline "HStack" [.constant "justify" "space-between",
      .constant "align" "center", .code "mb" "4"]
      [.inline "Text" [.constant "fontWeight" "medium", .constant "color" "gray.700"]
        [.text (childText f.label ++ " #" ++ braced "index + 1")], removeButton handles]).mentions =
      [] := (mentions_inline (by rfl) (by decide) _).trans (by simp [htext, mentions_removeButton h])
  have hstack : (Markup.inline "VStack" [.constant "align" "stretch"] []).mentions = [] := by rfl
  have hattributes : allMentions [.attr (.code "key" "item.id"), .attr (.code "p" "4"),
      .attr (.constant "border" "1px"), .attr (.constant "borderColor" "gray.200"),
      .attr (.constant "borderRadius" "md"), .attr (.constant "bg" "gray.50")] = [] := by rfl
  rw [objectItem, mentions_stacked (by decide), hattributes]
  simp [hhead, hstack]

theorem mentions_emptyNote (f : Field) : (emptyNote f).mentions = [] := by
  have hnote : mentioned ("No items added yet. Click \"Add " ++ childText f.label ++
      " Item\" to create the first item.") = [] :=
    mentioned_append_childText (by decide) (by decide) (by rfl) (by decide) f.label
  have htext : (Markup.inline "Text" [.constant "color" "gray.500", .constant "fontSize" "sm",
      .constant "fontStyle" "italic"]
      [.text ("No items added yet. Click \"Add " ++ childText f.label ++
        " Item\" to create the first item.")]).mentions = [] :=
    (mentions_inline (by rfl) (by decide) _).trans (by simp [hnote])
  exact (mentions_inline (by rfl) (by decide) _).trans (by simp [htext])

/-- A list refers to what the control of its items needs, if they have no fields. -/
theorem mentions_listElement (hp : Spot.IsPath p) (h : handles.IsApart) :
    (listElement f p handles []).mentions =
      if f.children.isEmpty then takenBy f.itemKind.control else [] := by
  have hitems (inner : List Markup) :
      (Markup.block 1 ("\x7b" ++ handles.fields ++ ".map((item, index) => (") inner
        "))\x7d").mentions = allMentions inner := by
    refine mentions_block ?_ rfl 1 inner
    have hsplit : ".map((item, index) => (" = "." ++ "map((item, index) => (" := rfl
    rw [hsplit, String.append_assoc]
    exact mentioned_member h.fields (by decide)
  have hnone (inner : List Markup) :
      (Markup.block 1 ("\x7b" ++ handles.fields ++ ".length === 0 && (") inner ")\x7d").mentions =
        allMentions inner := by
    refine mentions_block ?_ rfl 1 inner
    have hsplit : ".length === 0 && (" = "." ++ "length === 0 && (" := rfl
    rw [hsplit, String.append_assoc]
    exact mentioned_member h.fields (by decide)
  rw [listElement, mentions_wrapped hp, allMentions_cons, allMentions_nil, List.append_nil,
    mentions_inline (by rfl) (by decide)]
  by_cases hchildren : f.children.isEmpty = true
  · simp [hchildren, mentions_listHeader h, hitems, hnone, mentions_primitiveItem hp.item h,
      mentions_emptyNote]
  · simp [hchildren, mentions_listHeader h, hitems, hnone, mentions_objectItem h,
      mentions_emptyNote]

end

end WebForm.Component
