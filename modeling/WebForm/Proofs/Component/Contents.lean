import WebForm.Proofs.Component.Handles
import WebForm.Proofs.Component.Signs
/-!
# What each element shows

One lemma for each element that a form is rendered with. Only two things show in the markup of a
form: the button of a list that adds an item, with the literal that the item starts from, and the
element of an inner component.
-/

set_option autoImplicit false

namespace WebForm.Component

open Script Source

/-! ## Pieces one after the other -/

namespace Markup

mutual

/-- What the lines of a piece of markup show. -/
def signs : Markup → List Sign
  | .blank | .unsupported _ _ => []
  | .text line => signsOf line
  | .attr a => signsOf a.write
  | .block _ head inner tail => signsOf head ++ allSigns inner ++ signsOf tail
  | .void tag attributes => signsOf ("<" ++ tag) ++ allSigns attributes
  | .stacked tag attributes content =>
    signsOf ("<" ++ tag) ++ allSigns attributes ++ allSigns content
  | .inline tag attributes content =>
    signsOf ("<" ++ tag ++ attributesText attributes ++ ">") ++ allSigns content
  | .mark tag => signsOf ("<" ++ tag ++ " />")
  | .label tag s => signsOf ("<" ++ tag ++ ">" ++ childText s ++ closing tag)
termination_by structural m => m

/-- What the lines of pieces show one after the other. -/
def allSigns : List Markup → List Sign
  | [] => []
  | m :: rest => signs m ++ allSigns rest
termination_by structural ms => ms

end

@[simp] theorem allSigns_nil : allSigns [] = [] := rfl

@[simp] theorem allSigns_cons (m : Markup) (rest : List Markup) :
    allSigns (m :: rest) = m.signs ++ allSigns rest := rfl

@[simp] theorem allSigns_append (ms ms' : List Markup) :
    allSigns (ms ++ ms') = allSigns ms ++ allSigns ms' := by
  induction ms with
  | nil => rfl
  | cons m rest ih => rw [List.cons_append, allSigns_cons, ih, allSigns_cons, List.append_assoc]

@[simp] theorem signs_blank : Markup.blank.signs = [] := rfl

@[simp] theorem signs_text (line : String) : (Markup.text line).signs = signsOf line := rfl

@[simp] theorem signs_attr (a : Attribute) : (Markup.attr a).signs = signsOf a.write := rfl

@[simp] theorem signs_block (steps : Nat) (head tail : String) (inner : List Markup) :
    (Markup.block steps head inner tail).signs =
      signsOf head ++ allSigns inner ++ signsOf tail := rfl

/-! An element that is no inner component shows what is inside it. -/

section
variable {tag : String}

theorem signs_void (h : isPlainTag tag = true) (attributes : List Markup) :
    (Markup.void tag attributes).signs = allSigns attributes := by
  rw [signs, signsOf_plainTag h, List.nil_append]

theorem signs_stacked (h : isPlainTag tag = true) (attributes content : List Markup) :
    (Markup.stacked tag attributes content).signs = allSigns attributes ++ allSigns content := by
  rw [signs, signsOf_plainTag h, List.nil_append]

theorem signs_inline (h : isPlainTag tag = true) (attributes : List Attribute)
    (content : List Markup) : (Markup.inline tag attributes content).signs = allSigns content := by
  rw [signs, signsOf_inline h, List.nil_append]

theorem signs_mark (h : isPlainTag tag = true) : (Markup.mark tag).signs = [] := signsOf_mark h

theorem signs_label (h : isPlainTag tag = true) (s : String) : (Markup.label tag s).signs = [] :=
  signsOf_label h s

end

theorem allSigns_eq_nil {ms : List Markup} (h : ∀ m ∈ ms, m.signs = []) : allSigns ms = [] := by
  induction ms with
  | nil => rfl
  | cons m rest ih =>
    rw [allSigns_cons, h m List.mem_cons_self, List.nil_append]
    exact ih fun m' hm' => h m' (List.mem_cons_of_mem m hm')

@[simp] theorem signsOf_empty : signsOf "" = [] := rfl

@[simp] theorem signsOf_voidEnd : signsOf "/>" = [] := rfl

@[simp] theorem signsOf_tagEnd : signsOf ">" = [] := rfl

mutual

/-- What a piece of markup shows does not depend on how deep it stands. -/
theorem signs_lines (m : Markup) (depth : Nat) :
    Component.signs (m.lines depth) = m.signs := by
  match m with
  | .blank => rfl
  | .text line => simp [lines, signs]
  | .attr a => simp [lines, signs]
  | .unsupported type path => simp [lines, signs]
  | .block steps head inner tail => simp [lines, signs, signs_allLines inner]
  | .void tag attributes => simp [lines, signs, signs_allLines attributes]
  | .stacked tag attributes content =>
    simp [lines, signs, signs_allLines attributes, signs_allLines content]
  | .inline tag attributes content => simp [lines, signs, signs_allLines content]
  | .mark tag => simp [lines, signs]
  | .label tag s => simp [lines, signs]

/-- What pieces show does not depend on how deep they stand. -/
theorem signs_allLines (ms : List Markup) (depth : Nat) :
    Component.signs (allLines depth ms) = allSigns ms := by
  match ms with
  | [] => rfl
  | m :: rest => rw [allLines, signs_append, signs_lines m, signs_allLines rest, allSigns_cons]

end

/-- A line at some depth or deeper, or an empty one. -/
def AtLeast (depth : Nat) (l : Line) : Prop := depth ≤ l.depth ∨ l = .blank

theorem AtLeast.mono {depth depth' : Nat} {l : Line} (hle : depth ≤ depth') (h : AtLeast depth' l) :
    AtLeast depth l := h.imp_left fun hdepth => by omega

mutual

/-- Markup is written at its depth or deeper, but for empty lines. -/
theorem atLeast_lines (m : Markup) (depth : Nat) : ∀ l ∈ m.lines depth, AtLeast depth l := by
  have hown : ∀ text, AtLeast depth ⟨depth, text⟩ := fun text => Or.inl (Nat.le_refl depth)
  have hinside : ∀ steps ms, ∀ l ∈ allLines (depth + steps) ms, AtLeast (depth + steps) l →
      AtLeast depth l := fun steps _ l _ h => h.mono (by omega)
  have hnone : ∀ l ∈ ([] : List Line), AtLeast depth l := by simp
  match m with
  | .blank => simp [lines, AtLeast]
  | .text line => simp [lines, hown]
  | .attr a => simp [lines, hown]
  | .unsupported type path => simp [lines, hown]
  | .block steps head inner tail =>
    have hinner := atLeast_allLines inner (depth + steps)
    simp only [lines, List.cons_append, List.forall_mem_cons, List.forall_mem_append]
    exact ⟨hown _, fun l hl => hinside _ _ l hl (hinner l hl), hown _, hnone⟩
  | .void tag attributes =>
    have hattributes := atLeast_allLines attributes (depth + 1)
    simp only [lines, List.cons_append, List.forall_mem_cons, List.forall_mem_append]
    exact ⟨hown _, fun l hl => hinside _ _ l hl (hattributes l hl), hown _, hnone⟩
  | .stacked tag attributes content =>
    have hattributes := atLeast_allLines attributes (depth + 1)
    have hcontent := atLeast_allLines content (depth + 1)
    simp only [lines, List.cons_append, List.forall_mem_cons, List.forall_mem_append]
    exact ⟨hown _, ⟨fun l hl => hinside _ _ l hl (hattributes l hl), hown _,
      fun l hl => hinside _ _ l hl (hcontent l hl)⟩, hown _, hnone⟩
  | .inline tag attributes content =>
    have hcontent := atLeast_allLines content (depth + 1)
    simp only [lines, List.cons_append, List.forall_mem_cons, List.forall_mem_append]
    exact ⟨hown _, fun l hl => hinside _ _ l hl (hcontent l hl), hown _, hnone⟩
  | .mark tag => simp [lines, hown]
  | .label tag s => simp [lines, hown]

/-- Pieces are written at their depth or deeper, but for empty lines. -/
theorem atLeast_allLines (ms : List Markup) (depth : Nat) :
    ∀ l ∈ allLines depth ms, AtLeast depth l := by
  match ms with
  | [] =>
    intro l hl
    cases hl
  | m :: rest =>
    rw [allLines, List.forall_mem_append]
    exact ⟨atLeast_lines m depth, atLeast_allLines rest depth⟩

end

end Markup

open Markup

/-! ## Texts of the form -/

theorem prefix_of_prefix_append {p a b : List Char} {c : Char} (hc : c ∉ p)
    (h : p <+: a ++ c :: b) : p <+: a := by
  induction a generalizing p with
  | nil =>
    cases p with
    | nil => exact List.nil_prefix
    | cons d p =>
      obtain ⟨rfl, -⟩ := List.cons_prefix_cons.mp h
      exact absurd List.mem_cons_self hc
  | cons d a ih =>
    cases p with
    | nil => exact List.nil_prefix
    | cons e p =>
      rw [List.cons_append, List.cons_prefix_cons] at h
      rw [List.mem_cons, not_or] at hc
      exact List.cons_prefix_cons.mpr ⟨h.1, ih hc.2 h.2⟩

/-- A text between elements has no braces and no angle brackets, or it stands between braces. -/
theorem childText_cases (s : String) :
    (childText s = s ∧ '\x7b' ∉ s.toList ∧ '<' ∉ s.toList) ∨ childText s = braced (quote s) := by
  rw [childText]
  split
  · exact Or.inr rfl
  · next hnone =>
    have hno : ∀ c ∈ s.toList, c ≠ '\x7b' ∧ c ≠ '<' := by
      intro c hc
      have hc' := List.any_eq_false.mp (Bool.eq_false_iff.mpr hnone) c hc
      simp only [Bool.or_eq_true, beq_iff_eq, not_or] at hc'
      exact ⟨hc'.1.1.1, hc'.1.2⟩
    exact Or.inl ⟨rfl, fun h => (hno _ h).1 rfl, fun h => (hno _ h).2 rfl⟩

theorem not_prefix_childText (s : String) : ¬ "onClick=\x7b".toList <+: (childText s).toList := by
  rcases childText_cases s with ⟨hs, hbrace, -⟩ | hs
  · rw [hs]
    exact fun h => hbrace (h.subset (by decide))
  · rw [hs, braced, String.append_assoc, String.toList_append]
    exact Scope.not_prefix_append _ (by decide)

theorem head?_childText (s : String) : (childText s).toList.head? ≠ some '<' := by
  rcases childText_cases s with ⟨hs, -, hangle⟩ | hs
  · rw [hs]
    exact fun h => hangle (List.mem_of_mem_head? h)
  · rw [hs, braced, String.append_assoc, String.toList_append]
    exact fun h => absurd (Option.some.inj h) (by decide)

@[simp] theorem signsOf_childText (s : String) : signsOf (childText s) = [] := by
  refine signsOf_eq_nil (head?_childText s) (not_prefix_childText s) ?_
  rcases childText_cases s with ⟨hs, hbrace, -⟩ | hs
  · rw [hs]
    exact fun h => hbrace (List.mem_of_getLast? h)
  · rw [hs, getLast?_braced]
    decide

/-- The line above an item of a list. -/
@[simp] theorem signsOf_itemTitle (s code : String) :
    signsOf (childText s ++ " #" ++ braced code) = [] := by
  have hchars : (childText s ++ " #" ++ braced code).toList =
      (childText s).toList ++ ' ' :: '#' :: (braced code).toList := by
    rw [String.toList_append, String.toList_append, List.append_assoc]
    rfl
  refine signsOf_eq_nil ?_ ?_ ?_
  · rw [hchars, List.head?_append]
    intro h
    cases hhead : (childText s).toList.head? with
    | none =>
      rw [hhead] at h
      exact absurd (Option.some.inj h) (by decide)
    | some c =>
      rw [hhead] at h
      exact head?_childText s (hhead.trans h)
  · rw [hchars]
    exact fun h => not_prefix_childText s (prefix_of_prefix_append (by decide) h)
  · rw [getLast?_append_of_ne (by simp [braced]), getLast?_braced]
    decide

/-! ## Single values -/

@[simp] theorem allSigns_sizeAttribute (compact : Bool) :
    allSigns (sizeAttribute compact) = [] := by
  cases compact with
  | false => rfl
  | true => simp (disch := decide) [sizeAttribute, signsOf_constant]

@[simp] theorem allSigns_helperAttribute (spec : FieldSpec) :
    allSigns (helperAttribute spec) = [] := by
  rw [helperAttribute]
  cases spec.helperText with
  | none => rfl
  | some text => simp (disch := decide) [signsOf_text]

@[simp] theorem signs_requiredAttribute (spec : FieldSpec) :
    (requiredAttribute spec).signs = [] :=
  signsOf_code (by decide) _

@[simp] theorem signs_placeholderAttribute (f : Field) : (placeholderAttribute f).signs = [] :=
  signsOf_text (by decide) _

@[simp] theorem signs_wrapped (spec : FieldSpec) (p : FieldPath) (content : List Markup) :
    (wrapped spec p content).signs = allSigns content := by
  have hhead : signsOf "field=\x7b" = [] := rfl
  have htail : signsOf "\x7d" = [] := rfl
  simp (disch := decide) [wrapped, wrapperAttributes, signs_void, signsOf_text,
    signsOf_path, signsOf_binding, hhead, htail]

@[simp] theorem signs_controlled (p : FieldPath) (element : Markup) :
    (controlled p element).signs = element.signs := by
  have hhead : signsOf "render=\x7b(\x7b field: controllerField \x7d) => (" = [] := rfl
  have htail : signsOf ")\x7d" = [] := rfl
  simp (disch := decide) [controlled, signs_void, signsOf_path,
    signsOf_binding, hhead, htail]

@[simp] theorem allSigns_controlElement (f : Field) (control : Control) (p : FieldPath)
    (compact : Bool) : allSigns (controlElement f control p compact) = [] := by
  have hradio : allSigns (f.options.map radioItem) = [] := by
    refine allSigns_eq_nil fun m hm => ?_
    obtain ⟨option, -, rfl⟩ := List.mem_map.mp hm
    simp (disch := decide) [radioItem, signs_inline, signs_mark, signs_label]
  cases control <;>
    simp (disch := decide) [controlElement, signs_void, signs_stacked, signs_inline, signs_mark,
      signs_label, signsOf_constant, signsOf_code, hradio]

@[simp] theorem signs_optionsAttribute (options : List String) :
    (optionsAttribute options).signs = [] := by
  rw [optionsAttribute]
  split
  · exact signsOf_code (by decide) _
  · have hhead : signsOf "options=\x7b[" = [] := rfl
    have htail : signsOf "]\x7d" = [] := rfl
    rw [signs_block, hhead, htail, allSigns_eq_nil]
    · rfl
    · intro m hm
      obtain ⟨option, -, rfl⟩ := List.mem_map.mp hm
      have hinside : "\x7b label: " ++ quote option ++ ", value: " ++ quote option ++ " \x7d," =
          "\x7b label: " ++ (quote option ++ ", value: " ++ quote option) ++ " \x7d," := by
        simp only [String.append_assoc]
      rw [signs_text, hinside]
      exact signsOf_between (by decide) (by decide) _

/-- A field with a single value shows nothing. -/
@[simp] theorem signs_leafElement (f : Field) (kind : FieldKind) (p : FieldPath) (compact : Bool) :
    (leafElement f kind p compact).signs = [] := by
  rw [leafElement]
  split
  · simp (disch := decide) [selectElement, signs_void, signsOf_path,
      signsOf_text, signsOf_binding]
  · simp

/-! ## Buttons -/

/-- The code behind a handler is what it calls. -/
theorem handler?_onClick (code : String) :
    handler? (Attribute.code "onClick" code).write = some code := by
  have hchars : (Attribute.code "onClick" code).write.toList =
      "onClick=\x7b".toList ++ (code.toList ++ ['\x7d']) := by
    simp [Attribute.write, braced]
  rw [handler?, hchars, if_pos (List.prefix_append _ _)]
  show (Scope.before? '\x7d' (code.toList ++ ['\x7d'])).map String.ofList = some code
  rw [Scope.before?_append, Option.map_some, String.ofList_toList]

/-- A handler shows the call with a literal that it makes, if it makes one. -/
theorem signsOf_onClick (code : String) :
    signsOf (Attribute.code "onClick" code).write =
      (((tokens? code).bind thunk?).bind literalCallOf?).toList.map fun c => .call c.1 c.2 := by
  have hlast : (Attribute.code "onClick" code).write.toList.getLast? = some '\x7d' := by
    rw [Attribute.write, getLast?_append_of_ne (by simp [braced]), getLast?_braced]
  have hhook : isHook (Attribute.code "onClick" code).write = false := by
    refine isHook_of_getLast? ?_
    rw [hlast]
    decide
  have htag : tag? (Attribute.code "onClick" code).write = none := by
    refine tag?_of_head? ?_
    rw [Attribute.write, String.append_assoc, String.toList_append]
    exact fun h => absurd (Option.some.inj h) (by decide)
  rw [signsOf, hhook, htag, literalCall?, handler?_onClick]
  rfl

theorem signs_button (onClick palette : String) {text : String} (h : signsOf text = []) :
    (button onClick palette text).signs =
      (((tokens? onClick).bind thunk?).bind literalCallOf?).toList.map fun c => .call c.1 c.2 := by
  simp (disch := decide) [button, signs_stacked, signsOf_onClick, signsOf_constant, h]

/-- A function that calls another one with one argument. -/
theorem thunk?_call {function argument : String} {e : Expr}
    (hfunction : isIdentifier function = true) (hargument : WritesApart argument e) :
    (tokens? ("() => " ++ function ++ "(" ++ argument ++ ")")).bind thunk? =
      some (.call (.name function) [e]) := by
  obtain ⟨ts, hreads, hspells⟩ := hargument
  have harrow : Reads "() => " [.mark "(", .mark ")", .mark "=>"] := rfl
  have hopen : Reads "(" [.mark "("] := rfl
  have hclose : Reads ")" [.mark ")"] := rfl
  have hinside := Reads.append hopen (hreads ⟨')', [], rfl, by decide⟩ hclose)
  have hcall : Reads (function ++ ("(" ++ (argument ++ ")")))
      (.word function :: .mark "(" :: (ts ++ [Token.mark ")"])) :=
    Reads.word_append hfunction (by rw [String.toList_append]; rfl) (by decide) hinside
  have hall := Reads.append harrow hcall
  simp only [← String.append_assoc] at hall
  have hbody := ((spells_name function).call (.last hspells.whole)).expr?_eq
  rw [tokens?_of_reads hall, Option.bind_some]
  exact hbody

/-! ## Lists -/

theorem numberless_value (rule : DefaultRule) : Numberless rule.value := by
  cases rule <;> simp [DefaultRule.value, Numberless, AllNumberless]

theorem mem_insertMember {name : String} {v : Json} {members : List (String × Json)}
    {m : String × Json} (h : m ∈ Json.insertMember name v members) : m.2 = v ∨ m ∈ members := by
  induction members with
  | nil => exact Or.inl (congrArg Prod.snd (List.mem_singleton.mp h))
  | cons first rest ih =>
    rw [Json.insertMember] at h
    split at h
    · rcases List.mem_cons.mp h with rfl | h
      · exact Or.inl rfl
      · exact Or.inr (List.mem_cons_of_mem _ h)
    · rcases List.mem_cons.mp h with rfl | h
      · exact Or.inr List.mem_cons_self
      · exact (ih h).imp_right (List.mem_cons_of_mem _)

theorem membersNumberless_insertMember {name : String} {v : Json} (hv : Numberless v)
    {members : List (String × Json)} (h : MembersNumberless members) :
    MembersNumberless (Json.insertMember name v members) := by
  rw [membersNumberless_iff] at h ⊢
  intro m hm
  rcases mem_insertMember hm with hm | hm
  · exact hm ▸ hv
  · exact h m hm

/-- No field starts from a number. -/
theorem membersNumberless_defaults (fields : List Field) :
    MembersNumberless (Field.defaults fields) := by
  have hall : ∀ (members acc : List (String × Json)), MembersNumberless acc →
      MembersNumberless members →
        MembersNumberless (members.foldl (fun acc m => Json.insertMember m.1 m.2 acc) acc) := by
    intro members
    induction members with
    | nil => exact fun _ hacc _ => hacc
    | cons m rest ih =>
      exact fun acc hacc hm => ih _ (membersNumberless_insertMember hm.1 hacc) hm.2
  refine hall _ [] trivial ?_
  rw [membersNumberless_iff, List.forall_mem_map]
  exact fun f _ => numberless_value f.defaultRule

theorem numberless_itemTemplate (f : Field) : Numberless f.itemTemplate := by
  rw [Field.itemTemplate]
  split
  · exact numberless_value _
  · exact membersNumberless_defaults f.children

section
variable {f : Field} {handles : Handles}

/-- The button that adds an item shows what the item starts from. -/
theorem signs_listHeader (h : handles.Callable) :
    (listHeader f handles).signs = [.call handles.append f.itemTemplate] := by
  obtain ⟨e, hliteral, hvalue⟩ := exists_writesApart_literal f.itemTemplate
    (numberless_itemTemplate f)
  have hcount : signsOf (braced (handles.fields ++ ".length") ++ " item" ++
      braced (handles.fields ++ ".length !== 1 ? 's' : ''")) = [] := by
    have hinside : braced (handles.fields ++ ".length") ++ " item" ++
        braced (handles.fields ++ ".length !== 1 ? 's' : ''") =
          "\x7b" ++ (handles.fields ++ ".length" ++ "\x7d" ++ " item" ++
            ("\x7b" ++ (handles.fields ++ ".length !== 1 ? 's' : ''"))) ++ "\x7d" := by
      simp only [braced, String.append_assoc]
    rw [hinside]
    exact signsOf_between (by decide) (by decide) _
  have hadd : signsOf ("Add " ++ childText f.label ++ " Item") = [] :=
    signsOf_between (by decide) (by decide) _
  simp (disch := decide) [listHeader, signs_inline, hcount, signs_button _ _ hadd,
    thunk?_call h.append hliteral, literalCallOf?, hvalue]

theorem signs_removeButton (h : handles.Callable) : (removeButton handles).signs = [] := by
  have hindex : WritesApart "index" (.name "index") :=
    ⟨_, readsApart_word (by decide), spells_name "index"⟩
  have hcall := thunk?_call h.remove hindex
  have hremove : signsOf "Remove" = [] := rfl
  have hcode : "() => " ++ handles.remove ++ "(index)" =
      "() => " ++ handles.remove ++ "(" ++ "index" ++ ")" := by
    simp only [String.append_assoc]
    rfl
  rw [removeButton, signs_button _ _ hremove, hcode, hcall]
  rfl

theorem signs_primitiveItem (h : handles.Callable) (p : FieldPath) :
    (primitiveItem f p handles).signs = [] := by
  simp (disch := decide) [primitiveItem, signs_inline, signs_removeButton h]

theorem signs_objectItem (h : handles.Callable) (fields : List Markup) :
    (objectItem f handles fields).signs = allSigns fields := by
  simp (disch := decide) [objectItem, signs_inline, signs_stacked, signsOf_code, signsOf_constant,
    signs_removeButton h]

@[simp] theorem signs_emptyNote (f : Field) : (emptyNote f).signs = [] := by
  have hnote : signsOf ("No items added yet. Click \"Add " ++ childText f.label ++
      " Item\" to create the first item.") = [] :=
    signsOf_between (by decide) (by decide) _
  simp (disch := decide) [emptyNote, signs_inline, hnote]

/-- A list shows the call that adds an item, and then what is in its items. -/
theorem signs_listElement (h : handles.Callable) (p : FieldPath) (fields : List Markup) :
    (listElement f p handles fields).signs =
      .call handles.append f.itemTemplate ::
        if f.children.isEmpty then [] else allSigns fields := by
  have hmap : signsOf ("\x7b" ++ handles.fields ++ ".map((item, index) => (") = [] :=
    signsOf_between (by decide) (by decide) _
  have hlength : signsOf ("\x7b" ++ handles.fields ++ ".length === 0 && (") = [] :=
    signsOf_between (by decide) (by decide) _
  have htail : signsOf "))\x7d" = [] := rfl
  have htail' : signsOf ")\x7d" = [] := rfl
  by_cases hnone : f.children.isEmpty = true <;>
    simp (disch := decide) [listElement, signs_inline, signs_listHeader h, hmap, hlength, htail,
      htail', hnone, signs_primitiveItem h, signs_objectItem h]

end

/-- The element of an inner component shows the component. -/
theorem signs_innerElement {name : String} (htag : isTagName name = true)
    (hinner : isInnerName name = true) (p : FieldPath) :
    (Markup.void name
      [.attr (.binding "control"), .attr (.binding "register"), .attr (.binding "formState"),
        .attr (.path "path" p)]).signs = [.inner name] := by
  rw [Markup.signs, signsOf_tag htag, hinner]
  simp (disch := decide) [signsOf_binding, signsOf_path]

/-! ## The page -/

theorem allSigns_spaced (ms : List Markup) : allSigns (spaced ms) = allSigns ms := by
  induction ms with
  | nil => rfl
  | cons m rest ih => simp [spaced, ih]

/-- The page shows what the fields show. Its button submits what is in the form, and no literal. -/
theorem signs_pageMarkup (title : String) (fields : List Markup) :
    (pageMarkup title fields).signs = allSigns fields := by
  have hsubmit : signsOf (Attribute.code "onClick" "handleSubmit(onSubmit)").write = [] := by
    rw [signsOf_onClick]
    rfl
  have htext : signsOf "Submit Form" = [] := rfl
  simp (disch := decide) [pageMarkup, signs_inline, signs_stacked, signsOf_code, signsOf_constant,
    allSigns_spaced, hsubmit, htext]

end WebForm.Component
