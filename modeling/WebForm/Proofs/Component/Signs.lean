import WebForm.Proofs.Component.Outline
/-!
# What the lines of markup show

Which hooks, inner components and calls with a literal are seen in the lines that some markup is
written over. Texts of the form stand on lines of their own, but they cannot be taken for any of
these: where a text has a brace or an angle bracket it is written as a string between braces.
-/

set_option autoImplicit false

namespace WebForm.Component

open Script Source

/-! ## Signs -/

/-- Whether a name is that of an inner component: `FieldArray` at its end, maybe with a number
behind it. -/
def isInnerName (name : String) : Bool :=
  "FieldArray".toList.reverse.isPrefixOf (name.toList.reverse.dropWhile Char.isDigit)

/-- Something that a line shows. -/
inductive Sign where
  | hook
  /-- An element with the name of an inner component. -/
  | inner (name : String)
  /-- A call with a literal. -/
  | call (function : String) (value : Json)

/-- What the text of a line shows. -/
def signsOf (text : String) : List Sign :=
  (if isHook text then [.hook] else []) ++
    ((tag? text).filter isInnerName).toList.map .inner ++
    (literalCall? text).toList.map fun c => .call c.1 c.2

/-- What some lines show. -/
def signs (ls : List Line) : List Sign := ls.flatMap fun l => signsOf l.text

namespace Sign

/-- The inner component that is seen. -/
def inner? : Sign → Option String
  | .inner name => some name
  | _ => none

/-- The call that is seen. -/
def call? : Sign → Option (String × Json)
  | .call function value => some (function, value)
  | _ => none

end Sign

theorem filterMap_inner?_signsOf (text : String) :
    (signsOf text).filterMap Sign.inner? = ((tag? text).filter isInnerName).toList := by
  rw [signsOf]
  cases isHook text <;> cases (tag? text).filter isInnerName <;> cases literalCall? text <;> rfl

theorem filterMap_call?_signsOf (text : String) :
    (signsOf text).filterMap Sign.call? = (literalCall? text).toList := by
  rw [signsOf]
  cases isHook text <;> cases (tag? text).filter isInnerName <;> cases literalCall? text <;> rfl

theorem hook_mem_signsOf_iff {text : String} : Sign.hook ∈ signsOf text ↔ isHook text = true := by
  rw [signsOf]
  cases isHook text <;> cases (tag? text).filter isInnerName <;> cases literalCall? text <;> simp

/-- The inner components that are opened are those that are seen. -/
theorem filter_isInnerName_elements (ls : List Line) :
    (elements ls).filter isInnerName = (signs ls).filterMap Sign.inner? := by
  induction ls with
  | nil => rfl
  | cons l rest ih =>
    rw [signs, List.flatMap_cons, List.filterMap_append, filterMap_inner?_signsOf, ← signs, ← ih,
      elements, List.filterMap_cons]
    cases htag : tag? l.text with
    | none => rfl
    | some tag => cases hinner : isInnerName tag <;> simp [Option.filter, hinner, elements]

/-- The calls with a literal are those that are seen. -/
theorem literalCalls_eq_filterMap (ls : List Line) :
    literalCalls ls = (signs ls).filterMap Sign.call? := by
  induction ls with
  | nil => rfl
  | cons l rest ih =>
    rw [signs, List.flatMap_cons, List.filterMap_append, filterMap_call?_signsOf, ← signs, ← ih,
      literalCalls, List.filterMap_cons]
    cases literalCall? l.text <;> rfl

/-- Lines where no hook is seen are passed over. -/
theorem hooks_append {ls : List Line} (h : Sign.hook ∉ signs ls) (rest : List Line) :
    hooks (ls ++ rest) = hooks rest := by
  induction ls with
  | nil => rfl
  | cons l ls ih =>
    rw [signs, List.flatMap_cons, List.mem_append, not_or] at h
    rw [List.cons_append, hooks, ih h.2, if_neg fun hl => h.1 (hook_mem_signsOf_iff.mpr hl),
      List.nil_append]

@[simp] theorem signs_nil : signs [] = [] := rfl

@[simp] theorem signs_cons (l : Line) (rest : List Line) :
    signs (l :: rest) = signsOf l.text ++ signs rest := rfl

@[simp] theorem signs_append (ls ls' : List Line) : signs (ls ++ ls') = signs ls ++ signs ls' :=
  List.flatMap_append

/-! ## Texts that show nothing -/

theorem isHook_of_getLast? {text : String} (h : text.toList.getLast? ≠ some '\x7b') :
    isHook text = false := by
  rw [isHook, decide_eq_false_iff_not]
  rintro ⟨before, hbefore⟩
  refine h ?_
  rw [← hbefore, List.getLast?_append]
  rfl

theorem tag?_of_head? {text : String} (h : text.toList.head? ≠ some '<') : tag? text = none := by
  rw [tag?]
  split
  · next c rest hchars =>
    rw [hchars] at h
    exact absurd rfl h
  · rfl

theorem literalCall?_of_not_prefix {text : String}
    (h : ¬ "onClick=\x7b".toList <+: text.toList) : literalCall? text = none := by
  rw [literalCall?, handler?, if_neg h]
  rfl

/-- A text shows nothing if it opens no element, starts like no handler and ends like no hook. -/
theorem signsOf_eq_nil {text : String} (hhead : text.toList.head? ≠ some '<')
    (hhandler : ¬ "onClick=\x7b".toList <+: text.toList)
    (hlast : text.toList.getLast? ≠ some '\x7b') : signsOf text = [] := by
  rw [signsOf, isHook_of_getLast? hlast, tag?_of_head? hhead, literalCall?_of_not_prefix hhandler]
  rfl

/-- A text that starts like no element and no handler, whatever comes behind it. -/
def startsPlain (head : String) : Bool :=
  head.toList.head?.any (· ≠ '<') &&
    ("onClick=\x7b".toList.zip head.toList).any fun (c, d) => c ≠ d

/-- All that such a text can show is a hook. -/
theorem signsOf_of_startsPlain {head : String} (h : startsPlain head = true) (rest : String) :
    signsOf (head ++ rest) = if isHook (head ++ rest) then [.hook] else [] := by
  rw [startsPlain, Bool.and_eq_true] at h
  have htag : tag? (head ++ rest) = none := by
    refine tag?_of_head? ?_
    rw [String.toList_append]
    cases hchars : head.toList with
    | nil =>
      rw [hchars] at h
      cases h.1
    | cons c cs =>
      rw [hchars] at h
      simpa using h.1
  have hhandler : ¬ "onClick=\x7b".toList <+: (head ++ rest).toList := by
    rw [String.toList_append]
    exact Scope.not_prefix_append _ h.2
  rw [signsOf, htag, literalCall?_of_not_prefix hhandler]
  exact (List.append_nil _).trans (List.append_nil _)

theorem signsOf_append {head : String} (h : startsPlain head = true) {rest : String}
    (hlast : (head ++ rest).toList.getLast? ≠ some '\x7b') : signsOf (head ++ rest) = [] := by
  rw [signsOf_of_startsPlain h, isHook_of_getLast? hlast]
  rfl

/-- A text that ends like no hook, whatever comes before it. -/
def endsPlain (tail : String) : Bool :=
  !"= useFieldArray(\x7b".toList.isSuffixOf tail.toList &&
    !tail.toList.isSuffixOf "= useFieldArray(\x7b".toList

theorem isHook_append {tail : String} (h : endsPlain tail = true) (before : String) :
    isHook (before ++ tail) = false := by
  rw [endsPlain, Bool.and_eq_true, Bool.not_eq_true', Bool.not_eq_true'] at h
  rw [isHook, String.toList_append, decide_eq_false_iff_not]
  intro hsuffix
  -- of two suffixes of one text, one is a suffix of the other
  rcases List.suffix_or_suffix_of_suffix hsuffix (List.suffix_append _ _) with hs | hs
  · exact absurd (List.isSuffixOf_iff_suffix.mpr hs) (Bool.eq_false_iff.mp h.1)
  · exact absurd (List.isSuffixOf_iff_suffix.mpr hs) (Bool.eq_false_iff.mp h.2)

/-- A text between two pieces of code shows nothing. -/
theorem signsOf_between {head tail : String} (hhead : startsPlain head = true)
    (htail : endsPlain tail = true) (text : String) : signsOf (head ++ text ++ tail) = [] := by
  have hhook : isHook (head ++ text ++ tail) = false := isHook_append htail _
  rw [String.append_assoc] at hhook ⊢
  rw [signsOf_of_startsPlain hhead, hhook]
  rfl

/-- A line that calls the hook of a list. -/
theorem signsOf_hook {head : String} (hhead : startsPlain head = true) (text : String) :
    signsOf (head ++ text ++ "= useFieldArray(\x7b") = [.hook] := by
  have hhook : isHook (head ++ text ++ "= useFieldArray(\x7b") = true := by
    rw [isHook, String.toList_append]
    exact decide_eq_true (List.suffix_append _ _)
  rw [String.append_assoc] at hhook ⊢
  rw [signsOf_of_startsPlain hhead, hhook]
  rfl

theorem getLast?_append_of_ne {s t : String} (h : t.toList ≠ []) :
    (s ++ t).toList.getLast? = t.toList.getLast? := by
  obtain ⟨before, last, hlast⟩ := (List.eq_nil_or_concat t.toList).resolve_left h
  rw [String.toList_append, hlast, List.concat_eq_append, ← List.append_assoc,
    List.getLast?_concat, List.getLast?_concat]

theorem getLast?_braced (code : String) : (braced code).toList.getLast? = some '\x7d' := by
  rw [braced, getLast?_append_of_ne (by decide)]
  rfl

theorem getLast?_attributeText (s : String) :
    (attributeText s).toList.getLast? = some '\x7d' ∨
      (attributeText s).toList.getLast? = some '"' := by
  rw [attributeText]
  split
  · exact Or.inl (getLast?_braced _)
  · refine Or.inr ?_
    rw [getLast?_append_of_ne (by decide)]
    rfl

/-! ## Attributes -/

section
variable {name : String}

/-- An attribute other than a handler shows nothing. -/
theorem signsOf_attribute (h : startsPlain (name ++ "=") = true) {value : String} {last : Char}
    (hlast : value.toList.getLast? = some last) (hne : last ≠ '\x7b') :
    signsOf (name ++ "=" ++ value) = [] := by
  refine signsOf_append h ?_
  have hvalue : value.toList ≠ [] := by
    intro hnil
    rw [hnil] at hlast
    cases hlast
  rw [getLast?_append_of_ne hvalue, hlast]
  exact fun hsame => hne (Option.some.inj hsame)

theorem signsOf_constant (h : startsPlain (name ++ "=") = true) (value : String) :
    signsOf (Attribute.constant name value).write = [] := by
  have hwrite : (Attribute.constant name value).write = name ++ "=" ++ ("\"" ++ value ++ "\"") := by
    have hquote : "=\"" = "=" ++ "\"" := rfl
    rw [Attribute.write, hquote]
    simp only [String.append_assoc]
  have hlast : ("\"" ++ value ++ "\"").toList.getLast? = some '"' := by
    rw [getLast?_append_of_ne (by decide)]
    rfl
  rw [hwrite]
  exact signsOf_attribute h hlast (by decide)

theorem signsOf_text (h : startsPlain (name ++ "=") = true) (value : String) :
    signsOf (Attribute.text name value).write = [] := by
  rcases getLast?_attributeText value with hlast | hlast
  · exact signsOf_attribute h hlast (by decide)
  · exact signsOf_attribute h hlast (by decide)

theorem signsOf_code (h : startsPlain (name ++ "=") = true) (value : String) :
    signsOf (Attribute.code name value).write = [] :=
  signsOf_attribute h (getLast?_braced value) (by decide)

theorem signsOf_binding (h : startsPlain (name ++ "=") = true) :
    signsOf (Attribute.binding name).write = [] :=
  signsOf_attribute h (getLast?_braced name) (by decide)

theorem signsOf_path (h : startsPlain (name ++ "=") = true) (p : FieldPath) :
    signsOf (Attribute.path name p).write = [] := by
  rcases p with path | v | body
  · exact signsOf_text h path
  · exact signsOf_attribute h (getLast?_braced v) (by decide)
  · exact signsOf_attribute h (getLast?_braced _) (by decide)

end

@[simp] theorem signsOf_register (p : FieldPath) :
    signsOf (Attribute.register p).write = [] := by
  have hlast := getLast?_braced ("...register(" ++ p.inCall ++ ")")
  rw [Attribute.write]
  rw [braced] at hlast ⊢
  rw [String.append_assoc] at hlast ⊢
  refine signsOf_append (by decide) ?_
  rw [hlast]
  decide

/-! ## Tags -/

/-- Whether a text is the name of an element. -/
def isTagName (tag : String) : Bool :=
  match tag.toList with
  | [] => false
  | c :: rest => isIdentifierStart c && rest.all isTagPart

/-- Whether a text is the name of an element that is no inner component. -/
def isPlainTag (tag : String) : Bool := isTagName tag && !isInnerName tag

theorem isTagName_of_isIdentifier {name : String} (h : isIdentifier name = true) :
    isTagName name = true := by
  have hparts := isIdentifierPart_of_isIdentifier h
  rw [isIdentifier] at h
  rw [isTagName]
  cases hchars : name.toList with
  | nil =>
    rw [hchars] at h
    cases h
  | cons c rest =>
    rw [hchars] at h hparts
    rw [Bool.and_eq_true] at h ⊢
    refine ⟨h.1, List.all_eq_true.mpr fun d hd => ?_⟩
    rw [isTagPart, hparts d (List.mem_cons_of_mem c hd), Bool.true_or]

/-- The name of an element ends where something else begins. -/
theorem tag?_append {tag rest : String} (htag : isTagName tag = true)
    (hrest : ∀ c, rest.toList.head? = some c → isTagPart c = false) :
    tag? ("<" ++ tag ++ rest) = some tag := by
  rw [isTagName] at htag
  cases hchars : tag.toList with
  | nil =>
    rw [hchars] at htag
    cases htag
  | cons c cs =>
    rw [hchars, Bool.and_eq_true] at htag
    have hall : ("<" ++ tag ++ rest).toList = '<' :: c :: (cs ++ rest.toList) := by
      rw [String.toList_append, String.toList_append, hchars]
      rfl
    have hparts : ∀ d ∈ c :: cs, isTagPart d = true := by
      rw [List.forall_mem_cons]
      refine ⟨?_, List.all_eq_true.mp htag.2⟩
      rw [isTagPart, isIdentifierPart_of_isIdentifierStart htag.1, Bool.true_or]
    rw [tag?, hall]
    show (if isIdentifierStart c = true then _ else none) = some tag
    rw [if_pos htag.1, ← List.cons_append, takeWhile_append_of_head hparts hrest, ← hchars,
      String.ofList_toList]

/-- A line that opens an element shows it if it is an inner component. -/
theorem signsOf_open {tag rest : String} (htag : isTagName tag = true)
    (hrest : ∀ c, rest.toList.head? = some c → isTagPart c = false)
    (hlast : ("<" ++ tag ++ rest).toList.getLast? ≠ some '\x7b') :
    signsOf ("<" ++ tag ++ rest) = if isInnerName tag then [.inner tag] else [] := by
  have hhandler : ¬ "onClick=\x7b".toList <+: ("<" ++ tag ++ rest).toList := by
    rw [String.append_assoc, String.toList_append]
    exact Scope.not_prefix_append _ (by decide)
  rw [signsOf, isHook_of_getLast? hlast, tag?_append htag hrest,
    literalCall?_of_not_prefix hhandler]
  cases hinner : isInnerName tag <;> simp [Option.filter, hinner]

theorem getLast?_isTagName {tag : String} (h : isTagName tag = true) :
    tag.toList.getLast? ≠ some '\x7b' ∧ tag.toList ≠ [] := by
  rw [isTagName] at h
  cases hchars : tag.toList with
  | nil =>
    rw [hchars] at h
    cases h
  | cons c rest =>
    rw [hchars, Bool.and_eq_true] at h
    refine ⟨?_, List.cons_ne_nil c rest⟩
    intro hlast
    have hmem : '\x7b' ∈ c :: rest := List.mem_of_getLast? hlast
    rcases List.mem_cons.mp hmem with rfl | hrest
    · exact absurd h.1 (by decide)
    · exact absurd (List.all_eq_true.mp h.2 _ hrest) (by decide)

/-- A tag on a line of its own. -/
theorem signsOf_tag {tag : String} (htag : isTagName tag = true) :
    signsOf ("<" ++ tag) = if isInnerName tag then [.inner tag] else [] := by
  obtain ⟨hlast, hne⟩ := getLast?_isTagName htag
  have hend : ("<" ++ tag ++ "").toList.getLast? ≠ some '\x7b' := by
    rw [String.append_empty, getLast?_append_of_ne hne]
    exact hlast
  have hopen := signsOf_open htag (by simp) hend
  rwa [String.append_empty] at hopen

section
variable {tag : String}

theorem isPlainTag_iff :
    isPlainTag tag = true ↔ isTagName tag = true ∧ isInnerName tag = false := by
  rw [isPlainTag, Bool.and_eq_true, Bool.not_eq_true']

/-- A tag that names no inner component shows nothing, whatever stands behind it on its line. -/
theorem signsOf_plainTag (htag : isPlainTag tag = true) : signsOf ("<" ++ tag) = [] := by
  obtain ⟨hname, hinner⟩ := isPlainTag_iff.mp htag
  rw [signsOf_tag hname, hinner]
  rfl

theorem signsOf_plainTag_append (htag : isPlainTag tag = true) {rest : String}
    (hrest : ∀ c, rest.toList.head? = some c → isTagPart c = false)
    (hlast : rest.toList.getLast? = some '>') : signsOf ("<" ++ tag ++ rest) = [] := by
  obtain ⟨hname, hinner⟩ := isPlainTag_iff.mp htag
  have hne : rest.toList ≠ [] := by
    intro hnil
    rw [hnil] at hlast
    cases hlast
  have hend : ("<" ++ tag ++ rest).toList.getLast? ≠ some '\x7b' := by
    rw [getLast?_append_of_ne hne, hlast]
    decide
  rw [signsOf_open hname hrest hend, hinner]
  rfl

theorem signsOf_inline (htag : isPlainTag tag = true) (attributes : List Attribute) :
    signsOf ("<" ++ tag ++ Markup.attributesText attributes ++ ">") = [] := by
  rw [String.append_assoc]
  refine signsOf_plainTag_append htag ?_ ?_
  · -- attributes have a blank in front of each of them
    intro c hc
    cases attributes with
    | nil =>
      obtain rfl := Option.some.inj hc
      decide
    | cons a rest =>
      rw [Markup.attributesText, List.map_cons, String.join_cons, String.append_assoc,
        String.append_assoc, String.toList_append] at hc
      obtain rfl := Option.some.inj hc
      decide
  · rw [getLast?_append_of_ne (by decide)]
    rfl

theorem signsOf_mark (htag : isPlainTag tag = true) : signsOf ("<" ++ tag ++ " />") = [] := by
  refine signsOf_plainTag_append htag ?_ rfl
  intro c hc
  obtain rfl := Option.some.inj hc
  decide

theorem getLast?_closing (tag : String) : (Markup.closing tag).toList.getLast? = some '>' := by
  rw [Markup.closing, getLast?_append_of_ne (by decide)]
  rfl

theorem signsOf_label (htag : isPlainTag tag = true) (s : String) :
    signsOf ("<" ++ tag ++ ">" ++ childText s ++ Markup.closing tag) = [] := by
  have hne : (Markup.closing tag).toList ≠ [] := by
    intro hnil
    have hlast := getLast?_closing tag
    rw [hnil] at hlast
    cases hlast
  simp only [String.append_assoc]
  rw [← String.append_assoc]
  refine signsOf_plainTag_append htag ?_ ?_
  · intro c hc
    rw [String.toList_append] at hc
    obtain rfl := Option.some.inj hc
    decide
  · rw [← String.append_assoc, getLast?_append_of_ne hne, getLast?_closing]

/-- A closing tag opens nothing. -/
@[simp] theorem signsOf_closing (tag : String) : signsOf (Markup.closing tag) = [] := by
  have hlast := getLast?_closing tag
  have htag : tag? (Markup.closing tag) = none := by
    rw [tag?, Markup.closing, String.toList_append, String.toList_append]
    rfl
  have hhandler : ¬ "onClick=\x7b".toList <+: (Markup.closing tag).toList := by
    rw [Markup.closing, String.append_assoc, String.toList_append]
    exact Scope.not_prefix_append _ (by decide)
  have hhook : isHook (Markup.closing tag) = false := by
    refine isHook_of_getLast? ?_
    rw [hlast]
    decide
  rw [signsOf, hhook, htag, literalCall?_of_not_prefix hhandler]
  rfl

end

/-- A comment in place of a field shows nothing. -/
@[simp] theorem signsOf_unsupportedElement (type path : String) :
    signsOf (unsupportedElement type path) = [] := by
  rw [unsupportedElement]
  exact signsOf_between (by decide) (by decide) _

end WebForm.Component
