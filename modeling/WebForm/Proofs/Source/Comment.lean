import Mathlib.Data.List.TakeWhile
import WebForm.Proofs.Artifact.Notes
import WebForm.Proofs.Component.Outline
/-!
# Comments in generated code

A comment goes no further than its language says. One on a line ends with the first character that
ends the line; one between elements goes on to the first `*/`. What the notes about unknown fields
hold may be any texts. Between elements they are kept from ending the comment, but on a line they
are not, so that the rest of a text with such a character is code.
-/

set_option autoImplicit false

namespace WebForm

open Source Script

/-! ## Reading comments -/

namespace Source

/-- Whether a line starts with a comment that goes on to its end. -/
def isLineComment (text : String) : Bool := "//".toList.isPrefixOf text.toList

/-- Whether a line starts with a comment between elements. -/
def isElementComment (text : String) : Bool := "\x7b/*".toList.isPrefixOf text.toList

/-- What stands behind a comment on a line: it goes on until a character ends the line. -/
def behindLineComment (cs : List Char) : List Char := cs.dropWhile fun c => !isLineTerminator c

/-- What stands behind a comment between elements: it goes on to the first `*/`. -/
def behindElementComment : List Char → List Char
  | [] => []
  | '*' :: '/' :: rest => rest
  | _ :: rest => behindElementComment rest

/-- A text that does not start like a comment, whatever comes behind it. -/
def startsUncommented (head : String) : Bool :=
  ["//", "\x7b/*"].all fun opening =>
    (opening.toList.zip head.toList).any fun (c, d) => c ≠ d

theorem isElementComment_append {head : String} (h : startsUncommented head = true)
    (rest : String) : isElementComment (head ++ rest) = false := by
  simp only [startsUncommented, List.all_cons, Bool.and_eq_true] at h
  rw [isElementComment, Bool.eq_false_iff, ne_eq, List.isPrefixOf_iff_prefix, String.toList_append]
  exact Component.Scope.not_prefix_append _ h.2.1

theorem isLineComment_append {head : String} (h : startsUncommented head = true)
    (rest : String) : isLineComment (head ++ rest) = false := by
  simp only [startsUncommented, List.all_cons, Bool.and_eq_true] at h
  rw [isLineComment, Bool.eq_false_iff, ne_eq, List.isPrefixOf_iff_prefix, String.toList_append]
  exact Component.Scope.not_prefix_append _ h.1

/-- A key starts like an identifier, or with a quote. -/
theorem exists_head_propertyKey (name : String) :
    ∃ c cs, (propertyKey name).toList = c :: cs ∧ (isIdentifierStart c = true ∨ c = '\x27') := by
  rw [propertyKey]
  split
  · next h =>
    rw [isIdentifier] at h
    cases hname : name.toList with
    | nil =>
      rw [hname] at h
      cases h
    | cons c cs =>
      rw [hname, Bool.and_eq_true] at h
      exact ⟨c, cs, rfl, .inl h.1⟩
  · refine ⟨'\x27', (escapeString name ++ "'").toList, ?_, .inr rfl⟩
    rw [quote, String.append_assoc, String.toList_append]
    rfl

/-- A key starts no comment. -/
theorem not_comment_propertyKey (name rest : String) :
    isLineComment (propertyKey name ++ rest) = false ∧
      isElementComment (propertyKey name ++ rest) = false := by
  obtain ⟨c, cs, hkey, hc⟩ := exists_head_propertyKey name
  have hother : c ≠ '/' ∧ c ≠ '\x7b' := by
    constructor <;> rintro rfl <;> exact absurd hc (by decide)
  rw [isLineComment, isElementComment, Bool.eq_false_iff, ne_eq, List.isPrefixOf_iff_prefix,
    Bool.eq_false_iff, ne_eq, List.isPrefixOf_iff_prefix, String.toList_append, hkey]
  constructor
  · rintro ⟨tail, htail⟩
    exact hother.1 (List.cons.inj htail).1.symm
  · rintro ⟨tail, htail⟩
    exact hother.2 (List.cons.inj htail).1.symm

/-! ### Where comments end -/

/-- All of a text is skipped, and nothing behind it, if nothing in the text stops. -/
theorem dropWhile_append_eq_right_iff {α : Type} {p : α → Bool} {cs ending : List α}
    (hending : ∀ c, ending.head? = some c → p c = false) :
    (cs ++ ending).dropWhile p = ending ↔ ∀ c ∈ cs, p c = true := by
  constructor
  · intro h c hc
    by_contra hstop
    -- a character that stops is still there, in front of all of the ending
    have hne : cs.dropWhile p ≠ [] := by
      rw [ne_eq, List.dropWhile_eq_nil_iff]
      exact fun hall => hstop (hall c hc)
    rw [List.dropWhile_append, if_neg (by rwa [List.isEmpty_iff])] at h
    exact hne (List.append_left_eq_self.mp h)
  · intro h
    rw [List.dropWhile_append_of_pos h]
    cases ending with
    | nil => rfl
    | cons c rest => rw [List.dropWhile_cons, hending c rfl, if_neg Bool.false_ne_true]

theorem isLineTerminator_of_any {s : String} (h : s.toList.any isLineTerminator = false) :
    ∀ c ∈ s.toList, isLineTerminator c = false :=
  fun c hc => Bool.eq_false_iff.mpr (List.any_eq_false.mp h c hc)

theorem isLineTerminator_of_mem_steps {indent : Indent} {depth : Nat} {c : Char}
    (h : c ∈ (indent.steps depth).toList) : isLineTerminator c = false := by
  rw [Indent.steps, String.toList_join] at h
  obtain ⟨step, hstep, hc⟩ := List.mem_flatMap.mp h
  rw [List.eq_of_mem_replicate hstep] at hc
  have hunit : indent.unit.toList.any isLineTerminator = false := by cases indent <;> decide
  exact isLineTerminator_of_any hunit c hc

/-- A line goes on to its own ending exactly when nothing in it ends the line before. -/
theorem behindLineComment_line {style : Style} {l : Line} (h : l.text ≠ "") :
    behindLineComment (style.line l).toList = style.lineEnding.text.toList ↔
      ∀ c ∈ l.text.toList, isLineTerminator c = false := by
  have hending : ∀ c, style.lineEnding.text.toList.head? = some c →
      (!isLineTerminator c) = false := by
    intro c hc
    cases hstyle : style.lineEnding <;> rw [hstyle] at hc <;>
      exact Option.some.inj hc ▸ rfl
  have hempty : l.text.isEmpty = false := by
    rw [Bool.eq_false_iff, ne_eq, String.isEmpty_iff]
    exact h
  rw [behindLineComment, Style.line, hempty, if_neg Bool.false_ne_true, String.toList_append,
    dropWhile_append_eq_right_iff hending, String.toList_append, List.forall_mem_append]
  simp only [Bool.not_eq_true']
  exact and_iff_right fun c hc => isLineTerminator_of_mem_steps hc

theorem head?_commentChars (cs : List Char) : (commentChars cs).head? = cs.head? := by
  cases cs using commentChars.induct with
  | case1 | case2 => rfl
  | case3 c cs hother => rw [commentChars.eq_3 c cs hother, List.head?_cons, List.head?_cons]

/-- A text that is kept from ending a comment does not end it, and what is put behind it ends it
where it would end it alone. -/
theorem behindElementComment_commentChars {cs rest : List Char} (h : rest.head? ≠ some '/') :
    behindElementComment (commentChars cs ++ rest) = behindElementComment rest := by
  induction cs using commentChars.induct with
  | case1 => rfl
  | case2 cs ih =>
    rw [commentChars]
    simpa [behindElementComment] using ih
  | case3 c cs hother ih =>
    rw [commentChars.eq_3 c cs hother, List.cons_append, behindElementComment.eq_3, ih]
    -- a star is not followed by a slash, within the text or behind it
    intro tail hc htail
    have hhead := congrArg List.head? htail
    rw [List.head?_append, head?_commentChars, List.head?_cons] at hhead
    cases cs with
    | nil => exact h hhead
    | cons d ds =>
      obtain rfl := Option.some.inj hhead
      exact hother ds hc rfl

end Source

/-! ## Notes as comments -/

namespace Note

/-- The note as a comment on a line. -/
def comment (n : Note) : String := unsupportedComment n.type n.path

/-- The note as a comment between elements. -/
def element (n : Note) : String := unsupportedElement n.type n.path

theorem comment_eq (n : Note) :
    n.comment = "// " ++
      ("Unsupported field type: \"" ++ n.type ++ "\" for field \"" ++ n.path ++ "\"") := rfl

theorem element_eq (n : Note) :
    n.element = "\x7b/* " ++ ("Unsupported field type: \"" ++ commentText n.type ++
      "\" for field \"" ++ commentText n.path ++ "\"") ++ " */\x7d" := rfl

/-- Whether nothing in the type and the path ends a line. -/
def IsOneLine (n : Note) : Prop :=
  (∀ c ∈ n.type.toList, isLineTerminator c = false) ∧
    ∀ c ∈ n.path.toList, isLineTerminator c = false

@[simp] theorem isLineComment_comment (n : Note) : isLineComment n.comment = true := by
  rw [isLineComment, List.isPrefixOf_iff_prefix, comment, unsupportedComment, String.toList_append]
  exact List.prefix_append _ _

@[simp] theorem isElementComment_element (n : Note) : isElementComment n.element = true := by
  rw [isElementComment, List.isPrefixOf_iff_prefix, element, unsupportedElement]
  simp only [String.toList_append, List.append_assoc]
  exact ⟨_, rfl⟩

/-- A note goes on to the end of its line exactly when nothing in it ends the line before. -/
theorem behindLineComment_comment (n : Note) (style : Style) (depth : Nat) :
    behindLineComment (style.line ⟨depth, n.comment⟩).toList = style.lineEnding.text.toList ↔
      n.IsOneLine := by
  have hne : n.comment ≠ "" := by
    intro hempty
    have hcomment := n.isLineComment_comment
    rw [hempty] at hcomment
    exact absurd hcomment (by decide)
  have hopen := @isLineTerminator_of_any "// " (by decide)
  have hbefore := @isLineTerminator_of_any "Unsupported field type: \"" (by decide)
  have hbetween := @isLineTerminator_of_any "\" for field \"" (by decide)
  have hbehind := @isLineTerminator_of_any "\"" (by decide)
  have hchars : n.comment.toList = "// ".toList ++ ("Unsupported field type: \"".toList ++
      n.type.toList ++ "\" for field \"".toList ++ n.path.toList ++ "\"".toList) := by
    rw [n.comment_eq]
    simp only [String.toList_append]
  rw [behindLineComment_line hne, hchars]
  simp only [List.forall_mem_append]
  constructor
  · rintro ⟨-, ⟨⟨⟨-, htype⟩, -⟩, hpath⟩, -⟩
    exact ⟨htype, hpath⟩
  · rintro ⟨htype, hpath⟩
    exact ⟨hopen, ⟨⟨⟨hbefore, htype⟩, hbetween⟩, hpath⟩, hbehind⟩

/-- The first end of a comment between elements is its own. -/
theorem behindElementComment_element (n : Note) :
    behindElementComment (n.element.toList.drop 3) = ['\x7d'] := by
  have hchars : n.element.toList = "\x7b/* ".toList ++ ("Unsupported field type: \"".toList ++
      (commentChars n.type.toList ++ ("\" for field \"".toList ++
        (commentChars n.path.toList ++ ("\"".toList ++ " */\x7d".toList))))) := by
    rw [n.element_eq]
    simp only [String.toList_append, commentText, String.toList_ofList, List.append_assoc]
  have hbehind : behindElementComment (commentChars n.path.toList ++
      ("\"".toList ++ " */\x7d".toList)) = ['\x7d'] := by
    rw [behindElementComment_commentChars (by decide)]
    decide
  have hbetween : behindElementComment (commentChars n.type.toList ++
      ("\" for field \"".toList ++ (commentChars n.path.toList ++
        ("\"".toList ++ " */\x7d".toList)))) = ['\x7d'] := by
    rw [behindElementComment_commentChars (by simp)]
    exact hbehind
  rw [hchars]
  exact hbetween

end Note

end WebForm
