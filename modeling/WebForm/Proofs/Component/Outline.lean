import WebForm.Proofs.Component.Reading
import WebForm.Proofs.Script.Literal
/-!
# The outline of a component file

A component file is read here line by line, as far as it takes to see which components it defines
and what each of them holds: the hooks that it calls, the elements that it opens, and the calls
with a literal that its buttons make. Definitions and interfaces stand at the top of the file; a
definition goes on to the line that closes it.

None of this depends on the style in which the lines are written.
-/

set_option autoImplicit false

namespace WebForm.Component

open Script Source

/-! ## Definitions -/

/-- The identifier that some characters start with. -/
def leadingName (cs : List Char) : String := String.ofList (cs.takeWhile isIdentifierPart)

/-- The name that a line at the top of the file declares with a keyword. -/
def declared? (keyword : String) (l : Line) : Option String :=
  if l.depth = 0 ∧ keyword.toList <+: l.text.toList then
    some (leadingName (l.text.toList.drop keyword.length))
  else none

/-- The line that closes a definition. -/
def closingLine : Line := ⟨0, "\x7d;"⟩

/-- Reads definitions, inside of one or between two of them. -/
def definitionsFrom : Option (String × List Line) → List Line → List (String × List Line)
  | _, [] => []
  | none, l :: rest => definitionsFrom ((declared? "const " l).map fun name => (name, [])) rest
  | some (name, body), l :: rest =>
    if l = closingLine then (name, body) :: definitionsFrom none rest
    else definitionsFrom (some (name, body ++ [l])) rest

/-- The components that a file defines, each with the lines of its body. -/
def definitions (ls : List Line) : List (String × List Line) := definitionsFrom none ls

/-- The interfaces that a file declares. -/
def interfaces (ls : List Line) : List String := ls.filterMap (declared? "interface ")

/-- Lines that declare no component are passed over. -/
theorem definitionsFrom_append {ls : List Line} (h : ∀ l ∈ ls, declared? "const " l = none)
    (rest : List Line) : definitionsFrom none (ls ++ rest) = definitionsFrom none rest := by
  induction ls with
  | nil => rfl
  | cons l ls ih =>
    rw [List.forall_mem_cons] at h
    rw [List.cons_append, definitionsFrom, h.1]
    exact ih h.2

/-- A definition goes on to the line that closes it. -/
theorem definitionsFrom_body {body : List Line} (h : ∀ l ∈ body, l ≠ closingLine) (name : String)
    (before rest : List Line) :
    definitionsFrom (some (name, before)) (body ++ closingLine :: rest) =
      (name, before ++ body) :: definitionsFrom none rest := by
  induction body generalizing before with
  | nil => rw [List.nil_append, definitionsFrom, if_pos rfl, List.append_nil]
  | cons l body ih =>
    rw [List.forall_mem_cons] at h
    rw [List.cons_append, definitionsFrom, if_neg h.1, ih h.2, List.append_assoc,
      List.singleton_append]

/-- A definition is read from the line that declares it. -/
theorem definitionsFrom_definition {first : Line} {name : String}
    (hfirst : declared? "const " first = some name) {body : List Line}
    (hbody : ∀ l ∈ body, l ≠ closingLine) (rest : List Line) :
    definitionsFrom none (first :: (body ++ closingLine :: rest)) =
      (name, body) :: definitionsFrom none rest := by
  rw [definitionsFrom, hfirst, Option.map_some, definitionsFrom_body hbody, List.nil_append]

/-- Of two pieces, the first is what is taken if it ends where the characters change. -/
theorem takeWhile_append_of_head {p : Char → Bool} {cs ds : List Char} (hcs : ∀ c ∈ cs, p c = true)
    (hds : ∀ c, ds.head? = some c → p c = false) : (cs ++ ds).takeWhile p = cs := by
  rw [List.takeWhile_append_of_pos hcs]
  cases ds with
  | nil => rw [List.takeWhile_nil, List.append_nil]
  | cons d ds =>
    rw [List.takeWhile_cons, hds d rfl, if_neg Bool.false_ne_true, List.append_nil]

/-- What a name may start with, it may go on with. -/
theorem isIdentifierPart_of_isIdentifierStart {c : Char} (h : isIdentifierStart c = true) :
    isIdentifierPart c = true := by
  rw [isIdentifierStart, Bool.or_eq_true, Bool.or_eq_true] at h
  rw [isIdentifierPart, Char.isAlphanum]
  rcases h with (h | h) | h <;> simp [h]

theorem isIdentifierPart_of_isIdentifier {name : String} (h : isIdentifier name = true) :
    ∀ c ∈ name.toList, isIdentifierPart c = true := by
  rw [isIdentifier] at h
  cases hchars : name.toList with
  | nil =>
    rw [hchars] at h
    cases h
  | cons c rest =>
    rw [hchars, Bool.and_eq_true] at h
    rw [List.forall_mem_cons]
    exact ⟨isIdentifierPart_of_isIdentifierStart h.1, List.all_eq_true.mp h.2⟩

/-- A declaration of an identifier, before something that does not belong to it. -/
theorem declared?_append {keyword name rest : String} (hname : isIdentifier name = true)
    (hrest : ∀ c, rest.toList.head? = some c → isIdentifierPart c = false) :
    declared? keyword ⟨0, keyword ++ name ++ rest⟩ = some name := by
  have hchars : (keyword ++ name ++ rest).toList =
      keyword.toList ++ (name.toList ++ rest.toList) := by
    rw [String.toList_append, String.toList_append, List.append_assoc]
  rw [declared?, if_pos ⟨rfl, hchars ▸ List.prefix_append _ _⟩, hchars,
    List.drop_left' String.length_toList, leadingName,
    takeWhile_append_of_head (isIdentifierPart_of_isIdentifier hname) hrest,
    String.ofList_toList]

/-- Only lines at the top of the file declare something. -/
theorem declared?_of_depth {l : Line} (h : l.depth ≠ 0) (keyword : String) :
    declared? keyword l = none :=
  if_neg fun hdeclared => h hdeclared.1

/-! ## Hooks, elements and calls -/

/-- Whether a line calls the hook of a list. -/
def isHook (text : String) : Bool := decide ("= useFieldArray(\x7b".toList <:+ text.toList)

/-- What the hooks of some lines are told about their lists, on the second line behind each. -/
def hooks : List Line → List (Option String)
  | [] => []
  | l :: rest => (if isHook l.text then [rest[1]?.map Line.text] else []) ++ hooks rest

/-- Characters of the names of elements. -/
def isTagPart (c : Char) : Bool := isIdentifierPart c || c == '.'

/-- The name of the element that a line opens. -/
def tag? (text : String) : Option String :=
  match text.toList with
  | '<' :: c :: rest =>
    if isIdentifierStart c then some (String.ofList ((c :: rest).takeWhile isTagPart)) else none
  | _ => none

/-- The elements that some lines open. -/
def elements (ls : List Line) : List String := ls.filterMap fun l => tag? l.text

/-- What is called when an element is clicked on. -/
def handler? (text : String) : Option String :=
  if "onClick=\x7b".toList <+: text.toList then
    (Scope.before? '\x7d' (text.toList.drop 9)).map String.ofList
  else none

/-- The body of a function without parameters. -/
def thunk? : List Token → Option Expr
  | .mark "(" :: .mark ")" :: .mark "=>" :: body => expr? body
  | _ => none

/-- The function and the argument of a call with one literal. -/
def literalCallOf? : Expr → Option (String × Json)
  | .call (.name function) [argument] => argument.json?.map fun v => (function, v)
  | _ => none

/-- The call with a literal that is made when an element is clicked on. -/
def literalCall? (text : String) : Option (String × Json) :=
  (((handler? text).bind tokens?).bind thunk?).bind literalCallOf?

/-- The calls with a literal in some lines: the function, and the value that it is given. -/
def literalCalls (ls : List Line) : List (String × Json) :=
  ls.filterMap fun l => literalCall? l.text

end WebForm.Component
