import WebForm.Component.File
import WebForm.Proofs.Script.Template
/-!
# What a component does with paths

The markup of a component is read here as it is rendered in a browser: attribute by attribute, where
`name=`, `path=` and `register` are handed paths, and each list for one item, whose index is in the
variable `index`. An element that is handed a path is an inner component, and is read as the body of
this component with the path in the variable `path`.

`uses` collects the paths that are handed on, in the order of the markup. It reads texts only: what
an attribute is handed is what comes out of the code that was written for it. A path between double
quotes is not code; it is kept as the text between the quotes.
-/

set_option autoImplicit false

namespace WebForm.Component

open Script Source

/-! ## Readings -/

/-- What a path is handed to. -/
inductive Slot where
  /-- The `name` of an element. -/
  | name
  /-- The `path` of an inner component. -/
  | path
  /-- The function that registers an input. -/
  | register
deriving DecidableEq, Repr

/-- A path as it is read. -/
inductive Reading where
  /-- The text between double quotes. -/
  | quoted (text : String)
  /-- What an expression comes to, if anything. -/
  | value (s : Option String)
deriving DecidableEq, Repr

/-- The text of the reading. -/
def Reading.text? : Reading → Option String
  | .quoted text => some text
  | .value s => s

/-- A path that is handed on. -/
structure Use where
  slot : Slot
  reading : Reading
deriving DecidableEq, Repr

/-- The variables where some markup stands, and the number of lists around it. -/
structure Scope where
  path : Option String := none
  index : Option Nat := none
  depth : Nat := 0

namespace Scope

/-- The text of a variable. -/
def lookup (s : Scope) (name : String) : Option String :=
  if name = "path" then s.path
  else if name = "index" then s.index.map toString
  else none

/-- The scope inside a list, for the item that is chosen at this depth. -/
def enter (s : Scope) (item : Nat → Nat) : Scope :=
  { s with index := some (item s.depth), depth := s.depth + 1 }

/-- What comes before a closing character at the end. -/
def before? (close : Char) (cs : List Char) : Option (List Char) :=
  if cs.getLast? = some close then some cs.dropLast else none

/-- The value of an attribute. -/
def readValue (s : Scope) : List Char → Reading
  | '"' :: rest =>
    match before? '"' rest with
    | some text => .quoted (String.ofList text)
    | none => .value none
  | '\x7b' :: rest =>
    .value ((before? '\x7d' rest).bind fun code => evaluate s.lookup (String.ofList code))
  | _ => .value none

/-- The argument of a call, up to the parenthesis that ends it. -/
def readArgument (s : Scope) (cs : List Char) : Reading :=
  .value (((before? '\x7d' cs).bind (before? ')')).bind fun code =>
    evaluate s.lookup (String.ofList code))

/-- The path that an attribute is handed, if it is one that takes a path. -/
def uses (s : Scope) (line : String) : List Use :=
  let cs := line.toList
  if "name=".toList <+: cs then [⟨.name, s.readValue (cs.drop 5)⟩]
  else if "path=".toList <+: cs then [⟨.path, s.readValue (cs.drop 5)⟩]
  else if "\x7b...register(".toList <+: cs then [⟨.register, s.readArgument (cs.drop 13)⟩]
  else []

/-- The path that an inner component is handed by its attributes, if it is handed any. -/
def handed (s : Scope) : List Markup → Option Reading
  | [] => none
  | .attr a :: rest =>
    (((s.uses a.write).find? (·.slot = .path)).map Use.reading).or (handed s rest)
  | _ :: rest => handed s rest

end Scope

/-- What an inner component uses, at some depth and with some path. -/
abbrev Meaning := Nat → Option String → List Use

/-- Whether a line opens what is shown for each item of a list. -/
def opensItems (head : String) : Bool := ".map((item, index) => (".toList <:+ head.toList

namespace Markup

mutual

/-- The paths that some markup hands on. -/
def uses (item : Nat → Nat) (components : List (String × Meaning)) (s : Scope) :
    Markup → List Use
  | .attr a => s.uses a.write
  | .block _ head inner _ =>
    allUses item components (if opensItems head then s.enter item else s) inner
  | .void tag attributes =>
    allUses item components s attributes ++
      match s.handed attributes, components.lookup tag with
      | some path, some meaning => meaning s.depth path.text?
      | _, _ => []
  | .stacked _ attributes content =>
    allUses item components s attributes ++ allUses item components s content
  | .inline _ attributes content =>
    attributes.flatMap (fun a => s.uses a.write) ++ allUses item components s content
  | .blank | .text _ | .unsupported _ _ | .mark _ | .label _ _ => []
termination_by structural m => m

/-- The paths that pieces hand on one after the other. -/
def allUses (item : Nat → Nat) (components : List (String × Meaning)) (s : Scope) :
    List Markup → List Use
  | [] => []
  | m :: rest => uses item components s m ++ allUses item components s rest
termination_by structural ms => ms

end

end Markup

/-- What inner components use, each by its name and told from those before it. -/
def meanings (item : Nat → Nat) (components : List SubComponent) : List (String × Meaning) :=
  components.foldl
    (fun known c => (c.name, fun depth path => c.body.uses item known ⟨path, none, depth⟩) :: known)
    []

/-- The paths that the component of a form hands on. -/
def Rendered.uses (item : Nat → Nat) (r : Rendered) (title : String) : List Use :=
  (pageMarkup title r.fields).uses item (meanings item r.subComponents) {}

/-! ## Paths in code -/

namespace FieldPath

/-- A path as it is written in code comes to a text. -/
inductive Denotes (scope : String → Option String) : FieldPath → String → Prop
  | fixed {path : String} (hreturn : '\r' ∉ path.toList) : Denotes scope (.literal path) path
  | bound {path : String} (h : scope "path" = some path) : Denotes scope (.variable "path") path
  | composed {body path : String} (h : Stands scope body.toList path.toList) :
      Denotes scope (.template body) path

/-- A substitution stands for the value of the variable. -/
theorem stands_substitution {scope : String → Option String} {name value : String}
    (hname : '\x7d' ∉ name.toList) (h : scope name = some value) :
    Stands scope (substitution name).toList value.toList := by
  have hchars : (substitution name).toList = '$' :: '\x7b' :: (name.toList ++ ['\x7d']) := by
    simp [substitution, braced]
  rw [hchars]
  exact Stands.hole hname (by rwa [String.ofList_toList])

namespace Denotes

variable {scope : String → Option String} {p : FieldPath} {path : String}

theorem stands_body (h : p.Denotes scope path) : Stands scope p.body.toList path.toList := by
  cases h with
  | fixed hreturn =>
    rw [body, escapeTemplate, String.toList_ofList]
    exact Stands.escapeTemplateChars hreturn
  | bound h => exact stands_substitution (by decide) h
  | composed h => exact h

/-- A segment that is written behind a path adds itself. -/
theorem segment {code segment : String} (h : p.Denotes scope path)
    (hsegment : Stands scope code.toList segment.toList) :
    Denotes scope (.template (p.body ++ "." ++ code)) (path ++ "." ++ segment) := by
  have hdot : Stands scope ('.' :: code.toList) ('.' :: segment.toList) :=
    Stands.plain (by decide) (by decide) (by decide) (fun hc => absurd hc (by decide)) hsegment
  refine .composed ?_
  -- the dot keeps a dollar sign at the end of the path from the brace that a segment may start with
  have happend := h.stands_body.append hdot (by simp)
  simpa using happend

/-- The path of the current item of a list. -/
theorem item (h : p.Denotes scope path) {index : String} (hindex : scope "index" = some index) :
    Denotes scope p.item (path ++ "." ++ index) :=
  h.segment (stands_substitution (by decide) hindex)

/-- The path of a field of an item. -/
theorem child (h : p.Denotes scope path) {name : String} (hreturn : '\r' ∉ name.toList) :
    Denotes scope (p.child name) (path ++ "." ++ name) := by
  refine h.segment ?_
  rw [escapeTemplate, String.toList_ofList]
  exact Stands.escapeTemplateChars hreturn

/-- What the path as an argument comes to. -/
theorem evaluate_inCall (h : p.Denotes scope path) : evaluate scope p.inCall = some path := by
  cases h with
  | fixed => exact evaluate_quote path
  | bound h => exact h
  | composed h => exact evaluate_template h

end Denotes

end FieldPath

/-! ## Attributes -/

/-- A reading of a path. Between double quotes it is the path itself that stands there. -/
def Reading.Is (path : String) : Reading → Prop
  | .quoted text => text = path
  | .value s => s = some path

namespace Scope

variable {s : Scope} {p : FieldPath} {path : String}

theorem before?_append (close : Char) (cs : List Char) :
    before? close (cs ++ [close]) = some cs := by
  rw [before?, List.getLast?_concat, if_pos rfl, List.dropLast_concat]

theorem readValue_braced (code : String) :
    s.readValue (braced code).toList = .value (evaluate s.lookup code) := by
  have hchars : (braced code).toList = '\x7b' :: (code.toList ++ ['\x7d']) := by
    simp [braced]
  rw [hchars, readValue, before?_append, Option.bind_some, String.ofList_toList]

/-- What a path comes to as the value of an attribute. -/
theorem readValue_inAttribute (h : p.Denotes s.lookup path) :
    (s.readValue p.inAttribute.toList).Is path := by
  cases h with
  | fixed =>
    rw [FieldPath.inAttribute, attributeText]
    split
    · rw [readValue_braced]
      exact evaluate_quote path
    · have hchars : ("\"" ++ path ++ "\"").toList = '"' :: (path.toList ++ ['"']) := by simp
      rw [hchars, readValue, before?_append]
      exact String.ofList_toList
  | bound h =>
    rw [FieldPath.inAttribute, readValue_braced]
    exact h
  | composed h =>
    rw [FieldPath.inAttribute, readValue_braced]
    exact evaluate_template h

/-! Which of the three kinds an attribute is shows in its first characters. -/

/-- The text starts like no attribute that takes a path, whatever comes behind it. -/
def startsOther (head : String) : Bool :=
  ["name=", "path=", "\x7b...register("].all fun start =>
    (start.toList.zip head.toList).any fun (c, d) => c ≠ d

theorem not_prefix_append {start head : List Char} (rest : List Char)
    (h : (start.zip head).any (fun (c, d) => c ≠ d) = true) : ¬ start <+: head ++ rest := by
  induction start generalizing head with
  | nil => cases h
  | cons c start ih =>
    cases head with
    | nil => cases h
    | cons d head =>
      rw [List.zip_cons_cons, List.any_cons, Bool.or_eq_true, decide_eq_true_eq] at h
      rw [List.cons_append, List.cons_prefix_cons]
      rintro ⟨hsame, hrest⟩
      exact h.elim (fun hne => hne hsame) fun hany => ih hany hrest

theorem uses_of_startsOther {head : String} (h : startsOther head = true) (rest : String) :
    s.uses (head ++ rest) = [] := by
  rw [startsOther, List.all_cons, List.all_cons, List.all_cons, Bool.and_eq_true,
    Bool.and_eq_true, Bool.and_eq_true] at h
  rw [uses, String.toList_append]
  simp only [not_prefix_append rest.toList h.1, not_prefix_append rest.toList h.2.1,
    not_prefix_append rest.toList h.2.2.1, if_false]

@[simp] theorem uses_name (s : Scope) (p : FieldPath) :
    s.uses (Attribute.path "name" p).write = [⟨.name, s.readValue p.inAttribute.toList⟩] := by
  have hwrite : (Attribute.path "name" p).write.toList = "name=".toList ++ p.inAttribute.toList :=
    String.toList_append
  rw [uses, hwrite]
  simp only [List.prefix_append, if_true]
  rfl

@[simp] theorem uses_path (s : Scope) (p : FieldPath) :
    s.uses (Attribute.path "path" p).write = [⟨.path, s.readValue p.inAttribute.toList⟩] := by
  have hwrite : (Attribute.path "path" p).write.toList = "path=".toList ++ p.inAttribute.toList :=
    String.toList_append
  have hname : ¬ "name=".toList <+: "path=".toList ++ p.inAttribute.toList :=
    not_prefix_append _ (by decide)
  rw [uses, hwrite]
  simp only [hname, List.prefix_append, if_true, if_false]
  rfl

@[simp] theorem uses_register (s : Scope) (p : FieldPath) :
    s.uses (Attribute.register p).write = [⟨.register, .value (evaluate s.lookup p.inCall)⟩] := by
  have hwrite : (Attribute.register p).write.toList =
      "\x7b...register(".toList ++ ((p.inCall.toList ++ [')']) ++ ['\x7d']) := by
    simp [Attribute.write, braced]
  have hname : ¬ "name=".toList <+: "\x7b...register(".toList ++
      ((p.inCall.toList ++ [')']) ++ ['\x7d']) := not_prefix_append _ (by decide)
  have hpath : ¬ "path=".toList <+: "\x7b...register(".toList ++
      ((p.inCall.toList ++ [')']) ++ ['\x7d']) := not_prefix_append _ (by decide)
  have hargument : s.readArgument ((p.inCall.toList ++ [')']) ++ ['\x7d']) =
      .value (evaluate s.lookup p.inCall) := by
    rw [readArgument, before?_append, Option.bind_some, before?_append, Option.bind_some,
      String.ofList_toList]
  rw [uses, hwrite]
  simp only [hname, hpath, List.prefix_append, if_true, if_false]
  exact congrArg (fun r => [Use.mk .register r]) hargument

/-- An attribute that is no path, told by its name. -/
theorem uses_attribute {name : String} (h : startsOther (name ++ "=") = true) (s : Scope)
    (value : String) : s.uses (name ++ "=" ++ value) = [] := uses_of_startsOther h value

theorem uses_constant {name : String} (h : startsOther (name ++ "=") = true) (s : Scope)
    (value : String) : s.uses (Attribute.constant name value).write = [] := by
  have hquote : "=\"" = "=" ++ "\"" := rfl
  rw [Attribute.write, hquote, String.append_assoc, String.append_assoc, String.append_assoc,
    ← String.append_assoc]
  exact uses_attribute h s _

theorem uses_text {name : String} (h : startsOther (name ++ "=") = true) (s : Scope)
    (value : String) : s.uses (Attribute.text name value).write = [] := uses_attribute h s _

theorem uses_code {name : String} (h : startsOther (name ++ "=") = true) (s : Scope)
    (value : String) : s.uses (Attribute.code name value).write = [] := uses_attribute h s _

theorem uses_binding {name : String} (h : startsOther (name ++ "=") = true) (s : Scope) :
    s.uses (Attribute.binding name).write = [] := uses_attribute h s _

end Scope

end WebForm.Component
