import WebForm.Proofs.Script.Token
/-!
# Expressions that stand for texts

What the code of a path comes to where some variables are in scope: a string literal stands for its
text, a variable for its value, and a template literal for its body with the escapes undone and the
variables put in. Code that is none of these stands for nothing.

A body of a template is put together from escaped texts and substitutions. `Stands` says what such a
piece comes to, before whatever follows it; the one thing that must not follow is a brace, because a
dollar sign at the end of the piece would then open a substitution.

A carriage return cannot be written as it is inside a template, where it is read as a line feed, and
escaping leaves it as it is. Texts with a carriage return are therefore not what their bodies stand
for.
-/

set_option autoImplicit false

namespace WebForm.Script

open Source

/-! ## Reading -/

/-- What a character behind a backslash stands for in a template. -/
def unescapeTemplate? (c : Char) : Option Char :=
  if c = '\x60' ∨ c = '$' ∨ c = '\x7b' then some c else unescape? c

/-- The text of a template literal, read from behind its opening backtick to its closing one, which
has to be the last character. In a substitution `hole` holds what has been read of the name. -/
def readTemplate (scope : String → Option String) (hole : Option (List Char)) :
    List Char → Option (List Char)
  | [] => none
  | c :: rest =>
    match hole with
    | some name =>
      if c = '\x7d' then
        (scope (String.ofList name)).bind fun value =>
          (readTemplate scope none rest).map (value.toList ++ ·)
      else readTemplate scope (some (name ++ [c])) rest
    | none =>
      if c = '\x60' then if rest = [] then some [] else none
      else
        match c, rest with
        | '\\', e :: rest =>
          (unescapeTemplate? e).bind fun d => (readTemplate scope none rest).map (d :: ·)
        | '$', '\x7b' :: rest => readTemplate scope (some []) rest
        | '\r', '\n' :: rest => (readTemplate scope none rest).map ('\n' :: ·)
        | '\r', rest => (readTemplate scope none rest).map ('\n' :: ·)
        | c, rest => (readTemplate scope none rest).map (c :: ·)
termination_by structural cs => cs

/-- The text that code stands for. -/
def evaluate (scope : String → Option String) (code : String) : Option String :=
  match code.toList with
  | '\x60' :: rest => (readTemplate scope none rest).map String.ofList
  | _ =>
    match tokens? code with
    | some [.string s] => some s
    | _ => scope code

section
variable {scope : String → Option String}

/-! ## Pieces of a template -/

/-- A piece of the body of a template comes to a text, before whatever is no brace. -/
def Stands (scope : String → Option String) (body text : List Char) : Prop :=
  ∀ rest, rest.head? ≠ some '\x7b' →
    readTemplate scope none (body ++ rest) = (readTemplate scope none rest).map (text ++ ·)

/-- A character without a meaning of its own is read as it is. -/
theorem readTemplate_of_plain {c : Char} {rest : List Char} (hbacktick : c ≠ '\x60')
    (hbackslash : c ≠ '\\') (hreturn : c ≠ '\r')
    (hopen : c = '$' → rest.head? ≠ some '\x7b') :
    readTemplate scope none (c :: rest) = (readTemplate scope none rest).map (c :: ·) := by
  rw [readTemplate, if_neg hbacktick]
  · exact hreturn
  · intro _ _ hc
    exact absurd hc hbackslash
  · intro _ hc hrest
    exact absurd (congrArg List.head? hrest) (hopen hc)
  · intro _ hc
    exact absurd hc hreturn

/-- An escaped character stands for itself. -/
theorem readTemplate_escaped {c : Char} (rest : List Char) (h : unescapeTemplate? c = some c) :
    readTemplate scope none ('\\' :: c :: rest) =
      (readTemplate scope none rest).map (c :: ·) := by
  rw [readTemplate, if_neg (by decide), h, Option.bind_some]

/-- A substitution is read up to the brace that closes it. -/
theorem readTemplate_hole {name seen rest : List Char} {value : String}
    (hname : '\x7d' ∉ name) (h : scope (String.ofList (seen ++ name)) = some value) :
    readTemplate scope (some seen) (name ++ '\x7d' :: rest) =
      (readTemplate scope none rest).map (value.toList ++ ·) := by
  induction name generalizing seen with
  | nil =>
    rw [List.append_nil] at h
    rw [List.nil_append, readTemplate, if_pos rfl, h, Option.bind_some]
  | cons c name ih =>
    rw [List.mem_cons, not_or] at hname
    rw [List.cons_append, readTemplate, if_neg (Ne.symm hname.1)]
    refine ih hname.2 ?_
    rwa [List.append_assoc, List.singleton_append]

namespace Stands

theorem nil : Stands scope [] [] := by
  intro rest _
  rw [List.nil_append]
  exact Option.map_id'.symm

/-- Where two pieces meet there is no brace, unless the second one starts with it. -/
theorem head?_append_ne {body rest : List Char} (hbody : body.head? ≠ some '\x7b')
    (hrest : rest.head? ≠ some '\x7b') : (body ++ rest).head? ≠ some '\x7b' := by
  cases body with
  | nil => exact hrest
  | cons c tail => exact hbody

/-- A piece that starts with no brace may follow another one. -/
theorem append {body body' text text' : List Char} (h : Stands scope body text)
    (h' : Stands scope body' text') (hopen : body'.head? ≠ some '\x7b') :
    Stands scope (body ++ body') (text ++ text') := by
  intro rest hrest
  rw [List.append_assoc, h (body' ++ rest) (head?_append_ne hopen hrest), h' rest hrest,
    Option.map_map]
  refine congrArg (Option.map · _) (funext fun out => ?_)
  exact (List.append_assoc text text' out).symm

/-- A character without a meaning of its own stands for itself. -/
theorem plain {c : Char} {body text : List Char} (hbacktick : c ≠ '\x60') (hbackslash : c ≠ '\\')
    (hreturn : c ≠ '\r') (hopen : c = '$' → body.head? ≠ some '\x7b')
    (h : Stands scope body text) : Stands scope (c :: body) (c :: text) := by
  intro rest hrest
  rw [List.cons_append, readTemplate_of_plain hbacktick hbackslash hreturn
    fun hc => head?_append_ne (hopen hc) hrest, h rest hrest, Option.map_map]
  rfl

theorem escaped {c : Char} {body text : List Char} (hc : unescapeTemplate? c = some c)
    (h : Stands scope body text) : Stands scope ('\\' :: c :: body) (c :: text) := by
  intro rest hrest
  rw [List.cons_append, List.cons_append, readTemplate_escaped _ hc, h rest hrest, Option.map_map]
  rfl

/-- Escaping puts no brace at the start of a text. -/
theorem head?_escapeTemplateChars {text : List Char}
    (h : text.head? ≠ some '\x7b') :
    (Source.escapeTemplateChars text).head? ≠ some '\x7b' := by
  fun_cases Source.escapeTemplateChars text with
  | case1 => exact h
  | case2 rest => simp
  | case3 rest => simp
  | case4 rest => simp
  | case5 c rest => exact h

/-- An escaped text stands for the text, unless there is a carriage return in it. -/
theorem escapeTemplateChars {text : List Char} (hreturn : '\r' ∉ text) :
    Stands scope (Source.escapeTemplateChars text) text := by
  fun_induction Source.escapeTemplateChars text with
  | case1 => exact nil
  | case2 rest ih => exact escaped rfl (ih fun h => hreturn (List.mem_cons_of_mem _ h))
  | case3 rest ih => exact escaped rfl (ih fun h => hreturn (List.mem_cons_of_mem _ h))
  | case4 rest ih =>
    -- the dollar sign is escaped, so that the brace behind it opens nothing
    refine escaped rfl (plain (by decide) (by decide) (by decide) (fun hc => absurd hc (by decide))
      (ih fun h => ?_))
    exact hreturn (List.mem_cons_of_mem _ (List.mem_cons_of_mem _ h))
  | case5 c rest hbackslash hbacktick hopen ih =>
    rw [List.mem_cons, not_or] at hreturn
    refine plain hbacktick hbackslash (Ne.symm hreturn.1) ?_ (ih hreturn.2)
    intro hc
    refine head?_escapeTemplateChars ?_
    intro hhead
    obtain ⟨tail, rfl⟩ := List.head?_eq_some_iff.mp hhead
    exact hopen tail hc rfl

/-- A substitution stands for the value of the variable. -/
theorem hole {name : List Char} {value : String} (hname : '\x7d' ∉ name)
    (h : scope (String.ofList name) = some value) :
    Stands scope ('$' :: '\x7b' :: (name ++ ['\x7d'])) value.toList := by
  intro rest _
  rw [List.cons_append, List.cons_append, List.append_assoc, readTemplate, if_neg (by decide)]
  exact readTemplate_hole hname h

end Stands

/-! ## Expressions -/

/-- A template literal stands for what its body stands for. -/
theorem evaluate_template {body text : String} (h : Stands scope body.toList text.toList) :
    evaluate scope ("`" ++ body ++ "`") = some text := by
  have hclose : readTemplate scope none ['\x60'] = some [] := rfl
  have hbody : readTemplate scope none (body.toList ++ ['\x60']) = some text.toList := by
    rw [h ['\x60'] (by decide), hclose, Option.map_some, List.append_nil]
  have hchars : ("`" ++ body ++ "`").toList = '\x60' :: (body.toList ++ ['\x60']) := by
    simp
  rw [evaluate, hchars]
  simp only [hbody, Option.map_some, String.ofList_toList]

/-- A string literal stands for its text. -/
theorem evaluate_quote (s : String) : evaluate scope (quote s) = some s := by
  have hchars : (quote s).toList = '\x27' :: ((escapeString s).toList ++ ['\x27']) := by
    simp [quote]
  rw [evaluate, hchars]
  simp only [tokens?_of_reads (reads_quote s)]
  rfl

end

end WebForm.Script
