import WebForm.Proofs.Script.Token
/-!
# Expressions of generated code

The second step of reading: from tokens to expressions. The reader keeps a stack of what is open
around the place where it stands, so every token is one step and nothing is read twice. Reading a
member or a call goes on behind the expression it belongs to; an equation or a function ends where
what is around it goes on.

`Spells` says that some tokens are read as an expression wherever one is wanted, `SpellsWhole` that
they are if the expression ends behind them. Each way of building an expression has one lemma.
-/

set_option autoImplicit false

namespace WebForm.Script

open Source

/-- An expression. -/
inductive Expr where
  | name (s : String)
  | string (s : String)
  | number (s : String)
  | regex (body : String)
  | list (items : List Expr)
  | record (members : List (String × Expr))
  | member (object : Expr) (name : String)
  | call (function : Expr) (arguments : List Expr)
  /-- A function of one parameter. -/
  | function (parameter : String) (body : Expr)
  /-- A strict comparison. -/
  | equal (left right : Expr)

/-! ## Reading -/

/-- What is open around an expression, with what has been read of it. -/
inductive Frame where
  | list (items : List Expr)
  | arguments (function : Expr) (arguments : List Expr)
  | record (members : List (String × Expr)) (key : String)
  | equal (left : Expr)
  | function (parameter : String)

/-- What the reader waits for, inside of what is open. -/
inductive State where
  /-- An expression, or the end of a list. -/
  | want (stack : List Frame)
  /-- Whatever may follow an expression. -/
  | have (stack : List Frame) (e : Expr)
  | memberName (stack : List Frame) (object : Expr)
  /-- A key, or the end of a record. -/
  | key (stack : List Frame) (members : List (String × Expr))
  | colon (stack : List Frame) (members : List (String × Expr)) (key : String)
  | parameter (stack : List Frame)
  | parameterEnd (stack : List Frame) (parameter : String)
  | arrow (stack : List Frame) (parameter : String)

/-- Ends the equations and functions that end with an expression. -/
def settle : List Frame → Expr → List Frame × Expr
  | .equal left :: stack, e => settle stack (.equal left e)
  | .function parameter :: stack, e => settle stack (.function parameter e)
  | stack, e => (stack, e)

namespace State

/-- What a comma behind an expression leads to. -/
def comma : List Frame × Expr → Option State
  | (.list items :: stack, e) => some (.want (.list (items ++ [e]) :: stack))
  | (.arguments f es :: stack, e) => some (.want (.arguments f (es ++ [e]) :: stack))
  | (.record members k :: stack, e) => some (.key stack (members ++ [(k, e)]))
  | _ => none

/-- What a closing mark behind an expression leads to. -/
def close (mark : String) : List Frame × Expr → Option State
  | (.list items :: stack, e) =>
    if mark = "]" then some (.have stack (.list (items ++ [e]))) else none
  | (.arguments f es :: stack, e) =>
    if mark = ")" then some (.have stack (.call f (es ++ [e]))) else none
  | (.record members k :: stack, e) =>
    if mark = "\x7d" then some (.have stack (.record (members ++ [(k, e)]))) else none
  | _ => none

/-- What a closing mark leads to where an expression could stand. -/
def closeEmpty (mark : String) : List Frame → Option State
  | .list items :: stack => if mark = "]" then some (.have stack (.list items)) else none
  | .arguments f es :: stack => if mark = ")" then some (.have stack (.call f es)) else none
  | _ => none

/-- One more token. -/
def step : State → Token → Option State
  | .want stack, .word s => some (.have stack (.name s))
  | .want stack, .string s => some (.have stack (.string s))
  | .want stack, .number s => some (.have stack (.number s))
  | .want stack, .regex body => some (.have stack (.regex body))
  | .want stack, .mark "[" => some (.want (.list [] :: stack))
  | .want stack, .mark "\x7b" => some (.key stack [])
  | .want stack, .mark "(" => some (.parameter stack)
  | .want stack, .mark mark => closeEmpty mark stack
  | .have stack e, .mark "." => some (.memberName stack e)
  | .have stack e, .mark "(" => some (.want (.arguments e [] :: stack))
  | .have stack e, .mark "===" => some (.want (.equal e :: stack))
  | .have stack e, .mark "," => comma (settle stack e)
  | .have stack e, .mark mark => close mark (settle stack e)
  | .memberName stack e, .word s => some (.have stack (.member e s))
  | .key stack members, .word s => some (.colon stack members s)
  | .key stack members, .string s => some (.colon stack members s)
  | .key stack members, .mark "\x7d" => some (.have stack (.record members))
  | .colon stack members k, .mark ":" => some (.want (.record members k :: stack))
  | .parameter stack, .word s => some (.parameterEnd stack s)
  | .parameterEnd stack s, .mark ")" => some (.arrow stack s)
  | .arrow stack s, .mark "=>" => some (.want (.function s :: stack))
  | _, _ => none

end State

/-- Reads on up to the semicolon that ends a statement; gives the expression and what is behind
the semicolon. -/
def readFrom : State → List Token → Option (Expr × List Token)
  | .have stack e, .mark ";" :: rest =>
    match settle stack e with
    | ([], e) => some (e, rest)
    | _ => none
  | state, t :: rest => (state.step t).bind fun next => readFrom next rest
  | _, [] => none

/-! ## Spelling -/

/-- These tokens are read as an expression wherever one is wanted. -/
def Spells (ts : List Token) (e : Expr) : Prop :=
  ∀ stack rest, readFrom (.want stack) (ts ++ rest) = readFrom (.have stack e) rest

/-- Marks that end an expression. -/
def endMarks : List String := [",", ")", "]", "\x7d", ";"]

/-- These tokens are read as an expression wherever one is wanted that ends behind them. -/
def SpellsWhole (ts : List Token) (e : Expr) : Prop :=
  ∀ stack rest, ∀ mark ∈ endMarks,
    readFrom (.want stack) (ts ++ .mark mark :: rest) =
      readFrom (.have stack e) (.mark mark :: rest)

/-- Expressions with commas between them. -/
inductive SpellsItems : List Token → List Expr → Prop
  | last {ts : List Token} {e : Expr} (h : SpellsWhole ts e) : SpellsItems ts [e]
  | cons {ts us : List Token} {e : Expr} {es : List Expr} (h : SpellsWhole ts e)
      (hrest : SpellsItems us es) : SpellsItems (ts ++ .mark "," :: us) (e :: es)

/-- Members of a record, which may end with a comma. -/
inductive SpellsMembers : List Token → List (String × Expr) → Prop
  | nil : SpellsMembers [] []
  | last {ts : List Token} {key : String} {e : Expr} (h : SpellsWhole ts e) :
      SpellsMembers (keyToken key :: .mark ":" :: ts) [(key, e)]
  | cons {ts us : List Token} {key : String} {e : Expr} {members : List (String × Expr)}
      (h : SpellsWhole ts e) (hrest : SpellsMembers us members) :
      SpellsMembers (keyToken key :: .mark ":" :: ts ++ .mark "," :: us) ((key, e) :: members)

theorem Spells.whole {ts : List Token} {e : Expr} (h : Spells ts e) : SpellsWhole ts e :=
  fun stack rest mark _ => h stack (.mark mark :: rest)

theorem spells_name (s : String) : Spells [.word s] (.name s) := fun _ _ => rfl

theorem spells_string (s : String) : Spells [.string s] (.string s) := fun _ _ => rfl

theorem spells_number (s : String) : Spells [.number s] (.number s) := fun _ _ => rfl

theorem spells_regex (body : String) : Spells [.regex body] (.regex body) := fun _ _ => rfl

theorem Spells.member {ts : List Token} {e : Expr} (h : Spells ts e) (name : String) :
    Spells (ts ++ [Token.mark ".", .word name]) (.member e name) := by
  intro stack rest
  rw [List.append_assoc, h]
  rfl

theorem Spells.method_nil {ts : List Token} {e : Expr} (h : Spells ts e) (name : String) :
    Spells (ts ++ [Token.mark ".", .word name, .mark "(", .mark ")"])
      (.call (.member e name) []) := by
  intro stack rest
  rw [List.append_assoc, h]
  rfl

/-- Items are read one after the other up to the mark that ends them, in a list as well as in a
call. -/
theorem readFrom_items {frame : List Expr → Frame} {mark : String} {finish : List Expr → Expr}
    (hmark : mark ∈ endMarks)
    (hcomma : ∀ before stack e rest,
      readFrom (.have (frame before :: stack) e) (.mark "," :: rest) =
        readFrom (.want (frame (before ++ [e]) :: stack)) rest)
    (hclose : ∀ before stack e rest,
      readFrom (.have (frame before :: stack) e) (.mark mark :: rest) =
        readFrom (.have stack (finish (before ++ [e]))) rest)
    {ts : List Token} {es : List Expr} (h : SpellsItems ts es) (stack : List Frame)
    (before : List Expr) (rest : List Token) :
    readFrom (.want (frame before :: stack)) (ts ++ .mark mark :: rest) =
      readFrom (.have stack (finish (before ++ es))) rest := by
  induction h generalizing before with
  | last h => rw [h _ _ mark hmark, hclose]
  | cons h _ ih =>
    rw [List.append_assoc, List.cons_append, h _ _ "," (by decide), hcomma, ih, List.append_assoc,
      List.singleton_append]

theorem Spells.call {ts us : List Token} {e : Expr} {es : List Expr} (h : Spells ts e)
    (hargs : SpellsItems us es) :
    Spells (ts ++ .mark "(" :: (us ++ [Token.mark ")"])) (.call e es) := by
  intro stack rest
  rw [List.append_assoc, h]
  -- the parenthesis opens a frame for the arguments
  have hopen : readFrom (.have stack e) (.mark "(" :: (us ++ [Token.mark ")"]) ++ rest) =
      readFrom (.want (.arguments e [] :: stack)) (us ++ .mark ")" :: rest) := by
    rw [List.cons_append, List.append_assoc]
    rfl
  rw [hopen]
  exact readFrom_items (by decide) (fun _ _ _ _ => rfl) (fun _ _ _ _ => rfl) hargs stack [] rest

theorem Spells.method {ts us : List Token} {e : Expr} {es : List Expr} (h : Spells ts e)
    (name : String) (hargs : SpellsItems us es) :
    Spells (ts ++ .mark "." :: .word name :: .mark "(" :: (us ++ [Token.mark ")"]))
      (.call (.member e name) es) := by
  have hcall := (h.member name).call hargs
  rwa [List.append_assoc] at hcall

theorem spells_list_nil : Spells [.mark "[", .mark "]"] (.list []) := fun _ _ => rfl

theorem spells_list {ts : List Token} {es : List Expr} (h : SpellsItems ts es) :
    Spells (.mark "[" :: (ts ++ [Token.mark "]"])) (.list es) := by
  intro stack rest
  have hopen : readFrom (.want stack) (.mark "[" :: (ts ++ [Token.mark "]"]) ++ rest) =
      readFrom (.want (.list [] :: stack)) (ts ++ .mark "]" :: rest) := by
    rw [List.cons_append, List.append_assoc]
    rfl
  rw [hopen]
  exact readFrom_items (by decide) (fun _ _ _ _ => rfl) (fun _ _ _ _ => rfl) h stack [] rest

theorem readFrom_key (stack : List Frame) (before : List (String × Expr)) (key : String)
    (rest : List Token) :
    readFrom (.key stack before) (keyToken key :: .mark ":" :: rest) =
      readFrom (.want (.record before key :: stack)) rest := by
  rw [keyToken]
  split <;> rfl

theorem readFrom_members {ts : List Token} {members : List (String × Expr)}
    (h : SpellsMembers ts members) (stack : List Frame) (before : List (String × Expr))
    (rest : List Token) :
    readFrom (.key stack before) (ts ++ .mark "\x7d" :: rest) =
      readFrom (.have stack (.record (before ++ members))) rest := by
  induction h generalizing before with
  | nil =>
    rw [List.append_nil]
    rfl
  | last h =>
    rw [List.cons_append, List.cons_append, readFrom_key, h _ _ "\x7d" (by decide)]
    rfl
  | @cons ts us key e members h _ ih =>
    rw [List.append_assoc, List.cons_append, List.cons_append, List.cons_append, readFrom_key,
      h _ _ "," (by decide)]
    have hcomma : readFrom (.have (.record before key :: stack) e)
        (.mark "," :: (us ++ .mark "\x7d" :: rest)) =
          readFrom (.key stack (before ++ [(key, e)])) (us ++ .mark "\x7d" :: rest) := rfl
    rw [hcomma, ih, List.append_assoc, List.singleton_append]

theorem spells_record {ts : List Token} {members : List (String × Expr)}
    (h : SpellsMembers ts members) :
    Spells (.mark "\x7b" :: (ts ++ [Token.mark "\x7d"])) (.record members) := by
  intro stack rest
  have hopen : readFrom (.want stack) (.mark "\x7b" :: (ts ++ [Token.mark "\x7d"]) ++ rest) =
      readFrom (.key stack []) (ts ++ .mark "\x7d" :: rest) := by
    rw [List.cons_append, List.append_assoc]
    rfl
  rw [hopen]
  exact readFrom_members h stack [] rest

/-- Where an expression ends, an equation ends that it is the right side of. -/
theorem readFrom_equal {mark : String} (hmark : mark ∈ endMarks) (stack : List Frame)
    (left right : Expr) (rest : List Token) :
    readFrom (.have (.equal left :: stack) right) (.mark mark :: rest) =
      readFrom (.have stack (.equal left right)) (.mark mark :: rest) := by
  simp only [endMarks, List.mem_cons, List.not_mem_nil, or_false] at hmark
  rcases hmark with rfl | rfl | rfl | rfl | rfl <;> rfl

/-- Where an expression ends, a function ends that it is the body of. -/
theorem readFrom_function {mark : String} (hmark : mark ∈ endMarks) (stack : List Frame)
    (parameter : String) (body : Expr) (rest : List Token) :
    readFrom (.have (.function parameter :: stack) body) (.mark mark :: rest) =
      readFrom (.have stack (.function parameter body)) (.mark mark :: rest) := by
  simp only [endMarks, List.mem_cons, List.not_mem_nil, or_false] at hmark
  rcases hmark with rfl | rfl | rfl | rfl | rfl <;> rfl

theorem spellsWhole_equal {ts us : List Token} {left right : Expr} (hleft : Spells ts left)
    (hright : SpellsWhole us right) :
    SpellsWhole (ts ++ .mark "===" :: us) (.equal left right) := by
  intro stack rest mark hmark
  rw [List.append_assoc, hleft, ← readFrom_equal hmark, ← hright _ rest mark hmark]
  rfl

theorem spellsWhole_function {ts : List Token} {body : Expr} (parameter : String)
    (h : SpellsWhole ts body) :
    SpellsWhole (.mark "(" :: .word parameter :: .mark ")" :: .mark "=>" :: ts)
      (.function parameter body) := by
  intro stack rest mark hmark
  rw [← readFrom_function hmark, ← h _ rest mark hmark]
  rfl

/-! ## Written expressions

The two steps together, for pieces of text that are put together as expressions are. -/

/-- A text that is an expression. -/
def Writes (text : String) (e : Expr) : Prop := ∃ ts, Reads text ts ∧ Spells ts e

/-- A text that is an expression if it ends behind it. -/
def WritesWhole (text : String) (e : Expr) : Prop := ∃ ts, Reads text ts ∧ SpellsWhole ts e

/-- A text of expressions with commas between them. -/
def WritesItems (text : String) (es : List Expr) : Prop := ∃ ts, Reads text ts ∧ SpellsItems ts es

theorem Writes.whole {text : String} {e : Expr} (h : Writes text e) : WritesWhole text e := by
  obtain ⟨ts, hreads, hspells⟩ := h
  exact ⟨ts, hreads, hspells.whole⟩

theorem writes_quote (s : String) : Writes (quote s) (.string s) :=
  ⟨_, reads_quote s, spells_string s⟩

theorem WritesWhole.items {text : String} {e : Expr} (h : WritesWhole text e) :
    WritesItems text [e] := by
  obtain ⟨ts, hreads, hspells⟩ := h
  exact ⟨ts, hreads, .last hspells⟩

theorem reads_comma : Reads ", " [.mark ","] := rfl

theorem WritesItems.cons {text rest : String} {e : Expr} {es : List Expr}
    (h : WritesWhole text e) (hrest : WritesItems rest es) :
    WritesItems (text ++ ", " ++ rest) (e :: es) := by
  obtain ⟨ts, hreads, hspells⟩ := h
  obtain ⟨us, hreads', hspells'⟩ := hrest
  refine ⟨ts ++ .mark "," :: us, ?_, .cons hspells hspells'⟩
  rw [← List.singleton_append, ← List.append_assoc]
  exact Reads.append (Reads.append hreads reads_comma) hreads'

/-- A number is no piece by itself, because the comma behind it ends it. -/
theorem WritesItems.number_cons {text rest : String} {es : List Expr}
    (h : isNumberText text = true) (hrest : WritesItems rest es) :
    WritesItems (text ++ ", " ++ rest) (.number text :: es) := by
  obtain ⟨us, hreads, hspells⟩ := hrest
  refine ⟨[.number text] ++ .mark "," :: us, ?_, .cons (spells_number text).whole hspells⟩
  have hcomma : Reads (", " ++ rest) (.mark "," :: us) := Reads.append reads_comma hreads
  rw [String.append_assoc]
  exact Reads.number_append h (by rw [String.toList_append]; rfl) (by decide) hcomma

/-- Texts between commas, of which there is at least one. -/
theorem writesItems_intercalate {f : String → String} {g : String → Expr}
    (h : ∀ s, WritesWhole (f s) (g s)) (first : String) (rest : List String) :
    WritesItems (", ".intercalate ((first :: rest).map f)) ((first :: rest).map g) := by
  induction rest generalizing first with
  | nil => exact (h first).items
  | cons second rest ih =>
    rw [List.map_cons, List.map_cons, String.intercalate_cons_cons]
    exact .cons (h first) (ih second)

section
variable {text head arguments name : String} {e : Expr} {es : List Expr}

theorem Writes.method_nil (h : Writes text e)
    (hhead : Reads head [.mark ".", .word name, .mark "(", .mark ")"]) :
    Writes (text ++ head) (.call (.member e name) []) := by
  obtain ⟨ts, hreads, hspells⟩ := h
  exact ⟨_, Reads.append hreads hhead, hspells.method_nil name⟩

theorem Writes.method (h : Writes text e)
    (hhead : Reads head [.mark ".", .word name, .mark "("]) (hargs : WritesItems arguments es) :
    Writes (text ++ (head ++ arguments ++ ")")) (.call (.member e name) es) := by
  obtain ⟨ts, hreads, hspells⟩ := h
  obtain ⟨us, hreads', hspells'⟩ := hargs
  have hclose : Reads ")" [.mark ")"] := rfl
  refine ⟨_, ?_, hspells.method name hspells'⟩
  exact Reads.append hreads (Reads.append (Reads.append hhead hreads') hclose)

end

theorem writes_list {text : String} {es : List Expr} (h : WritesItems text es) :
    Writes ("[" ++ text ++ "]") (.list es) := by
  obtain ⟨ts, hreads, hspells⟩ := h
  have hopen : Reads "[" [.mark "["] := rfl
  have hclose : Reads "]" [.mark "]"] := rfl
  exact ⟨_, Reads.append (Reads.append hopen hreads) hclose, spells_list hspells⟩

/-- A record of one member on one line. -/
theorem writes_record_singleton {head text key : String} {e : Expr}
    (hhead : Reads head [.mark "\x7b", keyToken key, .mark ":"]) (h : WritesWhole text e) :
    Writes (head ++ text ++ " \x7d") (.record [(key, e)]) := by
  obtain ⟨ts, hreads, hspells⟩ := h
  have hclose : Reads " \x7d" [.mark "\x7d"] := rfl
  exact ⟨_, Reads.append (Reads.append hhead hreads) hclose, spells_record (.last hspells)⟩

end WebForm.Script
