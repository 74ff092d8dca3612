import WebForm.Proofs.Script.Token
/-!
# Types of generated code

Declarations of types are read like expressions: the text is cut into tokens, and a reader with a
stack goes through them one by one. Two marks are added to those that expressions are made of: the
question mark of a member that may be absent, and the bar between alternatives. On everything
else the cutter is the same, so what is known about pieces of expressions holds here too.
-/

set_option autoImplicit false

namespace WebForm.Script

open Source

/-! ## Cutting -/

/-- Marks that only types are written with. -/
def isTypeMark (c : Char) : Bool := c == '?' || c == '|'

/-- The token that ends before a mark, unless the mark belongs to it. -/
def Mode.ended? : Mode → Option (List Token)
  | .between => some []
  | .word cs => some [.word (String.ofList cs)]
  | .number cs => some [.number (String.ofList cs)]
  | .operator cs => some [.mark (String.ofList cs)]
  | _ => none

/-- What one more character of a type does. -/
def Mode.typeStep (m : Mode) (c : Char) : Option (List Token × Mode) :=
  match m.step c with
  | some next => some next
  | none =>
    if isTypeMark c then m.ended?.map fun ts => (ts ++ [Token.mark (String.singleton c)], .between)
    else none

/-- What some characters of a type do one after the other. -/
def Mode.typeRun : Mode → List Char → Option (List Token × Mode)
  | m, [] => some ([], m)
  | m, c :: cs =>
    (m.typeStep c).bind fun (ts, m') => (m'.typeRun cs).map fun (us, m'') => (ts ++ us, m'')

/-- The tokens of a text that declares types. -/
def typeTokens? (text : String) : Option (List Token) :=
  (Mode.typeRun .between text.toList).bind fun (ts, m) => if m = .between then some ts else none

/-- The characters of a piece of a type lead from one mode to another and complete some tokens. -/
def Mode.LeadsType (m : Mode) (cs : List Char) (ts : List Token) (m' : Mode) : Prop :=
  m.typeRun cs = some (ts, m')

namespace Mode.LeadsType

theorem cons {m m' m'' : Mode} {c : Char} {cs : List Char} {ts us : List Token}
    (hstep : m.typeStep c = some (ts, m')) (hrest : m'.LeadsType cs us m'') :
    m.LeadsType (c :: cs) (ts ++ us) m'' := by
  rw [LeadsType, typeRun, hstep, Option.bind_some]
  dsimp only
  rw [show m'.typeRun cs = some (us, m'') from hrest]
  rfl

theorem append {m m' m'' : Mode} {cs ds : List Char} {ts us : List Token}
    (hleft : m.LeadsType cs ts m') (hright : m'.LeadsType ds us m'') :
    m.LeadsType (cs ++ ds) (ts ++ us) m'' := by
  induction cs generalizing m ts with
  | nil =>
    obtain ⟨rfl, rfl⟩ := Prod.mk.inj (Option.some.inj hleft)
    exact hright
  | cons c cs ih =>
    obtain ⟨⟨first, next⟩, hstep, h⟩ := Option.bind_eq_some_iff.mp hleft
    obtain ⟨⟨rest, last⟩, hrest, h⟩ := Option.map_eq_some_iff.mp h
    obtain ⟨rfl, rfl⟩ := Prod.mk.inj h
    rw [List.append_assoc]
    exact cons hstep (ih hrest)

/-- What is cut without the two marks is cut the same with them. -/
theorem of_leads {m m' : Mode} {cs : List Char} {ts : List Token} (h : m.Leads cs ts m') :
    m.LeadsType cs ts m' := by
  induction cs generalizing m ts with
  | nil => exact h
  | cons c cs ih =>
    obtain ⟨first, next, rest, hstep, hrest, rfl⟩ := Leads.exists_of_cons h
    refine cons ?_ (ih hrest)
    rw [typeStep, hstep]

end Mode.LeadsType

/-- A piece of a type that starts and ends between tokens is cut into some tokens. -/
def ReadsType (text : String) (ts : List Token) : Prop :=
  Mode.between.LeadsType text.toList ts .between

theorem typeTokens?_of_readsType {text : String} {ts : List Token} (h : ReadsType text ts) :
    typeTokens? text = some ts := by
  rw [typeTokens?, show Mode.typeRun .between text.toList = some (ts, .between) from h]
  rfl

theorem Reads.type {text : String} {ts : List Token} (h : Reads text ts) : ReadsType text ts :=
  Mode.LeadsType.of_leads h

theorem ReadsType.append {a b : String} {ts us : List Token} (ha : ReadsType a ts)
    (hb : ReadsType b us) : ReadsType (a ++ b) (ts ++ us) := by
  rw [ReadsType, String.toList_append]
  exact Mode.LeadsType.append ha hb

/-- A question mark ends an identifier. -/
theorem readsType_word_question {s : String} (hs : isIdentifier s = true) :
    ReadsType (s ++ "?") [.word s, .mark "?"] := by
  rw [isIdentifier] at hs
  cases hchars : s.toList with
  | nil =>
    rw [hchars] at hs
    cases hs
  | cons d ds =>
    rw [hchars, Bool.and_eq_true] at hs
    have hopen : Mode.between.Leads [d] [] (.word [d]) :=
      Mode.Leads.cons (show Mode.between.step d = _ from Mode.start_of_isIdentifierStart hs.1)
        (Mode.Leads.nil _)
    have hword : Mode.between.Leads s.toList [] (.word s.toList) := by
      rw [hchars]
      exact Mode.Leads.append hopen (Mode.leads_of_step (fun _ _ => rfl) [d] hs.2)
    have hmark : (Mode.word s.toList).LeadsType "?".toList [.word s, .mark "?"] .between := by
      have hstep : (Mode.word s.toList).typeStep '?' =
          some ([.word (String.ofList s.toList), .mark "?"], .between) := rfl
      rw [String.ofList_toList] at hstep
      exact Mode.LeadsType.cons hstep rfl
    rw [ReadsType, String.toList_append]
    exact Mode.LeadsType.append (.of_leads hword) hmark

/-- The key of a member, with the question mark of one that may be absent. -/
def memberTokens (name : String) (isOptional : Bool) : List Token :=
  keyToken name :: if isOptional then [.mark "?", .mark ":"] else [.mark ":"]

theorem readsType_propertyKey (name : String) :
    ReadsType (propertyKey name ++ ": ") (memberTokens name false) ∧
      ReadsType (propertyKey name ++ "?: ") (memberTokens name true) := by
  have hcolon : Reads ": " [.mark ":"] := rfl
  refine ⟨(Reads.propertyKey_append rfl (by decide) hcolon).type, ?_⟩
  have hquestion : ReadsType (propertyKey name ++ "?") [keyToken name, .mark "?"] := by
    rw [propertyKey, keyToken]
    by_cases hname : isIdentifier name = true
    · rw [if_pos hname, if_pos hname]
      exact readsType_word_question hname
    · rw [if_neg hname, if_neg hname]
      have hmark : ReadsType "?" [.mark "?"] := rfl
      exact (reads_quote name).type.append hmark
  have htext := hquestion.append hcolon.type
  rw [String.append_assoc] at htext
  exact htext

/-- Lines of types that are cut into some tokens, in whichever style they are written. -/
def ReadsTypeLines (ls : List Line) (ts : List Token) : Prop :=
  ∀ style : Style, ReadsType (style.lines ls) ts

namespace ReadsTypeLines

theorem nil : ReadsTypeLines [] [] := fun _ => rfl

theorem append {ls ms : List Line} {ts us : List Token} (hl : ReadsTypeLines ls ts)
    (hm : ReadsTypeLines ms us) : ReadsTypeLines (ls ++ ms) (ts ++ us) := by
  intro style
  rw [Style.lines_append]
  exact (hl style).append (hm style)

theorem singleton {depth : Nat} {text : String} {ts : List Token} (h : ReadsType text ts) :
    ReadsTypeLines [⟨depth, text⟩] ts := by
  intro style
  have hend : ReadsType style.lineEnding.text [] := by cases style.lineEnding <;> rfl
  rw [Style.lines, List.map_singleton, String.join_cons, String.join_nil, String.append_empty,
    Style.line]
  by_cases hempty : text = ""
  · subst hempty
    obtain ⟨rfl, -⟩ := Prod.mk.inj (Option.some.inj h)
    exact hend
  · have hline := ((reads_steps style.indent depth).type.append h).append hend
    rw [List.nil_append, List.append_nil] at hline
    rw [if_neg (by simpa using hempty)]
    exact hline

end ReadsTypeLines

/-! ## Reading -/

/-- A type as it is declared. -/
inductive TypeExpr where
  | name (s : String)
  /-- The type of one text. -/
  | literal (s : String)
  | union (alternatives : List TypeExpr)
  | arrayOf (item : TypeExpr)
  | generic (head : String) (arguments : List TypeExpr)
  /-- An object with members, of which some may be absent. -/
  | record (members : List (String × Bool × TypeExpr))

namespace TypeExpr

/-- What is open around a type, with what has been read of it. -/
inductive Frame where
  | alternatives (before : List TypeExpr)
  | arguments (head : String) (before : List TypeExpr)
  | members (before : List (String × Bool × TypeExpr)) (key : String) (isOptional : Bool)

/-- What the reader waits for, inside of what is open. -/
inductive State where
  /-- A type. -/
  | want (stack : List Frame)
  /-- Whatever may follow a type. -/
  | have (stack : List Frame) (t : TypeExpr)
  | arrayEnd (stack : List Frame) (t : TypeExpr)
  /-- A key, or the end of an object. -/
  | key (stack : List Frame) (members : List (String × Bool × TypeExpr))
  | keyEnd (stack : List Frame) (members : List (String × Bool × TypeExpr)) (key : String)
  | colon (stack : List Frame) (members : List (String × Bool × TypeExpr)) (key : String)

/-- Ends the alternatives that end with a type. -/
def settle : List Frame → TypeExpr → List Frame × TypeExpr
  | .alternatives before :: stack, t => (stack, .union (before ++ [t]))
  | stack, t => (stack, t)

namespace State

/-- What a bar behind a type leads to. -/
def bar : List Frame → TypeExpr → State
  | .alternatives before :: stack, t => .want (.alternatives (before ++ [t]) :: stack)
  | stack, t => .want (.alternatives [t] :: stack)

/-- What a mark leads to that ends the type before it. -/
def close (mark : String) : List Frame × TypeExpr → Option State
  | (.arguments head before :: stack, t) =>
    if mark = "," then some (.want (.arguments head (before ++ [t]) :: stack))
    else if mark = ">" then some (.have stack (.generic head (before ++ [t])))
    else none
  | (.members before k isOptional :: stack, t) =>
    if mark = ";" then some (.key stack (before ++ [(k, isOptional, t)])) else none
  | _ => none

/-- One more token. -/
def step : State → Token → Option State
  | .want stack, .word s => some (.have stack (.name s))
  | .want stack, .string s => some (.have stack (.literal s))
  | .want stack, .mark "\x7b" => some (.key stack [])
  | .have stack t, .mark "[" => some (.arrayEnd stack t)
  | .have stack (.name s), .mark "<" => some (.want (.arguments s [] :: stack))
  | .have stack t, .mark "|" => some (bar stack t)
  | .have stack t, .mark mark => close mark (settle stack t)
  | .arrayEnd stack t, .mark "]" => some (.have stack (.arrayOf t))
  | .key stack ms, .word s => some (.keyEnd stack ms s)
  | .key stack ms, .string s => some (.keyEnd stack ms s)
  | .key stack ms, .mark "\x7d" => some (.have stack (.record ms))
  | .keyEnd stack ms k, .mark ":" => some (.want (.members ms k false :: stack))
  | .keyEnd stack ms k, .mark "?" => some (.colon stack ms k)
  | .colon stack ms k, .mark ":" => some (.want (.members ms k true :: stack))
  | _, _ => none

end State

/-- Reads on to the end; gives the type that is complete there. -/
def readFrom : State → List Token → Option TypeExpr
  | .have [] t, [] => some t
  | _, [] => none
  | state, t :: rest => (state.step t).bind fun next => readFrom next rest

/-! ## Spelling -/

/-- These tokens are read as the type of a member wherever one is wanted. -/
def SpellsType (ts : List Token) (t : TypeExpr) : Prop :=
  ∀ stack before key isOptional rest,
    readFrom (.want (.members before key isOptional :: stack)) (ts ++ .mark ";" :: rest) =
      readFrom (.key stack (before ++ [(key, isOptional, t)])) rest

/-- These tokens are read as members wherever some are wanted. -/
def SpellsTypeMembers (ts : List Token) (ms : List (String × Bool × TypeExpr)) : Prop :=
  ∀ stack before rest,
    readFrom (.key stack before) (ts ++ rest) = readFrom (.key stack (before ++ ms)) rest

theorem spellsType_name (s : String) : SpellsType [.word s] (.name s) := fun _ _ _ _ _ => rfl

theorem spellsType_arrayOf (s : String) :
    SpellsType [.word s, .mark "[", .mark "]"] (.arrayOf (.name s)) := fun _ _ _ _ _ => rfl

/-- The type of some texts of which one is to be chosen. -/
def ofOptions : List String → TypeExpr
  | [] => .name "string"
  | [option] => .literal option
  | options => .union (options.map .literal)

/-- The tokens of texts with bars between them. -/
def optionTokens : List String → List Token
  | [] => []
  | [option] => [.string option]
  | option :: rest => .string option :: .mark "|" :: optionTokens rest

theorem spellsType_ofOptions (first : String) (rest : List String) :
    SpellsType (optionTokens (first :: rest)) (ofOptions (first :: rest)) := by
  intro stack before key isOptional tail
  cases rest with
  | nil => rfl
  | cons second rest =>
    -- behind the first bar the reader collects the alternatives
    have hcollect : ∀ (options : List String) (option : String) (done : List TypeExpr),
        readFrom (.want (.alternatives done :: .members before key isOptional :: stack))
            (optionTokens (option :: options) ++ .mark ";" :: tail) =
          readFrom (.key stack (before ++ [(key, isOptional,
            .union (done ++ (option :: options).map .literal))])) tail := by
      intro options
      induction options with
      | nil => intro option done; rfl
      | cons next options ih =>
        intro option done
        have hbar : readFrom (.want (.alternatives done :: .members before key isOptional :: stack))
            (optionTokens (option :: next :: options) ++ .mark ";" :: tail) =
              readFrom (.want (.alternatives (done ++ [.literal option]) ::
                .members before key isOptional :: stack))
                  (optionTokens (next :: options) ++ .mark ";" :: tail) := rfl
        rw [hbar, ih, List.append_assoc, List.singleton_append]
        rfl
    exact hcollect rest second [.literal first]

theorem spellsTypeMembers_nil : SpellsTypeMembers [] [] := by
  intro stack before rest
  rw [List.nil_append, List.append_nil]

theorem SpellsTypeMembers.append {ts us : List Token} {ms ns : List (String × Bool × TypeExpr)}
    (h : SpellsTypeMembers ts ms) (h' : SpellsTypeMembers us ns) :
    SpellsTypeMembers (ts ++ us) (ms ++ ns) := by
  intro stack before rest
  rw [List.append_assoc, h, h', List.append_assoc]

theorem readFrom_memberTokens (stack : List Frame) (before : List (String × Bool × TypeExpr))
    (name : String) (isOptional : Bool) (rest : List Token) :
    readFrom (.key stack before) (memberTokens name isOptional ++ rest) =
      readFrom (.want (.members before name isOptional :: stack)) rest := by
  rw [memberTokens, keyToken]
  cases isOptional <;> split <;> rfl

theorem SpellsType.member {ts : List Token} {t : TypeExpr} (h : SpellsType ts t) (name : String)
    (isOptional : Bool) :
    SpellsTypeMembers (memberTokens name isOptional ++ ts ++ [Token.mark ";"])
      [(name, isOptional, t)] := by
  intro stack before rest
  rw [List.append_assoc, List.append_assoc, readFrom_memberTokens, List.singleton_append, h]

/-- A list of objects, whose members are read before the list. -/
theorem SpellsTypeMembers.spellsType_objects {ts : List Token}
    {ms : List (String × Bool × TypeExpr)} (h : SpellsTypeMembers ts ms) :
    SpellsType
      ([Token.word "Array", .mark "<", .mark "\x7b"] ++ ts ++ [Token.mark "\x7d", .mark ">"])
      (.generic "Array" [.record ms]) := by
  intro stack before key isOptional rest
  have hopen : readFrom (.want (.members before key isOptional :: stack))
      ([Token.word "Array", .mark "<", .mark "\x7b"] ++ ts ++ [Token.mark "\x7d", .mark ">"] ++
        .mark ";" :: rest) =
      readFrom (.key (.arguments "Array" [] :: .members before key isOptional :: stack) [])
        (ts ++ [Token.mark "\x7d", .mark ">"] ++ .mark ";" :: rest) := rfl
  rw [hopen, List.append_assoc, h]
  rfl

end TypeExpr

/-! ## Interfaces -/

/-- What a type declares under a name, if it is an object. -/
def declaration? (name : String) : TypeExpr → Option (String × List (String × Bool × TypeExpr))
  | .record members => some (name, members)
  | _ => none

/-- The name and the members of the interface that a file declares. -/
def interface? (text : String) : Option (String × List (String × Bool × TypeExpr)) :=
  match typeTokens? text with
  | some (.word "export" :: .word "interface" :: .word name :: .mark "\x7b" :: rest) =>
    (TypeExpr.readFrom (.key [] []) rest).bind (declaration? name)
  | _ => none

end WebForm.Script
