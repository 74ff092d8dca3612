import WebForm.Proofs.Script.Expr
/-!
# Literals of generated code

A value that is written as a literal is read back as the value. A word such as `false` ends only
where something else begins, so the texts of literals are pieces together with what stands behind
them. Numbers are left out: which number a literal stands for is settled by the engine.
-/

set_option autoImplicit false

namespace WebForm.Script

open Source

/-! ## Values -/

namespace Expr

mutual

/-- The value of a literal, with the members of an object as they are written. -/
def json? : Expr → Option Json
  | .name s =>
    if s = "true" then some (.bool true)
    else if s = "false" then some (.bool false)
    else if s = "null" then some .null
    else none
  | .string s => some (.string s)
  | .list items => (jsonItems? items).map .array
  | .record members => (jsonMembers? members).map .object
  | _ => none
termination_by structural e => e

/-- The values of literals. -/
def jsonItems? : List Expr → Option (List Json)
  | [] => some []
  | e :: rest => (json? e).bind fun v => (jsonItems? rest).map (v :: ·)
termination_by structural es => es

/-- The keys and values of the members of a literal. -/
def jsonMembers? : List (String × Expr) → Option (List (String × Json))
  | [] => some []
  | (key, e) :: rest => (json? e).bind fun v => (jsonMembers? rest).map ((key, v) :: ·)
termination_by structural members => members

end

end Expr

/-- The expression that some tokens are, if they are one. -/
def expr? (ts : List Token) : Option Expr :=
  match readFrom (.want []) (ts ++ [.mark ";"]) with
  | some (e, []) => some e
  | _ => none

theorem Spells.expr?_eq {ts : List Token} {e : Expr} (h : Spells ts e) : expr? ts = some e := by
  rw [expr?, h]
  rfl

/-- The value of a text that is a literal. -/
def value? (text : String) : Option Json := ((tokens? text).bind expr?).bind Expr.json?

mutual

/-- A value without numbers. -/
def Numberless : Json → Prop
  | .number _ => False
  | .array items => AllNumberless items
  | .object members => MembersNumberless members
  | .null | .bool _ | .string _ => True
termination_by structural v => v

/-- Items without numbers. -/
def AllNumberless : List Json → Prop
  | [] => True
  | v :: rest => Numberless v ∧ AllNumberless rest
termination_by structural items => items

/-- Members without numbers. -/
def MembersNumberless : List (String × Json) → Prop
  | [] => True
  | (_, v) :: rest => Numberless v ∧ MembersNumberless rest
termination_by structural members => members

end

theorem membersNumberless_iff {members : List (String × Json)} :
    MembersNumberless members ↔ ∀ m ∈ members, Numberless m.2 := by
  induction members with
  | nil => simp [MembersNumberless]
  | cons m rest ih => rw [MembersNumberless, ih, List.forall_mem_cons]

/-! ## Pieces that end where something else begins -/

/-- A text that starts with a blank, a mark or an operator. -/
def StartsApart (text : String) : Prop := ∃ c cs, text.toList = c :: cs ∧ c ∈ separators

theorem StartsApart.append {text : String} (h : StartsApart text) (rest : String) :
    StartsApart (text ++ rest) := by
  obtain ⟨c, cs, hchars, hc⟩ := h
  exact ⟨c, cs ++ rest.toList, by rw [String.toList_append, hchars, List.cons_append], hc⟩

theorem startsApart_comma (rest : String) : StartsApart (", " ++ rest) :=
  StartsApart.append ⟨',', [' '], rfl, by decide⟩ rest

/-- A piece that is cut into some tokens if it stands apart from what is behind it. -/
def ReadsApart (text : String) (ts : List Token) : Prop :=
  ∀ {rest : String} {us : List Token}, StartsApart rest → Reads rest us →
    Reads (text ++ rest) (ts ++ us)

theorem Reads.apart {text : String} {ts : List Token} (h : Reads text ts) : ReadsApart text ts :=
  fun _ hrest => h.append hrest

theorem readsApart_word {s : String} (hs : isIdentifier s = true) : ReadsApart s [.word s] := by
  intro rest us happart hrest
  obtain ⟨c, cs, hchars, hc⟩ := happart
  have hpart : isIdentifierPart c = false := by
    have hnone : separators.all (fun d => !isIdentifierPart d) = true := rfl
    simpa using List.all_eq_true.mp hnone c hc
  exact Reads.word_append hs hchars hpart hrest

/-- A piece behind another one is apart from it if it starts apart. -/
theorem ReadsApart.append {a b : String} {ts us : List Token} (ha : ReadsApart a ts)
    (hb : ReadsApart b us) (happart : ∀ rest, StartsApart rest → StartsApart (b ++ rest)) :
    ReadsApart (a ++ b) (ts ++ us) := by
  intro rest vs hrest hreads
  rw [String.append_assoc, List.append_assoc]
  exact ha (happart rest hrest) (hb hrest hreads)

/-- A text that is an expression if it stands apart from what is behind it. -/
def WritesApart (text : String) (e : Expr) : Prop := ∃ ts, ReadsApart text ts ∧ Spells ts e

/-- A text of expressions with commas between them. -/
def WritesItemsApart (text : String) (es : List Expr) : Prop :=
  ∃ ts, ReadsApart text ts ∧ SpellsItems ts es

/-- A text of members with commas between them. -/
def WritesMembersApart (text : String) (members : List (String × Expr)) : Prop :=
  ∃ ts, ReadsApart text ts ∧ SpellsMembers ts members

theorem Writes.apart {text : String} {e : Expr} (h : Writes text e) : WritesApart text e := by
  obtain ⟨ts, hreads, hspells⟩ := h
  exact ⟨ts, hreads.apart, hspells⟩

theorem WritesApart.items {text : String} {e : Expr} (h : WritesApart text e) :
    WritesItemsApart text [e] := by
  obtain ⟨ts, hreads, hspells⟩ := h
  exact ⟨ts, hreads, .last hspells.whole⟩

theorem WritesItemsApart.cons {text rest : String} {e : Expr} {es : List Expr}
    (h : WritesApart text e) (hrest : WritesItemsApart rest es) :
    WritesItemsApart (text ++ (", " ++ rest)) (e :: es) := by
  obtain ⟨ts, hreads, hspells⟩ := h
  obtain ⟨us, hreads', hspells'⟩ := hrest
  have hbehind : ReadsApart (", " ++ rest) (.mark "," :: us) := by
    intro tail vs hstart htail
    have hall := Reads.append reads_comma (hreads' hstart htail)
    rwa [← String.append_assoc] at hall
  refine ⟨_, ReadsApart.append hreads hbehind fun tail _ => ?_, .cons hspells.whole hspells'⟩
  exact (startsApart_comma rest).append tail

/-- The text of a member: its key, a colon, and the text of its value. -/
theorem WritesApart.readsApart_member {text : String} {ts : List Token} (h : ReadsApart text ts)
    (name : String) :
    ReadsApart (propertyKey name ++ ": " ++ text) (keyToken name :: .mark ":" :: ts) := by
  intro rest us hstart hrest
  have hcolon : Reads ": " [.mark ":"] := rfl
  have hkey : Reads (propertyKey name ++ ": ") [keyToken name, .mark ":"] :=
    Reads.propertyKey_append rfl (by decide) hcolon
  have hall := Reads.append hkey (h hstart hrest)
  rwa [← String.append_assoc] at hall

theorem WritesApart.members {text : String} {e : Expr} (h : WritesApart text e) (name : String) :
    WritesMembersApart (propertyKey name ++ ": " ++ text) [(name, e)] := by
  obtain ⟨ts, hreads, hspells⟩ := h
  exact ⟨_, readsApart_member hreads name, .last hspells.whole⟩

theorem WritesMembersApart.cons {text rest : String} {e : Expr} {members : List (String × Expr)}
    (h : WritesApart text e) (name : String) (hrest : WritesMembersApart rest members) :
    WritesMembersApart (propertyKey name ++ ": " ++ text ++ (", " ++ rest))
      ((name, e) :: members) := by
  obtain ⟨ts, hreads, hspells⟩ := h
  obtain ⟨us, hreads', hspells'⟩ := hrest
  have hbehind : ReadsApart (", " ++ rest) (.mark "," :: us) := by
    intro tail vs hstart htail
    have hall := Reads.append reads_comma (hreads' hstart htail)
    rwa [← String.append_assoc] at hall
  have hfirst : ReadsApart _ _ := WritesApart.readsApart_member hreads name
  refine ⟨_, ReadsApart.append hfirst hbehind fun tail _ => ?_, .cons hspells.whole hspells'⟩
  exact (startsApart_comma rest).append tail

/-- Items between brackets. -/
theorem WritesItemsApart.list {text : String} {es : List Expr} (h : WritesItemsApart text es) :
    Writes ("[" ++ text ++ "]") (.list es) := by
  obtain ⟨ts, hreads, hspells⟩ := h
  have hopen : Reads "[" [.mark "["] := rfl
  have hclose : Reads "]" [.mark "]"] := rfl
  refine ⟨_, ?_, spells_list hspells⟩
  rw [String.append_assoc]
  exact Reads.append hopen (hreads ⟨']', [], rfl, by decide⟩ hclose)

/-- Members between braces. -/
theorem WritesMembersApart.record {text : String} {members : List (String × Expr)}
    (h : WritesMembersApart text members) :
    Writes ("\x7b " ++ text ++ " \x7d") (.record members) := by
  obtain ⟨ts, hreads, hspells⟩ := h
  have hopen : Reads "\x7b " [.mark "\x7b"] := rfl
  have hclose : Reads " \x7d" [.mark "\x7d"] := rfl
  refine ⟨_, ?_, spells_record hspells⟩
  rw [String.append_assoc]
  exact Reads.append hopen (hreads ⟨' ', ['\x7d'], rfl, by decide⟩ hclose)

/-! ## Literals -/

mutual

/-- **A value that is written as a literal is read back as the value.** -/
theorem exists_writesApart_literal (v : Json) (h : Numberless v) :
    ∃ e, WritesApart (literal v) e ∧ e.json? = some v := by
  match v with
  | .null => exact ⟨.name "null", ⟨_, readsApart_word (by decide), spells_name "null"⟩, rfl⟩
  | .bool true => exact ⟨.name "true", ⟨_, readsApart_word (by decide), spells_name "true"⟩, rfl⟩
  | .bool false =>
    exact ⟨.name "false", ⟨_, readsApart_word (by decide), spells_name "false"⟩, rfl⟩
  | .number n => exact absurd h id
  | .string s => exact ⟨.string s, (writes_quote s).apart, rfl⟩
  | .array [] =>
    have hreads : Reads "[]" [.mark "[", .mark "]"] := rfl
    exact ⟨.list [], ⟨_, hreads.apart, spells_list_nil⟩, rfl⟩
  | .array (first :: rest) =>
    obtain ⟨es, hitems, hvalues⟩ := exists_writesItemsApart_literalItems (first :: rest)
      (List.cons_ne_nil _ _) h
    refine ⟨.list es, hitems.list.apart, ?_⟩
    rw [Expr.json?, hvalues]
    rfl
  | .object [] =>
    have hreads : Reads "\x7b\x7d" [.mark "\x7b", .mark "\x7d"] := rfl
    exact ⟨.record [], ⟨_, hreads.apart, spells_record .nil⟩, rfl⟩
  | .object (first :: rest) =>
    obtain ⟨members, hmembers, hvalues⟩ := exists_writesMembersApart_literalMembers (first :: rest)
      (List.cons_ne_nil _ _) h
    refine ⟨.record members, hmembers.record.apart, ?_⟩
    rw [Expr.json?, hvalues]
    rfl

/-- Items that are written with commas between them are read back one by one. -/
theorem exists_writesItemsApart_literalItems (items : List Json) (hne : items ≠ [])
    (h : AllNumberless items) :
    ∃ es, WritesItemsApart (", ".intercalate (literalItems items)) es ∧
      Expr.jsonItems? es = some items := by
  match items with
  | [] => exact absurd rfl hne
  | [v] =>
    obtain ⟨e, he, hvalue⟩ := exists_writesApart_literal v h.1
    refine ⟨[e], he.items, ?_⟩
    rw [Expr.jsonItems?, hvalue]
    rfl
  | v :: second :: others =>
    obtain ⟨e, he, hvalue⟩ := exists_writesApart_literal v h.1
    obtain ⟨es, hitems, hvalues⟩ := exists_writesItemsApart_literalItems (second :: others)
      (List.cons_ne_nil _ _) h.2
    refine ⟨e :: es, ?_, ?_⟩
    · rw [literalItems, literalItems, String.intercalate_cons_cons, String.append_assoc]
      exact hitems.cons he
    · rw [Expr.jsonItems?, hvalue, Option.bind_some, hvalues]
      rfl

/-- Members that are written with commas between them are read back one by one. -/
theorem exists_writesMembersApart_literalMembers (members : List (String × Json))
    (hne : members ≠ []) (h : MembersNumberless members) :
    ∃ es, WritesMembersApart (", ".intercalate (literalMembers members)) es ∧
      Expr.jsonMembers? es = some members := by
  match members with
  | [] => exact absurd rfl hne
  | [(key, v)] =>
    obtain ⟨e, he, hvalue⟩ := exists_writesApart_literal v h.1
    refine ⟨[(key, e)], he.members key, ?_⟩
    rw [Expr.jsonMembers?, hvalue]
    rfl
  | (key, v) :: second :: others =>
    obtain ⟨e, he, hvalue⟩ := exists_writesApart_literal v h.1
    obtain ⟨es, hmembers, hvalues⟩ := exists_writesMembersApart_literalMembers (second :: others)
      (List.cons_ne_nil _ _) h.2
    refine ⟨(key, e) :: es, ?_, ?_⟩
    · obtain ⟨key', v'⟩ := second
      rw [literalMembers, literalMembers, String.intercalate_cons_cons, String.append_assoc]
      exact hmembers.cons he key
    · rw [Expr.jsonMembers?, hvalue, Option.bind_some, hvalues]
      rfl

end

end WebForm.Script
