import WebForm.Proofs.Component.Outline
import WebForm.Proofs.Script.Literal
/-!
# Line endings

What it means for a text to use one line ending throughout. Feeds and returns come in pairs, or no
line returns: this is a property of neighbouring characters, so that it is one of the pieces of a
text as long as no pair is cut into two. Generated code is put together from pieces that hold
neither of the two characters, from literals, which escape both, and from the texts that are
written as they are.
-/

set_option autoImplicit false

namespace WebForm.Source

/-! ## Texts that keep a line ending -/

/-- Whether a text uses a line ending throughout. Where lines only feed, nothing returns; else every
feed comes right after a return and every return right before a feed. -/
def LineEnding.Keeps (ending : LineEnding) (s : String) : Prop :=
  match ending with
  | .lf => '\r' ∉ s.toList
  | .crlf => ∀ before c after, s.toList = before ++ c :: after →
      (c = '\n' → before.getLast? = some '\r') ∧ (c = '\r' → after.head? = some '\n')

/-- Whether feeds and returns come in pairs, where `returned` tells that a return came right
before. -/
def isPaired (returned : Bool) : List Char → Bool
  | [] => !returned
  | c :: rest => (c == '\n') == returned && isPaired (c == '\r') rest

/-- Whether a return comes at the end, or before all if there is nothing. -/
def returns (returned : Bool) (cs : List Char) : Bool := cs.getLast?.elim returned (· == '\r')

theorem returns_cons (returned : Bool) (c : Char) (cs : List Char) :
    returns returned (c :: cs) = returns (c == '\r') cs := by
  cases cs with
  | nil => rfl
  | cons d ds => rw [returns, returns, List.getLast?_cons_cons, List.getLast?_cons]; rfl

/-- Pairs are found piece by piece, as long as none of them is cut into two. -/
theorem isPaired_append {returned : Bool} {cs ds : List Char}
    (h : returns returned cs = true → ds.head? ≠ some '\n') :
    isPaired returned (cs ++ ds) = (isPaired returned cs && isPaired false ds) := by
  induction cs generalizing returned with
  | nil =>
    cases returned with
    | false => simp [isPaired]
    | true =>
      -- what comes after a return would have to be a feed
      cases ds with
      | nil => rfl
      | cons d ds =>
        have hd : d ≠ '\n' := fun heq => h rfl (congrArg some heq)
        simp [isPaired, hd]
  | cons c cs ih =>
    rw [returns_cons] at h
    rw [List.cons_append, isPaired, isPaired, ih h, Bool.and_assoc]

/-- Reading characters one after the other tells whether all pairs are complete. -/
theorem isPaired_eq_true_iff {cs : List Char} : ∀ {returned : Bool},
    isPaired returned cs = true ↔ (returned = true → cs.head? = some '\n') ∧
      ∀ before c after, cs = before ++ c :: after →
        (c = '\n' → returns returned before = true) ∧ (c = '\r' → after.head? = some '\n') := by
  induction cs with
  | nil => simp [isPaired]
  | cons d ds ih =>
    intro returned
    rw [isPaired, Bool.and_eq_true, beq_iff_eq, ih]
    constructor
    · rintro ⟨hd, hfeed, hall⟩
      refine ⟨fun h => ?_, fun before c after hsplit => ?_⟩
      · rw [h, beq_iff_eq] at hd
        exact congrArg some hd
      · cases before with
        | nil =>
          obtain ⟨rfl, rfl⟩ := List.cons.inj hsplit
          exact ⟨fun hc => by rw [returns, ← hd, hc]; rfl, fun hc => hfeed (beq_iff_eq.mpr hc)⟩
        | cons e before =>
          obtain ⟨rfl, hrest⟩ := List.cons.inj hsplit
          rw [returns_cons]
          exact hall before c after hrest
    · rintro ⟨hfeed, hall⟩
      refine ⟨?_, fun h => (hall [] d ds rfl).2 (beq_iff_eq.mp h), fun before c after hsplit => ?_⟩
      · rw [Bool.eq_iff_iff, beq_iff_eq]
        exact ⟨fun hd => (hall [] d ds rfl).1 hd, fun h => Option.some.inj (hfeed h)⟩
      · rw [← returns_cons returned]
        exact hall (d :: before) c after (by rw [hsplit, List.cons_append])

theorem returns_false_iff {cs : List Char} :
    returns false cs = true ↔ cs.getLast? = some '\r' := by
  rw [returns]
  cases cs.getLast? <;> simp

namespace LineEnding

theorem keeps_lf_iff {s : String} : LineEnding.lf.Keeps s ↔ '\r' ∉ s.toList := Iff.rfl

theorem keeps_crlf_iff {s : String} :
    LineEnding.crlf.Keeps s ↔ isPaired false s.toList = true := by
  simp only [Keeps, isPaired_eq_true_iff, Bool.false_eq_true, false_imp_iff, true_and,
    returns_false_iff]

instance (ending : LineEnding) : DecidablePred ending.Keeps := fun s =>
  match ending with
  | .lf => inferInstanceAs (Decidable ('\r' ∉ s.toList))
  | .crlf => decidable_of_iff (isPaired false s.toList = true) keeps_crlf_iff.symm

section
variable {ending : LineEnding} {s t : String}

/-- A text keeps a line ending if its pieces do, as long as no pair is cut into two. -/
theorem keeps_append (h : s.toList.getLast? = some '\r' → t.toList.head? ≠ some '\n') :
    ending.Keeps (s ++ t) ↔ ending.Keeps s ∧ ending.Keeps t := by
  cases ending with
  | lf => rw [keeps_lf_iff, String.toList_append, List.mem_append, not_or]; rfl
  | crlf =>
    rw [keeps_crlf_iff, keeps_crlf_iff, keeps_crlf_iff, String.toList_append,
      isPaired_append fun hr => h (returns_false_iff.mp hr), Bool.and_eq_true]

end

end LineEnding

/-! ## Pieces without line breaks -/

/-- A text that holds neither of the characters that break lines. -/
def Unbroken (s : String) : Prop := ∀ c ∈ s.toList, c ≠ '\n' ∧ c ≠ '\r'

instance : DecidablePred Unbroken := fun s =>
  List.decidableBAll (fun c => c ≠ '\n' ∧ c ≠ '\r') s.toList

theorem unbroken_iff_all {s : String} :
    Unbroken s ↔ (s.toList.all fun c => c != '\n' && c != '\r') = true := by
  simp [Unbroken]

/-- The characters of a literal are looked at one by one, and not decoded from its bytes. -/
theorem unbroken_ofList {cs : List Char} (h : (cs.all fun c => c != '\n' && c != '\r') = true) :
    Unbroken (String.ofList cs) :=
  unbroken_iff_all.mpr (by rwa [String.toList_ofList])

@[simp] theorem unbroken_append {s t : String} :
    Unbroken (s ++ t) ↔ Unbroken s ∧ Unbroken t := by
  rw [Unbroken, String.toList_append, List.forall_mem_append]
  exact Iff.rfl

theorem unbroken_join {ss : List String} : Unbroken (String.join ss) ↔ ∀ s ∈ ss, Unbroken s := by
  simp only [Unbroken, String.toList_join, List.mem_flatMap]
  exact ⟨fun h s hs c hc => h c ⟨s, hs, hc⟩, fun h c ⟨s, hs, hc⟩ => h s hs c hc⟩

theorem unbroken_intercalate {separator : String} (hsep : Unbroken separator) {ss : List String}
    (h : ∀ s ∈ ss, Unbroken s) : Unbroken (separator.intercalate ss) := by
  cases ss with
  | nil => exact List.forall_mem_nil _
  | cons s rest =>
    rw [List.forall_mem_cons] at h
    induction rest generalizing s with
    | nil => exact h.1
    | cons t rest ih =>
      rw [List.forall_mem_cons] at h
      rw [String.intercalate_cons_cons, unbroken_append, unbroken_append]
      exact ⟨⟨h.1, hsep⟩, ih t h.2⟩

theorem isPaired_of_unbroken {cs : List Char} (h : ∀ c ∈ cs, c ≠ '\n' ∧ c ≠ '\r') :
    isPaired false cs = true := by
  induction cs with
  | nil => rfl
  | cons c cs ih =>
    rw [List.forall_mem_cons] at h
    rw [isPaired, beq_eq_false_iff_ne.mpr h.1.1, beq_eq_false_iff_ne.mpr h.1.2, ih h.2]
    rfl

namespace LineEnding

variable {ending : LineEnding} {s t u : String}

theorem keeps_of_unbroken (h : Unbroken s) : ending.Keeps s := by
  cases ending with
  | lf => exact fun hr => (h _ hr).2 rfl
  | crlf => exact keeps_crlf_iff.mpr (isPaired_of_unbroken h)

theorem keeps_append_left (h : Unbroken s) : ending.Keeps (s ++ t) ↔ ending.Keeps t := by
  rw [keeps_append fun hlast => absurd rfl (h _ (List.mem_of_getLast? hlast)).2]
  exact and_iff_right (keeps_of_unbroken h)

theorem keeps_append_right (h : Unbroken t) : ending.Keeps (s ++ t) ↔ ending.Keeps s := by
  rw [keeps_append fun _ hhead => (h _ (List.mem_of_mem_head? hhead)).1 rfl]
  exact and_iff_left (keeps_of_unbroken h)

/-- Two pieces with something unbroken between them. -/
theorem keeps_append_append (h : Unbroken t) (hne : t ≠ "") :
    ending.Keeps (s ++ t ++ u) ↔ ending.Keeps s ∧ ending.Keeps u := by
  rw [keeps_append, keeps_append_right h]
  intro hlast
  rw [String.toList_append, List.getLast?_append] at hlast
  obtain ⟨c, hc⟩ : ∃ c, t.toList.getLast? = some c :=
    Option.isSome_iff_exists.mp (by simpa [List.getLast?_isSome] using hne)
  rw [hc] at hlast
  exact absurd (Option.some.inj hlast) (h c (List.mem_of_getLast? hc)).2

/-- Pieces that do not end in a return, one after the other. -/
theorem keeps_join {ss : List String} (h : ∀ s ∈ ss, s.toList.getLast? ≠ some '\r') :
    ending.Keeps (String.join ss) ↔ ∀ s ∈ ss, ending.Keeps s := by
  induction ss with
  | nil => exact iff_of_true (keeps_of_unbroken (by decide)) (List.forall_mem_nil _)
  | cons s rest ih =>
    rw [List.forall_mem_cons] at h ⊢
    rw [String.join_cons, keeps_append fun hlast => absurd hlast h.1, ih h.2]

end LineEnding

/-! ## Lines -/

theorem Indent.unbroken_steps (indent : Indent) (depth : Nat) : Unbroken (indent.steps depth) := by
  have hunit : ∀ i : Indent, Unbroken i.unit := by
    intro i
    cases i <;> decide
  rw [steps, unbroken_join]
  intro s hs
  rw [List.eq_of_mem_replicate hs]
  exact hunit indent

section
variable {style : Style}

/-- A line keeps the line ending it is written with exactly when its text does. -/
theorem Style.keeps_line {l : Line} :
    style.lineEnding.Keeps (style.line l) ↔ style.lineEnding.Keeps l.text := by
  have hending : style.lineEnding.Keeps style.lineEnding.text := by
    cases style.lineEnding <;> decide
  have hfirst : style.lineEnding.text.toList.head? = some '\n' → style.lineEnding = .lf := by
    cases style.lineEnding <;> decide
  rw [line]
  split
  · next hempty =>
    rw [String.isEmpty_iff.mp hempty]
    exact iff_of_true hending (LineEnding.keeps_of_unbroken (by decide))
  · rw [String.append_assoc, LineEnding.keeps_append_left (style.indent.unbroken_steps _)]
    by_cases hstyle : style.lineEnding = .lf
    · -- here nothing returns, so that it does not matter what is cut
      rw [hstyle, LineEnding.keeps_lf_iff, LineEnding.keeps_lf_iff, String.toList_append,
        List.mem_append]
      exact not_congr (or_iff_left (by decide))
    · rw [LineEnding.keeps_append fun _ hhead => hstyle (hfirst hhead), and_iff_left hending]

/-- **Lines keep the line ending they are written with exactly when their texts do.** -/
theorem Style.keeps_lines {ls : List Line} :
    style.lineEnding.Keeps (style.lines ls) ↔ ∀ l ∈ ls, style.lineEnding.Keeps l.text := by
  have hlast : ∀ l : Line, (style.line l).toList.getLast? ≠ some '\r' := by
    intro l
    have hfeed : style.lineEnding.text.toList.getLast? = some '\n' := by
      cases style.lineEnding <;> rfl
    rw [line]
    split
    · rw [hfeed]
      decide
    · rw [String.toList_append, List.getLast?_append, hfeed, Option.some_or]
      decide
  rw [lines, LineEnding.keeps_join (List.forall_mem_map.mpr fun l _ => hlast l),
    List.forall_mem_map]
  exact forall₂_congr fun l _ => Style.keeps_line

end

/-! ## Literals and names -/

theorem unbroken_escapeString (s : String) : Unbroken (escapeString s) := by
  have hchar : ∀ c, ∀ d ∈ escapeStringChar c, d ≠ '\n' ∧ d ≠ '\r' := by
    intro c d hd
    rw [escapeStringChar.eq_def] at hd
    split at hd <;> grind
  intro d hd
  rw [toList_escapeString] at hd
  obtain ⟨c, -, hd⟩ := List.mem_flatMap.mp hd
  exact hchar c d hd

/-- A quoted string has no line breaks, whatever it says. -/
@[simp] theorem unbroken_quote (s : String) : Unbroken (quote s) := by
  rw [quote, unbroken_append, unbroken_append]
  exact ⟨⟨by decide, unbroken_escapeString s⟩, by decide⟩

theorem unbroken_of_isIdentifier {name : String} (h : isIdentifier name = true) :
    Unbroken name := by
  intro c hc
  have hpart := Component.isIdentifierPart_of_isIdentifier h c hc
  constructor <;> rintro rfl <;> exact absurd hpart (by decide)

@[simp] theorem unbroken_propertyKey (name : String) : Unbroken (propertyKey name) := by
  rw [propertyKey]
  split
  · next h => exact unbroken_of_isIdentifier h
  · exact unbroken_quote name

/-- Numbers in generated code have no line breaks. -/
theorem unbroken_of_isNumberText {text : String} (h : Script.isNumberText text = true) :
    Unbroken text := by
  rw [Script.isNumberText] at h
  intro c hc
  cases hchars : text.toList with
  | nil =>
    rw [hchars] at h
    cases h
  | cons d ds =>
    rw [hchars, Bool.and_eq_true, List.all_eq_true] at h
    rw [hchars, List.mem_cons] at hc
    rcases hc with rfl | hc
    · constructor <;> rintro rfl <;> exact absurd h.1 (by decide)
    · have hpart := h.2 c hc
      constructor <;> rintro rfl <;> exact absurd hpart (by decide)

mutual

/-- A value without numbers is written without line breaks. -/
theorem unbroken_literal (v : Json) (h : Script.Numberless v) : Unbroken (literal v) := by
  match v with
  | .null => rw [literal]; decide
  | .bool b => cases b <;> rw [literal] <;> decide
  | .number _ => exact h.elim
  | .string s => rw [literal]; exact unbroken_quote s
  | .array [] => rw [literal]; decide
  | .array (item :: rest) =>
    have hitems := unbroken_literalItems (item :: rest) h
    rw [literal.eq_6 _ (List.cons_ne_nil _ _), unbroken_append, unbroken_append]
    exact ⟨⟨by decide, unbroken_intercalate (by decide) hitems⟩, by decide⟩
  | .object [] => rw [literal]; decide
  | .object (m :: rest) =>
    have hmembers := unbroken_literalMembers (m :: rest) h
    rw [literal.eq_8 _ (List.cons_ne_nil _ _), unbroken_append, unbroken_append]
    exact ⟨⟨by decide, unbroken_intercalate (by decide) hmembers⟩, by decide⟩
termination_by structural v

theorem unbroken_literalItems (items : List Json) (h : Script.AllNumberless items) :
    ∀ s ∈ literalItems items, Unbroken s := by
  match items with
  | [] => exact List.forall_mem_nil _
  | item :: rest =>
    exact List.forall_mem_cons.mpr ⟨unbroken_literal item h.1, unbroken_literalItems rest h.2⟩
termination_by structural items

theorem unbroken_literalMembers (members : List (String × Json))
    (h : Script.MembersNumberless members) : ∀ s ∈ literalMembers members, Unbroken s := by
  match members with
  | [] => exact List.forall_mem_nil _
  | (name, value) :: rest =>
    refine List.forall_mem_cons.mpr ⟨?_, unbroken_literalMembers rest h.2⟩
    rw [unbroken_append, unbroken_append]
    exact ⟨⟨unbroken_propertyKey name, by decide⟩, unbroken_literal value h.1⟩
termination_by structural members

end

/-! ## Escaped texts -/

/-- Characters that are those of another text, some of them with a character before them that
escapes them. None of these can break a line. -/
inductive Escapes : List Char → List Char → Prop
  | nil : Escapes [] []
  | keep (c : Char) {cs ds : List Char} (h : Escapes cs ds) : Escapes (c :: cs) (c :: ds)
  | escape {e c : Char} {cs ds : List Char} (he : e ≠ '\n' ∧ e ≠ '\r') (hc : c ≠ '\n' ∧ c ≠ '\r')
      (h : Escapes cs ds) : Escapes (c :: cs) (e :: c :: ds)

theorem Escapes.mem_iff {cs ds : List Char} (h : Escapes cs ds) : '\r' ∈ ds ↔ '\r' ∈ cs := by
  induction h with
  | nil => exact Iff.rfl
  | keep c h ih => rw [List.mem_cons, List.mem_cons, ih]
  | escape he hc h ih => rw [List.mem_cons, List.mem_cons, List.mem_cons, ih, or_iff_right he.2.symm]

theorem Escapes.isPaired_eq {cs ds : List Char} (h : Escapes cs ds) :
    ∀ returned, isPaired returned ds = isPaired returned cs := by
  induction h with
  | nil => exact fun _ => rfl
  | keep c h ih => exact fun _ => by rw [isPaired, isPaired, ih]
  | escape he hc h ih =>
    intro returned
    simp only [isPaired, beq_eq_false_iff_ne.mpr he.1, beq_eq_false_iff_ne.mpr he.2,
      beq_eq_false_iff_ne.mpr hc.1, beq_eq_false_iff_ne.mpr hc.2, ih, beq_self_eq_true,
      Bool.true_and]

/-- A text that is escaped keeps a line ending exactly when the text itself does. -/
theorem Escapes.keeps_iff {ending : LineEnding} {s t : String} (h : Escapes s.toList t.toList) :
    ending.Keeps t ↔ ending.Keeps s := by
  cases ending with
  | lf => exact not_congr h.mem_iff
  | crlf => rw [LineEnding.keeps_crlf_iff, LineEnding.keeps_crlf_iff, h.isPaired_eq]

theorem escapes_escapeSlashes (cs : List Char) :
    ∀ escaped, Escapes cs (escapeSlashes escaped cs) := by
  induction cs with
  | nil => exact fun _ => .nil
  | cons c cs ih =>
    intro escaped
    rw [escapeSlashes]
    split
    · next hslash =>
      rw [Bool.and_eq_true, beq_iff_eq] at hslash
      obtain rfl := hslash.1
      exact .escape (by decide) (by decide) (ih _)
    · exact .keep c (ih _)

theorem escapes_escapeTemplateChars (cs : List Char) : Escapes cs (escapeTemplateChars cs) := by
  induction cs using escapeTemplateChars.induct with
  | case1 => exact .nil
  | case2 rest ih => exact .escape (by decide) (by decide) ih
  | case3 rest ih => exact .escape (by decide) (by decide) ih
  | case4 rest ih => exact .escape (by decide) (by decide) (.keep _ ih)
  | case5 c rest hslash htick hdollar ih =>
    rw [escapeTemplateChars.eq_5 c rest hslash htick hdollar]
    exact .keep c ih

section
variable {ending : LineEnding}

/-- Regular expressions have the line breaks of their pattern. -/
theorem keeps_escapeRegex {pattern : String} :
    ending.Keeps (escapeRegex pattern) ↔ ending.Keeps pattern :=
  Escapes.keeps_iff (by rw [escapeRegex, String.toList_ofList]; exact escapes_escapeSlashes _ _)

/-- Template literals have the line breaks of their text. -/
theorem keeps_escapeTemplate {s : String} :
    ending.Keeps (escapeTemplate s) ↔ ending.Keeps s :=
  Escapes.keeps_iff (by rw [escapeTemplate, String.toList_ofList]; exact escapes_escapeTemplateChars _)

end

end WebForm.Source
