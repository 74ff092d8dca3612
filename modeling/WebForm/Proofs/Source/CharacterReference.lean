import Mathlib.Data.List.TakeWhile
import WebForm.Component.Path
import WebForm.Proofs.Script.Literal
import WebForm.Proofs.Source.LineEnding
/-!
# Character references

What a text of the form says once it stands in markup. Between braces it is a string literal, and
this says the text itself. In quotation marks and between elements nothing is escaped by a
backslash, but character references are decoded: a name or a number between an ampersand and a
semicolon stands for one character. Nothing keeps the references that a text happens to hold from
being decoded, so that a text is shown as it is exactly when it holds none, or is written as a
literal.

Which names there are is left open: all is said for any table of references.
-/

set_option autoImplicit false

namespace WebForm.Source

/-! ## Decoding -/

/-- The characters that references stand for, by what is between the ampersand and the semicolon. -/
abbrev CharacterReferences := String → Option Char

namespace CharacterReferences

/-- The references that every language of markup knows. -/
def predefined : CharacterReferences
  | "amp" => some '&'
  | "lt" => some '<'
  | "gt" => some '>'
  | "quot" => some '"'
  | "apos" => some '\x27'
  | _ => none

variable (refs : CharacterReferences)

/-- The reference at the start of what stands behind an ampersand: its character, and how many
characters it takes up to the semicolon and with it. -/
def starting? (cs : List Char) : Option (Char × Nat) :=
  let body := cs.takeWhile (· ≠ ';')
  if cs.length = body.length then none
  else (refs (String.ofList body)).map fun c => (c, body.length + 1)

/-- Decodes references from left to right; `skip` characters belong to the reference before. -/
def decodeFrom : Nat → List Char → List Char
  | _, [] => []
  | skip + 1, _ :: rest => decodeFrom skip rest
  | 0, c :: rest =>
    if c = '&' then
      match refs.starting? rest with
      | some (d, n) => d :: decodeFrom n rest
      | none => c :: decodeFrom 0 rest
    else c :: decodeFrom 0 rest

/-- A text with its references decoded. -/
def decode (s : String) : String := String.ofList (refs.decodeFrom 0 s.toList)

/-- Whether a reference stands somewhere in some characters. -/
def OccursIn (cs : List Char) : Prop :=
  ∃ before body after, cs = before ++ '&' :: (body ++ ';' :: after) ∧ ';' ∉ body ∧
    (refs (String.ofList body)).isSome = true

variable {refs}

/-- A reference is started by its own characters and a semicolon. -/
theorem starting?_eq_some_iff {cs : List Char} {c : Char} {n : Nat} :
    refs.starting? cs = some (c, n) ↔
      ∃ body after, cs = body ++ ';' :: after ∧ ';' ∉ body ∧
        refs (String.ofList body) = some c ∧ n = body.length + 1 := by
  have hall : ∀ d ∈ cs.takeWhile (· ≠ ';'), d ≠ ';' := by
    intro d hd
    simpa using List.mem_takeWhile_imp hd
  constructor
  · intro h
    rw [starting?] at h
    split at h
    · cases h
    · next hlonger =>
      obtain ⟨d, hd, hpair⟩ := Option.map_eq_some_iff.mp h
      obtain ⟨rfl, rfl⟩ := Prod.mk.inj hpair
      have hsplit := List.takeWhile_append_dropWhile (p := fun d => decide (d ≠ ';')) (l := cs)
      cases hrest : cs.dropWhile (· ≠ ';') with
      | nil =>
        rw [hrest, List.append_nil] at hsplit
        exact absurd (congrArg List.length hsplit).symm hlonger
      | cons e after =>
        -- what the characters of the body stop at is a semicolon
        have hsemicolon : e = ';' := by
          have hstop := List.head?_dropWhile_not (fun d => decide (d ≠ ';')) cs
          rw [hrest] at hstop
          simpa using hstop
        rw [hrest, hsemicolon] at hsplit
        exact ⟨_, after, hsplit.symm, fun hmem => hall _ hmem rfl, hd, rfl⟩
  · rintro ⟨body, after, rfl, hbody, hc, rfl⟩
    have htake : (body ++ ';' :: after).takeWhile (· ≠ ';') = body := by
      rw [List.takeWhile_append_of_pos fun d hd => by
        simpa using fun heq : d = ';' => hbody (heq ▸ hd)]
      simp
    rw [starting?, htake, if_neg (by simp), hc]
    rfl

/-- Characters that are skipped are left out. -/
theorem decodeFrom_eq_drop (n : Nat) (cs : List Char) :
    refs.decodeFrom n cs = refs.decodeFrom 0 (cs.drop n) := by
  induction cs generalizing n with
  | nil => cases n <;> rfl
  | cons c cs ih =>
    cases n with
    | zero => rfl
    | succ n => rw [decodeFrom, ih, List.drop_succ_cons]

theorem length_decodeFrom_le (cs : List Char) : (refs.decodeFrom 0 cs).length ≤ cs.length := by
  have hall : ∀ cs : List Char, ∀ n, (refs.decodeFrom n cs).length ≤ cs.length := by
    intro cs
    induction cs with
    | nil => exact fun n => by cases n <;> exact Nat.le_refl 0
    | cons c cs ih =>
      intro n
      cases n with
      | succ n => exact Nat.le_succ_of_le (ih n)
      | zero =>
        rw [decodeFrom]
        split
        · split
          · exact Nat.succ_le_succ (ih _)
          · exact Nat.succ_le_succ (ih 0)
        · exact Nat.succ_le_succ (ih 0)
  exact hall cs 0

/-- A reference stands at the first ampersand, or behind the first character. -/
theorem occursIn_cons {c : Char} {cs : List Char} :
    refs.OccursIn (c :: cs) ↔
      (c = '&' ∧ (refs.starting? cs).isSome = true) ∨ refs.OccursIn cs := by
  constructor
  · rintro ⟨before, body, after, hsplit, hbody, hsome⟩
    cases before with
    | nil =>
      obtain ⟨rfl, rfl⟩ := List.cons.inj hsplit
      obtain ⟨d, hd⟩ := Option.isSome_iff_exists.mp hsome
      refine .inl ⟨rfl, Option.isSome_iff_exists.mpr ⟨(d, body.length + 1), ?_⟩⟩
      exact starting?_eq_some_iff.mpr ⟨body, after, rfl, hbody, hd, rfl⟩
    | cons d before =>
      exact .inr ⟨before, body, after, (List.cons.inj hsplit).2, hbody, hsome⟩
  · rintro (⟨rfl, hsome⟩ | ⟨before, body, after, rfl, hbody, hsome⟩)
    · obtain ⟨⟨d, n⟩, hstart⟩ := Option.isSome_iff_exists.mp hsome
      obtain ⟨body, after, rfl, hbody, hd, -⟩ := starting?_eq_some_iff.mp hstart
      exact ⟨[], body, after, rfl, hbody, Option.isSome_iff_exists.mpr ⟨d, hd⟩⟩
    · exact ⟨c :: before, body, after, rfl, hbody, hsome⟩

/-- Characters say themselves exactly when no reference stands among them: a reference is longer
than the character it stands for, and nothing makes up for that. -/
theorem decodeFrom_eq_self_iff {cs : List Char} :
    refs.decodeFrom 0 cs = cs ↔ ¬ refs.OccursIn cs := by
  induction cs with
  | nil =>
    refine iff_of_true rfl ?_
    rintro ⟨before, body, after, hsplit, -⟩
    cases before <;> cases hsplit
  | cons c cs ih =>
    rw [occursIn_cons, decodeFrom, not_or, ← ih]
    by_cases hc : c = '&'
    · rw [if_pos hc]
      cases hstart : refs.starting? cs with
      | none => simp [hc]
      | some found =>
        obtain ⟨d, n⟩ := found
        obtain ⟨body, after, hcs, -, -, hn⟩ := starting?_eq_some_iff.mp hstart
        refine iff_of_false (fun h => ?_) fun h => h.1 ⟨hc, rfl⟩
        have hlength := congrArg List.length (List.cons.inj h).2
        have hle := @length_decodeFrom_le refs (cs.drop n)
        rw [← decodeFrom_eq_drop, hlength, List.length_drop, hcs, List.length_append,
          List.length_cons] at hle
        omega
    · rw [if_neg hc]
      simp [hc]

/-- A text says itself exactly when no reference stands in it. -/
theorem decode_eq_self_iff {s : String} : refs.decode s = s ↔ ¬ refs.OccursIn s.toList := by
  rw [← decodeFrom_eq_self_iff, decode]
  constructor
  · intro h
    rw [← String.toList_inj, String.toList_ofList] at h
    exact h
  · intro h
    rw [h, String.ofList_toList]

end CharacterReferences

/-! ## What markup says -/

/-- The text that a string literal between braces says, given what stands behind the first
brace. -/
def literalValue? (cs : List Char) : Option String :=
  if cs.getLast? = some '\x7d' then
    match Script.tokens? (String.ofList cs.dropLast) with
    | some [.string s] => some s
    | _ => none
  else none

/-- What the value of an attribute says. In quotation marks it goes to the next one, which has to be
the end. -/
def attributeValue? (refs : CharacterReferences) (text : String) : Option String :=
  match text.toList with
  | '"' :: rest =>
    if rest.dropWhile (· ≠ '"') = ['"'] then
      some (refs.decode (String.ofList (rest.takeWhile (· ≠ '"'))))
    else none
  | '\x7b' :: rest => literalValue? rest
  | _ => none

/-- The text of some lines: white space around each of them does not count, and lines that hold
nothing else are left out. -/
def joinedLines (s : String) : String :=
  " ".intercalate ((((s.toList.splitOnP fun c => c == '\n' || c == '\r').map String.ofList).map
    Text.trim).filter (· ≠ ""))

/-- What a text between elements says. -/
def childValue? (refs : CharacterReferences) (text : String) : Option String :=
  match text.toList with
  | '\x7b' :: rest => literalValue? rest
  | cs =>
    if cs.any fun c => c == '\x7b' || c == '\x7d' || c == '<' || c == '>' then none
    else some (refs.decode (joinedLines text))

/-- Lines are joined to the text itself if it is one line without white space at either end. -/
theorem joinedLines_eq_self {s : String} (hline : Unbroken s) (htrim : Text.trim s = s) :
    joinedLines s = s := by
  have hone : s.toList.splitOnP (fun c => c == '\n' || c == '\r') = [s.toList] := by
    refine List.splitOnP_eq_singleton fun c hc => ?_
    rw [beq_eq_false_iff_ne.mpr (hline c hc).1, beq_eq_false_iff_ne.mpr (hline c hc).2]
    rfl
  rw [joinedLines, hone, List.map_singleton, String.ofList_toList, List.map_singleton, htrim]
  by_cases hempty : s = ""
  · rw [hempty]
    rfl
  · rw [List.filter_cons_of_pos (by simpa using hempty)]
    exact String.intercalate_singleton

end WebForm.Source

namespace WebForm.Component

open Source

section
variable {refs : CharacterReferences}

theorem literalValue?_quote (s : String) :
    literalValue? (quote s ++ "\x7d").toList = some s := by
  have hlast : (quote s ++ "\x7d").toList.getLast? = some '\x7d' := by
    rw [String.toList_append, List.getLast?_append]
    rfl
  have hinside : String.ofList (quote s ++ "\x7d").toList.dropLast = quote s := by
    have hbrace : "\x7d".toList = ['\x7d'] := rfl
    rw [String.toList_append, hbrace, List.dropLast_concat, String.ofList_toList]
  rw [literalValue?, if_pos hlast, hinside, Script.tokens?_of_reads (Script.reads_quote s)]

theorem toList_braced_quote (s : String) :
    (braced (quote s)).toList = '\x7b' :: (quote s ++ "\x7d").toList := by
  rw [braced, String.append_assoc, String.toList_append]
  rfl

/-- **What an attribute says.** The value that is written for a text says the text with its
references decoded, or the text itself if it is written as a literal. -/
theorem attributeValue?_attributeText (s : String) :
    attributeValue? refs (attributeText s) =
      some (if attributeText s = braced (quote s) then s else refs.decode s) := by
  by_cases hliteral : attributeText s = braced (quote s)
  · rw [if_pos hliteral, hliteral, attributeValue?, toList_braced_quote]
    exact literalValue?_quote s
  · rw [if_neg hliteral]
    have hquoted : attributeText s = "\"" ++ s ++ "\"" ∧ ∀ c ∈ s.toList, c ≠ '"' := by
      rw [attributeText] at hliteral ⊢
      split at hliteral
      · exact absurd rfl hliteral
      · next hnone =>
        refine ⟨if_neg hnone, fun c hc => ?_⟩
        have hc' := List.any_eq_false.mp (Bool.eq_false_iff.mpr hnone) c hc
        simp only [Bool.or_eq_true, beq_iff_eq, not_or] at hc'
        exact hc'.1.1.1
    have hchars : (attributeText s).toList = '"' :: (s.toList ++ ['"']) := by
      rw [hquoted.1, String.append_assoc, String.toList_append, String.toList_append]
      rfl
    have hinside : ∀ c ∈ s.toList, decide (c ≠ '"') = true :=
      fun c hc => decide_eq_true (hquoted.2 c hc)
    have hdrop : (s.toList ++ ['"']).dropWhile (· ≠ '"') = ['"'] := by
      rw [List.dropWhile_append_of_pos hinside]
      rfl
    have htake : (s.toList ++ ['"']).takeWhile (· ≠ '"') = s.toList := by
      rw [List.takeWhile_append_of_pos hinside]
      exact List.append_nil _
    rw [attributeValue?, hchars]
    exact (if_pos hdrop).trans (by rw [htake, String.ofList_toList])

/-- **What a text between elements says.** A text of one line, without white space at either end, is
written so that it says itself with its references decoded, or itself if it is written as a
literal. -/
theorem childValue?_childText {s : String} (hline : Unbroken s) (htrim : Text.trim s = s) :
    childValue? refs (childText s) =
      some (if childText s = braced (quote s) then s else refs.decode s) := by
  by_cases hliteral : childText s = braced (quote s)
  · rw [if_pos hliteral, hliteral, childValue?, toList_braced_quote]
    exact literalValue?_quote s
  · rw [if_neg hliteral]
    have hnone : (s.toList.any fun c => c == '\x7b' || c == '\x7d' || c == '<' || c == '>') = false := by
      rw [Bool.eq_false_iff]
      exact fun h => hliteral (if_pos h)
    have hchild : childText s = s := by
      rw [childText, hnone]
      exact if_neg Bool.false_ne_true
    rw [hchild, childValue?]
    split
    · next rest hbrace =>
      rw [hbrace] at hnone
      cases hnone
    · rw [hnone, if_neg Bool.false_ne_true, joinedLines_eq_self hline htrim]

end

end WebForm.Component
