import WebForm.Proofs.Script.Value
/-!
# Literals are faithful

What is written for a value is a literal of this value and of no other one, and nothing of the text
is left over. Strings end at their closing quote because every quote inside of them is escaped,
words and numbers end where a comma, a bracket or a blank follows, and a number is read back because
its digits are in the neighbourhood of the double. So values that are written alike are the same,
down to the order of members and to the kind of a number.
-/

set_option autoImplicit false

namespace WebForm.Script

open Source Numeral

/-! ## Tokens of pieces -/

/-- What is behind a word or a number and does not belong to it. -/
def EndsToken (rest : List Char) : Prop :=
  rest.takeWhile isIdentifierPart = [] ∧ rest.takeWhile isPart = []

/-- A character that belongs to a class without blanks is no blank. -/
theorem isBlank_eq_false {p : Char → Bool} (hblanks : [' ', '\t', '\n', '\r'].all (!p ·) = true)
    {c : Char} (h : p c = true) : isBlank c = false := by
  rw [Bool.eq_false_iff]
  intro hblank
  have hmem : c ∈ [' ', '\t', '\n', '\r'] := by simpa [isBlank, or_assoc] using hblank
  have hnone := List.all_eq_true.mp hblanks c hmem
  rw [h] at hnone
  cases hnone

theorem nextToken?_word {s : String} {rest : List Char} (hs : isIdentifier s = true)
    (hrest : EndsToken rest) : nextToken? (s.toList ++ rest) = some (.word s, rest) := by
  rw [isIdentifier] at hs
  cases hchars : s.toList with
  | nil =>
    rw [hchars] at hs
    cases hs
  | cons c cs =>
    rw [hchars, Bool.and_eq_true, List.all_eq_true] at hs
    rw [List.cons_append, nextToken?, isBlank_eq_false rfl hs.1, if_neg Bool.false_ne_true,
      tokenAt?, if_pos hs.1, takeWhile_append_eq_left hs.2 hrest.1,
      dropWhile_append_eq_right hs.2 hrest.1, ← hchars, String.ofList_toList]

theorem nextToken?_number {c : Char} {cs rest : List Char} (hc : isNumberStart c = true)
    (hcs : ∀ d ∈ cs, isPart d = true) (hrest : EndsToken rest) :
    nextToken? (c :: cs ++ rest) = some (.number (String.ofList (c :: cs)), rest) := by
  have hidentifier : isIdentifierStart c = false := by
    rcases (Bool.or_eq_true _ _).mp hc with hdigit | hminus
    · exact not_isIdentifierStart_of_isDigit hdigit
    · rw [eq_of_beq hminus]
      decide
  rw [List.cons_append, nextToken?, isBlank_eq_false rfl hc, if_neg Bool.false_ne_true,
    tokenAt?, hidentifier, if_neg Bool.false_ne_true, if_pos hc,
    takeWhile_append_eq_left hcs hrest.2, dropWhile_append_eq_right hcs hrest.2]

/-- An escaped character is read back. -/
theorem quoted?_escapeStringChar (c : Char) (cs : List Char) :
    quoted? (escapeStringChar c ++ cs) = (quoted? cs).map fun (s, tail) => (c :: s, tail) := by
  unfold escapeStringChar
  split
  · rfl
  · rfl
  · rfl
  · rfl
  · rfl
  · next hbackslash hquote hline hreturn htab =>
    have hend : isLineEnd c = false := by
      rw [isLineEnd, Bool.or_eq_false_iff]
      exact ⟨beq_eq_false_iff_ne.mpr hline, beq_eq_false_iff_ne.mpr hreturn⟩
    have hstop : ¬(decide (c = '\\') || isLineEnd c) = true := by
      rw [hend, Bool.or_false, decide_eq_true_iff]
      exact hbackslash
    rw [List.singleton_append, quoted?]
    · exact if_neg hstop
    · exact hquote
    · exact fun _ _ h => absurd h hbackslash

theorem quoted?_flatMap_escapeStringChar (s rest : List Char) :
    quoted? (s.flatMap escapeStringChar ++ '\x27' :: rest) = some (s, rest) := by
  induction s with
  | nil => rfl
  | cons c s ih =>
    rw [List.flatMap_cons, List.append_assoc, quoted?_escapeStringChar, ih]
    rfl

theorem nextToken?_quote (s : String) (rest : List Char) :
    nextToken? ((quote s).toList ++ rest) = some (.string s, rest) := by
  have hread := quoted?_flatMap_escapeStringChar s.toList rest
  have hchars : (quote s).toList ++ rest =
      '\x27' :: (s.toList.flatMap escapeStringChar ++ '\x27' :: rest) := by
    simp [quote]
  have hopen : ∀ cs, nextToken? ('\x27' :: cs) =
      (quoted? cs).map fun (s, tail) => (.string (String.ofList s), tail) := fun _ => rfl
  rw [hchars, hopen, hread, Option.map_some]
  dsimp only
  rw [String.ofList_toList]

theorem nextToken?_propertyKey (name : String) {rest : List Char} (hrest : EndsToken rest) :
    nextToken? ((propertyKey name).toList ++ rest) = some (keyToken name, rest) := by
  rw [propertyKey, keyToken]
  split
  next hname => exact nextToken?_word hname hrest
  next => exact nextToken?_quote name rest

/-! ## Numbers -/

/-- A number with its sign is a token. -/
theorem nextToken?_signed (negative : Bool) {cs rest : List Char} (h : IsUnsigned cs)
    (hrest : EndsToken rest) :
    nextToken? (signOf negative ++ cs ++ rest) =
      some (.number (String.ofList (signOf negative ++ cs)), rest) := by
  cases negative with
  | true => exact nextToken?_number rfl h.parts hrest
  | false =>
    obtain ⟨c, ds, rfl, hc, -⟩ := h.starts
    have hstart : isNumberStart c = true := by
      rw [isDigit_eq] at hc
      rw [isNumberStart, hc, Bool.true_or]
    exact nextToken?_number hstart (fun d hd => h.parts d (List.mem_cons_of_mem c hd)) hrest

/-- A number has no zero before its digits. -/
theorem leadsWithZero_signed (negative : Bool) {cs : List Char} (h : IsUnsigned cs) :
    leadsWithZero (takeSign (signOf negative ++ cs)).2 = false := by
  obtain ⟨c, ds, rfl, hc, hzero⟩ := h.starts
  have htake := takeSign_append negative [c] ds (by simpa [AreDigits] using hc)
    (List.cons_ne_nil _ _)
  rw [List.singleton_append] at htake
  rw [htake]
  dsimp only
  unfold leadsWithZero
  split
  next d _ heq =>
    obtain ⟨rfl, rfl⟩ := List.cons.inj heq
    have hnone : (d :: _).takeWhile isDigit = [] := hzero rfl
    rw [Bool.eq_false_iff]
    intro hd
    rw [List.takeWhile_cons_of_pos hd] at hnone
    cases hnone
  next => rfl

/-- The text of an integer is its digits behind its sign. -/
theorem toList_toString_int (n : ℤ) :
    (toString n).toList = signOf (decide (n < 0)) ++ Decimal.digitsOf n.natAbs := by
  cases n with
  | ofNat n =>
    have hsign : decide (Int.ofNat n < 0) = false :=
      decide_eq_false (Int.not_lt.mpr (Int.natCast_nonneg n))
    rw [hsign, show toString (Int.ofNat n) = toString n from rfl, Nat.toString_eq_ofList_toDigits,
      String.toList_ofList]
    rfl
  | negSucc n =>
    have hsign : decide (Int.negSucc n < 0) = true := decide_eq_true (Int.negSucc_lt_zero n)
    rw [hsign, show toString (Int.negSucc n) = "-" ++ toString (n + 1) from rfl,
      Nat.toString_eq_ofList_toDigits, String.toList_append, String.toList_ofList
        (l := Nat.toDigits 10 (n + 1))]
    rfl

theorem numberValue?_integer (n : WordInt) :
    numberValue? (toString n.val) = some (.integer n) := by
  have hunsigned := isUnsigned_digitsOf n.val.natAbs
  have hwhole : isWhole (toString n.val).toList = true := by
    rw [toList_toString_int, isWhole, List.all_append, Bool.and_eq_true]
    constructor
    · cases decide (n.val < 0) <;> rfl
    · exact List.all_eq_true.mpr fun c hc => by rw [areDigits_digitsOf _ c hc, Bool.true_or]
  have hzero : (decide (n.val < 0) && n.val.natAbs == 0) = false := by
    rw [Bool.and_eq_false_iff, decide_eq_false_iff_not, beq_eq_false_iff_ne]
    omega
  have hvalue : (if decide (n.val < 0) then -(n.val.natAbs : ℤ) else n.val.natAbs) = n.val := by
    by_cases hneg : n.val < 0
    · rw [decide_eq_true hneg, if_pos rfl]
      omega
    · rw [decide_eq_false hneg, if_neg Bool.false_ne_true]
      omega
  have hword : wordInt? (toString n.val).toList
      ⟨decide (n.val < 0), n.val.natAbs, (Decimal.digitsOf n.val.natAbs).length, 0⟩ = some n := by
    rw [wordInt?, hwhole]
    dsimp only
    rw [hzero, hvalue]
    exact dif_pos n.property
  rw [numberValue?, toList_toString_int, leadsWithZero_signed _ hunsigned,
    if_neg Bool.false_ne_true, ofChars?_digitsOf, Option.bind_some, ← toList_toString_int, hword]

theorem numberValue?_double (d : Double) : numberValue? d.documentText = some (.double d) := by
  obtain ⟨body, hchars, hunsigned, hwhole⟩ := d.exists_documentText
  have hnearest := d.toDouble?_documentText
  obtain ⟨n, hread, hvalue⟩ := Option.bind_eq_some_iff.mp hnearest
  have hword : wordInt? d.documentText.toList n = none := by
    rw [wordInt?, hwhole]
    rfl
  rw [numberValue?, hread, Option.bind_some, hword, hvalue, hchars,
    leadsWithZero_signed _ hunsigned, if_neg Bool.false_ne_true]
  rfl

/-- The text of a number has the value of the number. -/
theorem numberValue?_numberText (n : JsonNumber) :
    numberValue? (Json.numberText n) = some n := by
  cases n with
  | integer n => exact numberValue?_integer n
  | double d => exact numberValue?_double d

theorem scalar?_numberText (n : JsonNumber) :
    scalar? (.number (Json.numberText n)) = some (.number n) := by
  rw [scalar?, numberValue?_numberText]
  rfl

theorem nextToken?_numberText (n : JsonNumber) {rest : List Char} (hrest : EndsToken rest) :
    nextToken? ((Json.numberText n).toList ++ rest) =
      some (.number (Json.numberText n), rest) := by
  obtain ⟨negative, cs, hchars, hunsigned⟩ :
      ∃ negative cs, (Json.numberText n).toList = signOf negative ++ cs ∧ IsUnsigned cs := by
    cases n with
    | integer n => exact ⟨_, _, toList_toString_int n.val, isUnsigned_digitsOf _⟩
    | double d =>
      obtain ⟨body, hchars, hunsigned, -⟩ := d.exists_documentText
      exact ⟨_, _, hchars, hunsigned⟩
  rw [hchars, nextToken?_signed negative hunsigned hrest, ← hchars, String.ofList_toList]

/-! ## Blanks -/

theorem Denotes.blank {cs rest : List Char} {v : Json} (h : Denotes cs v rest) :
    Denotes (' ' :: cs) v rest := by
  cases h with
  | scalar h hvalue => exact .scalar h hvalue
  | list h hitems => exact .list h hitems
  | record h hmembers => exact .record h hmembers

theorem DenotesItems.blank {cs rest : List Char} {items : List Json}
    (h : DenotesItems cs items rest) : DenotesItems (' ' :: cs) items rest := by
  cases h with
  | nil h => exact .nil h
  | last hvalue h => exact .last hvalue.blank h
  | cons hvalue h hitems => exact .cons hvalue.blank h hitems

theorem DenotesMembers.blank {cs rest : List Char} {members : List (String × Json)}
    (h : DenotesMembers cs members rest) : DenotesMembers (' ' :: cs) members rest := by
  cases h with
  | nil h => exact .nil h
  | last hmember h =>
    cases hmember with
    | mk hkey hname hcolon hvalue => exact .last (.mk hkey hname hcolon hvalue) h
  | cons hmember h hmembers =>
    cases hmember with
    | mk hkey hname hcolon hvalue => exact .cons (.mk hkey hname hcolon hvalue) h hmembers

/-! ## Literals -/

theorem denotes_word {s : String} {v : Json} {rest : List Char} (hs : isIdentifier s = true)
    (hvalue : scalar? (.word s) = some v) (hrest : EndsToken rest) :
    Denotes (s.toList ++ rest) v rest :=
  .scalar (nextToken?_word hs hrest) hvalue

/-- A member: its key, a colon and a blank, and its value. -/
theorem denotesMember_append {key text : String} {v : Json} {rest : List Char}
    (h : Denotes (text.toList ++ rest) v rest) :
    DenotesMember ((propertyKey key ++ ": " ++ text).toList ++ rest) (key, v) rest := by
  have hchars : (propertyKey key ++ ": " ++ text).toList ++ rest =
      (propertyKey key).toList ++ ':' :: ' ' :: (text.toList ++ rest) := by
    simp
  have hname : keyName? (keyToken key) = some key := by
    rw [keyToken]
    split <;> rfl
  rw [hchars]
  exact .mk (nextToken?_propertyKey key ⟨rfl, rfl⟩) hname rfl h.blank

mutual

/-- **What is written for a value denotes the value.** -/
theorem denotes_literal (v : Json) {rest : List Char} (hrest : EndsToken rest) :
    Denotes ((literal v).toList ++ rest) v rest := by
  match v with
  | .null => exact denotes_word (by decide) rfl hrest
  | .bool true => exact denotes_word (by decide) rfl hrest
  | .bool false => exact denotes_word (by decide) rfl hrest
  | .number n => exact .scalar (nextToken?_numberText n hrest) (scalar?_numberText n)
  | .string s => exact .scalar (nextToken?_quote s rest) rfl
  | .array [] => exact .list rfl (.nil rfl)
  | .array (first :: others) =>
    have hitems := denotesItems_literalItems (first :: others) (List.cons_ne_nil _ _) rest
    have hchars : (literal (.array (first :: others))).toList ++ rest =
        '[' :: ((", ".intercalate (literalItems (first :: others))).toList ++ ']' :: rest) := by
      simp [literal]
    rw [hchars]
    exact .list rfl hitems
  | .object [] => exact .record rfl (.nil rfl)
  | .object (first :: others) =>
    have hmembers := denotesMembers_literalMembers (first :: others) (List.cons_ne_nil _ _) rest
    have hchars : (literal (.object (first :: others))).toList ++ rest =
        '\x7b' :: ' ' :: ((", ".intercalate (literalMembers (first :: others))).toList ++
          ' ' :: '\x7d' :: rest) := by
      simp [literal]
    rw [hchars]
    exact .record rfl hmembers.blank

/-- What is written for items, one after the other. -/
theorem denotesItems_literalItems (items : List Json) (hne : items ≠ []) (rest : List Char) :
    DenotesItems ((", ".intercalate (literalItems items)).toList ++ ']' :: rest) items rest := by
  match items with
  | [] => exact absurd rfl hne
  | [v] => exact .last (denotes_literal v ⟨rfl, rfl⟩) rfl
  | v :: second :: others =>
    have hitems := denotesItems_literalItems (second :: others) (List.cons_ne_nil _ _) rest
    rw [literalItems, literalItems, String.intercalate_cons_cons, ← literalItems]
    simp only [String.toList_append, List.append_assoc]
    exact .cons (denotes_literal v ⟨rfl, rfl⟩) rfl hitems.blank

/-- What is written for members, one after the other. -/
theorem denotesMembers_literalMembers (members : List (String × Json)) (hne : members ≠ [])
    (rest : List Char) :
    DenotesMembers ((", ".intercalate (literalMembers members)).toList ++ ' ' :: '\x7d' :: rest)
      members rest := by
  match members with
  | [] => exact absurd rfl hne
  | [(key, v)] => exact .last (denotesMember_append (denotes_literal v ⟨rfl, rfl⟩)) rfl
  | (key, v) :: (key', v') :: others =>
    have hmembers :=
      denotesMembers_literalMembers ((key', v') :: others) (List.cons_ne_nil _ _) rest
    rw [literalMembers, literalMembers, String.intercalate_cons_cons, ← literalMembers]
    rw [String.toList_append, String.toList_append, List.append_assoc, List.append_assoc]
    exact .cons (denotesMember_append (denotes_literal v ⟨rfl, rfl⟩)) rfl hmembers.blank

end

/-- **A literal is read in one way.** Reading consumes the whole text and gives back the value, and
no two values are written alike. -/
theorem denotes_literal_iff :
    (∀ (v w : Json) (rest : List Char), Denotes (literal v).toList w rest ↔ w = v ∧ rest = []) ∧
      Function.Injective literal := by
  have hread : ∀ v : Json, Denotes (literal v).toList v [] := by
    intro v
    have hwhole : Denotes ((literal v).toList ++ []) v [] := denotes_literal v ⟨rfl, rfl⟩
    rwa [List.append_nil] at hwhole
  refine ⟨fun v w rest => ⟨fun h => h.unique (hread v), ?_⟩, fun v w h => ?_⟩
  · rintro ⟨rfl, rfl⟩
    exact hread w
  · have hsame : Denotes (literal v).toList w [] := by
      rw [h]
      exact hread w
    exact ((hread v).unique hsame).1

end WebForm.Script
