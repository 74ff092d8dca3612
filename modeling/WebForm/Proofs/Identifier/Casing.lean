import Mathlib
import WebForm.Proofs.Identifier
/-!
# Casing until nothing changes

One pass of casing goes through a text from left to right: it drops what stands between words, and
writes every other character as a capital where a word starts and as a small letter elsewhere.
Joining words can make new words appear, so the type identifier of a title is cased again until it
no longer changes.

That this comes to an end is seen from the words that a pass leaves. A small letter starts a word
only at the beginning or behind a digit, and a pass puts capitals there. So all passes but the first
only make letters small, and each of them loses a capital unless it changes nothing.

The value identifier has the first letter of the type identifier made small. This moves no word
boundary, so that both identifiers lead back to the same type identifier.
-/

set_option autoImplicit false

namespace WebForm.Identifier

/-! ## One pass -/

/-- Whether a word starts at a character, between the one before it, if any, and the one behind. -/
def startsWord (last : Option Char) (c : Char) (next : Option Char) : Bool :=
  last.all fun a => isBoundary a c next

/-- One pass of casing. Behind a separator everything starts anew. -/
def recase (last : Option Char) : List Char → List Char
  | [] => []
  | c :: rest =>
    if isSeparator c then recase none rest
    else (if startsWord last c rest.head? then c.toUpper else c.toLower) :: recase (some c) rest

theorem recase_cons {c : Char} (h : isSeparator c = false) (last : Option Char)
    (rest : List Char) :
    recase last (c :: rest) =
      (if startsWord last c rest.head? then c.toUpper else c.toLower) :: recase (some c) rest := by
  rw [recase, h, if_neg Bool.false_ne_true]

theorem capitalize_concat {w : List Char} (hw : w ≠ []) (c : Char) :
    capitalize (w ++ [c]) = capitalize w ++ [c.toLower] := by
  obtain ⟨d, rest, rfl⟩ := List.exists_cons_of_ne_nil hw
  rw [List.cons_append, capitalize, capitalize, List.map_append, List.cons_append]
  rfl

/-- Cutting a text into words and casing these is one pass through the text. -/
theorem flatMap_capitalize_cutWords (word cs : List Char) :
    (cutWords word cs).flatMap capitalize =
      capitalize word.reverse ++ recase word.head? cs := by
  induction cs generalizing word with
  | nil =>
    rw [cutWords, recase, List.append_nil]
    cases word with
    | nil => rfl
    | cons last before => rw [if_neg (by simp), List.flatMap_singleton]
  | cons c rest ih =>
    rw [cutWords.eq_def]
    dsimp only
    by_cases hseparator : isSeparator c = true
    · rw [if_pos hseparator, recase, if_pos hseparator]
      cases word with
      | nil => exact ih []
      | cons last before => rw [if_neg (by simp), List.flatMap_cons, ih []]; rfl
    · have hcut := recase_cons (Bool.eq_false_iff.mpr hseparator) word.head? rest
      rw [if_neg hseparator, hcut]
      cases word with
      | nil => exact ih [c]
      | cons last before =>
        have hstart : startsWord (last :: before).head? c rest.head? =
            isBoundary last c rest.head? := rfl
        dsimp only
        by_cases hboundary : isBoundary last c rest.head? = true
        · rw [if_pos hboundary, if_pos (hstart.trans hboundary), List.flatMap_cons, ih [c]]
          rfl
        · rw [if_neg hboundary, if_neg (hstart ▸ hboundary), ih (c :: last :: before),
            List.reverse_cons, capitalize_concat (by simp), List.append_assoc]
          rfl

theorem pascal_eq_recase (cs : List Char) : pascal cs = recase none cs := by
  rw [pascal, words, flatMap_capitalize_cutWords]
  rfl

theorem words_cons {c : Char} (h : isSeparator c = false) (rest : List Char) :
    words (c :: rest) = cutWords [c] rest := by
  rw [words, cutWords, h, if_neg Bool.false_ne_true]

theorem pascal_cons {c : Char} (h : isSeparator c = false) (rest : List Char) :
    pascal (c :: rest) = c.toUpper :: recase (some c) rest := by
  rw [pascal_eq_recase, recase_cons h]
  rfl

/-- The two ways of casing differ in the first character only. -/
theorem camel_cons {c : Char} (h : isSeparator c = false) (rest : List Char) :
    camel (c :: rest) = c.toLower :: recase (some c) rest := by
  obtain ⟨tail, ws, hwords⟩ := exists_cutWords_eq_cons (List.cons_ne_nil c []) rest
  have hpass := flatMap_capitalize_cutWords [c] rest
  rw [hwords, List.flatMap_cons, List.reverse_singleton, List.singleton_append] at hpass
  have hrest : tail.map Char.toLower ++ ws.flatMap capitalize = recase (some c) rest :=
    (List.cons.inj hpass).2
  rw [camel, words_cons h, hwords, List.reverse_singleton, List.singleton_append]
  dsimp only
  rw [List.map_cons, List.cons_append, hrest]

/-! ## Repeated passes -/

/-- No small letter starts a word in a text behind a character: none is the first of all, and none
stands behind a digit. -/
def IsRaised (last : Option Char) : List Char → Prop
  | [] => True
  | c :: rest => (last.all Char.isDigit = true → c.isLower = false) ∧ IsRaised (some c) rest

theorem isDigit_of_isDigit_toUpper {c : Char} (h : c.toUpper.isDigit = true) :
    c.isDigit = true := by
  by_cases hlower : c.isLower = true
  · have halpha : c.toUpper.isUpper = true := by
      rw [Char.isUpper_toUpper_eq_isAlpha, Char.isAlpha, hlower, Bool.or_true]
    delta Char.isDigit at h
    delta Char.isUpper at halpha
    grind
  · rwa [Char.toUpper_eq_of_not_isLower hlower] at h

theorem isDigit_of_isDigit_toLower {c : Char} (h : c.toLower.isDigit = true) :
    c.isDigit = true := by
  by_cases hupper : c.isUpper = true
  · have halpha : c.toLower.isLower = true := by
      rw [Char.isLower_toLower_eq_isAlpha, Char.isAlpha, hupper, Bool.true_or]
    delta Char.isDigit at h
    delta Char.isLower at halpha
    grind
  · rwa [Char.toLower_eq_of_not_isUpper hupper] at h

/-- Behind a digit only a letter starts a word. -/
theorem isAlpha_of_isBoundary_eq_false {a c : Char} {next : Option Char} (ha : a.isDigit = true)
    (h : isBoundary a c next = false) : c.isAlpha = false := by
  simp only [isBoundary, ha, Bool.or_eq_false_iff, Bool.true_and] at h
  rw [Char.isAlpha, h.1.2, h.1.1.2]
  rfl

/-- A pass raises what starts a word. -/
theorem isRaised_recase (cs : List Char) : ∀ {before last : Option Char},
    (before.all Char.isDigit = true → last.all Char.isDigit = true) →
      IsRaised before (recase last cs) := by
  induction cs with
  | nil => exact fun _ => trivial
  | cons c rest ih =>
    intro before last hbefore
    by_cases hseparator : isSeparator c = true
    · rw [recase, if_pos hseparator]
      exact ih fun _ => rfl
    · rw [recase_cons (Bool.eq_false_iff.mpr hseparator)]
      by_cases hstart : startsWord last c rest.head? = true
      · rw [if_pos hstart]
        exact ⟨fun _ => Char.isLower_toUpper_eq_false c, ih isDigit_of_isDigit_toUpper⟩
      · rw [if_neg hstart]
        refine ⟨fun hdigit => ?_, ih isDigit_of_isDigit_toLower⟩
        -- inside a word, and behind a digit: so this is no letter
        cases last with
        | none => exact absurd rfl hstart
        | some a =>
          rw [Char.isLower_toLower_eq_isAlpha]
          exact isAlpha_of_isBoundary_eq_false (hbefore hdigit) (Bool.eq_false_iff.mpr hstart)

theorem isRaised_pascal (cs : List Char) : IsRaised none (pascal cs) := by
  rw [pascal_eq_recase]
  exact isRaised_recase cs fun h => h

/-- What starts a word is no small letter in a raised text. -/
theorem IsRaised.isLower_eq_false {last : Option Char} {c : Char} {rest : List Char}
    (h : IsRaised last (c :: rest)) {next : Option Char} (hstart : startsWord last c next = true) :
    c.isLower = false := by
  cases last with
  | none => exact h.1 rfl
  | some a =>
    by_cases hdigit : a.isDigit = true
    · exact h.1 hdigit
    · rw [Bool.eq_false_iff]
      intro hlower
      -- a small letter starts a word only behind a digit
      have hupper : c.isUpper = false := Bool.eq_false_iff.mpr (Char.not_isUpper_of_isLower hlower)
      have hnumeral : c.isDigit = false := by
        delta Char.isLower at hlower
        delta Char.isDigit
        grind
      simp [startsWord, isBoundary, hupper, hnumeral, hdigit] at hstart

/-- A pass through a raised text makes capitals small, unless it changes nothing. -/
theorem recase_eq_self_or_countP_lt {cs : List Char} (hcs : ∀ c ∈ cs, isSeparator c = false) :
    ∀ {last : Option Char}, IsRaised last cs →
      recase last cs = cs ∨ (recase last cs).countP Char.isUpper < cs.countP Char.isUpper := by
  induction cs with
  | nil => exact fun _ => .inl rfl
  | cons c rest ih =>
    intro last hraised
    rw [List.forall_mem_cons] at hcs
    have hrest := ih hcs.2 hraised.2
    rw [recase_cons hcs.1]
    by_cases hstart : startsWord last c rest.head? = true
    · have hlower : ¬ c.isLower = true := by simp [hraised.isLower_eq_false hstart]
      rw [if_pos hstart, Char.toUpper_eq_of_not_isLower hlower, List.countP_cons, List.countP_cons]
      rcases hrest with hsame | hless
      · exact .inl (by rw [hsame])
      · exact .inr (Nat.add_lt_add_right hless _)
    · rw [if_neg hstart]
      by_cases hupper : c.isUpper = true
      · -- this capital is lost
        refine .inr ?_
        rw [List.countP_cons, List.countP_cons, hupper, if_pos rfl, Char.isUpper_toLower_eq_false,
          if_neg Bool.false_ne_true]
        rcases hrest with hsame | hless
        · rw [hsame]
          omega
        · omega
      · rw [Char.toLower_eq_of_not_isUpper hupper, List.countP_cons, List.countP_cons]
        rcases hrest with hsame | hless
        · exact .inl (by rw [hsame])
        · exact .inr (Nat.add_lt_add_right hless _)

theorem isSeparator_eq_false_of_isAlphanum {c : Char} (h : c.isAlphanum = true) :
    isSeparator c = false := by
  rw [Bool.eq_false_iff]
  intro hs
  simp only [isSeparator, Bool.or_eq_true, beq_iff_eq] at hs
  rcases hs with (rfl | rfl) | rfl <;> exact absurd h (by decide)

theorem IsWord.forall_mem {cs : List Char} (h : IsWord cs) : ∀ c ∈ cs, c.isAlphanum = true := by
  obtain ⟨c, rest, rfl, hc, hrest⟩ := h
  rw [List.forall_mem_cons, Char.isAlphanum, hc, Bool.true_or]
  exact ⟨rfl, hrest⟩

/-- As many rounds as there are capitals are enough. -/
theorem pascal_settle {rounds : Nat} {cs : List Char} (hword : IsWord cs)
    (hraised : IsRaised none cs) (hrounds : cs.countP Char.isUpper ≤ rounds) :
    pascal (settle rounds cs) = settle rounds cs := by
  induction rounds generalizing cs with
  | zero =>
    have hpass := recase_eq_self_or_countP_lt
      (fun c hc => isSeparator_eq_false_of_isAlphanum (hword.forall_mem c hc)) hraised
    rw [← pascal_eq_recase] at hpass
    rw [settle]
    exact hpass.resolve_right (by omega)
  | succ rounds ih =>
    rw [settle]
    by_cases hsettled : pascal cs = cs
    · rw [if_pos hsettled, hsettled]
    · rw [if_neg hsettled]
      have hpass := recase_eq_self_or_countP_lt
        (fun c hc => isSeparator_eq_false_of_isAlphanum (hword.forall_mem c hc)) hraised
      rw [← pascal_eq_recase] at hpass
      have hless := hpass.resolve_left hsettled
      exact ih hword.isTitle.isWord_pascal (isRaised_pascal cs) (by omega)

/-- Settling is nothing but repeated passes. -/
theorem exists_settle_eq_iterate (rounds : Nat) (cs : List Char) :
    ∃ n, settle rounds cs = pascal^[n] cs := by
  induction rounds generalizing cs with
  | zero => exact ⟨0, rfl⟩
  | succ rounds ih =>
    rw [settle]
    by_cases hsettled : pascal cs = cs
    · exact ⟨0, if_pos hsettled⟩
    · obtain ⟨n, hn⟩ := ih (pascal cs)
      exact ⟨n + 1, by rw [if_neg hsettled, hn, Function.iterate_succ_apply]⟩

theorem settle_of_settled {cs : List Char} (h : pascal cs = cs) (rounds : Nat) :
    settle rounds cs = cs := by
  cases rounds with
  | zero => rfl
  | succ rounds => rw [settle, if_pos h]

end WebForm.Identifier
