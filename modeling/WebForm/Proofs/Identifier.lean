import WebForm.Identifier
import WebForm.Proofs.Outcome
import WebForm.Source.Literal
/-!
# Identifiers are words

The names that a title gives are plain identifiers of the language that is generated: they start
with a letter and go on with letters and digits. Casing keeps this, because cutting into words
drops separators only and never the first letter.
-/

set_option autoImplicit false

namespace WebForm.Identifier

open Source

/-! ## Casing of single characters -/

theorem isAlpha_toUpper {c : Char} (h : c.isAlpha = true) : c.toUpper.isAlpha = true := by
  delta Char.isAlpha Char.isUpper Char.isLower Char.toUpper at *
  grind

theorem isAlpha_toLower {c : Char} (h : c.isAlpha = true) : c.toLower.isAlpha = true := by
  delta Char.toLower
  split
  next hupper =>
    have hlower : 'a'.val ≤ c.val + 32 ∧ c.val + 32 ≤ 'z'.val := by grind
    delta Char.isAlpha Char.isUpper Char.isLower
    grind
  · exact h

theorem isAlphanum_toUpper {c : Char} (h : c.isAlphanum = true) : c.toUpper.isAlphanum = true := by
  delta Char.isAlphanum at *
  rcases (Bool.or_eq_true ..).mp h with halpha | hdigit
  · rw [isAlpha_toUpper halpha, Bool.true_or]
  · -- a digit is not a letter of either case, so that it stays as it is
    delta Char.toUpper
    split
    next hlower =>
      delta Char.isDigit at hdigit
      grind
    · rw [hdigit, Bool.or_true]

theorem isAlphanum_toLower {c : Char} (h : c.isAlphanum = true) : c.toLower.isAlphanum = true := by
  delta Char.isAlphanum at *
  rcases (Bool.or_eq_true ..).mp h with halpha | hdigit
  · rw [isAlpha_toLower halpha, Bool.true_or]
  · delta Char.toLower
    split
    next hupper =>
      delta Char.isDigit at hdigit
      grind
    · rw [hdigit, Bool.or_true]

/-! ## Words -/

/-- What holds of the current word and of all characters of a text but separators holds of all
words that the text is cut into. -/
theorem forall_mem_cutWords {P : Char → Prop} {word cs : List Char} (hword : ∀ c ∈ word, P c)
    (hcs : ∀ c ∈ cs, isSeparator c = false → P c) :
    ∀ w ∈ cutWords word cs, ∀ c ∈ w, P c := by
  induction cs generalizing word with
  | nil =>
    intro w hw c hc
    rw [cutWords] at hw
    by_cases hempty : word.isEmpty = true
    · rw [if_pos hempty] at hw
      cases hw
    · rw [if_neg hempty, List.mem_singleton] at hw
      rw [hw, List.mem_reverse] at hc
      exact hword c hc
  | cons d rest ih =>
    have hrest : ∀ c ∈ rest, isSeparator c = false → P c :=
      fun c hc => hcs c (List.mem_cons_of_mem d hc)
    have hnone : ∀ c ∈ ([] : List Char), P c := fun c hc => by cases hc
    -- a word is closed at a separator and at a boundary, and both times the same way
    have hclose : ∀ ws : List (List Char), (∀ w ∈ ws, ∀ c ∈ w, P c) →
        ∀ w ∈ word.reverse :: ws, ∀ c ∈ w, P c := by
      intro ws hws
      rw [List.forall_mem_cons]
      exact ⟨fun c hc => hword c (List.mem_reverse.mp hc), hws⟩
    rw [cutWords.eq_def]
    dsimp only
    by_cases hseparator : isSeparator d = true
    · rw [if_pos hseparator]
      by_cases hempty : word.isEmpty = true
      · rw [if_pos hempty]
        exact ih hnone hrest
      · rw [if_neg hempty]
        exact hclose _ (ih hnone hrest)
    · have hd : P d := hcs d List.mem_cons_self (Bool.eq_false_iff.mpr hseparator)
      have hstart : ∀ c ∈ [d], P c := fun c hc => List.mem_singleton.mp hc ▸ hd
      rw [if_neg hseparator]
      cases word with
      | nil => exact ih hstart hrest
      | cons last before =>
        dsimp only
        by_cases hboundary : isBoundary last d rest.head? = true
        · rw [if_pos hboundary]
          exact hclose _ (ih hstart hrest)
        · rw [if_neg hboundary]
          exact ih (List.forall_mem_cons.mpr ⟨hd, hword⟩) hrest

/-- A word that has been started is the first one, and it keeps its start. -/
theorem exists_cutWords_eq_cons {word : List Char} (hword : word ≠ []) (cs : List Char) :
    ∃ tail ws, cutWords word cs = (word.reverse ++ tail) :: ws := by
  induction cs generalizing word with
  | nil =>
    rw [cutWords, if_neg (by rwa [List.isEmpty_iff])]
    exact ⟨[], [], by rw [List.append_nil]⟩
  | cons d rest ih =>
    -- where the word is closed nothing is added to it
    have hkept : ∀ ws, ∃ tail ws', word.reverse :: ws = (word.reverse ++ tail) :: ws' :=
      fun ws => ⟨[], ws, by rw [List.append_nil]⟩
    rw [cutWords.eq_def]
    dsimp only
    by_cases hseparator : isSeparator d = true
    · rw [if_pos hseparator, if_neg (by rwa [List.isEmpty_iff])]
      exact hkept _
    · rw [if_neg hseparator]
      cases word with
      | nil => exact absurd rfl hword
      | cons last before =>
        dsimp only
        by_cases hboundary : isBoundary last d rest.head? = true
        · rw [if_pos hboundary]
          exact hkept _
        · rw [if_neg hboundary]
          obtain ⟨tail, ws, h⟩ := ih (List.cons_ne_nil d (last :: before))
          refine ⟨d :: tail, ws, ?_⟩
          rw [h, List.reverse_cons, List.append_assoc, List.singleton_append]

/-! ## Whole identifiers -/

/-- A letter with letters, digits and separators behind it. -/
def IsTitle (cs : List Char) : Prop :=
  ∃ c rest, cs = c :: rest ∧ c.isAlpha = true ∧
    ∀ d ∈ rest, isSeparator d = false → d.isAlphanum = true

/-- A letter with letters and digits behind it. -/
def IsWord (cs : List Char) : Prop :=
  ∃ c rest, cs = c :: rest ∧ c.isAlpha = true ∧ ∀ d ∈ rest, d.isAlphanum = true

theorem IsWord.isTitle {cs : List Char} (h : IsWord cs) : IsTitle cs := by
  obtain ⟨c, rest, hcs, hc, hrest⟩ := h
  exact ⟨c, rest, hcs, hc, fun d hd _ => hrest d hd⟩

/-- The first word starts with the first letter, and all words are made of letters and digits. -/
theorem IsTitle.words {cs : List Char} (h : IsTitle cs) :
    ∃ c rest ws, Identifier.words cs = (c :: rest) :: ws ∧ c.isAlpha = true ∧
      (∀ d ∈ rest, d.isAlphanum = true) ∧ ∀ w ∈ ws, ∀ d ∈ w, d.isAlphanum = true := by
  obtain ⟨c, rest, rfl, hc, hrest⟩ := h
  have hseparator : isSeparator c = false := by
    rw [Bool.eq_false_iff]
    intro hs
    simp only [isSeparator, Bool.or_eq_true, beq_iff_eq] at hs
    rcases hs with (rfl | rfl) | rfl <;> exact absurd hc (by decide)
  have hwords : Identifier.words (c :: rest) = cutWords [c] rest := by
    rw [Identifier.words, cutWords, hseparator, if_neg Bool.false_ne_true]
  have hstart : ∀ d ∈ [c], d.isAlphanum = true := by
    intro d hd
    rw [List.mem_singleton.mp hd, Char.isAlphanum, hc, Bool.true_or]
  have hall := forall_mem_cutWords hstart hrest
  obtain ⟨tail, ws, hcut⟩ := exists_cutWords_eq_cons (List.cons_ne_nil c []) rest
  rw [hcut, List.forall_mem_cons] at hall
  refine ⟨c, tail, ws, ?_, hc, ?_, hall.2⟩
  · rw [hwords, hcut, List.reverse_singleton, List.singleton_append]
  · intro d hd
    exact hall.1 d (List.mem_append_right _ hd)

theorem isAlphanum_of_mem_capitalize {w : List Char} (hw : ∀ c ∈ w, c.isAlphanum = true) :
    ∀ c ∈ capitalize w, c.isAlphanum = true := by
  cases w with
  | nil =>
    intro c hc
    cases hc
  | cons d rest =>
    rw [capitalize, List.forall_mem_cons, List.forall_mem_map]
    rw [List.forall_mem_cons] at hw
    exact ⟨isAlphanum_toUpper hw.1, fun c hc => isAlphanum_toLower (hw.2 c hc)⟩

theorem isAlphanum_of_mem_flatMap_capitalize {ws : List (List Char)}
    (hws : ∀ w ∈ ws, ∀ c ∈ w, c.isAlphanum = true) :
    ∀ c ∈ ws.flatMap capitalize, c.isAlphanum = true := by
  intro c hc
  obtain ⟨w, hw, hc⟩ := List.mem_flatMap.mp hc
  exact isAlphanum_of_mem_capitalize (hws w hw) c hc

theorem IsTitle.isWord_pascal {cs : List Char} (h : IsTitle cs) : IsWord (pascal cs) := by
  obtain ⟨c, rest, ws, hwords, hc, hrest, hws⟩ := h.words
  refine ⟨c.toUpper, rest.map Char.toLower ++ ws.flatMap capitalize, ?_, isAlpha_toUpper hc, ?_⟩
  · rw [pascal, hwords, List.flatMap_cons, capitalize, List.cons_append]
  · rw [List.forall_mem_append, List.forall_mem_map]
    exact ⟨fun d hd => isAlphanum_toLower (hrest d hd), isAlphanum_of_mem_flatMap_capitalize hws⟩

theorem IsTitle.isWord_camel {cs : List Char} (h : IsTitle cs) : IsWord (camel cs) := by
  obtain ⟨c, rest, ws, hwords, hc, hrest, hws⟩ := h.words
  refine ⟨c.toLower, rest.map Char.toLower ++ ws.flatMap capitalize, ?_, isAlpha_toLower hc, ?_⟩
  · rw [camel, hwords]
    rfl
  · rw [List.forall_mem_append, List.forall_mem_map]
    exact ⟨fun d hd => isAlphanum_toLower (hrest d hd), isAlphanum_of_mem_flatMap_capitalize hws⟩

theorem IsWord.settle {cs : List Char} (h : IsWord cs) (rounds : Nat) :
    IsWord (settle rounds cs) := by
  induction rounds generalizing cs with
  | zero => exact h
  | succ rounds ih =>
    rw [Identifier.settle]
    by_cases hsettled : pascal cs = cs
    · rwa [if_pos hsettled]
    · rw [if_neg hsettled]
      exact ih h.isTitle.isWord_pascal

theorem isTitle_usable {title : String} (h : usable title ≠ []) : IsTitle (usable title) := by
  obtain ⟨c, rest, hcons⟩ := List.exists_cons_of_ne_nil h
  refine ⟨c, rest, hcons, ?_, ?_⟩
  · have hhead := List.head?_dropWhile_not (fun c : Char => !c.isAlpha)
      (title.toList.map fun c => if c.isAlphanum then c else ' ')
    rw [← usable, hcons] at hhead
    simpa using hhead
  · intro d hd hseparator
    have hmem : d ∈ title.toList.map fun c => if c.isAlphanum then c else ' ' := by
      refine (List.dropWhile_suffix (fun c : Char => !c.isAlpha)).mem ?_
      rw [← usable, hcons]
      exact List.mem_cons_of_mem c hd
    obtain ⟨e, -, rfl⟩ := List.mem_map.mp hmem
    by_cases he : e.isAlphanum = true
    · rwa [if_pos he]
    · rw [if_neg he] at hseparator
      exact absurd hseparator (by decide)

/-- The type identifier of a title is a word. -/
theorem isWord_typeName {title name : String} (h : typeName title = .ok name) :
    IsWord name.toList := by
  rw [typeName] at h
  split at h
  · cases h
  · split at h
    · cases h
    · next hne =>
      obtain rfl := Except.ok.inj h
      rw [String.toList_ofList]
      exact ((isTitle_usable hne).isWord_pascal).settle _

theorem IsWord.isIdentifier_append {s : String} (h : IsWord s.toList) {suffix : String}
    (hsuffix : suffix.toList.all isIdentifierPart = true) : isIdentifier (s ++ suffix) = true := by
  obtain ⟨c, rest, hs, hc, hrest⟩ := h
  rw [isIdentifier, String.toList_append, hs, List.cons_append]
  dsimp only
  rw [Bool.and_eq_true, List.all_append, Bool.and_eq_true]
  refine ⟨by rw [isIdentifierStart, hc]; rfl, ?_, hsuffix⟩
  rw [List.all_eq_true]
  intro d hd
  rw [isIdentifierPart, hrest d hd]
  rfl

end WebForm.Identifier

namespace WebForm.Identifiers

open Identifier Source Outcome

/-- The component of a form is named by a word. -/
theorem isWord_of_ofTitle {title : String} {ids : Identifiers} (h : ofTitle title = .ok ids) :
    IsWord ids.typeName.toList := by
  obtain ⟨name, hname, h⟩ := bind_eq_ok_iff.mp h
  obtain rfl := Except.ok.inj h
  exact isWord_typeName hname

/-- The names of a form in generated code are identifiers. -/
theorem isIdentifier_of_ofTitle {title : String} {ids : Identifiers}
    (h : ofTitle title = .ok ids) :
    isIdentifier ids.schemaName = true ∧ isIdentifier ids.formDataType = true := by
  obtain ⟨name, hname, h⟩ := bind_eq_ok_iff.mp h
  obtain rfl := Except.ok.inj h
  have htype : IsWord name.toList := isWord_typeName hname
  have hvalue : IsWord (valueNameOf name).toList := by
    rw [valueNameOf, String.toList_ofList]
    exact htype.isTitle.isWord_camel
  exact ⟨hvalue.isIdentifier_append (by decide), htype.isIdentifier_append (by decide)⟩

end WebForm.Identifiers
