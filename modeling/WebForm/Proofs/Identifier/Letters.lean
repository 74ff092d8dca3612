import WebForm.Proofs.Identifier.Title
/-!
# The letters of an identifier

Casing changes capitals into small letters and back and drops what stands between words. So one
pass, and any number of them, leaves the letters and digits of a text as they are up to case: none
is lost, none is written twice, and none changes its place. The type identifier and the value
identifier of a title are therefore the same text up to case, and this text can be read off the
title without cutting it into words.
-/

set_option autoImplicit false

namespace WebForm.Identifier

/-- The letters and digits of a title from its first letter on, without regard to case. -/
def lettersOf (title : String) : List Char :=
  ((title.toList.dropWhile fun c => !c.isAlpha).filter Char.isAlphanum).map Char.toLower

/-! ## One pass -/

/-- A pass drops separators and changes nothing but case. -/
theorem map_toLower_recase (last : Option Char) (cs : List Char) :
    (recase last cs).map Char.toLower =
      (cs.filter fun c => !isSeparator c).map Char.toLower := by
  induction cs generalizing last with
  | nil => rfl
  | cons c rest ih =>
    by_cases hseparator : isSeparator c = true
    · rw [recase, if_pos hseparator, ih, List.filter_cons_of_neg (by simp [hseparator])]
    · have hplain : isSeparator c = false := Bool.eq_false_iff.mpr hseparator
      have hcase : (if startsWord last c rest.head? then c.toUpper else c.toLower).toLower =
          c.toLower := by
        split
        · exact Char.toLower_toUpper_eq_toLower c
        · exact Char.toLower_toLower_eq_toLower c
      rw [recase_cons hplain, List.map_cons, hcase, ih,
        List.filter_cons_of_pos (by simp [hplain]), List.map_cons]

theorem map_toLower_pascal (cs : List Char) :
    (pascal cs).map Char.toLower = (cs.filter fun c => !isSeparator c).map Char.toLower := by
  rw [pascal_eq_recase, map_toLower_recase]

/-- Letters and digits hold no separator. -/
theorem filter_not_isSeparator {cs : List Char} (h : ∀ c ∈ cs, c.isAlphanum = true) :
    (cs.filter fun c => !isSeparator c) = cs := by
  rw [List.filter_eq_self]
  intro c hc
  rw [isSeparator_eq_false_of_isAlphanum (h c hc)]
  rfl

/-! ## Repeated passes -/

/-- However often a word is cased, it stays the same up to case. -/
theorem IsWord.map_toLower_iterate_pascal {cs : List Char} (h : IsWord cs) (rounds : Nat) :
    (pascal^[rounds] cs).map Char.toLower = cs.map Char.toLower := by
  induction rounds generalizing cs with
  | zero => rfl
  | succ rounds ih =>
    rw [Function.iterate_succ_apply, ih h.isTitle.isWord_pascal, map_toLower_pascal,
      filter_not_isSeparator h.forall_mem]

/-- The value identifier that belongs to a word is the word up to case. -/
theorem IsWord.map_toLower_valueNameOf {name : String} (h : IsWord name.toList) :
    (valueNameOf name).toList.map Char.toLower = name.toList.map Char.toLower := by
  have hplain := h.forall_mem
  obtain ⟨c, rest, hname, hc, -⟩ := h
  rw [hname, List.forall_mem_cons] at hplain
  rw [valueNameOf, String.toList_ofList, hname,
    camel_cons (isSeparator_eq_false_of_isAlphanum hplain.1), List.map_cons, List.map_cons,
    Char.toLower_toLower_eq_toLower, map_toLower_recase, filter_not_isSeparator hplain.2]

/-! ## Titles -/

/-- What is usable of a title, apart from the spaces in it, are its letters and digits from the
first letter on. -/
theorem filter_usable (title : String) :
    ((usable title).filter fun c => !isSeparator c) =
      (title.toList.dropWhile fun c => !c.isAlpha).filter Char.isAlphanum := by
  have hstart : (fun c : Char => !c.isAlpha) ∘ (fun c => if c.isAlphanum then c else ' ') =
      fun c => !c.isAlpha := by
    funext c
    exact congrArg not (isAlpha_ite_isAlphanum c)
  have hkept : (fun c => !isSeparator c) ∘ (fun c : Char => if c.isAlphanum then c else ' ') =
      Char.isAlphanum := by
    funext c
    rw [Function.comp_apply]
    by_cases hc : c.isAlphanum = true
    · rw [if_pos hc, isSeparator_eq_false_of_isAlphanum hc, hc]
      rfl
    · rw [if_neg hc, Bool.eq_false_iff.mpr hc]
      decide
  rw [usable, List.dropWhile_map, hstart, List.filter_map, hkept]
  refine (List.map_congr_left fun c hc => ?_).trans (List.map_id _)
  exact if_pos (List.mem_filter.mp hc).2

/-- A title without a letter has no identifiers. -/
theorem any_isAlpha_of_typeName {title name : String} (h : typeName title = .ok name) :
    title.toList.any Char.isAlpha = true := by
  rcases typeName_cases title with ⟨hletter, -⟩ | ⟨-, herror⟩ | ⟨-, -, herror⟩
  · exact hletter
  · cases h.symm.trans herror
  · cases h.symm.trans herror

/-- The identifiers of a title are its letters and digits up to case. -/
theorem AreIdentifiersOf.map_toLower {title type value : String}
    (h : AreIdentifiersOf title type value) :
    type.toList.map Char.toLower = lettersOf title ∧
      value.toList.map Char.toLower = lettersOf title := by
  have hword : IsWord type.toList := isWord_typeName h.typeName
  have hletters : type.toList.map Char.toLower = lettersOf title := by
    obtain ⟨rounds, htype, -⟩ := h.settles
    have husable : usable title ≠ [] := by
      intro hnil
      rw [usable_eq_nil_iff, any_isAlpha_of_typeName h.typeName] at hnil
      cases hnil
    rw [htype, (isTitle_usable husable).isWord_pascal.map_toLower_iterate_pascal,
      map_toLower_pascal, filter_usable, lettersOf]
  refine ⟨hletters, ?_⟩
  obtain ⟨type', htype', rfl⟩ := valueName_eq_ok_iff.mp h.valueName
  obtain rfl := Except.ok.inj (h.typeName.symm.trans htype')
  rw [hword.map_toLower_valueNameOf, hletters]

/-- **Identifiers neither lose, repeat nor reorder the letters of a title.** A title with a letter
has identifiers, and both of them are, up to case, the letters and digits of the title from its
first letter on. So the component of another title is written to the same file only if the title
has the same letters and digits from its first letter on, up to case. -/
theorem identifiers_spell_title {title : String} (h : title.toList.any Char.isAlpha = true) :
    ∃ ids, Identifiers.ofTitle title = .ok ids ∧
      typeName title = .ok ids.typeName ∧ valueName title = .ok ids.valueName ∧
      ids.typeName.toList.map Char.toLower = lettersOf title ∧
      ids.valueName.toList.map Char.toLower = lettersOf title ∧
      ∀ other ids', Identifiers.ofTitle other = .ok ids' →
        ids.componentFile = ids'.componentFile → lettersOf title = lettersOf other := by
  obtain ⟨type, value, hids⟩ := exists_areIdentifiersOf h
  obtain ⟨htype, hvalue⟩ := hids.map_toLower
  refine ⟨⟨type, value⟩, hids.ofTitle, hids.typeName, hids.valueName, htype, hvalue, ?_⟩
  intro other ids' hother hfile
  have hsame : type = ids'.typeName := String.append_left_inj _ |>.mp hfile
  rw [← htype, hsame, (areIdentifiersOf_of_ofTitle hother).map_toLower.1]

/-- A title with digits in front, capitals in a row, single letters and a hyphen: the passes move
the capitals, and the letters stay. -/
theorem identifiers_spell_mixed_title :
    "3rd a b cd-HTMLDoc2x é!".toList.any Char.isAlpha = true ∧
      lettersOf "3rd a b cd-HTMLDoc2x é!" = "rdabcdhtmldoc2x".toList ∧
      ∃ ids, Identifiers.ofTitle "3rd a b cd-HTMLDoc2x é!" = .ok ids ∧
        ids.typeName.toList.map Char.toLower = "rdabcdhtmldoc2x".toList ∧
        ids.valueName.toList.map Char.toLower = "rdabcdhtmldoc2x".toList := by
  have hletters : lettersOf "3rd a b cd-HTMLDoc2x é!" = "rdabcdhtmldoc2x".toList := by
    decide +kernel
  obtain ⟨ids, hids, -, -, htype, hvalue, -⟩ :=
    @identifiers_spell_title "3rd a b cd-HTMLDoc2x é!" (by decide +kernel)
  exact ⟨by decide +kernel, hletters, ids, hids, htype.trans hletters, hvalue.trans hletters⟩

end WebForm.Identifier
