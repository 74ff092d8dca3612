import WebForm.Proofs.Identifier.Casing
/-!
# The identifiers of a title

Which titles give identifiers, and what these look like. A title needs a letter of ASCII. Its type
identifier is what casing the title comes to when it is repeated until nothing changes; so it is its
own type identifier, and that of its value identifier.
-/

set_option autoImplicit false

namespace WebForm.Identifier

open Outcome

/-! ## What is usable of a title -/

/-- The characters of a title that are kept or give way to a space. -/
theorem isAlpha_ite_isAlphanum (c : Char) :
    (if c.isAlphanum then c else ' ').isAlpha = c.isAlpha := by
  by_cases h : c.isAlphanum = true
  · rw [if_pos h]
  · rw [if_neg h]
    rw [Bool.not_eq_true, Char.isAlphanum, Bool.or_eq_false_iff] at h
    rw [h.1]
    decide

/-- Nothing of a title is usable if and only if it has no letter. -/
theorem usable_eq_nil_iff {title : String} :
    usable title = [] ↔ title.toList.any Char.isAlpha = false := by
  rw [usable, List.dropWhile_eq_nil_iff, List.forall_mem_map, List.any_eq_false]
  refine forall₂_congr fun c _ => ?_
  rw [isAlpha_ite_isAlphanum, Bool.not_eq_true', Bool.not_eq_true]

/-- Everything is usable of letters and digits that start with a letter. -/
theorem IsWord.usable_eq {s : String} (h : IsWord s.toList) : usable s = s.toList := by
  have hkept : s.toList.map (fun c => if c.isAlphanum then c else ' ') = s.toList := by
    refine (List.map_congr_left fun c hc => ?_).trans (List.map_id _)
    exact if_pos (h.forall_mem c hc)
  obtain ⟨c, rest, hs, hc, -⟩ := h
  rw [usable, hkept, hs, List.dropWhile_cons, hc]
  rfl

/-- A letter is no white space, so a title with a letter is not blank. -/
theorem isBlank_eq_false_of_any_isAlpha {title : String}
    (h : title.toList.any Char.isAlpha = true) : Text.isBlank title = false := by
  obtain ⟨c, hc, halpha⟩ := List.any_eq_true.mp h
  rw [Text.isBlank, List.all_eq_false]
  refine ⟨c, hc, fun hspace => ?_⟩
  simp only [Text.isSpace, Bool.or_eq_true, Bool.and_eq_true, decide_eq_true_eq, beq_iff_eq]
    at hspace
  simp only [Char.isAlpha, Char.isUpper, Char.isLower, Bool.or_eq_true, Bool.and_eq_true,
    decide_eq_true_eq, UInt32.le_iff_toNat_le, ge_iff_le] at halpha
  change (65 ≤ c.toNat ∧ c.toNat ≤ 90) ∨ (97 ≤ c.toNat ∧ c.toNat ≤ 122) at halpha
  omega

/-! ## Type identifiers -/

/-- A word that casing leaves as it is. -/
structure IsSettled (name : String) : Prop where
  word : IsWord name.toList
  settled : pascal name.toList = name.toList

/-- The type identifier of a title is what repeated casing comes to. -/
theorem typeName_of_any_isAlpha {title : String} (h : title.toList.any Char.isAlpha = true) :
    ∃ name rounds, typeName title = .ok name ∧ IsSettled name ∧
      name.toList = pascal^[rounds] (pascal (usable title)) := by
  have husable : usable title ≠ [] := by
    intro hnil
    rw [usable_eq_nil_iff, h] at hnil
    cases hnil
  have hword : IsWord (pascal (usable title)) := (isTitle_usable husable).isWord_pascal
  have hrounds : (pascal (usable title)).countP Char.isUpper ≤
      (pascal (usable title)).length + 1 :=
    Nat.le_succ_of_le List.countP_le_length
  obtain ⟨rounds, hiterate⟩ := exists_settle_eq_iterate ((pascal (usable title)).length + 1)
    (pascal (usable title))
  refine ⟨String.ofList (settle ((pascal (usable title)).length + 1) (pascal (usable title))),
    rounds, ?_, ⟨?_, ?_⟩, ?_⟩
  · rw [typeName, if_neg (by simp [isBlank_eq_false_of_any_isAlpha h])]
    obtain ⟨c, rest, hcons⟩ := List.exists_cons_of_ne_nil husable
    rw [hcons]
  · rw [String.toList_ofList]
    exact hword.settle _
  · rw [String.toList_ofList]
    exact pascal_settle hword (isRaised_pascal _) hrounds
  · rw [String.toList_ofList, hiterate]

theorem typeName_of_isBlank {title : String} (h : Text.isBlank title = true) :
    typeName title = .error .emptyTitle := by
  rw [typeName, if_pos h]

theorem typeName_of_no_letters {title : String} (hblank : Text.isBlank title = false)
    (h : title.toList.any Char.isAlpha = false) :
    typeName title = .error (.noLetters title) := by
  rw [typeName, if_neg (by simp [hblank]), usable_eq_nil_iff.mpr h]

/-- A text of letters and digits has the type identifier that one pass makes of it, if no further
pass changes anything. -/
theorem IsWord.typeName_eq {s : String} (h : IsWord s.toList)
    (hsettled : pascal (pascal s.toList) = pascal s.toList) :
    typeName s = .ok (String.ofList (pascal s.toList)) := by
  have hletter : s.toList.any Char.isAlpha = true := by
    obtain ⟨c, rest, hs, hc, -⟩ := h
    rw [hs, List.any_cons, hc, Bool.true_or]
  rw [typeName, if_neg (by simp [isBlank_eq_false_of_any_isAlpha hletter]), h.usable_eq]
  obtain ⟨c, rest, hs, -⟩ := h
  rw [hs] at hsettled ⊢
  dsimp only
  rw [settle_of_settled hsettled]

namespace IsSettled

variable {name : String}

/-- A settled word is a capital, and what casing behind it leaves as it is. -/
theorem exists_cons (h : IsSettled name) :
    ∃ c rest, name.toList = c :: rest ∧ c.isUpper = true ∧ recase (some c) rest = rest := by
  obtain ⟨c, rest, hname, hc, -⟩ := h.word
  have hseparator : isSeparator c = false :=
    isSeparator_eq_false_of_isAlphanum (by rw [Char.isAlphanum, hc, Bool.true_or])
  have hsettled := h.settled
  rw [hname, pascal_cons hseparator] at hsettled
  obtain ⟨hupper, hrest⟩ := List.cons.inj hsettled
  refine ⟨c, rest, hname, ?_, hrest⟩
  rw [← hupper, Char.isUpper_toUpper_eq_isAlpha, hc]

/-- A settled word is its own type identifier. -/
theorem typeName_eq (h : IsSettled name) : typeName name = .ok name := by
  have hpascal := h.word.typeName_eq (by rw [h.settled, h.settled])
  rwa [h.settled, String.ofList_toList] at hpascal

end IsSettled

/-! ## Value identifiers -/

/-- Making the capital before a settled text small moves no word boundary: what starts a word behind
a capital also starts one behind a small letter, and another capital would not have been left as it
is. -/
theorem recase_toLower {c : Char} {rest : List Char} (hc : c.isUpper = true)
    (h : recase (some c) rest = rest) (hrest : ∀ d ∈ rest, isSeparator d = false) :
    recase (some c.toLower) rest = rest := by
  cases rest with
  | nil => rfl
  | cons d rest =>
    have hd : isSeparator d = false := hrest d List.mem_cons_self
    rw [recase_cons hd] at h ⊢
    obtain ⟨hhead, htail⟩ := List.cons.inj h
    rw [htail]
    refine congrArg (· :: rest) ?_
    have hlower : c.toLower.isLower = true := by
      rw [Char.isLower_toLower_eq_isAlpha, Char.isAlpha, hc, Bool.true_or]
    have hnotLower : c.isLower = false := Bool.eq_false_iff.mpr (Char.not_isLower_of_isUpper hc)
    have hnotUpper : c.toLower.isUpper = false := Char.isUpper_toLower_eq_false c
    have hdigit : c.isDigit = false ∧ c.toLower.isDigit = false := by
      constructor
      · delta Char.isUpper at hc
        delta Char.isDigit
        grind
      · delta Char.isLower at hlower
        delta Char.isDigit
        grind
    by_cases hupper : d.isUpper = true
    · -- a capital is left as it is only where a word starts
      have hstart : startsWord (some c.toLower) d rest.head? = true := by
        simp [startsWord, isBoundary, hlower, hupper]
      rw [if_pos hstart]
      exact Char.toUpper_eq_of_not_isLower (Char.not_isLower_of_isUpper hupper)
    · have hsame : startsWord (some c.toLower) d rest.head? =
          startsWord (some c) d rest.head? := by
        simp [startsWord, isBoundary, hlower, hnotLower, hc, hnotUpper, hdigit, hupper]
      rw [hsame, hhead]

/-- The value identifier of a settled word is the word with its first letter made small, and the
word is the type identifier of it. -/
theorem IsSettled.valueNameOf {name : String} (h : IsSettled name) :
    (∃ c rest, (valueNameOf name).toList = c :: rest ∧ c.isLower = true) ∧
      typeName (valueNameOf name) = .ok name := by
  obtain ⟨c, rest, hname, hc, hrest⟩ := h.exists_cons
  have halpha : c.isAlpha = true := by rw [Char.isAlpha, hc, Bool.true_or]
  have hwhole := h.word.forall_mem
  rw [hname, List.forall_mem_cons] at hwhole
  have hplain : ∀ d ∈ rest, isSeparator d = false :=
    fun d hd => isSeparator_eq_false_of_isAlphanum (hwhole.2 d hd)
  have hvalue : (Identifier.valueNameOf name).toList = c.toLower :: rest := by
    rw [Identifier.valueNameOf, String.toList_ofList, hname,
      camel_cons (isSeparator_eq_false_of_isAlphanum hwhole.1), hrest]
  have hlower : c.toLower.isLower = true := by
    rw [Char.isLower_toLower_eq_isAlpha, halpha]
  refine ⟨⟨c.toLower, rest, hvalue, hlower⟩, ?_⟩
  have hword : IsWord (Identifier.valueNameOf name).toList :=
    ⟨c.toLower, rest, hvalue, isAlpha_toLower halpha, hwhole.2⟩
  have hpascal : pascal (Identifier.valueNameOf name).toList = name.toList := by
    rw [hvalue, pascal_cons (isSeparator_eq_false_of_isAlphanum
      (hword.forall_mem _ (by rw [hvalue]; exact List.mem_cons_self))), recase_toLower hc hrest
      hplain, Char.toUpper_toLower_eq_toUpper,
      Char.toUpper_eq_of_not_isLower (Char.not_isLower_of_isUpper hc), hname]
  have htype := hword.typeName_eq (by rw [hpascal, h.settled])
  rwa [hpascal, String.ofList_toList] at htype

/-! ## Titles -/

/-- Two texts that are the identifiers of a title, and what they are like. -/
structure AreIdentifiersOf (title type value : String) : Prop where
  ofTitle : Identifiers.ofTitle title = .ok ⟨type, value⟩
  typeName : typeName title = .ok type
  valueName : valueName title = .ok value
  /-- The passes of casing come to an end, and this is where. -/
  settles : ∃ rounds, type.toList = pascal^[rounds] (pascal (usable title)) ∧
    pascal type.toList = type.toList
  /-- A capital with letters and digits behind it. -/
  pascalCase : ∃ c rest, type.toList = c :: rest ∧ c.isUpper = true ∧
    ∀ d ∈ rest, d.isAlphanum = true
  typeName_type : Identifier.typeName type = .ok type
  /-- A small letter comes first. -/
  camelCase : ∃ c rest, value.toList = c :: rest ∧ c.isLower = true
  typeName_value : Identifier.typeName value = .ok type
  valueName_value : Identifier.valueName value = .ok value

theorem valueName_eq_ok_iff {title value : String} :
    valueName title = .ok value ↔
      ∃ type, typeName title = .ok type ∧ valueNameOf type = value := map_eq_ok_iff

theorem exists_areIdentifiersOf {title : String} (h : title.toList.any Char.isAlpha = true) :
    ∃ type value, AreIdentifiersOf title type value := by
  obtain ⟨type, rounds, htype, hsettled, hrounds⟩ := typeName_of_any_isAlpha h
  obtain ⟨hcamel, hback⟩ := hsettled.valueNameOf
  obtain ⟨c, rest, hcons, hc, -⟩ := hsettled.exists_cons
  have hwhole := hsettled.word.forall_mem
  rw [hcons, List.forall_mem_cons] at hwhole
  exact ⟨type, valueNameOf type,
    { ofTitle := by rw [Identifiers.ofTitle, htype]; rfl
      typeName := htype
      valueName := valueName_eq_ok_iff.mpr ⟨type, htype, rfl⟩
      settles := ⟨rounds, hrounds, hsettled.settled⟩
      pascalCase := ⟨c, rest, hcons, hc, hwhole.2⟩
      typeName_type := hsettled.typeName_eq
      camelCase := hcamel
      typeName_value := hback
      valueName_value := valueName_eq_ok_iff.mpr ⟨type, hback, rfl⟩ }⟩

/-- A title has a type identifier, is blank, or has no letter. -/
theorem typeName_cases (title : String) :
    (title.toList.any Char.isAlpha = true ∧ ∃ type value, AreIdentifiersOf title type value) ∨
    (Text.isBlank title = true ∧ typeName title = .error .emptyTitle) ∨
    (Text.isBlank title = false ∧ title.toList.any Char.isAlpha = false ∧
      typeName title = .error (.noLetters title)) := by
  by_cases hletter : title.toList.any Char.isAlpha = true
  · exact .inl ⟨hletter, exists_areIdentifiersOf hletter⟩
  · rw [Bool.not_eq_true] at hletter
    by_cases hblank : Text.isBlank title = true
    · exact .inr (.inl ⟨hblank, typeName_of_isBlank hblank⟩)
    · rw [Bool.not_eq_true] at hblank
      exact .inr (.inr ⟨hblank, hletter, typeName_of_no_letters hblank hletter⟩)

/-- The identifiers that are made of a title are identifiers of it. -/
theorem areIdentifiersOf_of_ofTitle {title : String} {ids : Identifiers}
    (h : Identifiers.ofTitle title = .ok ids) :
    AreIdentifiersOf title ids.typeName ids.valueName := by
  rcases typeName_cases title with ⟨-, type, value, hids⟩ | ⟨-, herror⟩ | ⟨-, -, herror⟩
  · obtain rfl := Except.ok.inj (hids.ofTitle.symm.trans h)
    exact hids
  · rw [Identifiers.ofTitle, herror] at h
    cases h
  · rw [Identifiers.ofTitle, herror] at h
    cases h

/-- Titles with the same value identifier have the same type identifier, because it is that of the
value identifier. -/
theorem typeName_eq_of_valueName_eq {title other : String}
    (h : valueName title = valueName other) : typeName title = typeName other := by
  cases hvalue : valueName title with
  | error e =>
    have htitle : typeName title = .error e := map_eq_error_iff.mp hvalue
    have hother : typeName other = .error e := map_eq_error_iff.mp (h ▸ hvalue)
    rw [htitle, hother]
  | ok value =>
    -- both titles have letters, or there would be no value identifier
    have hback : ∀ {t : String}, valueName t = .ok value → typeName t = typeName value := by
      intro t ht
      obtain ⟨type, htype, -⟩ := valueName_eq_ok_iff.mp ht
      rcases typeName_cases t with ⟨-, type', value', hids⟩ | ⟨-, herror⟩ | ⟨-, -, herror⟩
      · obtain rfl := Except.ok.inj (hids.valueName.symm.trans ht)
        rw [hids.typeName, hids.typeName_value]
      · cases htype.symm.trans herror
      · cases htype.symm.trans herror
    have hother : valueName other = .ok value := h ▸ hvalue
    rw [hback hvalue, hback hother]

/-- **Which titles have identifiers, and what they are like.** A blank title is refused as empty,
and any other title without a letter as one without letters. For all other titles the passes of
casing come to an end, with a type identifier that starts with a capital and is its own type
identifier, and a value identifier that starts with a small letter, has this type identifier and is
its own value identifier. Two titles have the same value identifier exactly if they have the same
type identifier. -/
theorem identifiers_of_title (title : String) :
    (typeName title = .error .emptyTitle ↔ Text.isBlank title = true) ∧
    (typeName title = .error (.noLetters title) ↔
      Text.isBlank title = false ∧ title.toList.any Char.isAlpha = false) ∧
    (title.toList.any Char.isAlpha = true → ∃ type value, AreIdentifiersOf title type value) ∧
    ∀ other, valueName title = valueName other ↔ typeName title = typeName other := by
  refine ⟨?_, ?_, exists_areIdentifiersOf, fun other => ⟨typeName_eq_of_valueName_eq, fun h => ?_⟩⟩
  · rcases typeName_cases title with ⟨hletter, type, value, hids⟩ | ⟨hblank, h⟩ | ⟨hblank, -, h⟩
    · simp [hids.typeName, isBlank_eq_false_of_any_isAlpha hletter]
    · simp [h, hblank]
    · simp [h, hblank]
  · rcases typeName_cases title with
      ⟨hletter, type, value, hids⟩ | ⟨hblank, h⟩ | ⟨hblank, hletter, h⟩
    · simp [hids.typeName, hletter]
    · simp [h, hblank]
    · simp [h, hblank, hletter]
  · rw [valueName, valueName, h]

example : typeName "a b cd" = .ok "AbCd" := by decide +kernel

end WebForm.Identifier
