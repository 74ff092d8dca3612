import Mathlib.Computability.Language
import WebForm.Schema.Email
/-!
# The language of e-mail addresses

Which texts have the shape of an e-mail address, said in three ways: by the functions that decide
it, by the regular expression

    ^(?:[A-Z0-9_'+-]\.?)*[A-Z0-9_+-]@(?:[A-Z0-9][A-Z0-9-]*\.)+[A-Z]{2,}$

without regard to case, and by a grammar in words. The last two depend on what counts as a letter
when case is put aside. In the engine of the generated code these are the ASCII letters; here the
two characters that fold to one count as well, and this is the only difference.
-/

set_option autoImplicit false

namespace WebForm.Schema.Email

open scoped Computability

section
variable (letter : Char → Bool)

/-! ## The regular expression -/

/-- A character of the local part other than the dot: `[A-Z0-9_'+-]`. -/
def isMark (c : Char) : Bool :=
  letter c || Numeral.isDigit c || ['_', '\x27', '+', '-'].contains c

/-- A character that the local part may end in: `[A-Z0-9_+-]`. -/
def isLastMark (c : Char) : Bool := letter c || Numeral.isDigit c || ['_', '+', '-'].contains c

/-- A letter or a digit: `[A-Z0-9]`. -/
def isWordPart (c : Char) : Bool := letter c || Numeral.isDigit c

/-- A letter, a digit or a hyphen: `[A-Z0-9-]`. -/
def isLabelPart (c : Char) : Bool := isWordPart letter c || c == '-'

/-- A class of characters as the language of its members. -/
def oneOf (class? : Char → Bool) : Language Char := {cs | ∃ c, class? c = true ∧ cs = [c]}

/-- `(?:[A-Z0-9_'+-]\.?)*[A-Z0-9_+-]` -/
def localPattern : Language Char :=
  (oneOf (isMark letter) * (1 + oneOf (· == '.')))∗ * oneOf (isLastMark letter)

/-- `[A-Z0-9][A-Z0-9-]*` -/
def labelPattern : Language Char := oneOf (isWordPart letter) * (oneOf (isLabelPart letter))∗

/-- `[A-Z]{2,}` -/
def topLabelPattern : Language Char := oneOf letter * (oneOf letter * (oneOf letter)∗)

/-- `(?:[A-Z0-9][A-Z0-9-]*\.)+[A-Z]{2,}` -/
def domainPattern : Language Char :=
  labelPattern letter * oneOf (· == '.') * (labelPattern letter * oneOf (· == '.'))∗ *
    topLabelPattern letter

/-- The whole expression. -/
def addressPattern : Language Char :=
  localPattern letter * oneOf (· == '@') * domainPattern letter

/-! ## The grammar -/

/-- A local part: letters, digits and some marks, with dots only between other characters. -/
structure IsLocalPart (cs : List Char) : Prop where
  nonempty : cs ≠ []
  chars : ∀ c ∈ cs,
    letter c = true ∨ Numeral.isDigit c = true ∨ c ∈ ['_', '\x27', '+', '-', '.']
  start : cs.head? ≠ some '.'
  apart : ¬ ['.', '.'] <:+: cs
  ending : ∃ c, cs.getLast? = some c ∧
    (letter c = true ∨ Numeral.isDigit c = true ∨ c ∈ ['_', '+', '-'])

/-- A label of the domain before the last. -/
structure IsDomainLabel (cs : List Char) : Prop where
  nonempty : cs ≠ []
  chars : ∀ c ∈ cs, letter c = true ∨ Numeral.isDigit c = true ∨ c = '-'
  start : cs.head? ≠ some '-'

/-- The last label of the domain. -/
structure IsLastLabel (cs : List Char) : Prop where
  length : 2 ≤ cs.length
  chars : ∀ c ∈ cs, letter c = true

/-- Two or more labels with dots between them. -/
def IsDomainPart (cs : List Char) : Prop :=
  ∃ labels last, cs = ['.'].intercalate (labels ++ [last]) ∧ labels ≠ [] ∧
    (∀ label ∈ labels, IsDomainLabel letter label) ∧ IsLastLabel letter last

/-- An address: a local part, an at sign and a domain. -/
def IsAddress (cs : List Char) : Prop :=
  ∃ part domain, cs = part ++ '@' :: domain ∧ IsLocalPart letter part ∧ IsDomainPart letter domain

/-- What may count as letters: none of the characters that have a meaning of their own. -/
def IsAlphabet : Prop := ∀ c ∈ ['.', '@', '-', '\x27'], letter c = false

end

/-- A text is in the language of a class if it is one character of the class. -/
theorem mem_oneOf {class? : Char → Bool} {cs : List Char} :
    cs ∈ oneOf class? ↔ ∃ c, class? c = true ∧ cs = [c] := Iff.rfl

theorem mem_oneOf_mul {class? : Char → Bool} {l : Language Char} {cs : List Char} :
    cs ∈ oneOf class? * l ↔ ∃ c rest, class? c = true ∧ rest ∈ l ∧ cs = c :: rest := by
  rw [Language.mem_mul]
  constructor
  · rintro ⟨_, ⟨c, hc, rfl⟩, rest, hrest, rfl⟩
    exact ⟨c, rest, hc, hrest, rfl⟩
  · rintro ⟨c, rest, hc, hrest, rfl⟩
    exact ⟨[c], ⟨c, hc, rfl⟩, rest, hrest, rfl⟩

/-- Repetitions of a class are the texts of its characters. -/
theorem mem_kstar_oneOf {class? : Char → Bool} {cs : List Char} :
    cs ∈ (oneOf class?)∗ ↔ ∀ c ∈ cs, class? c = true := by
  rw [Language.mem_kstar]
  constructor
  · rintro ⟨pieces, rfl, hpieces⟩ c hc
    obtain ⟨piece, hpiece, hmem⟩ := List.mem_flatten.mp hc
    obtain ⟨d, hd, rfl⟩ := hpieces piece hpiece
    rwa [List.mem_singleton.mp hmem]
  · intro h
    refine ⟨cs.map ([·]), by rw [← List.flatMap_def, List.flatMap_singleton'], ?_⟩
    intro piece hpiece
    obtain ⟨c, hc, rfl⟩ := List.mem_map.mp hpiece
    exact ⟨c, h c hc, rfl⟩

section
variable {letter : Char → Bool}

/-! ## The local part

The three ways meet in one reading from left to right: a last character, or a character with a
local part behind it or behind it and a dot. -/

/-- A local part read from left to right. -/
inductive LocalWord (letter : Char → Bool) : List Char → Prop
  | last {c : Char} (h : isLastMark letter c = true) : LocalWord letter [c]
  | mark {c : Char} {rest : List Char} (h : isMark letter c = true)
      (hrest : LocalWord letter rest) : LocalWord letter (c :: rest)
  | dotted {c : Char} {rest : List Char} (h : isMark letter c = true)
      (hrest : LocalWord letter rest) : LocalWord letter (c :: '.' :: rest)

theorem isMark_iff {c : Char} :
    isMark letter c = true ↔
      letter c = true ∨ Numeral.isDigit c = true ∨ c ∈ ['_', '\x27', '+', '-'] := by
  simp [isMark, or_assoc]

theorem isLastMark_iff {c : Char} :
    isLastMark letter c = true ↔
      letter c = true ∨ Numeral.isDigit c = true ∨ c ∈ ['_', '+', '-'] := by
  simp [isLastMark, or_assoc]

/-- A character that a local part may end in may also stand elsewhere in it. -/
theorem isMark_of_isLastMark {c : Char} (h : isLastMark letter c = true) :
    isMark letter c = true := by
  rw [isLastMark_iff] at h
  rw [isMark_iff]
  exact h.imp_right (Or.imp_right (by simp; tauto))

theorem ne_dot_of_isMark (hletter : IsAlphabet letter) {c : Char} (h : isMark letter c = true) :
    c ≠ '.' := by
  rintro rfl
  have hdot : letter '.' = false := hletter '.' (by decide)
  rw [isMark, hdot] at h
  exact absurd h (by decide)

/-- The expression for local parts is the reading from left to right: by Arden's rule, a
repetition is the one language that goes on with itself. -/
theorem mem_localPattern_iff {cs : List Char} :
    cs ∈ localPattern letter ↔ LocalWord letter cs := by
  let words : Language Char := {cs | LocalWord letter cs}
  let step : Language Char := oneOf (isMark letter) * (1 + oneOf (· == '.'))
  have hstep : [] ∉ step := by
    intro h
    obtain ⟨c, rest, -, -, hnil⟩ := mem_oneOf_mul.mp h
    cases hnil
  have hself : words = step * words + oneOf (isLastMark letter) := by
    ext cs
    rw [Language.mem_add, mul_assoc, mem_oneOf_mul]
    constructor
    · intro h
      change LocalWord letter cs at h
      cases h with
      | last h => exact .inr ⟨_, h, rfl⟩
      | mark h hrest =>
        exact .inl ⟨_, _, h, Language.mem_mul.mpr ⟨[], .inl rfl, _, hrest, rfl⟩, rfl⟩
      | dotted h hrest =>
        exact .inl ⟨_, _, h, Language.mem_mul.mpr ⟨['.'], .inr ⟨'.', rfl, rfl⟩, _, hrest, rfl⟩, rfl⟩
    · rintro (⟨c, rest, hc, hrest, rfl⟩ | ⟨c, hc, rfl⟩)
      · obtain ⟨dot, hdot, tail, htail, rfl⟩ := Language.mem_mul.mp hrest
        rcases hdot with rfl | ⟨d, hd, rfl⟩
        · exact LocalWord.mark hc htail
        · obtain rfl := eq_of_beq hd
          exact LocalWord.dotted hc htail
      · exact LocalWord.last hc
  have hlanguage := (Language.self_eq_mul_add_iff hstep).mp hself
  rw [localPattern, ← hlanguage]
  exact Iff.rfl

/-- Only marks and dots are read. -/
theorem LocalWord.chars {cs : List Char} (h : LocalWord letter cs) :
    ∀ c ∈ cs, isMark letter c = true ∨ c = '.' := by
  induction h with
  | last h => simpa using .inl (isMark_of_isLastMark h)
  | mark h _ ih => exact List.forall_mem_cons.mpr ⟨.inl h, ih⟩
  | dotted h _ ih =>
    exact List.forall_mem_cons.mpr ⟨.inl h, List.forall_mem_cons.mpr ⟨.inr rfl, ih⟩⟩

theorem LocalWord.head (hletter : IsAlphabet letter) {cs : List Char} (h : LocalWord letter cs) :
    cs.head? ≠ some '.' := by
  rw [ne_eq]
  cases h with
  | last h => simpa using ne_dot_of_isMark hletter (isMark_of_isLastMark h)
  | mark h _ => simpa using ne_dot_of_isMark hletter h
  | dotted h _ => simpa using ne_dot_of_isMark hletter h

theorem LocalWord.apart (hletter : IsAlphabet letter) {cs : List Char} (h : LocalWord letter cs) :
    ¬ ['.', '.'] <:+: cs := by
  induction h with
  | last h => simp [List.infix_cons_iff]
  | mark h hrest ih =>
    rw [List.infix_cons_iff, List.cons_prefix_cons]
    rintro (⟨hdot, -⟩ | hrest)
    · exact ne_dot_of_isMark hletter h hdot.symm
    · exact ih hrest
  | @dotted c rest h hrest ih =>
    rw [List.infix_cons_iff, List.cons_prefix_cons, List.infix_cons_iff]
    rintro (⟨hdot, -⟩ | hdots | hinner)
    · exact ne_dot_of_isMark hletter h hdot.symm
    · -- the dot behind the first one would start what is behind it
      obtain ⟨tail, htail⟩ := (List.cons_prefix_cons.mp hdots).2
      exact hrest.head hletter (by rw [← htail]; rfl)
    · exact ih hinner

theorem LocalWord.ending {cs : List Char} (h : LocalWord letter cs) :
    ∃ c, cs.getLast? = some c ∧ isLastMark letter c = true := by
  induction h with
  | last h => exact ⟨_, rfl, h⟩
  | @mark c rest h hrest ih =>
    obtain ⟨d, hd, hlast⟩ := ih
    exact ⟨d, by rw [List.getLast?_cons, hd, Option.getD_some], hlast⟩
  | @dotted c rest h hrest ih =>
    obtain ⟨d, hd, hlast⟩ := ih
    refine ⟨d, ?_, hlast⟩
    rw [List.getLast?_cons, List.getLast?_cons, hd, Option.getD_some, Option.getD_some]

/-- What the grammar says about a local part lets it be read from left to right: each character
has a mark or the end behind it, or a dot and then a mark. -/
theorem localWord_of_isLocalPart (hletter : IsAlphabet letter) {cs : List Char}
    (h : IsLocalPart letter cs) : LocalWord letter cs := by
  match cs with
  | [] => exact absurd rfl h.nonempty
  | [c] =>
    obtain ⟨d, hd, hlast⟩ := h.ending
    obtain rfl : c = d := by simpa using hd
    exact .last (isLastMark_iff.mpr hlast)
  | c :: d :: rest =>
    have hc : isMark letter c = true := by
      have hdot : c ≠ '.' := by simpa using h.start
      have hchar := h.chars c List.mem_cons_self
      rw [isMark_iff]
      simp only [List.mem_cons, List.not_mem_nil, or_false] at hchar ⊢
      tauto
    have hchars := (List.forall_mem_cons.mp h.chars).2
    have hending : ∃ e, (d :: rest).getLast? = some e ∧
        (letter e = true ∨ Numeral.isDigit e = true ∨ e ∈ ['_', '+', '-']) := by
      simpa only [List.getLast?_cons_cons] using h.ending
    have hapart : ¬ ['.', '.'] <:+: d :: rest := fun hin =>
      h.apart (hin.trans (List.suffix_cons c _).isInfix)
    by_cases hd : d = '.'
    · subst hd
      -- the dot is not the last character
      have hne : rest ≠ [] := by
        rintro rfl
        obtain ⟨e, he, hlast⟩ := hending
        obtain rfl : '.' = e := by simpa using he
        exact ne_dot_of_isMark hletter (isMark_of_isLastMark (isLastMark_iff.mpr hlast)) rfl
      obtain ⟨e, tail, rfl⟩ := List.exists_cons_of_ne_nil hne
      have hstart : (e :: tail).head? ≠ some '.' := by
        intro hdot
        obtain rfl : e = '.' := by simpa using hdot
        exact hapart ⟨[], tail, rfl⟩
      have hbehind : ¬ ['.', '.'] <:+: e :: tail := fun hin =>
        hapart (hin.trans (List.suffix_cons '.' _).isInfix)
      exact .dotted hc (localWord_of_isLocalPart hletter ⟨hne, (List.forall_mem_cons.mp hchars).2,
        hstart, hbehind, by simpa only [List.getLast?_cons_cons] using hending⟩)
    · exact .mark hc (localWord_of_isLocalPart hletter
        ⟨List.cons_ne_nil d rest, hchars, by simpa using hd, hapart, hending⟩)
termination_by cs.length

/-- The grammar of local parts and the reading from left to right agree. -/
theorem isLocalPart_iff (hletter : IsAlphabet letter) {cs : List Char} :
    IsLocalPart letter cs ↔ LocalWord letter cs := by
  refine ⟨localWord_of_isLocalPart hletter, fun h => ⟨?_, ?_, h.head hletter, h.apart hletter, ?_⟩⟩
  · rintro rfl
    cases h
  · intro c hc
    rcases h.chars c hc with hmark | rfl
    · have := isMark_iff.mp hmark
      simp only [List.mem_cons, List.not_mem_nil, or_false] at this ⊢
      tauto
    · simp
  · obtain ⟨c, hc, hlast⟩ := h.ending
    exact ⟨c, hc, isLastMark_iff.mp hlast⟩

/-! ## The domain -/

/-- Labels with dots between them are labels with a dot each, and the last one. -/
theorem intercalate_dot (labels : List (List Char)) (last : List Char) :
    ['.'].intercalate (labels ++ [last]) = (labels.map (· ++ ['.'])).flatten ++ last := by
  induction labels with
  | nil => simp [List.intercalate]
  | cons label rest ih =>
    obtain ⟨next, others, hcons⟩ : ∃ next others, rest ++ [last] = next :: others :=
      List.exists_cons_of_ne_nil (by simp)
    rw [List.cons_append, hcons, List.intercalate_cons_cons, ← hcons, ih, List.map_cons,
      List.flatten_cons]
    simp only [List.append_assoc]

theorem mem_labelPattern_iff (hletter : IsAlphabet letter) {cs : List Char} :
    cs ∈ labelPattern letter ↔ IsDomainLabel letter cs := by
  have hpart : ∀ c, isLabelPart letter c = true ↔
      letter c = true ∨ Numeral.isDigit c = true ∨ c = '-' := by
    simp [isLabelPart, isWordPart, or_assoc]
  have hhyphen : isWordPart letter '-' = false := by
    rw [isWordPart, show letter '-' = false from hletter '-' (by decide)]
    rfl
  rw [labelPattern, mem_oneOf_mul]
  simp only [mem_kstar_oneOf, hpart]
  constructor
  · rintro ⟨c, rest, hc, hrest, rfl⟩
    refine ⟨List.cons_ne_nil c rest, List.forall_mem_cons.mpr ⟨?_, hrest⟩, ?_⟩
    · exact (hpart c).mp (by rw [isLabelPart, hc, Bool.true_or])
    · intro hstart
      obtain rfl : c = '-' := by simpa using hstart
      rw [hhyphen] at hc
      cases hc
  · rintro ⟨hne, hchars, hstart⟩
    obtain ⟨c, rest, rfl⟩ := List.exists_cons_of_ne_nil hne
    have hc : c ≠ '-' := by simpa using hstart
    refine ⟨c, rest, ?_, (List.forall_mem_cons.mp hchars).2, rfl⟩
    have := (hpart c).mpr (hchars c List.mem_cons_self)
    simpa [isLabelPart, hc] using this

theorem mem_topLabelPattern_iff {cs : List Char} :
    cs ∈ topLabelPattern letter ↔ IsLastLabel letter cs := by
  rw [topLabelPattern, mem_oneOf_mul]
  simp only [mem_oneOf_mul, mem_kstar_oneOf]
  constructor
  · rintro ⟨c, _, hc, ⟨d, rest, hd, hrest, rfl⟩, rfl⟩
    exact ⟨by simp, List.forall_mem_cons.mpr ⟨hc, List.forall_mem_cons.mpr ⟨hd, hrest⟩⟩⟩
  · rintro ⟨hlength, hchars⟩
    match cs with
    | [] | [_] => simp at hlength
    | c :: d :: rest =>
      rw [List.forall_mem_cons, List.forall_mem_cons] at hchars
      exact ⟨c, d :: rest, hchars.1, ⟨d, rest, hchars.2.1, hchars.2.2, rfl⟩, rfl⟩

/-- A language of texts that end with a dot: the texts, with the dot put behind each. -/
theorem mem_mul_dot_iff {l : Language Char} {cs : List Char} :
    cs ∈ l * oneOf (· == '.') ↔ ∃ label ∈ l, cs = label ++ ['.'] := by
  rw [Language.mem_mul]
  constructor
  · rintro ⟨label, hlabel, _, ⟨c, hc, rfl⟩, rfl⟩
    exact ⟨label, hlabel, by rw [eq_of_beq hc]⟩
  · rintro ⟨label, hlabel, rfl⟩
    exact ⟨label, hlabel, ['.'], ⟨'.', rfl, rfl⟩, rfl⟩

/-- Repetitions of texts that end with a dot. -/
theorem mem_kstar_mul_dot_iff {l : Language Char} {cs : List Char} :
    cs ∈ (l * oneOf (· == '.'))∗ ↔
      ∃ labels : List (List Char), (∀ label ∈ labels, label ∈ l) ∧
        cs = (labels.map (· ++ ['.'])).flatten := by
  rw [Language.mem_kstar]
  constructor
  · rintro ⟨dotted, rfl, hdotted⟩
    induction dotted with
    | nil => exact ⟨[], by simp, rfl⟩
    | cons first rest ih =>
      rw [List.forall_mem_cons] at hdotted
      obtain ⟨label, hlabel, rfl⟩ := mem_mul_dot_iff.mp hdotted.1
      obtain ⟨labels, hlabels, heq⟩ := ih hdotted.2
      refine ⟨label :: labels, List.forall_mem_cons.mpr ⟨hlabel, hlabels⟩, ?_⟩
      rw [List.flatten_cons, heq, List.map_cons, List.flatten_cons]
  · rintro ⟨labels, hlabels, rfl⟩
    refine ⟨_, rfl, ?_⟩
    intro dotted hmem
    obtain ⟨label, hlabel, rfl⟩ := List.mem_map.mp hmem
    exact mem_mul_dot_iff.mpr ⟨label, hlabels label hlabel, rfl⟩

theorem mem_domainPattern_iff (hletter : IsAlphabet letter) {cs : List Char} :
    cs ∈ domainPattern letter ↔ IsDomainPart letter cs := by
  rw [domainPattern, IsDomainPart, Language.mem_mul]
  simp only [Language.mem_mul (l := labelPattern letter * oneOf (· == '.')), mem_mul_dot_iff,
    mem_kstar_mul_dot_iff, mem_topLabelPattern_iff, mem_labelPattern_iff hletter]
  constructor
  · rintro ⟨_, ⟨_, ⟨first, hfirst, rfl⟩, _, ⟨labels, hlabels, rfl⟩, rfl⟩, last, hlast, rfl⟩
    refine ⟨first :: labels, last, ?_, List.cons_ne_nil _ _,
      List.forall_mem_cons.mpr ⟨hfirst, hlabels⟩, hlast⟩
    rw [intercalate_dot, List.map_cons, List.flatten_cons]
  · rintro ⟨labels, last, rfl, hne, hlabels, hlast⟩
    obtain ⟨first, rest, rfl⟩ := List.exists_cons_of_ne_nil hne
    rw [List.forall_mem_cons] at hlabels
    refine ⟨_, ⟨_, ⟨first, hlabels.1, rfl⟩, _, ⟨rest, hlabels.2, rfl⟩, rfl⟩, last, hlast, ?_⟩
    rw [intercalate_dot, List.map_cons, List.flatten_cons]

/-- The expression and the grammar have the same addresses. -/
theorem mem_addressPattern_iff (hletter : IsAlphabet letter) {cs : List Char} :
    cs ∈ addressPattern letter ↔ IsAddress letter cs := by
  rw [addressPattern, IsAddress, mul_assoc, Language.mem_mul]
  simp only [mem_oneOf_mul, mem_domainPattern_iff hletter, mem_localPattern_iff,
    isLocalPart_iff hletter]
  constructor
  · rintro ⟨part, hpart, _, ⟨c, domain, hc, hdomain, rfl⟩, rfl⟩
    exact ⟨part, domain, by rw [eq_of_beq hc], hpart, hdomain⟩
  · rintro ⟨part, domain, rfl, hpart, hdomain⟩
    exact ⟨part, hpart, _, ⟨'@', domain, rfl, hdomain, rfl⟩, rfl⟩

/-! ## More letters, more addresses -/

theorem IsLocalPart.mono {letter' : Char → Bool} {cs : List Char} (h : IsLocalPart letter cs)
    (hletters : ∀ c ∈ cs, letter c = true → letter' c = true) : IsLocalPart letter' cs := by
  refine ⟨h.nonempty, fun c hc => (h.chars c hc).imp_left (hletters c hc), h.start, h.apart, ?_⟩
  obtain ⟨c, hc, hlast⟩ := h.ending
  exact ⟨c, hc, hlast.imp_left (hletters c (List.mem_of_getLast? hc))⟩

theorem IsDomainLabel.mono {letter' : Char → Bool} {cs : List Char} (h : IsDomainLabel letter cs)
    (hletters : ∀ c ∈ cs, letter c = true → letter' c = true) : IsDomainLabel letter' cs :=
  ⟨h.nonempty, fun c hc => (h.chars c hc).imp_left (hletters c hc), h.start⟩

/-- The characters of the labels are characters of the domain. -/
theorem mem_intercalate_dot {labels : List (List Char)} {last label : List Char} {c : Char}
    (hlabel : label ∈ labels) (hc : c ∈ label) : c ∈ ['.'].intercalate (labels ++ [last]) := by
  rw [intercalate_dot, List.mem_append, List.mem_flatten]
  exact .inl ⟨_, List.mem_map_of_mem hlabel, List.mem_append_left _ hc⟩

theorem mem_intercalate_dot_last {labels : List (List Char)} {last : List Char} {c : Char}
    (hc : c ∈ last) : c ∈ ['.'].intercalate (labels ++ [last]) := by
  rw [intercalate_dot]
  exact List.mem_append_right _ hc

/-- An address stays one when its letters count as letters otherwise too. -/
theorem IsAddress.mono {letter' : Char → Bool} {cs : List Char} (h : IsAddress letter cs)
    (hletters : ∀ c ∈ cs, letter c = true → letter' c = true) : IsAddress letter' cs := by
  obtain ⟨part, _, rfl, hpart, labels, last, rfl, hne, hlabels, hlast⟩ := h
  have hdomain : ∀ c ∈ ['.'].intercalate (labels ++ [last]), letter c = true → letter' c = true :=
    fun c hc => hletters c (List.mem_append_right _ (List.mem_cons_of_mem _ hc))
  refine ⟨part, _, rfl, hpart.mono fun c hc => hletters c (List.mem_append_left _ hc), labels,
    last, rfl, hne, ?_, hlast.length, ?_⟩
  · intro label hlabel
    exact (hlabels label hlabel).mono fun c hc => hdomain c (mem_intercalate_dot hlabel hc)
  · intro c hc
    exact hdomain c (mem_intercalate_dot_last hc) (hlast.chars c hc)

/-- Whatever is no ASCII character stands in an address as a letter only. -/
theorem IsAddress.letter_of_not_ascii {cs : List Char} (h : IsAddress letter cs) {c : Char}
    (hc : c ∈ cs) (hascii : 128 ≤ c.toNat) : letter c = true := by
  have hdigit : Numeral.isDigit c = false := by
    rw [Numeral.isDigit, Bool.and_eq_false_iff]
    right
    simp only [decide_eq_false_iff_not, Char.le_def, UInt32.le_iff_toNat_le]
    exact fun hle => absurd (hascii.trans hle) (by decide)
  have hmark : c ∉ ['_', '\x27', '+', '-', '.', '@'] := by
    intro hmem
    have hall : ∀ d ∈ ['_', '\x27', '+', '-', '.', '@'], d.toNat < 128 := by
      simp only [List.forall_mem_cons, List.not_mem_nil, IsEmpty.forall_iff, implies_true]
      decide
    exact absurd hascii (Nat.not_le.mpr (hall c hmem))
  simp only [List.mem_cons, List.not_mem_nil, or_false, not_or] at hmark
  obtain ⟨part, _, rfl, hpart, labels, last, rfl, -, hlabels, hlast⟩ := h
  rw [List.mem_append, List.mem_cons, intercalate_dot, List.mem_append, List.mem_flatten] at hc
  rcases hc with hc | hc | ⟨dotted, hdotted, hc⟩ | hc
  · simpa [hdigit, hmark] using hpart.chars c hc
  · exact absurd hc hmark.2.2.2.2.2
  · obtain ⟨label, hlabel, rfl⟩ := List.mem_map.mp hdotted
    rw [List.mem_append, List.mem_singleton, or_iff_left hmark.2.2.2.2.1] at hc
    simpa [hdigit, hmark] using (hlabels label hlabel).chars c hc
  · exact hlast.chars c hc

end

/-! ## What is decided -/

theorem isAlphabet_isLetter : IsAlphabet isLetter := by
  simp only [IsAlphabet, List.forall_mem_cons, List.not_mem_nil, IsEmpty.forall_iff, implies_true]
  decide

theorem isAlphabet_isAlpha : IsAlphabet Char.isAlpha := by
  simp only [IsAlphabet, List.forall_mem_cons, List.not_mem_nil, IsEmpty.forall_iff, implies_true]
  decide

theorem isLocalChar_iff {c : Char} : isLocalChar c = true ↔ isMark isLetter c = true := by
  simp [isLocalChar, isMark, or_assoc]

theorem isLocalEnd_iff {c : Char} : isLocalEnd c = true ↔ isLastMark isLetter c = true := by
  have hquote : isLastMark isLetter '\x27' = false := by decide
  rw [isLocalEnd, Bool.and_eq_true, isLocalChar_iff, isMark_iff, bne_iff_ne]
  constructor
  · rintro ⟨hmark, hne⟩
    rw [isLastMark_iff]
    simp only [List.mem_cons, List.not_mem_nil, or_false] at hmark ⊢
    tauto
  · intro h
    refine ⟨isMark_iff.mp (isMark_of_isLastMark h), ?_⟩
    rintro rfl
    rw [hquote] at h
    cases h

theorem isLocal_iff {cs : List Char} : isLocal cs = true ↔ LocalWord isLetter cs := by
  fun_induction isLocal cs with
  | case1 =>
    constructor
    · intro h
      cases h
    · rintro ⟨⟩
  | case2 c =>
    rw [isLocalEnd_iff]
    constructor
    · exact .last
    · rintro (h | ⟨_, ⟨⟩⟩)
      exact h
  | case3 c rest ih =>
    rw [Bool.and_eq_true, isLocalChar_iff, ih]
    constructor
    · rintro ⟨hc, hrest⟩
      exact .dotted hc hrest
    · intro h
      cases h with
      | mark hc hrest => exact absurd rfl (hrest.head isAlphabet_isLetter)
      | dotted hc hrest => exact ⟨hc, hrest⟩
  | case4 c rest hne hdot ih =>
    rw [Bool.and_eq_true, isLocalChar_iff, ih]
    constructor
    · rintro ⟨hc, hrest⟩
      exact .mark hc hrest
    · intro h
      cases h with
      | last h => exact absurd rfl hne
      | mark hc hrest => exact ⟨hc, hrest⟩
      | dotted hc hrest => exact absurd rfl (hdot _)

theorem isLabel_iff {cs : List Char} : isLabel cs = true ↔ IsDomainLabel isLetter cs := by
  rw [← mem_labelPattern_iff isAlphabet_isLetter, labelPattern, mem_oneOf_mul]
  simp only [mem_kstar_oneOf]
  cases cs with
  | nil => simp [isLabel]
  | cons c rest => simp [isLabel, isLabelPart, isWordPart]

theorem isTopLabel_iff {cs : List Char} : isTopLabel cs = true ↔ IsLastLabel isLetter cs := by
  rw [isTopLabel, Bool.and_eq_true, decide_eq_true_iff, List.all_eq_true]
  exact ⟨fun h => ⟨h.1, h.2⟩, fun h => ⟨h.length, h.chars⟩⟩

theorem pieces_eq_splitOn (separator : Char) (cs : List Char) :
    pieces separator cs = cs.splitOn separator := by
  induction cs with
  | nil => rfl
  | cons c rest ih =>
    change _ = (c :: rest).splitOnP (· == separator)
    rw [pieces, List.splitOnP_cons_eq_if_modifyHead]
    change _ = if _ then [] :: rest.splitOn separator else (rest.splitOn separator).modifyHead _
    rw [← ih]
    by_cases hc : c = separator
    · rw [if_pos hc, if_pos (by simpa using hc)]
    · rw [if_neg hc, if_neg (by simpa using hc)]
      obtain ⟨first, others, hcons⟩ := List.exists_cons_of_ne_nil (pieces_ne_nil separator rest)
      rw [hcons]
      rfl

theorem isDomain_iff {cs : List Char} : isDomain cs = true ↔ IsDomainPart isLetter cs := by
  rw [isDomain, pieces_eq_splitOn, IsDomainPart]
  constructor
  · intro h
    split at h
    next last label labels hreverse =>
      rw [Bool.and_eq_true, Bool.and_eq_true, isTopLabel_iff, isLabel_iff, List.all_eq_true] at h
      obtain ⟨⟨hlast, hlabel⟩, hlabels⟩ := h
      have hsplit : cs.splitOn '.' = (labels.reverse ++ [label]) ++ [last] := by
        rw [← List.reverse_reverse (cs.splitOn '.'), hreverse, List.reverse_cons,
          List.reverse_cons]
      refine ⟨labels.reverse ++ [label], last, ?_, by simp, ?_, hlast⟩
      · rw [← hsplit, List.intercalate_splitOn]
      · intro l hl
        rcases List.mem_append.mp hl with hl | hl
        · exact isLabel_iff.mp (hlabels l (List.mem_reverse.mp hl))
        · rwa [List.mem_singleton.mp hl]
    · cases h
  · rintro ⟨labels, last, rfl, hne, hlabels, hlast⟩
    have hdots : ∀ l ∈ labels ++ [last], '.' ∉ l := by
      have hdot : isLetter '.' = false := by decide
      intro l hl hmem
      rcases List.mem_append.mp hl with hl | hl
      · exact absurd ((hlabels l hl).chars '.' hmem) (by decide)
      · rw [List.mem_singleton.mp hl] at hmem
        exact absurd (hlast.chars '.' hmem) (by decide)
    obtain ⟨before, label, rfl⟩ : ∃ before label, labels = before ++ [label] :=
      ⟨_, _, (List.dropLast_append_getLast hne).symm⟩
    rw [List.splitOn_intercalate '.' hdots (by simp), List.reverse_append, List.reverse_append]
    change (isTopLabel last && isLabel label && before.reverse.all isLabel) = true
    rw [List.forall_mem_append, List.forall_mem_singleton] at hlabels
    rw [Bool.and_eq_true, Bool.and_eq_true, isTopLabel_iff, isLabel_iff, List.all_eq_true]
    exact ⟨⟨hlast, hlabels.2⟩, fun l hl => isLabel_iff.mpr (hlabels.1 l (List.mem_reverse.mp hl))⟩

/-- What is decided is the grammar, with the folded letters among the letters. -/
theorem isEmail_iff_isAddress {s : String} :
    isEmail s = true ↔ IsAddress isLetter s.toList := by
  rw [isEmail, IsAddress]
  simp only [isLocalPart_iff isAlphabet_isLetter, ← isLocal_iff, ← isDomain_iff]
  constructor
  · intro h
    split at h
    · cases h
    next c domain hrest =>
      rw [Bool.and_eq_true] at h
      have hat : (c != '@') = false := by
        have hhead := List.head_dropWhile_not (· != '@') (l := s.toList) (by simp [hrest])
        simpa only [hrest, List.head_cons] using hhead
      obtain rfl : c = '@' := by simpa using hat
      refine ⟨_, domain, ?_, h.1, h.2⟩
      rw [← hrest, List.takeWhile_append_dropWhile]
  · rintro ⟨part, domain, hsplit, hpart, hdomain⟩
    -- no at sign stands in the local part
    have hbefore : ∀ c ∈ part, (c != '@') = true := by
      intro c hc
      rw [bne_iff_ne]
      rintro rfl
      rcases (isLocal_iff.mp hpart).chars '@' hc with hat | hat
      · exact absurd hat (by decide)
      · exact absurd hat (by decide)
    rw [hsplit, List.dropWhile_append_of_pos hbefore, List.takeWhile_append_of_pos hbefore]
    simp [hpart, hdomain]

/-- The characters that count as letters by folding case and not by themselves. -/
def foldedLetters : List Char := ['ſ', '\u212a']

theorem isLetter_iff {c : Char} : isLetter c = true ↔ c.isAlpha = true ∨ c ∈ foldedLetters := by
  have hkelvin : c.toNat = 0x212A ↔ c = '\u212a' := by
    constructor
    · intro h
      exact Char.toNat_inj.mp h
    · rintro rfl
      rfl
  simp [isLetter, foldedLetters, hkelvin, or_assoc]

/-- The addresses of the ASCII letters are the addresses without folded letters. -/
theorem isAddress_isAlpha_iff {cs : List Char} :
    IsAddress Char.isAlpha cs ↔ IsAddress isLetter cs ∧ ∀ c ∈ foldedLetters, c ∉ cs := by
  constructor
  · intro h
    refine ⟨h.mono fun c _ hc => isLetter_iff.mpr (.inl hc), ?_⟩
    intro c hc hmem
    have hall : ∀ d ∈ foldedLetters, 128 ≤ d.toNat ∧ d.isAlpha = false := by
      simp only [foldedLetters, List.forall_mem_cons, List.not_mem_nil,
        IsEmpty.forall_iff, implies_true]
      decide
    have halpha := h.letter_of_not_ascii hmem (hall c hc).1
    rw [(hall c hc).2] at halpha
    cases halpha
  · rintro ⟨h, hnone⟩
    refine h.mono fun c hmem hc => ?_
    exact (isLetter_iff.mp hc).resolve_right fun hfolded => hnone c hfolded hmem

/-- **Which texts are e-mail addresses.** Those that the expression matches, case put aside in the
sense of simple folding: a local part and a domain as the grammar has them, where the long s and
the Kelvin sign count as letters beside those of ASCII. With the letters of ASCII alone the
expression and the grammar have fewer addresses, namely those in which neither of the two stands. -/
theorem isEmail_decides_addresses (s : String) :
    (isEmail s = true ↔ s.toList ∈ addressPattern isLetter) ∧
      (isEmail s = true ↔ IsAddress isLetter s.toList) ∧
      (s.toList ∈ addressPattern Char.isAlpha ↔ IsAddress Char.isAlpha s.toList) ∧
      (IsAddress Char.isAlpha s.toList ↔
        isEmail s = true ∧ 'ſ' ∉ s.toList ∧ '\u212a' ∉ s.toList) := by
  refine ⟨?_, isEmail_iff_isAddress, mem_addressPattern_iff isAlphabet_isAlpha, ?_⟩
  · rw [mem_addressPattern_iff isAlphabet_isLetter, isEmail_iff_isAddress]
  · rw [isAddress_isAlpha_iff, isEmail_iff_isAddress]
    simp [foldedLetters]

/-- An address with a long s in it is accepted, and is none of ASCII letters. -/
theorem isEmail_of_long_s :
    ¬ (isEmail "ſam@example.com" = true ↔ IsAddress Char.isAlpha "ſam@example.com".toList) := by
  have haccepted : isEmail "ſam@example.com" = true := by decide
  intro h
  exact (isAddress_isAlpha_iff.mp (h.mp haccepted)).2 'ſ' (by decide) (by decide)

end WebForm.Schema.Email
