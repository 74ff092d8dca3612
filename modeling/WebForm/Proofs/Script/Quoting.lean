import WebForm.Proofs.Script.Faithful
import WebForm.Proofs.Source.Escape
import WebForm.Proofs.Source.LineEnding
/-!
# Quoting

What is written for a text between quotes, and between backticks, stands for this text: it ends
where it should, and nothing of it is read as anything else.

Both escapings can be done by replacing in the whole text, one thing after the other. The order
matters, because a later step finds what an earlier one has put in: backslashes come first, and
nothing that is looked for afterwards is made of backslashes. Done in this order the steps come to
one pass over the characters.
-/

set_option autoImplicit false

namespace WebForm.Source

/-! ## Replacing -/

/-- Replaces a text wherever it stands, from front to end and without overlaps. -/
def replaceAll (pattern replacement : List Char) : List Char → List Char
  | [] => []
  | c :: rest =>
    if pattern.isPrefixOf (c :: rest) then
      replacement ++ replaceAll pattern replacement (rest.drop (pattern.length - 1))
    else c :: replaceAll pattern replacement rest
termination_by cs => cs.length

/-- A single character is replaced wherever it is. -/
theorem replaceAll_singleton (c : Char) (replacement cs : List Char) :
    replaceAll [c] replacement cs = cs.flatMap fun d => if d = c then replacement else [d] := by
  induction cs with
  | nil => rw [replaceAll, List.flatMap_nil]
  | cons d rest ih =>
    rw [replaceAll, List.flatMap_cons]
    by_cases hd : d = c
    · subst hd
      simp [ih]
    · have hprefix : ¬ [c].isPrefixOf (d :: rest) = true := by simpa using Ne.symm hd
      rw [if_neg hprefix, if_neg hd, ih, List.singleton_append]

/-- **Quoting replaces backslashes, quotes and line ends one after the other.** -/
theorem escapeString_eq_replaceAll (s : String) :
    (escapeString s).toList =
      replaceAll ['\t'] ['\\', 't'] (replaceAll ['\r'] ['\\', 'r'] (replaceAll ['\n'] ['\\', 'n']
        (replaceAll ['\x27'] ['\\', '\x27'] (replaceAll ['\\'] ['\\', '\\'] s.toList)))) := by
  simp only [replaceAll_singleton, List.flatMap_assoc, toList_escapeString]
  refine List.flatMap_congr fun c _ => ?_
  unfold escapeStringChar
  split
  · rfl
  · rfl
  · rfl
  · rfl
  · rfl
  · next hbackslash hquote hline hreturn htab =>
    rw [if_neg hbackslash, List.flatMap_singleton, if_neg hquote, List.flatMap_singleton,
      if_neg hline, List.flatMap_singleton, if_neg hreturn, List.flatMap_singleton, if_neg htab]

/-- What the two steps before the last one make of a character of a template. -/
def escapeBacktick (c : Char) : List Char :=
  if c = '\\' then ['\\', '\\'] else if c = '\x60' then ['\\', '\x60'] else [c]

theorem replaceAll_backtick (cs : List Char) :
    replaceAll ['\x60'] ['\\', '\x60'] (replaceAll ['\\'] ['\\', '\\'] cs) =
      cs.flatMap escapeBacktick := by
  simp only [replaceAll_singleton, List.flatMap_assoc]
  refine List.flatMap_congr fun c _ => ?_
  rw [escapeBacktick]
  by_cases hbackslash : c = '\\'
  · rw [if_pos hbackslash, if_pos hbackslash]
    rfl
  · rw [if_neg hbackslash, if_neg hbackslash, List.flatMap_singleton]

/-- A character that does not start the text to replace is left. -/
theorem replaceAll_cons {pattern replacement : List Char} {c : Char} {rest : List Char}
    (h : pattern.isPrefixOf (c :: rest) = false) :
    replaceAll pattern replacement (c :: rest) = c :: replaceAll pattern replacement rest := by
  rw [replaceAll, h, if_neg Bool.false_ne_true]

/-- The text to replace is replaced where it stands. -/
theorem replaceAll_append (c : Char) (cs replacement rest : List Char) :
    replaceAll (c :: cs) replacement (c :: cs ++ rest) =
      replacement ++ replaceAll (c :: cs) replacement rest := by
  have hprefix : (c :: cs).isPrefixOf (c :: (cs ++ rest)) = true :=
    List.isPrefixOf_iff_prefix.mpr (List.prefix_append (c :: cs) rest)
  rw [List.cons_append, replaceAll, if_pos hprefix, List.length_cons, Nat.add_sub_cancel,
    List.drop_left]

/-- The steps before the last one put no brace at the start of a text. -/
theorem head?_of_flatMap_escapeBacktick {cs : List Char}
    (h : (cs.flatMap escapeBacktick).head? = some '\x7b') : cs.head? = some '\x7b' := by
  cases cs with
  | nil => exact h
  | cons c rest =>
    rw [List.flatMap_cons, escapeBacktick] at h
    split at h
    · cases h
    · split at h
      · cases h
      · exact h

/-- **Escaping for a template replaces backslashes, backticks and openings one after the other.** -/
theorem escapeTemplate_eq_replaceAll (s : String) :
    (escapeTemplate s).toList =
      replaceAll ['$', '\x7b'] ['\\', '$', '\x7b'] (replaceAll ['\x60'] ['\\', '\x60']
        (replaceAll ['\\'] ['\\', '\\'] s.toList)) := by
  rw [escapeTemplate, String.toList_ofList, replaceAll_backtick]
  generalize s.toList = cs
  fun_induction escapeTemplateChars cs with
  | case1 => rw [List.flatMap_nil, replaceAll]
  | case2 rest ih =>
    rw [List.flatMap_cons]
    show _ = replaceAll _ _ ('\\' :: '\\' :: rest.flatMap escapeBacktick)
    rw [replaceAll_cons rfl, replaceAll_cons rfl, ih]
  | case3 rest ih =>
    rw [List.flatMap_cons]
    show _ = replaceAll _ _ ('\\' :: '\x60' :: rest.flatMap escapeBacktick)
    rw [replaceAll_cons rfl, replaceAll_cons rfl, ih]
  | case4 rest ih =>
    rw [List.flatMap_cons, List.flatMap_cons]
    show _ = replaceAll _ _ ('$' :: '\x7b' :: rest.flatMap escapeBacktick)
    rw [ih]
    exact (replaceAll_append '$' ['\x7b'] ['\\', '$', '\x7b'] _).symm
  | case5 c rest hbackslash hbacktick hopen ih =>
    have hc : escapeBacktick c = [c] := by
      rw [escapeBacktick, if_neg hbackslash, if_neg hbacktick]
    have hprefix : ['$', '\x7b'].isPrefixOf (c :: rest.flatMap escapeBacktick) = false := by
      rw [Bool.eq_false_iff]
      intro h
      obtain ⟨tail, htail⟩ := List.isPrefixOf_iff_prefix.mp h
      obtain ⟨hdollar, hbrace⟩ := List.cons.inj htail
      -- a brace behind the dollar sign was there from the start
      have hhead := head?_of_flatMap_escapeBacktick (congrArg List.head? hbrace.symm)
      obtain ⟨inside, rfl⟩ := List.head?_eq_some_iff.mp hhead
      exact hopen inside hdollar.symm rfl
    rw [List.flatMap_cons, hc, List.singleton_append, replaceAll_cons hprefix, ih]

/-! ## Pieces of quoted texts -/

/-- Each character is quoted by itself: what is written for it takes nothing that follows. -/
theorem isEscapedAfter_escapeStringChar (c : Char) :
    isEscapedAfter false (escapeStringChar c) = false := by
  unfold escapeStringChar
  split
  · rfl
  · rfl
  · rfl
  · rfl
  · rfl
  · next hbackslash _ _ _ _ =>
    rw [isEscapedAfter, beq_eq_false_iff_ne.mpr hbackslash]
    rfl

/-- No quote stands by itself where a character is quoted. -/
theorem quote_not_mem_pieces_escapeStringChar (c : Char) :
    .single '\x27' ∉ pieces (escapeStringChar c) := by
  unfold escapeStringChar
  split
  · exact nofun
  · exact nofun
  · exact nofun
  · exact nofun
  · exact nofun
  · next hbackslash hquote _ _ _ =>
    rw [pieces_cons hbackslash, pieces, List.mem_singleton]
    exact fun h => hquote (Piece.single.inj h).symm

theorem isEscapedAfter_escapeString (s : String) :
    isEscapedAfter false (escapeString s).toList = false := by
  rw [toList_escapeString]
  induction s.toList with
  | nil => rfl
  | cons c rest ih =>
    rw [List.flatMap_cons, isEscapedAfter_append, isEscapedAfter_escapeStringChar, ih]

/-- Quoted texts are read character by character. -/
theorem pieces_escapeString (s : String) :
    pieces (escapeString s).toList = s.toList.flatMap fun c => pieces (escapeStringChar c) := by
  rw [toList_escapeString]
  induction s.toList with
  | nil => rfl
  | cons c rest ih =>
    rw [List.flatMap_cons, List.flatMap_cons, pieces_append (isEscapedAfter_escapeStringChar c), ih]

/-! ## Pieces of templates -/

/-- An escaped text takes nothing that follows. -/
theorem isEscapedAfter_escapeTemplateChars (cs : List Char) :
    isEscapedAfter false (escapeTemplateChars cs) = false := by
  fun_induction escapeTemplateChars cs with
  | case1 => rfl
  | case2 rest ih => exact ih
  | case3 rest ih => exact ih
  | case4 rest ih => exact ih
  | case5 c rest hbackslash _ _ ih =>
    rw [isEscapedAfter, beq_eq_false_iff_ne.mpr hbackslash]
    exact ih

/-- No backtick stands by itself once a text is escaped for a template. -/
theorem backtick_not_mem_pieces_escapeTemplateChars (cs : List Char) :
    .single '\x60' ∉ pieces (escapeTemplateChars cs) := by
  fun_induction escapeTemplateChars cs with
  | case1 => exact List.not_mem_nil
  | case2 rest ih => rwa [pieces, single_mem_pair_cons]
  | case3 rest ih => rwa [pieces, single_mem_pair_cons]
  | case4 rest ih =>
    rw [pieces, pieces_cons (by decide), single_mem_pair_cons, List.mem_cons]
    exact not_or_intro (by decide) ih
  | case5 c rest hbackslash hbacktick _ ih =>
    rw [pieces_cons hbackslash, List.mem_cons]
    exact not_or_intro (fun h => hbacktick (Piece.single.inj h).symm) ih

/-- A first piece that is a character by itself is the first character. -/
theorem head?_of_head?_pieces {cs : List Char} {c : Char}
    (h : (pieces cs).head? = some (.single c)) : cs.head? = some c := by
  fun_cases pieces cs with
  | case1 => cases h
  | case2 d rest =>
    rw [pieces] at h
    cases h
  | case3 d rest hpair =>
    rw [pieces] at h
    · cases h
      rfl
    · exact hpair

/-- A dollar sign and a brace that stand by themselves, one after the other. -/
def opening : List Piece := [.single '$', .single '\x7b']

theorem opening_infix_cons {p : Piece} {ps : List Piece} :
    opening <:+: p :: ps ↔
      (p = .single '$' ∧ ps.head? = some (.single '\x7b')) ∨ opening <:+: ps := by
  rw [List.infix_cons_iff, opening, List.cons_prefix_cons, eq_comm]
  cases ps with
  | nil => simp
  | cons q ps => simp [List.cons_prefix_cons, eq_comm]

/-- A pair opens nothing. -/
theorem opening_infix_pair_cons {c : Char} {ps : List Piece} :
    opening <:+: .pair c :: ps ↔ opening <:+: ps := by
  simp [opening_infix_cons]

/-- No substitution is opened once a text is escaped for a template. -/
theorem opening_not_infix_pieces_escapeTemplateChars (cs : List Char) :
    ¬ opening <:+: pieces (escapeTemplateChars cs) := by
  fun_induction escapeTemplateChars cs with
  | case1 => simp [pieces, opening]
  | case2 rest ih => rwa [pieces, opening_infix_pair_cons]
  | case3 rest ih => rwa [pieces, opening_infix_pair_cons]
  | case4 rest ih =>
    rw [pieces, pieces_cons (by decide), opening_infix_pair_cons, opening_infix_cons]
    exact not_or_intro (fun h => absurd h.1 (by decide)) ih
  | case5 c rest hbackslash _ hopen ih =>
    rw [pieces_cons hbackslash, opening_infix_cons]
    refine not_or_intro (fun h => ?_) ih
    have hhead : rest.head? = some '\x7b' :=
      not_not.mp fun hne =>
        Script.Stands.head?_escapeTemplateChars hne (head?_of_head?_pieces h.2)
    obtain ⟨inside, rfl⟩ := List.head?_eq_some_iff.mp hhead
    exact hopen inside (Piece.single.inj h.1) rfl

end WebForm.Source

namespace WebForm.Script

open Source Component

/-! ## Exactness -/

/-- Some characters are, between two quotes, one string literal on one line, and its value is a
text. -/
structure IsQuoted (body : List Char) (s : String) : Prop where
  oneLine : ∀ c ∈ body, c ≠ '\n' ∧ c ≠ '\r'
  /-- No quote before the closing one ends the literal. -/
  noQuote : .single '\x27' ∉ pieces body
  /-- No backslash takes the closing quote. -/
  closed : pieces (body ++ ['\x27']) = pieces body ++ [Piece.single '\x27']
  /-- Whatever follows, the literal is read up to the closing quote. -/
  value : ∀ rest, quoted? (body ++ '\x27' :: rest) = some (s.toList, rest)

/-- Some characters stand for a text inside a template literal. -/
structure IsTemplated (body : List Char) (s : String) : Prop where
  /-- No backtick ends the literal. -/
  noBacktick : .single '\x60' ∉ pieces body
  /-- No substitution is opened. -/
  noOpening : ¬ opening <:+: pieces body
  /-- No backslash takes anything of what follows. -/
  closed : ∀ rest, pieces (body ++ rest) = pieces body ++ pieces rest
  /-- The text is read before whatever is no brace. -/
  value : ∀ scope, Stands scope body s.toList

theorem isQuoted_escapeString (s : String) : IsQuoted (escapeString s).toList s where
  oneLine := unbroken_escapeString s
  noQuote := by
    rw [pieces_escapeString, List.mem_flatMap]
    rintro ⟨c, -, hc⟩
    exact quote_not_mem_pieces_escapeStringChar c hc
  closed := pieces_append (isEscapedAfter_escapeString s) _
  value rest := by
    rw [toList_escapeString]
    exact quoted?_flatMap_escapeStringChar s.toList rest

theorem isTemplated_escapeTemplate {s : String} (h : '\r' ∉ s.toList) :
    IsTemplated (escapeTemplate s).toList s := by
  rw [escapeTemplate, String.toList_ofList]
  exact
    { noBacktick := backtick_not_mem_pieces_escapeTemplateChars s.toList
      noOpening := opening_not_infix_pieces_escapeTemplateChars s.toList
      closed := pieces_append (isEscapedAfter_escapeTemplateChars s.toList)
      value := fun _ => Stands.escapeTemplateChars h }

end WebForm.Script
