import Mathlib.Algebra.Ring.Parity
import Mathlib.Data.List.Induction
import WebForm.Source.Literal
/-!
# Escapes

Source text in which a backslash takes the character behind it with it: it is read in pieces, from
front to end, and a piece is such a pair or a character by itself. Whether the next character is
taken is one bit of state, which the backslashes right before it settle: an odd number of them ends
in one that is by itself.

A pattern between slashes is escaped piece by piece. Slashes that stand by themselves become pairs,
and everything else stays, so that the slash behind the pattern is the only one that can end it.
-/

set_option autoImplicit false

namespace WebForm.Source

/-! ## Pieces -/

/-- A piece of source text: a backslash with the character behind it, or a character by itself. -/
inductive Piece where
  | pair (c : Char)
  | single (c : Char)
deriving DecidableEq, Repr

/-- The characters of a piece. -/
def Piece.chars : Piece → List Char
  | .pair c => ['\\', c]
  | .single c => [c]

/-- A pair hides its characters. -/
theorem single_mem_pair_cons {c d : Char} {ps : List Piece} :
    .single c ∈ Piece.pair d :: ps ↔ .single c ∈ ps := by
  simp

/-- Reads source text in pieces. A backslash is by itself where nothing follows. -/
def pieces : List Char → List Piece
  | [] => []
  | '\\' :: c :: rest => .pair c :: pieces rest
  | c :: rest => .single c :: pieces rest

/-- Reading in pieces loses nothing. -/
theorem flatMap_chars_pieces (cs : List Char) : (pieces cs).flatMap Piece.chars = cs := by
  fun_induction pieces cs with
  | case1 => rfl
  | case2 c rest ih => rw [List.flatMap_cons, ih]; rfl
  | case3 c rest _ ih => rw [List.flatMap_cons, ih]; rfl

theorem pieces_injective {cs ds : List Char} (h : pieces cs = pieces ds) : cs = ds := by
  rw [← flatMap_chars_pieces cs, h, flatMap_chars_pieces]

/-- A character other than a backslash is a piece by itself, if nothing before it takes it. -/
theorem pieces_cons {c : Char} (h : c ≠ '\\') (rest : List Char) :
    pieces (c :: rest) = .single c :: pieces rest := by
  rw [pieces]
  exact fun _ _ hc => absurd hc h

/-! ## What takes the next character -/

/-- Whether the character behind a text is taken by a backslash, where `escaped` tells whether the
first character of the text is. -/
def isEscapedAfter (escaped : Bool) : List Char → Bool
  | [] => escaped
  | c :: rest => isEscapedAfter (c == '\\' && !escaped) rest

theorem isEscapedAfter_append (escaped : Bool) (cs ds : List Char) :
    isEscapedAfter escaped (cs ++ ds) = isEscapedAfter (isEscapedAfter escaped cs) ds := by
  induction cs generalizing escaped with
  | nil => rfl
  | cons c rest ih => exact ih _

/-- Texts are read one after the other, unless the first one takes something of the second. -/
theorem pieces_append {cs : List Char} (h : isEscapedAfter false cs = false) (ds : List Char) :
    pieces (cs ++ ds) = pieces cs ++ pieces ds := by
  fun_induction pieces cs with
  | case1 => rfl
  | case2 c rest ih =>
    have hrest : isEscapedAfter false rest = false := by simpa [isEscapedAfter] using h
    rw [List.cons_append, List.cons_append, pieces, ih hrest, List.cons_append]
  | case3 c rest hpair ih =>
    have hc : c ≠ '\\' := by
      rintro rfl
      -- a backslash by itself is the last character, and takes what follows
      cases rest with
      | nil => exact absurd h (by decide)
      | cons d rest => exact hpair d rest rfl rfl
    have hrest : isEscapedAfter false rest = false := by
      simpa [isEscapedAfter, beq_eq_false_iff_ne.mpr hc] using h
    rw [List.cons_append, pieces_cons hc, ih hrest, List.cons_append]

/-- The number of backslashes at the end of a text. -/
def trailingBackslashes (cs : List Char) : Nat := (cs.reverse.takeWhile (· == '\\')).length

theorem trailingBackslashes_append (cs : List Char) (c : Char) :
    trailingBackslashes (cs ++ [c]) = if c = '\\' then trailingBackslashes cs + 1 else 0 := by
  rw [trailingBackslashes, List.reverse_append, List.reverse_singleton, List.singleton_append,
    List.takeWhile_cons]
  by_cases hc : c = '\\'
  · rw [if_pos hc, if_pos (beq_iff_eq.mpr hc), List.length_cons, trailingBackslashes]
  · rw [if_neg hc, if_neg (hc ∘ beq_iff_eq.mp), List.length_nil]

/-- **A character is taken by a backslash exactly when the number of backslashes before it is
odd.** -/
theorem isEscapedAfter_iff_odd (cs : List Char) :
    isEscapedAfter false cs = true ↔ Odd (trailingBackslashes cs) := by
  induction cs using List.reverseRecOn with
  | nil => exact iff_of_false (by decide) (by decide)
  | append_singleton cs c ih =>
    rw [isEscapedAfter_append, trailingBackslashes_append]
    by_cases hc : c = '\\'
    · -- one more backslash turns the answer round
      rw [if_pos hc, Nat.odd_add_one, ← ih]
      simp [isEscapedAfter, hc]
    · rw [if_neg hc]
      simp [isEscapedAfter, hc]

/-! ## Slashes -/

/-- Escapes a slash that stands by itself. -/
def Piece.escapeSlash : Piece → Piece
  | .single '/' => .pair '/'
  | p => p

/-- Takes the backslash from an escaped slash. -/
def Piece.unescapeSlash : Piece → Piece
  | .pair '/' => .single '/'
  | p => p

theorem Piece.escapeSlash_single {c : Char} (h : c ≠ '/') :
    (Piece.single c).escapeSlash = .single c := by
  rw [escapeSlash]
  exact fun hc => h (Piece.single.inj hc)

/-- No slash stands by itself once slashes are escaped. -/
theorem Piece.escapeSlash_ne (p : Piece) : p.escapeSlash ≠ .single '/' := by
  fun_cases Piece.escapeSlash p with
  | case1 => exact nofun
  | case2 p h => exact h

theorem Piece.escapeSlash_of_ne {p : Piece} (h : p ≠ .single '/') : p.escapeSlash = p := by
  rw [escapeSlash]
  exact h

theorem Piece.unescapeSlash_escapeSlash (p : Piece) :
    p.escapeSlash.unescapeSlash = p.unescapeSlash := by
  fun_cases Piece.escapeSlash p with
  | case1 => rfl
  | case2 p h => rfl

/-- **Slashes are escaped piece by piece.** -/
theorem pieces_escapeSlashes (cs : List Char) :
    pieces (escapeSlashes false cs) = (pieces cs).map Piece.escapeSlash := by
  fun_induction pieces cs with
  | case1 => rfl
  | case2 c rest ih =>
    rw [escapeSlashes_backslash, escapeSlashes_escaped, pieces, ih]
    rfl
  | case3 c rest hpair ih =>
    by_cases hslash : c = '/'
    · subst hslash
      rw [escapeSlashes_slash, pieces, ih]
      rfl
    · rw [List.map_cons, Piece.escapeSlash_single hslash, ← ih]
      by_cases hbackslash : c = '\\'
      · -- a backslash by itself is the last character
        subst hbackslash
        cases rest with
        | nil => rfl
        | cons d rest => exact (hpair d rest rfl rfl).elim
      · rw [escapeSlashes_plain hslash hbackslash, pieces_cons hbackslash]

/-- Escaping slashes changes nothing about what takes the character behind a pattern. -/
theorem isEscapedAfter_escapeSlashes (escaped : Bool) (cs : List Char) :
    isEscapedAfter escaped (escapeSlashes escaped cs) = isEscapedAfter escaped cs := by
  induction cs generalizing escaped with
  | nil => rfl
  | cons c rest ih =>
    cases escaped with
    | true =>
      rw [escapeSlashes_escaped]
      simp [isEscapedAfter, ih]
    | false =>
      by_cases hslash : c = '/'
      · subst hslash
        rw [escapeSlashes_slash]
        exact ih false
      · rw [escapeSlashes, if_neg (by simp [hslash])]
        exact ih _

/-! ## Patterns between slashes -/

theorem toList_escapeRegex (pattern : String) :
    (escapeRegex pattern).toList = escapeSlashes false pattern.toList := by
  rw [escapeRegex, String.toList_ofList]

/-- Every slash in an escaped pattern is behind an odd number of backslashes. -/
theorem odd_before_slash {pattern : String} {before after : List Char}
    (h : (escapeRegex pattern).toList = before ++ '/' :: after) :
    Odd (trailingBackslashes before) := by
  rw [toList_escapeRegex] at h
  rw [← isEscapedAfter_iff_odd]
  by_contra heven
  -- the slash would be a piece by itself, of which there is none
  have hsplit : pieces (before ++ '/' :: after) = pieces before ++ .single '/' :: pieces after := by
    rw [pieces_append (Bool.eq_false_iff.mpr heven), pieces_cons (by decide)]
  have hmem : Piece.single '/' ∈ (pieces pattern.toList).map Piece.escapeSlash := by
    rw [← pieces_escapeSlashes, h, hsplit]
    exact List.mem_append_right _ List.mem_cons_self
  obtain ⟨p, -, hp⟩ := List.mem_map.mp hmem
  exact p.escapeSlash_ne hp

/-- Escaping keeps whether a pattern ends in a backslash that takes what follows. -/
theorem odd_trailingBackslashes_escapeRegex (pattern : String) :
    Odd (trailingBackslashes (escapeRegex pattern).toList) ↔
      Odd (trailingBackslashes pattern.toList) := by
  rw [← isEscapedAfter_iff_odd, ← isEscapedAfter_iff_odd, toList_escapeRegex,
    isEscapedAfter_escapeSlashes]

/-- The slash behind an escaped pattern ends it, and no slash before does. -/
theorem even_before_slash_iff {pattern : String}
    (hpattern : ¬ Odd (trailingBackslashes pattern.toList)) {before after : List Char}
    (h : (escapeRegex pattern).toList ++ ['/'] = before ++ '/' :: after) :
    ¬ Odd (trailingBackslashes before) ↔ after = [] := by
  rcases List.eq_nil_or_concat after with rfl | ⟨inside, c, rfl⟩
  · -- what comes before the last slash is the pattern
    have hbefore := List.append_cancel_right h
    rw [← hbefore, odd_trailingBackslashes_escapeRegex]
    exact iff_of_true hpattern rfl
  · -- any other slash is one of the pattern
    have hchars : (escapeRegex pattern).toList ++ ['/'] = (before ++ '/' :: inside) ++ [c] := by
      rw [h, List.concat_eq_append, List.append_assoc, List.cons_append]
    have hodd := odd_before_slash (List.append_inj_left' hchars rfl)
    exact iff_of_false (not_not.mpr hodd) (by simp)

/-- Escaping a second time changes nothing. -/
theorem escapeRegex_escapeRegex (pattern : String) :
    escapeRegex (escapeRegex pattern) = escapeRegex pattern := by
  rw [← String.toList_inj]
  apply pieces_injective
  rw [toList_escapeRegex, toList_escapeRegex, pieces_escapeSlashes, pieces_escapeSlashes,
    List.map_map]
  exact List.map_congr_left fun p _ => Piece.escapeSlash_of_ne p.escapeSlash_ne

/-- **Escaping delimits a pattern and leaves it as it is.** Every slash in an escaped pattern is
behind an odd number of backslashes. If the pattern does not end in an odd number of them, then of
the slashes behind the opening one, with any text before them, only the last character is behind an
even number. Read in pieces, with the pairs of a backslash and a slash taken for slashes, the
pattern and the escaped one are the same; and a second escaping changes nothing. -/
theorem escapeRegex_delimits (pattern : String) :
    (∀ before after, (escapeRegex pattern).toList = before ++ '/' :: after →
      Odd (trailingBackslashes before)) ∧
    (¬ Odd (trailingBackslashes pattern.toList) → ∀ before after,
      ("/" ++ escapeRegex pattern ++ "/").toList = '/' :: before ++ '/' :: after →
        (¬ Odd (trailingBackslashes ('/' :: before)) ↔ after = [])) ∧
    (pieces pattern.toList).map Piece.unescapeSlash =
      (pieces (escapeRegex pattern).toList).map Piece.unescapeSlash ∧
    escapeRegex (escapeRegex pattern) = escapeRegex pattern := by
  refine ⟨fun _ _ => odd_before_slash, fun hpattern before after h => ?_, ?_,
    escapeRegex_escapeRegex pattern⟩
  · have hinside : (escapeRegex pattern).toList ++ ['/'] = before ++ '/' :: after := by
      simpa using h
    rw [← isEscapedAfter_iff_odd]
    show ¬ isEscapedAfter false before = true ↔ after = []
    rw [isEscapedAfter_iff_odd]
    exact even_before_slash_iff hpattern hinside
  · rw [toList_escapeRegex, pieces_escapeSlashes, List.map_map]
    exact List.map_congr_left fun p _ => p.unescapeSlash_escapeSlash.symm

/-- A pattern with a slash that stands by itself and one that is escaped already. -/
theorem ratioPattern_is_delimited :
    (escapeRegex "a/b\\/c").toList = "a\\".toList ++ '/' :: "b\\/c".toList ∧
      Odd (trailingBackslashes "a\\".toList) ∧
      ¬ Odd (trailingBackslashes "a/b\\/c".toList) ∧
      (¬ Odd (trailingBackslashes "/a\\/b\\/c".toList) ↔ ([] : List Char) = []) :=
  ⟨by decide, (escapeRegex_delimits "a/b\\/c").1 _ "b\\/c".toList (by decide), by decide,
    (escapeRegex_delimits "a/b\\/c").2.1 (by decide) "a\\/b\\/c".toList [] (by decide)⟩

end WebForm.Source
