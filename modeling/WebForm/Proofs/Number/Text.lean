import Mathlib.Data.List.Induction
import WebForm.Proofs.Number.Layout
import WebForm.Proofs.Number.Numeral
/-!
# Texts of numbers

How a number is written, and that what is written is a numeral again. A layout moves the point and
the zeros and keeps the number that the digits stand for, so the text of a double spells its
shortest digits, and the double nearest to the text is the double. The text of an integer spells the
integer.

A text of a number is also recognized as one: it has no other characters than numerals have, it
starts with a digit or a minus, and no zero stands before its first digit.
-/

set_option autoImplicit false

namespace WebForm

open Decimal

/-- Characters of a class are taken up to where the class ends. -/
theorem takeWhile_append_eq_left {p : Char → Bool} {cs rest : List Char}
    (h : ∀ c ∈ cs, p c = true) (hrest : rest.takeWhile p = []) :
    (cs ++ rest).takeWhile p = cs := by
  rw [List.takeWhile_append_of_pos h, hrest, List.append_nil]

theorem dropWhile_append_eq_right {p : Char → Bool} {cs rest : List Char}
    (h : ∀ c ∈ cs, p c = true) (hrest : rest.takeWhile p = []) :
    (cs ++ rest).dropWhile p = rest := by
  have happend := List.takeWhile_append_dropWhile (p := p) (l := rest)
  rw [hrest, List.nil_append] at happend
  rw [List.dropWhile_append_of_pos h, happend]

namespace Numeral

/-! ## Digits -/

theorem isDigit_eq (c : Char) : isDigit c = c.isDigit := rfl

theorem ofDigits_eq (cs : List Char) : ofDigits cs = Nat.ofDigitChars 10 cs 0 := by
  rw [ofDigits, Nat.ofDigitChars_eq_foldl]
  simp only [digitValue, Nat.mul_comm]

/-- Digits only. -/
def AreDigits (cs : List Char) : Prop := ∀ c ∈ cs, isDigit c = true

theorem areDigits_digitsOf (n : ℕ) : AreDigits (digitsOf n) := by
  intro c hc
  rw [isDigit_eq]
  exact Nat.isDigit_of_mem_toDigits (by decide) (by decide) hc

theorem areDigits_zeros (n : ℕ) : AreDigits (zeros n) := by
  intro c hc
  rw [List.eq_of_mem_replicate hc]
  rfl

theorem AreDigits.append {cs ds : List Char} (hcs : AreDigits cs) (hds : AreDigits ds) :
    AreDigits (cs ++ ds) :=
  List.forall_mem_append.mpr ⟨hcs, hds⟩

/-- Digits are a number with no more digits. -/
theorem AreDigits.ofDigits_lt {cs : List Char} (h : AreDigits cs) :
    ofDigits cs < 10 ^ cs.length := by
  induction cs using List.reverseRecOn with
  | nil => decide
  | append_singleton cs c ih =>
    have hc : isDigit c = true := h c (by simp)
    have hvalue : digitValue c ≤ 9 := by
      rw [isDigit, Bool.and_eq_true, decide_eq_true_iff, decide_eq_true_iff] at hc
      exact Nat.sub_le_sub_right (show c.toNat ≤ '9'.toNat from hc.2) _
    have hlt := ih fun d hd => h d (List.mem_append_left _ hd)
    rw [ofDigits, List.foldl_append, ← ofDigits, List.length_append, List.length_singleton,
      Nat.pow_succ]
    dsimp only [List.foldl_cons, List.foldl_nil]
    omega

@[simp] theorem ofDigits_digitsOf (n : ℕ) : ofDigits (digitsOf n) = n := by
  rw [ofDigits_eq]
  exact Nat.ofDigitChars_ten_toDigits

theorem ofDigits_append_zeros (cs : List Char) (n : ℕ) :
    ofDigits (cs ++ zeros n) = ofDigits cs * 10 ^ n := by
  rw [ofDigits_eq, ofDigits_eq, Nat.ofDigitChars_append, zeros, Nat.ofDigitChars_replicate_zero,
    Nat.mul_comm]

theorem ofDigits_zeros_append (n : ℕ) (cs : List Char) :
    ofDigits (zeros n ++ cs) = ofDigits cs := by
  rw [ofDigits_eq, ofDigits_eq, Nat.ofDigitChars_append, zeros, Nat.ofDigitChars_replicate_zero,
    Nat.mul_zero]

/-! ## Reading -/

/-- The sign of a negative number. -/
def signOf (negative : Bool) : List Char := if negative then ['-'] else []

/-- A text that starts with no digit. -/
def StartsNoDigit (cs : List Char) : Prop := cs.takeWhile isDigit = []

/-- A sign is taken from digits. -/
theorem takeSign_append (negative : Bool) (ds rest : List Char) (h : AreDigits ds) (hne : ds ≠ []) :
    takeSign (signOf negative ++ (ds ++ rest)) = (negative, ds ++ rest) := by
  cases negative with
  | true => rfl
  | false =>
    obtain ⟨c, ds, rfl⟩ := List.exists_cons_of_ne_nil hne
    have hc : isDigit c = true := h c List.mem_cons_self
    rw [signOf, if_neg Bool.false_ne_true, List.nil_append, List.cons_append]
    unfold takeSign
    split
    next heq =>
      obtain ⟨rfl, -⟩ := List.cons.inj heq
      cases hc
    next heq =>
      obtain ⟨rfl, -⟩ := List.cons.inj heq
      cases hc
    next => rfl

/-- A numeral without a point. -/
theorem ofChars?_whole (negative : Bool) (whole tail : List Char) (hwhole : AreDigits whole)
    (hne : whole ≠ []) (htail : StartsNoDigit tail) (hpoint : ∀ rest, tail ≠ '.' :: rest) :
    ofChars? (signOf negative ++ (whole ++ tail)) =
      (exponentPart? tail).map fun e => ⟨negative, ofDigits whole, whole.length, e⟩ := by
  rw [ofChars?, takeSign_append negative whole _ hwhole hne]
  dsimp only
  rw [takeWhile_append_eq_left hwhole htail, dropWhile_append_eq_right hwhole htail]
  have hnonempty : whole.isEmpty = false := List.isEmpty_eq_false_iff.mpr hne
  split
  next rest => exact absurd rfl (hpoint rest)
  next =>
    dsimp only
    rw [List.append_nil, hnonempty, if_neg Bool.false_ne_true]
    simp only [List.length_nil, Nat.cast_zero, sub_zero]

/-- A numeral with a point. -/
theorem ofChars?_point (negative : Bool) {whole fraction tail : List Char}
    (hwhole : AreDigits whole) (hne : whole ≠ []) (hfraction : AreDigits fraction)
    (htail : StartsNoDigit tail) :
    ofChars? (signOf negative ++ (whole ++ '.' :: (fraction ++ tail))) =
      (exponentPart? tail).map fun e =>
        ⟨negative, ofDigits (whole ++ fraction), (whole ++ fraction).length,
          e - fraction.length⟩ := by
  have hpoint : StartsNoDigit ('.' :: (fraction ++ tail)) := rfl
  rw [ofChars?, takeSign_append negative whole _ hwhole hne]
  dsimp only
  rw [takeWhile_append_eq_left hwhole hpoint, dropWhile_append_eq_right hwhole hpoint]
  have hnonempty : (whole ++ fraction).isEmpty = false := by simp [hne]
  split
  next rest heq =>
    obtain rfl : fraction ++ tail = rest := (List.cons.inj heq).2
    dsimp only
    rw [takeWhile_append_eq_left hfraction htail, dropWhile_append_eq_right hfraction htail,
      hnonempty, if_neg Bool.false_ne_true]
  next hnone => exact absurd rfl (hnone _)

/-- An exponent is read back. -/
theorem exponentPart?_signed (e : ℤ) :
    exponentPart? ('e' :: (if e < 0 then '-' else '+') :: digitsOf e.natAbs) = some e := by
  have hempty : (digitsOf e.natAbs).isEmpty = false :=
    List.isEmpty_eq_false_iff.mpr Nat.toDigits_ne_nil
  have hall : (digitsOf e.natAbs).all isDigit = true :=
    List.all_eq_true.mpr (areDigits_digitsOf e.natAbs)
  have htake : takeSign ((if e < 0 then '-' else '+') :: digitsOf e.natAbs) =
      (decide (e < 0), digitsOf e.natAbs) := by
    split
    next h => rw [decide_eq_true h]; rfl
    next h => rw [decide_eq_false h]; rfl
  rw [exponentPart?, htake]
  dsimp only
  rw [hempty, hall, ofDigits_digitsOf]
  by_cases h : e < 0
  · have hneg : -(e.natAbs : ℤ) = e := by omega
    simpa [h] using hneg
  · have hnonneg : (e.natAbs : ℤ) = e := by omega
    simpa [h] using hnonneg

/-! ## Texts of decimals -/

/-- A text that is a numeral of a sign and a number, with enough digits. -/
def Spells (cs : List Char) (negative : Bool) (x : ℚ) : Prop :=
  ∃ n, ofChars? cs = some n ∧ n.negative = negative ∧ n.value = x ∧ n.coefficient < 10 ^ n.digits

variable (negative : Bool) {s : Decimal}

theorem spells_whole (whole tail : List Char) {e : ℤ} {x : ℚ} (hwhole : AreDigits whole)
    (hne : whole ≠ []) (htail : StartsNoDigit tail) (hpoint : ∀ rest, tail ≠ '.' :: rest)
    (hexponent : exponentPart? tail = some e) (hvalue : (ofDigits whole : ℚ) * 10 ^ e = x) :
    Spells (signOf negative ++ (whole ++ tail)) negative x := by
  refine ⟨⟨negative, ofDigits whole, whole.length, e⟩, ?_, rfl, hvalue, hwhole.ofDigits_lt⟩
  rw [ofChars?_whole negative whole tail hwhole hne htail hpoint, hexponent]
  rfl

theorem spells_point (whole fraction tail : List Char) {e : ℤ} {x : ℚ} (hwhole : AreDigits whole)
    (hne : whole ≠ []) (hfraction : AreDigits fraction) (htail : StartsNoDigit tail)
    (hexponent : exponentPart? tail = some e)
    (hvalue : (ofDigits (whole ++ fraction) : ℚ) * 10 ^ (e - fraction.length) = x) :
    Spells (signOf negative ++ (whole ++ '.' :: (fraction ++ tail))) negative x := by
  refine ⟨⟨negative, ofDigits (whole ++ fraction), (whole ++ fraction).length,
    e - fraction.length⟩, ?_, rfl, hvalue, (hwhole.append hfraction).ofDigits_lt⟩
  rw [ofChars?_point negative hwhole hne hfraction htail, hexponent]
  rfl

/-- The digits of a whole number, with a fraction of one zero. -/
theorem spells_positional_zero (h : 0 ≤ s.exponent) :
    Spells (signOf negative ++ (s.positional ++ ['.', '0'])) negative s.value := by
  have hdigits := areDigits_digitsOf s.coefficient
  have hne : digitsOf s.coefficient ≠ [] := Nat.toDigits_ne_nil
  obtain ⟨e, he⟩ := Int.eq_ofNat_of_zero_le h
  rw [positional, if_pos h]
  refine spells_point negative (e := 0) _ (zeros 1) [] (hdigits.append (areDigits_zeros _))
    (by simp [hne]) (areDigits_zeros 1) rfl rfl ?_
  have hplace : (10 : ℚ) * 10 ^ (0 - ((zeros 1).length : ℤ)) = 1 := by norm_num [zeros]
  rw [ofDigits_append_zeros, ofDigits_append_zeros, ofDigits_digitsOf, Decimal.value, he,
    Int.toNat_natCast, zpow_natCast]
  push_cast
  rw [mul_assoc, hplace, mul_one]

/-- The digits of a number with a fraction. -/
theorem spells_positional (h : ¬0 ≤ s.exponent) :
    Spells (signOf negative ++ s.positional) negative s.value := by
  have hdigits := areDigits_digitsOf s.coefficient
  obtain ⟨places, hplaces⟩ := Int.eq_ofNat_of_zero_le (a := -s.exponent) (by omega)
  obtain hexponent : s.exponent = 0 - (places : ℤ) := by omega
  rw [positional, if_neg h, hplaces, Int.toNat_natCast]
  dsimp only
  split
  next hlt =>
    have hsplit := List.take_append_drop ((digitsOf s.coefficient).length - places)
      (digitsOf s.coefficient)
    have hlength :
        ((digitsOf s.coefficient).drop ((digitsOf s.coefficient).length - places)).length =
          places := by
      rw [List.length_drop]
      omega
    rw [← List.append_nil (List.drop _ _)]
    refine spells_point negative (e := 0) _ _ []
      (fun c hc => hdigits c (List.mem_of_mem_take hc)) ?_
      (fun c hc => hdigits c (List.mem_of_mem_drop hc)) rfl rfl ?_
    · rw [← List.length_pos_iff, List.length_take]
      omega
    · rw [hsplit, hlength, ofDigits_digitsOf, Decimal.value, hexponent]
  next hge =>
    have hlength : (zeros (places - (digitsOf s.coefficient).length) ++
        digitsOf s.coefficient).length = places := by
      rw [List.length_append, zeros, List.length_replicate]
      omega
    rw [List.cons_append, List.cons_append, ← List.append_nil (zeros _ ++ _)]
    refine spells_point negative (e := 0) (zeros 1) _ [] (areDigits_zeros 1)
      (List.cons_ne_nil _ _) ((areDigits_zeros _).append hdigits) rfl rfl ?_
    rw [hlength, ofDigits_zeros_append, ofDigits_zeros_append, ofDigits_digitsOf, Decimal.value,
      hexponent]

/-- The digits with a power of ten. -/
theorem spells_scientific : Spells (signOf negative ++ s.scientific) negative s.value := by
  have hdigits := areDigits_digitsOf s.coefficient
  have htail : StartsNoDigit ('e' :: (if s.lead < 0 then '-' else '+') :: digitsOf s.lead.natAbs) :=
    rfl
  have hvalue : (ofDigits (digitsOf s.coefficient) : ℚ) *
      10 ^ (s.lead - ((digitsOf s.coefficient).length - 1)) = s.value := by
    rw [ofDigits_digitsOf, lead, add_sub_cancel_left, Decimal.value]
  rw [scientific]
  split
  next first second rest hcons =>
    rw [hcons] at hdigits hvalue
    refine spells_point negative [first] (second :: rest) _ ?_ (List.cons_ne_nil _ _)
      (fun c hc => hdigits c (List.mem_cons_of_mem _ hc)) htail
      (exponentPart?_signed s.lead) ?_
    · intro c hc
      rw [List.mem_singleton.mp hc]
      exact hdigits first List.mem_cons_self
    · rw [← hvalue]
      simp
  next hshort =>
    have hne : digitsOf s.coefficient ≠ [] := Nat.toDigits_ne_nil
    have hlength : ((digitsOf s.coefficient).length : ℤ) - 1 = 0 := by
      obtain ⟨first, rest, hcons⟩ := List.exists_cons_of_ne_nil hne
      cases rest with
      | nil => simp [hcons]
      | cons second rest => exact absurd hcons (hshort first second rest)
    rw [hlength, sub_zero] at hvalue
    have hpoint : ∀ rest, 'e' :: (if s.lead < 0 then '-' else '+') :: digitsOf s.lead.natAbs ≠
        '.' :: rest := fun rest h => absurd (List.cons.inj h).1 (by decide)
    exact spells_whole negative _ _ hdigits hne htail hpoint (exponentPart?_signed s.lead) hvalue

/-- The digits of an integer. -/
theorem ofChars?_digitsOf (n : ℕ) :
    ofChars? (signOf negative ++ digitsOf n) =
      some ⟨negative, n, (digitsOf n).length, 0⟩ := by
  have hread := ofChars?_whole negative _ [] (areDigits_digitsOf n) Nat.toDigits_ne_nil rfl
    fun _ => (List.cons_ne_nil _ _).symm
  rwa [List.append_nil, ofDigits_digitsOf] at hread

end Numeral

namespace Double

open Numeral

/-- The text of a double other than zero spells its shortest digits. -/
theorem spells_documentText {d : Double} (hd : d.magnitude ≠ 0) :
    Spells d.documentText.toList d.negative (d.shortest .toEven).value := by
  rw [documentText, if_neg hd, String.toList_ofList]
  dsimp only
  split
  · split
    next hwhole => exact spells_positional_zero d.negative hwhole
    next hfraction => exact spells_positional d.negative hfraction
  · exact spells_scientific d.negative

theorem documentText_of_magnitude_eq_zero {d : Double} (hd : d.magnitude = 0) :
    d.documentText.toList = signOf d.negative ++ ['0', '.', '0'] := by
  rw [documentText, if_pos hd, String.toList_ofList]
  rfl

/-- **The double nearest to the text of a double is the double.** -/
theorem toDouble?_documentText (d : Double) :
    (ofChars? d.documentText.toList).bind toDouble? = some d := by
  by_cases hd : d.magnitude = 0
  · rw [documentText_of_magnitude_eq_zero hd]
    obtain ⟨negative, magnitude, hfinite⟩ := d
    obtain rfl : magnitude = 0 := hd
    cases negative <;> rfl
  · obtain ⟨n, hread, hsign, hvalue, hdigits⟩ := spells_documentText hd
    rw [hread, Option.bind_some]
    refine toDouble?_eq_some hd hsign hdigits ?_
    rw [hvalue]
    exact isNear_shortest .toEven hd

end Double

/-! ## What numbers look like -/

namespace Numeral

/-- Characters that numerals are made of. -/
def isPart (c : Char) : Bool :=
  isDigit c || c == '.' || c == 'e' || c == 'E' || c == '+' || c == '-'

/-- A number without its sign: it starts with a digit, and with a zero only if no other digit
follows. -/
structure IsUnsigned (cs : List Char) : Prop where
  starts : ∃ c rest, cs = c :: rest ∧ isDigit c = true ∧ (c = '0' → StartsNoDigit rest)
  parts : ∀ c ∈ cs, isPart c = true

theorem AreDigits.parts {cs : List Char} (h : AreDigits cs) : ∀ c ∈ cs, isPart c = true := by
  intro c hc
  simp [isPart, h c hc]

/-- Behind a digit that is no zero anything may follow. -/
theorem isUnsigned_cons {c : Char} {rest : List Char} (hc : isDigit c = true) (hzero : c ≠ '0')
    (hrest : ∀ d ∈ rest, isPart d = true) : IsUnsigned (c :: rest) where
  starts := ⟨c, rest, rfl, hc, fun h => absurd h hzero⟩
  parts := by
    rw [List.forall_mem_cons]
    exact ⟨by simp [isPart, hc], hrest⟩

/-- Behind a zero nothing follows that starts with a digit. -/
theorem isUnsigned_zero {rest : List Char} (hrest : StartsNoDigit rest)
    (hparts : ∀ d ∈ rest, isPart d = true) : IsUnsigned ('0' :: rest) where
  starts := ⟨'0', rest, rfl, rfl, fun _ => hrest⟩
  parts := by
    rw [List.forall_mem_cons]
    exact ⟨by decide, hparts⟩

/-- Digits start with a zero only where they have to. -/
theorem digitsOf_eq_cons {n : ℕ} (hn : n ≠ 0) :
    ∃ c rest, digitsOf n = c :: rest ∧ isDigit c = true ∧ c ≠ '0' ∧ AreDigits rest := by
  obtain ⟨c, rest, hcons⟩ := List.exists_cons_of_ne_nil (l := digitsOf n) Nat.toDigits_ne_nil
  have hdigits := areDigits_digitsOf n
  rw [hcons] at hdigits
  refine ⟨c, rest, hcons, hdigits c List.mem_cons_self, ?_,
    fun d hd => hdigits d (List.mem_cons_of_mem c hd)⟩
  rintro rfl
  -- without its zero the number would have a digit less than it needs
  have hrest : AreDigits rest := fun d hd => hdigits d (List.mem_cons_of_mem _ hd)
  have hvalue : ofDigits rest = n := by
    rw [← ofDigits_zeros_append 1 rest, ← ofDigits_digitsOf n, hcons]
    rfl
  have hlt := hrest.ofDigits_lt
  rw [hvalue] at hlt
  have hle := pow_length_digitsOf_le (Nat.pos_of_ne_zero hn)
  rw [hcons, List.length_cons, Nat.add_sub_cancel] at hle
  omega

theorem isUnsigned_digitsOf (n : ℕ) : IsUnsigned (digitsOf n) := by
  by_cases hn : n = 0
  · subst hn
    exact isUnsigned_zero rfl (List.forall_mem_nil _)
  · obtain ⟨c, rest, hcons, hc, hzero, hrest⟩ := digitsOf_eq_cons hn
    rw [hcons]
    exact isUnsigned_cons hc hzero hrest.parts

variable {s : Decimal}

theorem isUnsigned_positional_append (h : s.coefficient ≠ 0) (ds : List Char)
    (hds : ∀ d ∈ ds, isPart d = true) : IsUnsigned (s.positional ++ ds) := by
  obtain ⟨c, rest, hcons, hc, hzero, hrest⟩ := digitsOf_eq_cons h
  have hdigits := (areDigits_digitsOf s.coefficient).parts
  rw [positional]
  split
  · rw [hcons, List.append_assoc, List.cons_append]
    refine isUnsigned_cons hc hzero (List.forall_mem_append.mpr ⟨hrest.parts, ?_⟩)
    exact List.forall_mem_append.mpr ⟨(areDigits_zeros _).parts, hds⟩
  · dsimp only
    split
    next hplaces =>
      -- at least one digit stands before the point
      obtain ⟨n, hn⟩ : ∃ n, (digitsOf s.coefficient).length - (-s.exponent).toNat = n + 1 :=
        ⟨_, (Nat.succ_pred_eq_of_pos (by omega)).symm⟩
      rw [hcons] at hn ⊢
      rw [hn, List.take_succ_cons, List.drop_succ_cons, List.append_assoc, List.cons_append,
        List.cons_append]
      refine isUnsigned_cons hc hzero (List.forall_mem_append.mpr
        ⟨fun d hd => hrest.parts d (List.mem_of_mem_take hd), List.forall_mem_cons.mpr ⟨rfl, ?_⟩⟩)
      exact List.forall_mem_append.mpr ⟨fun d hd => hrest.parts d (List.mem_of_mem_drop hd), hds⟩
    next =>
      rw [List.append_assoc, List.cons_append, List.cons_append]
      refine isUnsigned_zero rfl (List.forall_mem_cons.mpr ⟨rfl, List.forall_mem_append.mpr
        ⟨(areDigits_zeros _).parts, List.forall_mem_append.mpr ⟨hdigits, hds⟩⟩⟩)

theorem isUnsigned_scientific (h : s.coefficient ≠ 0) : IsUnsigned s.scientific := by
  obtain ⟨c, rest, hcons, hc, hzero, hrest⟩ := digitsOf_eq_cons h
  have hsign : isPart (if s.lead < 0 then '-' else '+') = true := by
    split <;> decide
  have hpower : ∀ d ∈ 'e' :: (if s.lead < 0 then '-' else '+') :: digitsOf s.lead.natAbs,
      isPart d = true :=
    List.forall_mem_cons.mpr ⟨by decide, List.forall_mem_cons.mpr
      ⟨hsign, (areDigits_digitsOf _).parts⟩⟩
  rw [scientific, hcons]
  cases rest with
  | nil => exact isUnsigned_cons hc hzero hpower
  | cons second rest =>
    refine isUnsigned_cons hc hzero (List.forall_mem_cons.mpr ⟨by decide, ?_⟩)
    exact List.forall_mem_append.mpr ⟨hrest.parts, hpower⟩

/-- A number that is an integer by its looks: no fraction and no exponent. -/
def isWhole (cs : List Char) : Bool := cs.all fun c => isDigit c || c == '-'

theorem isWhole_eq_false_of_mem {cs : List Char} {c : Char} (hc : c ∈ cs)
    (hdigit : isDigit c = false) (hminus : c ≠ '-') : isWhole cs = false := by
  rw [isWhole, List.all_eq_false]
  exact ⟨c, hc, by simp [hdigit, hminus]⟩

end Numeral

namespace Double

open Numeral

/-- A double is written with a sign perhaps, as a number, and never as an integer. -/
theorem exists_documentText (d : Double) :
    ∃ body, d.documentText.toList = signOf d.negative ++ body ∧ IsUnsigned body ∧
      isWhole d.documentText.toList = false := by
  by_cases hd : d.magnitude = 0
  · have hchars := documentText_of_magnitude_eq_zero hd
    refine ⟨_, hchars, isUnsigned_zero rfl (List.all_eq_true.mp rfl), ?_⟩
    rw [hchars]
    exact isWhole_eq_false_of_mem (c := '.') (by simp) (by decide) (by decide)
  · have hcoefficient : (d.shortest .toEven).coefficient ≠ 0 := by
      intro hzero
      have hpos := (isNear_shortest .toEven hd).pos hd
      rw [Decimal.value, hzero, Nat.cast_zero, zero_mul] at hpos
      exact lt_irrefl 0 hpos
    rw [documentText, if_neg hd, String.toList_ofList]
    refine ⟨_, rfl, ?_⟩
    dsimp only
    split
    · split
      next hwhole =>
        refine ⟨isUnsigned_positional_append hcoefficient _ (List.all_eq_true.mp rfl), ?_⟩
        exact isWhole_eq_false_of_mem (c := '.') (by simp) (by decide) (by decide)
      next hfraction =>
        have hunsigned := isUnsigned_positional_append hcoefficient []
          (List.forall_mem_nil _)
        rw [List.append_nil] at hunsigned
        refine ⟨hunsigned, isWhole_eq_false_of_mem (c := '.') (List.mem_append_right _ ?_)
          (by decide) (by decide)⟩
        rw [positional, if_neg hfraction]
        dsimp only
        split <;> simp
    · refine ⟨isUnsigned_scientific hcoefficient, ?_⟩
      exact isWhole_eq_false_of_mem (c := 'e') (by simp [scientific]) (by decide) (by decide)

end Double

end WebForm
