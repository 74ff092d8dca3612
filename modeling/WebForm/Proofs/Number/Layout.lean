import WebForm.Number.Layout
import WebForm.Proofs.Script.Token
/-!
# Numbers are tokens

Counts and doubles as generated code writes them: a sign perhaps, and digits with at most a point
among them. Each is cut as one token.
-/

set_option autoImplicit false

namespace WebForm

open Script

/-- Digits, of which there is at least one, and points behind the first digit. -/
def IsDigits (cs : List Char) : Prop :=
  ∃ c rest, cs = c :: rest ∧ c.isDigit = true ∧ ∀ d ∈ rest, isNumberPart d = true

theorem isNumberPart_of_isDigit {c : Char} (h : c.isDigit = true) : isNumberPart c = true := by
  rw [isNumberPart, h, Bool.true_or]

theorem IsDigits.forall_mem {cs : List Char} (h : IsDigits cs) :
    ∀ c ∈ cs, isNumberPart c = true := by
  obtain ⟨c, rest, rfl, hc, hrest⟩ := h
  exact List.forall_mem_cons.mpr ⟨isNumberPart_of_isDigit hc, hrest⟩

theorem IsDigits.append {cs ds : List Char} (h : IsDigits cs)
    (hds : ∀ d ∈ ds, isNumberPart d = true) : IsDigits (cs ++ ds) := by
  obtain ⟨c, rest, rfl, hc, hrest⟩ := h
  exact ⟨c, rest ++ ds, rfl, hc, List.forall_mem_append.mpr ⟨hrest, hds⟩⟩

/-- Digits are written like a number. -/
theorem isNumberText_of_isDigits {cs : List Char} (h : IsDigits cs) :
    isNumberText (String.ofList cs) = true := by
  obtain ⟨c, rest, rfl, hc, hrest⟩ := h
  rw [isNumberText, String.toList_ofList]
  dsimp only
  rw [isNumberStart, hc, Bool.true_or, Bool.true_and, List.all_eq_true]
  exact hrest

/-- Digits behind a minus are written like a number. -/
theorem isNumberText_minus_of_isDigits {cs : List Char} (h : IsDigits cs) :
    isNumberText (String.ofList ('-' :: cs)) = true := by
  rw [isNumberText, String.toList_ofList]
  dsimp only
  rw [Bool.and_eq_true, List.all_eq_true]
  exact ⟨rfl, h.forall_mem⟩

/-! ## Whole numbers -/

theorem isDigits_toDigits (n : Nat) : IsDigits (Nat.toDigits 10 n) := by
  have hdigit : ∀ c ∈ Nat.toDigits 10 n, c.isDigit = true :=
    fun c hc => Nat.isDigit_of_mem_toDigits (by decide) (by decide) hc
  obtain ⟨c, rest, hcons⟩ := List.exists_cons_of_ne_nil (@Nat.toDigits_ne_nil n 10)
  rw [hcons] at hdigit ⊢
  rw [List.forall_mem_cons] at hdigit
  exact ⟨c, rest, rfl, hdigit.1, fun d hd => isNumberPart_of_isDigit (hdigit.2 d hd)⟩

theorem isNumberText_toString_nat (n : Nat) : isNumberText (toString n) = true := by
  rw [Nat.toString_eq_ofList_toDigits]
  exact isNumberText_of_isDigits (isDigits_toDigits n)

theorem isNumberText_toString_int (n : Int) : isNumberText (toString n) = true := by
  cases n with
  | ofNat n => exact isNumberText_toString_nat n
  | negSucc n =>
    have htext : toString (Int.negSucc n) = String.ofList ('-' :: Nat.toDigits 10 (n + 1)) := by
      rw [show toString (Int.negSucc n) = "-" ++ toString (n + 1) from rfl,
        Nat.toString_eq_ofList_toDigits, String.ofList_cons]
      rfl
    rw [htext]
    exact isNumberText_minus_of_isDigits (isDigits_toDigits (n + 1))

/-! ## Doubles -/

theorem Decimal.isDigits_positional (d : Decimal) : IsDigits d.positional := by
  have hzeros : ∀ n, ∀ c ∈ zeros n, isNumberPart c = true := by
    intro n c hc
    rw [List.eq_of_mem_replicate hc]
    decide
  have hdigits : IsDigits (digitsOf d.coefficient) := isDigits_toDigits d.coefficient
  rw [positional]
  by_cases hwhole : 0 ≤ d.exponent
  · rw [if_pos hwhole]
    exact hdigits.append (hzeros _)
  · rw [if_neg hwhole]
    dsimp only
    by_cases hplaces : (-d.exponent).toNat < (digitsOf d.coefficient).length
    · rw [if_pos hplaces]
      obtain ⟨c, rest, hcons, hc, hrest⟩ := hdigits
      -- at least one digit stands before the point
      obtain ⟨n, hn⟩ : ∃ n, (digitsOf d.coefficient).length - (-d.exponent).toNat = n + 1 :=
        ⟨_, (Nat.succ_pred_eq_of_pos (by omega)).symm⟩
      rw [hn, hcons, List.take_succ_cons, List.drop_succ_cons, List.cons_append]
      refine ⟨c, _, rfl, hc, ?_⟩
      rw [List.forall_mem_append, List.forall_mem_cons]
      exact ⟨fun e he => hrest e (List.mem_of_mem_take he), by decide,
        fun e he => hrest e (List.mem_of_mem_drop he)⟩
    · rw [if_neg hplaces]
      refine ⟨'0', '.' :: zeros _ ++ digitsOf d.coefficient, rfl, by decide, ?_⟩
      rw [List.forall_mem_append, List.forall_mem_cons]
      exact ⟨⟨by decide, hzeros _⟩, hdigits.forall_mem⟩

/-- A double in generated code is written like a number. -/
theorem Double.isNumberText_plainText (d : Double) : isNumberText d.plainText = true := by
  have hpositional := Decimal.isDigits_positional (d.shortest .away)
  rw [plainText]
  split
  · exact isNumberText_toString_int d.truncate
  · rw [signChars]
    cases d.negative with
    | true => exact isNumberText_minus_of_isDigits hpositional
    | false => exact isNumberText_of_isDigits hpositional

end WebForm
