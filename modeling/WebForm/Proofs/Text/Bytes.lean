/-!
# Characters read off bytes

A text is an array of bytes, and its characters are found by decoding it at one index after the
other, which takes long when a closed text is evaluated in a proof. `chars` reads a text of ASCII
characters off the list of its bytes instead, in one pass, and is the same for all texts. What is
said of closed texts is rewritten with `chars_eq_toList` before it is decided.
-/

set_option autoImplicit false

namespace WebForm.Text

/-- The bytes of a text. -/
def bytes (s : String) : List UInt8 := s.toByteArray.data.toList

/-- Whether a byte is a character by itself. -/
def isAscii (b : UInt8) : Bool := b.toNat < 128

/-- The characters of a text, each read off one byte if every byte is a character by itself. -/
def chars (s : String) : List Char :=
  if (bytes s).all isAscii then (bytes s).map fun b => Char.ofNat b.toNat else s.toList

theorem bytes_eq_flatMap (s : String) : bytes s = s.toList.flatMap String.utf8EncodeChar := by
  rw [bytes, ← String.utf8Encode_toList, List.utf8Encode, List.toList_data_toByteArray]

/-- A character whose bytes are characters by themselves has one byte, which is its code. -/
theorem map_utf8EncodeChar {c : Char} (h : ∀ b ∈ String.utf8EncodeChar c, isAscii b = true) :
    (String.utf8EncodeChar c).map (fun b => Char.ofNat b.toNat) = [c] := by
  revert h
  fun_cases String.utf8EncodeChar c with
  | case1 v hsmall =>
    intro _
    have hbyte : (UInt8.ofNat c.val.toNat).toNat = c.toNat := by
      rw [UInt8.toNat_ofNat']
      exact Nat.mod_eq_of_lt (by omega)
    rw [List.map_singleton, hbyte, Char.ofNat_toNat]
  | _ =>
    -- the first of several bytes is 192 or more
    intro h
    have hfirst := h _ List.mem_cons_self
    simp only [isAscii, UInt8.toNat_ofNat', decide_eq_true_eq] at hfirst
    omega

theorem chars_eq_toList (s : String) : chars s = s.toList := by
  rw [chars]
  split
  · next hascii =>
    rw [bytes_eq_flatMap, List.all_eq_true] at hascii
    rw [bytes_eq_flatMap]
    generalize s.toList = cs at hascii ⊢
    induction cs with
    | nil => rfl
    | cons c cs ih =>
      rw [List.flatMap_cons, List.forall_mem_append] at hascii
      rw [List.flatMap_cons, List.map_append, map_utf8EncodeChar hascii.1, ih hascii.2,
        List.singleton_append]
  · rfl

end WebForm.Text
