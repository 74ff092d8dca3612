import WebForm.Proofs.Component.Rendering
import WebForm.Proofs.Identifier
/-!
# Handles of lists

The lists at the top of a form bind handles one after the other. Whatever a field is called, its
handles are identifiers: a name that is none is made into a word, and a number behind a name keeps
it an identifier. Where the fields have distinct names, each list is found with its own handles.
-/

set_option autoImplicit false

namespace WebForm

/-- The lists among some fields. -/
def Field.lists (fs : List Field) : List Field := fs.filter fun f => f.kind? = some .array

theorem Field.lists_cons (f : Field) (rest : List Field) :
    Field.lists (f :: rest) = if f.kind? = some .array then f :: lists rest else lists rest := by
  simp only [lists, List.filter_cons, decide_eq_true_eq]

namespace Component

open Source Identifier

/-! ## Identifiers -/

theorem isIdentifier_append {s suffix : String} (h : isIdentifier s = true)
    (hsuffix : suffix.toList.all isIdentifierPart = true) :
    isIdentifier (s ++ suffix) = true := by
  rw [isIdentifier] at h ⊢
  rw [String.toList_append]
  cases hchars : s.toList with
  | nil =>
    rw [hchars] at h
    cases h
  | cons c rest =>
    rw [hchars, Bool.and_eq_true] at h
    rw [List.cons_append, Bool.and_eq_true, List.all_append, Bool.and_eq_true]
    exact ⟨h.1, h.2, hsuffix⟩

theorem isIdentifierPart_of_isAlphanum {c : Char} (h : c.isAlphanum = true) :
    isIdentifierPart c = true := by
  rw [isIdentifierPart, h]
  rfl

theorem isAlphanum_of_isDigit {c : Char} (h : c.isDigit = true) : c.isAlphanum = true := by
  rw [Char.isAlphanum, h, Bool.or_true]

theorem all_isIdentifierPart_of_isDigit {cs : List Char} (h : ∀ c ∈ cs, c.isDigit = true) :
    cs.all isIdentifierPart = true :=
  List.all_eq_true.mpr fun c hc => isIdentifierPart_of_isAlphanum (isAlphanum_of_isDigit (h c hc))

/-- A word is an identifier. -/
theorem isIdentifier_of_isWord {s : String} (h : IsWord s.toList) : isIdentifier s = true := by
  rw [← @String.append_empty s]
  exact h.isIdentifier_append rfl

/-- A name that is given out is what was asked for, maybe with a number behind it. -/
theorem exists_digits_freeName (taken : List String) (base : String) :
    ∃ digits : String, (∀ c ∈ digits.toList, c.isDigit = true) ∧
      freeName taken base = base ++ digits := by
  have hcandidate : ∃ n, freeName taken base = candidate base n := by
    rw [freeName]
    cases hfound : ((List.range (taken.length + 1)).map (candidate base)).find?
        (!taken.contains ·) with
    | none => exact ⟨0, rfl⟩
    | some name =>
      obtain ⟨n, -, hn⟩ := List.mem_map.mp (List.mem_of_find?_eq_some hfound)
      exact ⟨n, hn.symm⟩
  obtain ⟨n, hn⟩ := hcandidate
  cases n with
  | zero => exact ⟨"", by simp, by rw [hn, candidate, String.append_empty]⟩
  | succ n =>
    refine ⟨toString (n + 2), ?_, hn⟩
    rw [Nat.toString_eq_ofList_toDigits, String.toList_ofList]
    exact fun c hc => Nat.isDigit_of_mem_toDigits (by decide) (by decide) hc

theorem isIdentifier_freeName {base : String} (h : isIdentifier base = true)
    (taken : List String) : isIdentifier (freeName taken base) = true := by
  obtain ⟨digits, hdigits, hname⟩ := exists_digits_freeName taken base
  rw [hname]
  exact isIdentifier_append h (all_isIdentifierPart_of_isDigit hdigits)

/-! ## Handles -/

namespace Handles

/-- Handles that can be called by their names. -/
structure Callable (handles : Handles) : Prop where
  append : isIdentifier handles.append = true
  remove : isIdentifier handles.remove = true

theorem callable_own : own.Callable := ⟨by decide, by decide⟩

/-- Whatever a field is called, its handles are named after an identifier. -/
theorem isIdentifier_base (name : String) : isIdentifier (base name) = true := by
  rw [base]
  split
  · next h => exact h
  · split
    · next value hvalue =>
      obtain ⟨type, htype, rfl⟩ := Outcome.map_eq_ok_iff.mp hvalue
      rw [valueNameOf]
      refine isIdentifier_of_isWord ?_
      rw [String.toList_ofList]
      exact (isWord_typeName htype).isTitle.isWord_camel
    · decide

theorem callable_ofBase {name : String} (h : isIdentifier name = true) :
    (ofBase name).Callable :=
  ⟨isIdentifier_append h (by decide), isIdentifier_append h (by decide)⟩

/-- All handles of lists can be called by their names. -/
theorem callable_of_mem_ofFields {taken : List String} {fs : List Field} :
    ∀ h ∈ ofFields taken fs, h.2.Callable := by
  induction fs generalizing taken with
  | nil =>
    intro h hh
    cases hh
  | cons f rest ih =>
    rw [ofFields]
    split
    · rw [List.forall_mem_cons]
      exact ⟨callable_ofBase (isIdentifier_freeName (isIdentifier_base f.name) taken), ih⟩
    · exact ih

/-- There are handles for each list, in order. -/
theorem map_fst_ofFields (taken : List String) (fs : List Field) :
    (ofFields taken fs).map Prod.fst = (Field.lists fs).map Field.name := by
  induction fs generalizing taken with
  | nil => rfl
  | cons f rest ih =>
    rw [ofFields, Field.lists_cons]
    split
    · rw [List.map_cons, List.map_cons, ih]
    · exact ih taken

/-- The handles that a list at the top of a form is rendered with. -/
def ofList (handles : List (String × Handles)) (f : Field) : Handles :=
  (handles.lookup f.name).getD (.ofBase (base f.name))

end Handles

theorem mem_of_lookup {α β : Type} [BEq α] [LawfulBEq α] {key : α} {value : β}
    {entries : List (α × β)} (h : entries.lookup key = some value) : (key, value) ∈ entries := by
  obtain ⟨before, after, rfl, -⟩ := List.lookup_eq_some_iff.mp h
  simp

theorem lookup_of_mem {α β : Type} [BEq α] [LawfulBEq α] {key : α} {value : β}
    {entries : List (α × β)} (hnodup : (entries.map Prod.fst).Nodup)
    (h : (key, value) ∈ entries) : entries.lookup key = some value := by
  obtain ⟨before, after, rfl⟩ := List.append_of_mem h
  refine List.lookup_eq_some_iff.mpr ⟨before, after, rfl, ?_⟩
  rw [List.map_append, List.nodup_append] at hnodup
  intro p hp
  have hne := hnodup.2.2 p.1 (List.mem_map_of_mem hp) key (by simp)
  simpa using Ne.symm hne

/-- Whichever handles a list is rendered with, they can be called by their names. -/
theorem Handles.callable_ofList (fields : List Field) (f : Field) :
    (ofList (arrayHandles fields) f).Callable := by
  rw [ofList]
  cases hfound : (arrayHandles fields).lookup f.name with
  | none => exact callable_ofBase (isIdentifier_base f.name)
  | some own => exact callable_of_mem_ofFields _ (mem_of_lookup hfound)

/-- Where names are distinct, each list is rendered with its own handles. -/
theorem Handles.map_ofList {fields : List Field} (h : (fields.map Field.name).Nodup) :
    (Field.lists fields).map (ofList (arrayHandles fields)) =
      (arrayHandles fields).map Prod.snd := by
  have hkeys : ((arrayHandles fields).map Prod.fst).Nodup := by
    rw [arrayHandles, map_fst_ofFields]
    exact h.sublist (List.Sublist.map _ List.filter_sublist)
  -- the handles of a list are found under its name
  have hnames : (Field.lists fields).map (ofList (arrayHandles fields)) =
      ((Field.lists fields).map Field.name).map
        fun name => ((arrayHandles fields).lookup name).getD (.ofBase (base name)) := by
    rw [List.map_map]
    rfl
  rw [hnames, ← map_fst_ofFields [] fields, List.map_map]
  refine List.map_congr_left fun entry hentry => ?_
  show ((arrayHandles fields).lookup entry.1).getD _ = entry.2
  rw [lookup_of_mem hkeys hentry, Option.getD_some]

end Component

end WebForm
