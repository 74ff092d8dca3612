import Mathlib.Data.List.Forall2
import WebForm.Proofs.Json.Members
/-!
# Values that are the same

When two documents count as the same value. An object is a map: its members are found by name, and
the order in which they stand does not matter. Numbers of the two kinds are never the same, and
doubles are the same if they are where it matters, which a function on doubles says: the identity
if nothing else is the same, or `Double.withoutZeroSign` if the two zeros are.
-/

set_option autoImplicit false

namespace WebForm

/-- The double, where both zeros are one. -/
def Double.withoutZeroSign (d : Double) : Double := if d.magnitude = 0 then zero false else d

namespace Json

/-- The value under a name, if the value is an object that has the name. -/
def member? (name : String) : Json → Option Json
  | .object members => lookup name members
  | _ => none

/-- Two values that are the same up to the order of members and to what `f` takes as the same
double. -/
inductive Same (f : Double → Double) : Json → Json → Prop
  | null : Same f .null .null
  | bool (b : Bool) : Same f (.bool b) (.bool b)
  | integer (n : WordInt) : Same f (.number (.integer n)) (.number (.integer n))
  | double {a b : Double} (h : f a = f b) : Same f (.number (.double a)) (.number (.double b))
  | string (s : String) : Same f (.string s) (.string s)
  | array {xs ys : List Json} (h : List.Forall₂ (Same f) xs ys) : Same f (.array xs) (.array ys)
  | object {ms ns : List (String × Json)}
      (h : ∀ name, Option.Rel (Same f) (lookup name ms) (lookup name ns)) :
      Same f (.object ms) (.object ns)

/-- Induction over values. -/
@[elab_as_elim]
theorem induction {motive : Json → Prop} (null : motive .null) (bool : ∀ b, motive (.bool b))
    (number : ∀ n, motive (.number n)) (string : ∀ s, motive (.string s))
    (array : ∀ items, (∀ v ∈ items, motive v) → motive (.array items))
    (object : ∀ members, (∀ m ∈ members, motive m.2) → motive (.object members))
    (v : Json) : motive v := by
  refine @Json.rec motive (fun items => ∀ v ∈ items, motive v)
    (fun members => ∀ m ∈ members, motive m.2) (fun m => motive m.2) null bool number string array
    object ?_ ?_ ?_ ?_ ?_ v
  · intro v hv
    cases hv
  · exact fun first rest hfirst hrest => List.forall_mem_cons.mpr ⟨hfirst, hrest⟩
  · intro m hm
    cases hm
  · exact fun first rest hfirst hrest => List.forall_mem_cons.mpr ⟨hfirst, hrest⟩
  · exact fun _ _ h => h

namespace Same

variable {f : Double → Double}

@[refl] theorem refl (v : Json) : Same f v v := by
  induction v using Json.induction with
  | null => exact .null
  | bool b => exact .bool b
  | number n =>
    cases n with
    | integer n => exact .integer n
    | double d => exact .double rfl
  | string s => exact .string s
  | array items ih => exact .array (List.forall₂_same.mpr ih)
  | object members ih =>
    refine .object fun name => ?_
    cases hlookup : lookup name members with
    | none => exact .none
    | some v => exact .some (ih _ (mem_of_lookup_eq_some hlookup))

/-- Objects whose members are the same one by one. -/
theorem members {ms ns : List (String × Json)}
    (h : List.Forall₂ (fun m n => m.1 = n.1 ∧ Same f m.2 n.2) ms ns) :
    Same f (.object ms) (.object ns) := by
  refine .object fun name => ?_
  induction h with
  | nil => exact .none
  | @cons m n ms ns hfirst _ ih =>
    obtain ⟨key, v⟩ := m
    obtain ⟨key', w⟩ := n
    obtain ⟨rfl, hsame⟩ := hfirst
    by_cases hkey : key = name
    · subst hkey
      rw [lookup_cons_self, lookup_cons_self]
      exact .some hsame
    · rw [lookup_cons_ne hkey, lookup_cons_ne hkey]
      exact ih

theorem string_inj {s t : String} (h : Same f (.string s) (.string t)) : s = t := by
  cases h
  rfl

theorem bool_inj {a b : Bool} (h : Same f (.bool a) (.bool b)) : a = b := by
  cases h
  rfl

theorem double_inj {a b : Double} (h : Same f (.number (.double a)) (.number (.double b))) :
    f a = f b := by
  cases h with
  | double h => exact h

theorem number_integer_inj {m n : WordInt}
    (h : Same f (.number (.integer m)) (.number (.integer n))) : m = n := by
  cases h
  rfl

/-- Items of equal lists are the same one by one. -/
theorem items {xs ys : List Json} (h : Same f (.array xs) (.array ys)) :
    List.Forall₂ (Same f) xs ys := by
  cases h with
  | array h => exact h

/-- What is found under a name is the same. -/
theorem member? {v w : Json} (h : Same f v w) (name : String) :
    Option.Rel (Same f) (v.member? name) (w.member? name) := by
  cases h with
  | object h => exact h name
  | _ => exact .none

section
variable {α β : Type} {v w : Json} {write : α → Json} (read : α → β)

/-- A member that is written from something, if there is something, gives back what its value
tells of it. -/
theorem map_eq_map (h : Same f v w) {name : String} {x y : Option α}
    (hx : v.member? name = x.map write) (hy : w.member? name = y.map write)
    (hread : ∀ a b, Same f (write a) (write b) → read a = read b) : x.map read = y.map read := by
  have hrel := h.member? name
  rw [hx, hy] at hrel
  cases x with
  | none =>
    cases y with
    | none => rfl
    | some b => cases hrel
  | some a =>
    cases y with
    | none => cases hrel
    | some b =>
      cases hrel with
      | some hsame => exact congrArg some (hread a b hsame)

variable (write) in
/-- A member that is always written gives back what its value tells. -/
theorem eq_of_member? (h : Same f v w) (name : String) {a b : α}
    (ha : v.member? name = some (write a)) (hb : w.member? name = some (write b))
    (hread : Same f (write a) (write b) → read a = read b) : read a = read b := by
  have hrel := h.member? name
  rw [ha, hb] at hrel
  cases hrel with
  | some hsame => exact hread hsame

end

/-- Items that are written one by one are read back one by one. -/
theorem map_eq_of_forall₂ {α β : Type} {write : α → Json} (read : α → β) {xs ys : List α}
    (h : List.Forall₂ (Same f) (xs.map write) (ys.map write))
    (hread : ∀ a ∈ xs, ∀ b, Same f (write a) (write b) → read a = read b) :
    xs.map read = ys.map read := by
  induction xs generalizing ys with
  | nil =>
    cases ys with
    | nil => rfl
    | cons b ys => cases h
  | cons a xs ih =>
    cases ys with
    | nil => cases h
    | cons b ys =>
      rw [List.map_cons, List.map_cons, List.forall₂_cons] at h
      rw [List.forall_mem_cons] at hread
      rw [List.map_cons, List.map_cons, hread.1 b h.1, ih h.2 hread.2]

end Same

end Json

end WebForm
