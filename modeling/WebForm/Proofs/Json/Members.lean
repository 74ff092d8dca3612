import WebForm.Json.Basic
/-!
# Members of objects

What is found under the names of an object, and which members an object has when they arrive one by
one. Where no name comes twice, neither depends on more than the members themselves.
-/

set_option autoImplicit false

namespace WebForm.Json

theorem lookup_append (name : String) (ms ns : List (String × Json)) :
    lookup name (ms ++ ns) = (lookup name ms).or (lookup name ns) := by
  induction ms with
  | nil => rfl
  | cons m rest ih =>
    obtain ⟨key, value⟩ := m
    by_cases hkey : key = name <;> simp [lookup, hkey, ih]

theorem lookup_cons_ne {key name : String} (h : key ≠ name) (value : Json)
    (rest : List (String × Json)) : lookup name ((key, value) :: rest) = lookup name rest :=
  if_neg h

theorem lookup_eq_none_iff {name : String} {ms : List (String × Json)} :
    lookup name ms = none ↔ name ∉ ms.map Prod.fst := by
  induction ms with
  | nil => simp
  | cons m rest ih =>
    obtain ⟨key, value⟩ := m
    by_cases hkey : key = name
    · simp [lookup, hkey]
    · simp [lookup, hkey, ih, Ne.symm hkey]

/-- What is found under a name does not depend on the order of members with distinct names. -/
theorem lookup_eq_of_perm {ms ns : List (String × Json)} (h : ms.Perm ns)
    (hnodup : (ms.map Prod.fst).Nodup) (name : String) : lookup name ms = lookup name ns := by
  induction h with
  | nil => rfl
  | cons m _ ih =>
    obtain ⟨key, value⟩ := m
    rw [List.map_cons, List.nodup_cons] at hnodup
    rw [lookup, lookup, ih hnodup.2]
  | swap m n rest =>
    obtain ⟨key, value⟩ := m
    obtain ⟨other, value'⟩ := n
    have hne : other ≠ key := by
      rintro rfl
      simp at hnodup
    by_cases hkey : key = name
    · subst hkey
      rw [lookup_cons_ne hne, lookup_cons_self, lookup_cons_self]
    · rw [lookup_cons_ne hkey]
      simp only [lookup, hkey, if_false]
  | trans h _ ih ih' => rw [ih hnodup, ih' ((h.map Prod.fst).nodup hnodup)]

/-- What is found in an object is the value of one of its members. -/
theorem mem_of_lookup_eq_some {name : String} {v : Json} {ms : List (String × Json)}
    (h : lookup name ms = some v) : (name, v) ∈ ms := by
  induction ms with
  | nil => cases h
  | cons m rest ih =>
    obtain ⟨key, value⟩ := m
    by_cases hkey : key = name
    · subst hkey
      rw [lookup_cons_self, Option.some.injEq] at h
      rw [h]
      exact List.mem_cons_self
    · rw [lookup_cons_ne hkey] at h
      exact List.mem_cons_of_mem _ (ih h)

/-- A member under a new name goes to the end. -/
theorem insertMember_of_notMem {name : String} {ms : List (String × Json)}
    (h : name ∉ ms.map Prod.fst) (v : Json) : insertMember name v ms = ms ++ [(name, v)] := by
  induction ms with
  | nil => rfl
  | cons m rest ih =>
    obtain ⟨key, value⟩ := m
    rw [List.map_cons, List.mem_cons, not_or] at h
    rw [insertMember, if_neg (Ne.symm h.1), ih h.2, List.cons_append]

/-- Members with distinct names are kept as they arrive. -/
theorem collectMembers_of_nodup {ms : List (String × Json)} (h : (ms.map Prod.fst).Nodup) :
    collectMembers ms = ms := by
  have hcollect : ∀ after before : List (String × Json),
      ((before ++ after).map Prod.fst).Nodup →
      after.foldl (fun acc m => insertMember m.1 m.2 acc) before = before ++ after := by
    intro after
    induction after with
    | nil => exact fun before _ => (List.append_nil before).symm
    | cons m rest ih =>
      intro before hnodup
      have hnew : m.1 ∉ before.map Prod.fst := by
        rw [List.map_append, List.map_cons, List.nodup_append] at hnodup
        exact fun hmem => hnodup.2.2 m.1 hmem m.1 List.mem_cons_self rfl
      rw [List.append_cons] at hnodup
      rw [List.foldl_cons, insertMember_of_notMem hnew, ih _ hnodup, ← List.append_cons]
  exact hcollect ms [] h

end WebForm.Json
