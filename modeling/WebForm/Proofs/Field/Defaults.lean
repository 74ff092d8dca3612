import WebForm.Defaults
import WebForm.Proofs.Json.Members
/-!
# Defaults of distinct names

Members with distinct names all stay in an object, in their order. So if siblings have distinct
names, they start from their own defaults, each of which is found under the name of its field.
-/

set_option autoImplicit false

namespace WebForm

namespace Json

/-- Under each name of a list of distinct ones stands what belongs to it. -/
theorem lookup_map_of_nodup {α : Type} {name : α → String} (value : α → Json) {xs : List α}
    (h : (xs.map name).Nodup) {x : α} (hx : x ∈ xs) :
    lookup (name x) (xs.map fun y => (name y, value y)) = some (value x) := by
  induction xs with
  | nil => cases hx
  | cons y rest ih =>
    rw [List.map_cons, List.nodup_cons] at h
    rw [List.map_cons, lookup]
    rcases List.mem_cons.mp hx with rfl | hmem
    · exact if_pos rfl
    · have hne : name y ≠ name x := fun hsame => h.1 (hsame ▸ List.mem_map_of_mem hmem)
      rw [if_neg hne, ih h.2 hmem]

end Json

namespace Field

/-- Fields with distinct names start from their own defaults, in their order. -/
theorem defaults_of_nodup {fs : List Field} (h : (fs.map name).Nodup) :
    defaults fs = fs.map fun f => (f.name, f.defaultRule.value) := by
  refine Json.collectMembers_of_nodup ?_
  rwa [List.map_map]

/-- A new item of a list of objects has the fields of the list, in their order. -/
theorem itemTemplate_of_children {f : Field} (hchildren : f.children ≠ [])
    (hnames : (f.children.map name).Nodup) :
    f.itemTemplate = .object (f.children.map fun c => (c.name, c.defaultRule.value)) := by
  rw [itemTemplate, if_neg (by rwa [List.isEmpty_iff]), defaults_of_nodup hnames]

/-- Under the name of a field stands its default. -/
theorem lookup_defaults {fs : List Field} (h : (fs.map name).Nodup) {f : Field} (hf : f ∈ fs) :
    Json.lookup f.name (defaults fs) = some f.defaultRule.value := by
  rw [defaults_of_nodup h]
  exact Json.lookup_map_of_nodup (fun f => f.defaultRule.value) h hf

end Field

end WebForm
