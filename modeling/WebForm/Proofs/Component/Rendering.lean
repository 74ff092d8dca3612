import Mathlib.Data.List.Nodup
import WebForm.Proofs.Artifact.Notes
/-!
# Rendering step by step

Rendering takes names for inner components and collects the components. Here a run is taken apart
once and for all: `ItemRun` and `TopRun` say what rendering one field can come to and what it does
to the names and the components, and fields that stand together are rendered from left to right.
What holds along a run is proved from these.
-/

set_option autoImplicit false

namespace WebForm.Component

/-! ## Free names -/

/-- Candidates are told apart by the number behind the base, which is there or not. -/
theorem candidate_injective (base : String) : Function.Injective (candidate base) := by
  have hnumber : ∀ n : Nat, base ≠ base ++ toString n := by
    intro n hn
    have hempty : "" = toString n := (String.append_right_inj base).mp (by simpa using hn)
    exact absurd hempty.symm (by simp)
  intro i j h
  cases i with
  | zero =>
    cases j with
    | zero => rfl
    | succ j => exact absurd h (hnumber _)
  | succ i =>
    cases j with
    | zero => exact absurd h.symm (hnumber _)
    | succ j =>
      -- the numbers are read back from their digits
      have hsame := congrArg (fun s => Nat.ofDigitChars 10 s.toList 0)
        ((String.append_right_inj base).mp h)
      simpa [Nat.toString_eq_ofList_toDigits] using hsame

/-- A name that is given out was free: there are more candidates than names that are taken. -/
theorem freeName_not_mem (taken : List String) (base : String) : freeName taken base ∉ taken := by
  let candidates := (List.range (taken.length + 1)).map (candidate base)
  have hnodup : candidates.Nodup := List.Nodup.map (candidate_injective base) List.nodup_range
  have hlength : candidates.length = taken.length + 1 := by simp [candidates]
  rw [freeName]
  cases hfound : candidates.find? (!taken.contains ·) with
  | some name =>
    have hfree := List.find?_some hfound
    simpa using hfree
  | none =>
    have hall := List.find?_eq_none.mp hfound
    have hsubset : candidates ⊆ taken := by
      intro name hname
      simpa using hall name hname
    have hle := hnodup.length_le_of_subset hsubset
    omega

/-! ## Several fields -/

section
variable {parts parts' : Parts}

/-- The fields of an item are rendered from left to right, like those at the top. -/
theorem itemFields_eq_mapM (component : String) (within : FieldPath) (parent : String)
    (fs : List Field) :
    itemFields component within parent fs = fs.mapM (itemField component within parent) := by
  induction fs with
  | nil => rw [itemFields, List.mapM_nil]
  | cons f rest ih => rw [itemFields, ih, List.mapM_cons]

theorem run_mapM_cons_eq_iff {render : Field → Render Markup} {f : Field} {rest : List Field}
    {ms : List Markup} :
    ((f :: rest).mapM render).run parts = (ms, parts') ↔
      ∃ m mid tail, (render f).run parts = (m, mid) ∧
        (rest.mapM render).run mid = (tail, parts') ∧ ms = m :: tail := by
  rw [List.mapM_cons]
  constructor
  · intro h
    obtain ⟨m, mid, hm, h⟩ := run_bind_eq_iff.mp h
    obtain ⟨tail, last, htail, h⟩ := run_bind_eq_iff.mp h
    obtain ⟨rfl, rfl⟩ := run_pure_eq_iff.mp h
    exact ⟨m, mid, tail, hm, htail, rfl⟩
  · rintro ⟨m, mid, tail, hm, htail, rfl⟩
    refine run_bind_eq_iff.mpr ⟨m, mid, hm, run_bind_eq_iff.mpr ⟨tail, parts', htail, ?_⟩⟩
    exact run_pure_eq_iff.mpr ⟨rfl, rfl⟩

/-! ## One field -/

/-- What rendering a field of an item comes to: a note, an element in its place, or the element of
an inner component. The component has a name that was free, and it is finished when the fields
inside it are rendered. -/
inductive ItemRun (component : String) (within : FieldPath) (parent : String) (f : Field)
    (parts : Parts) : Markup → Parts → Prop
  | note {raw : String} (htype : f.spec.type = .unrecognized raw) :
      ItemRun component within parent f parts (.unsupported raw (parent ++ "." ++ f.name)) parts
  | value {kind : FieldKind} (htype : f.spec.type = .known kind) (hkind : kind ≠ .array) :
      ItemRun component within parent f parts (leafElement f kind (within.child f.name) true) parts
  | list {name : String} {fields : List Markup} {inside : Parts}
      (hkind : f.kind? = some .array) (hfree : name ∉ parts.taken)
      (hfields : (f.children.mapM (itemField component (FieldPath.variable "path").item
        (parent ++ "." ++ f.name))).run ⟨name :: parts.taken, parts.finished⟩ =
          (fields, inside)) :
      ItemRun component within parent f parts
        (.void name
          [.attr (.binding "control"), .attr (.binding "register"), .attr (.binding "formState"),
            .attr (.path "path" (within.child f.name))])
        ⟨inside.taken, inside.finished ++ [⟨name, listElement f (.variable "path") .own fields⟩]⟩

theorem itemRun_of_run {component parent : String} {within : FieldPath} {f : Field} {m : Markup}
    (h : (itemField component within parent f).run parts = (m, parts')) :
    ItemRun component within parent f parts m parts' := by
  obtain ⟨spec, children⟩ := f
  cases htype : spec.type with
  | unrecognized raw =>
    rw [itemField, htype] at h
    obtain ⟨rfl, rfl⟩ := run_pure_eq_iff.mp h
    exact .note htype
  | known kind =>
    by_cases harray : kind = .array
    · subst harray
      rw [itemField, htype] at h
      obtain ⟨name, named, hname, h⟩ := run_bind_eq_iff.mp h
      obtain ⟨fields, inside, hfields, h⟩ := run_bind_eq_iff.mp h
      obtain ⟨u, done, hfinish, h⟩ := run_bind_eq_iff.mp h
      obtain ⟨rfl, rfl⟩ := run_pure_eq_iff.mp h
      obtain ⟨rfl, rfl⟩ := Prod.mk.inj hname
      obtain ⟨-, rfl⟩ := Prod.mk.inj hfinish
      rw [itemFields_eq_mapM] at hfields
      exact .list (Field.kind?_eq_some_iff.mpr htype) (freeName_not_mem _ _) hfields
    · rw [itemField_of_ne_array htype harray] at h
      obtain ⟨rfl, rfl⟩ := run_pure_eq_iff.mp h
      exact .value htype harray

/-- What rendering a field at the top comes to: a note, or an element in its place. -/
inductive TopRun (component : String) (handles : List (String × Handles)) (f : Field)
    (parts : Parts) : Markup → Parts → Prop
  | note {raw : String} (htype : f.spec.type = .unrecognized raw) :
      TopRun component handles f parts (.unsupported raw f.name) parts
  | value {kind : FieldKind} (htype : f.spec.type = .known kind) (hkind : kind ≠ .array) :
      TopRun component handles f parts (leafElement f kind (.literal f.name) false) parts
  | list {fields : List Markup} {inside : Parts} (hkind : f.kind? = some .array)
      (hfields : (f.children.mapM (itemField component (FieldPath.literal f.name).item
        f.name)).run parts = (fields, inside)) :
      TopRun component handles f parts
        (listElement f (.literal f.name)
          ((handles.lookup f.name).getD (.ofBase (Handles.base f.name))) fields) inside

theorem topRun_of_run {component : String} {handles : List (String × Handles)} {f : Field}
    {m : Markup} (h : (topField component handles f).run parts = (m, parts')) :
    TopRun component handles f parts m parts' := by
  cases htype : f.spec.type with
  | unrecognized raw =>
    rw [topField, htype] at h
    obtain ⟨rfl, rfl⟩ := run_pure_eq_iff.mp h
    exact .note htype
  | known kind =>
    by_cases harray : kind = .array
    · subst harray
      rw [topField, htype] at h
      obtain ⟨fields, inside, hfields, h⟩ := run_bind_eq_iff.mp h
      obtain ⟨rfl, rfl⟩ := run_pure_eq_iff.mp h
      rw [itemFields_eq_mapM] at hfields
      exact .list (Field.kind?_eq_some_iff.mpr htype) hfields
    · rw [topField_of_ne_array htype harray] at h
      obtain ⟨rfl, rfl⟩ := run_pure_eq_iff.mp h
      exact .value htype harray

end

/-! ## A form -/

/-- The fields of a form are rendered in one run, with two names taken from the start. -/
theorem exists_run_ofFields (ids : Identifiers) (fields : List Field) :
    ∃ ms parts,
      (fields.mapM (topField ids.componentName (arrayHandles fields))).run
          ⟨[ids.propsName, ids.componentName], []⟩ = (ms, parts) ∧
        Rendered.ofFields ids fields = ⟨ms, parts.finished⟩ :=
  ⟨_, _, rfl, rfl⟩

end WebForm.Component
