import WebForm.Proofs.Field.Place
/-!
# Positions in a submission

A form says which values a submission has, and a *position* is where one of them is: the names of
the fields and the indices of the items that lead to it, one after the other from the outside in.
Every field that is reached in a form has a position once it is chosen which item of each list is
looked at. So has the item of a list that has no fields of its own.

The choice is a function from depths to indices. A field is inside one list of each depth at most,
so the indices on its way can be chosen at will.
-/

set_option autoImplicit false

namespace WebForm

/-- A step into a value: to the member of a name, or to the item of an index. -/
inductive Step where
  | member (name : String)
  | item (index : Nat)
deriving DecidableEq, Repr

namespace Step

/-- The step as a segment of a path. -/
def text : Step → String
  | .member name => name
  | .item index => toString index

/-- The dotted path of some steps. -/
def pathOf (trail : List Step) : String := ".".intercalate (trail.map text)

@[simp] theorem pathOf_singleton (s : Step) : pathOf [s] = s.text := String.intercalate_singleton

theorem pathOf_append_singleton {trail : List Step} (h : trail ≠ []) (s : Step) :
    pathOf (trail ++ [s]) = pathOf trail ++ "." ++ s.text := by
  have hmap : trail.map text ≠ [] := mt List.map_eq_nil_iff.mp h
  rw [pathOf, List.map_append, List.map_singleton,
    String.intercalate_append_of_ne_nil hmap (List.cons_ne_nil _ _),
    String.intercalate_singleton, pathOf]

theorem pathOf_append_singleton_ne {trail : List Step} (h : pathOf trail ≠ "") (s : Step) :
    pathOf (trail ++ [s]) ≠ "" := by
  have hne : trail ≠ [] := by
    rintro rfl
    exact h rfl
  rw [pathOf_append_singleton hne, String.append_assoc]
  exact fun hempty => h (String.append_eq_empty_iff.mp hempty).1

/-- Paths that are joined segment by segment come to the same. -/
theorem joinPath_pathOf {trail : List Step} (h : trail = [] ∨ pathOf trail ≠ "") (s : Step) :
    Field.joinPath (pathOf trail) s.text = pathOf (trail ++ [s]) := by
  by_cases hnil : trail = []
  · rw [hnil, List.nil_append, pathOf_singleton]
    exact Field.joinPath_empty s.text
  · have hne : ¬ (pathOf trail).isEmpty = true :=
      fun hempty => h.resolve_left hnil (String.isEmpty_iff.mp hempty)
    rw [pathOf_append_singleton hnil, Field.joinPath, if_neg hne]

end Step

/-- What is at a position: the value of a field, or one item of a list of primitives. -/
inductive Spot where
  | field (f : Field)
  | item (list : Field)
deriving Repr

/-- A position in a submission, and what is there. -/
structure Position where
  trail : List Step
  spot : Spot
deriving Repr

namespace Position

/-- The dotted path of the position. -/
def path (p : Position) : String := Step.pathOf p.trail

/-- The field whose value is at the position. -/
def field? (p : Position) : Option Field :=
  match p.spot with
  | .field f => some f
  | .item _ => none

end Position

namespace Field

mutual

/-- The positions in a field behind some steps, `depth` lists being around it. -/
def positionsIn (item : Nat → Nat) (depth : Nat) (before : List Step) : Field → List Position
  | ⟨spec, children⟩ =>
    let trail := before ++ [.member spec.name]
    let inside := trail ++ [.item (item depth)]
    ⟨trail, .field ⟨spec, children⟩⟩ ::
      if spec.type.kind? = some .array then
        if children.isEmpty then [⟨inside, .item ⟨spec, children⟩⟩]
        else positions item (depth + 1) inside children
      else []
termination_by structural f => f

/-- The positions in siblings. -/
def positions (item : Nat → Nat) (depth : Nat) (before : List Step) :
    List Field → List Position
  | [] => []
  | f :: rest => positionsIn item depth before f ++ positions item depth before rest
termination_by structural fs => fs

end

/-- The positions below a field: none unless it is a list. -/
def positionsBelow (item : Nat → Nat) (depth : Nat) (trail : List Step) (f : Field) :
    List Position :=
  if f.kind? = some .array then
    if f.children.isEmpty then [⟨trail ++ [.item (item depth)], .item f⟩]
    else positions item (depth + 1) (trail ++ [.item (item depth)]) f.children
  else []

theorem positionsIn_eq (item : Nat → Nat) (depth : Nat) (before : List Step) (f : Field) :
    positionsIn item depth before f =
      ⟨before ++ [.member f.name], .field f⟩ ::
        positionsBelow item depth (before ++ [.member f.name]) f := by
  obtain ⟨spec, children⟩ := f
  rfl

theorem positions_eq_flatMap (item : Nat → Nat) (depth : Nat) (before : List Step)
    (fs : List Field) :
    positions item depth before fs = fs.flatMap (positionsIn item depth before) := by
  induction fs with
  | nil => rfl
  | cons f rest ih => rw [positions, ih, List.flatMap_cons]

theorem field?_positions_of_positionsBelow {item : Nat → Nat} {fs : List Field}
    (ih : ∀ f ∈ fs, ∀ depth trail parent,
      (positionsBelow item depth trail f).filterMap Position.field? =
        (placesBelow parent f).map Place.field)
    (depth : Nat) (before : List Step) (parent : String) (elders : List Field) :
    (positions item depth before fs).filterMap Position.field? =
      (places parent elders fs).map Place.field := by
  induction fs generalizing elders with
  | nil => rfl
  | cons f rest ihrest =>
    have hrest := ihrest (fun g hg => ih g (List.mem_cons_of_mem f hg)) (elders ++ [f])
    rw [positions, places, positionsIn_eq, placesIn_eq, List.filterMap_append, hrest,
      List.map_append, List.map_cons, ← ih f List.mem_cons_self depth _ parent]
    rfl

/-- The fields below a field that have positions are those that are reached. -/
theorem field?_positionsBelow {item : Nat → Nat} (f : Field) : ∀ depth trail parent,
    (positionsBelow item depth trail f).filterMap Position.field? =
      (placesBelow parent f).map Place.field := by
  induction f using Field.induction with
  | mk spec children ih =>
    intro depth trail parent
    rw [positionsBelow, placesBelow]
    by_cases harray : (Field.mk spec children).kind? = some .array
    · rw [if_pos harray, if_pos harray]
      by_cases hnone : children = []
      · subst hnone
        rfl
      · rw [if_neg (by rwa [List.isEmpty_iff])]
        exact field?_positions_of_positionsBelow ih _ _ _ []
    · rw [if_neg harray, if_neg harray]
      rfl

end Field

namespace Form

/-- The positions in the submissions to a form, `item` choosing an index for each depth. -/
def positions (item : Nat → Nat) (form : Form) : List Position :=
  Field.positions item 0 [] form.fields

/-- The fields that have positions are those that are reached. -/
theorem field?_positions (item : Nat → Nat) (form : Form) :
    (form.positions item).filterMap Position.field? = form.places.map Field.Place.field :=
  Field.field?_positions_of_positionsBelow (fun f _ => Field.field?_positionsBelow f) 0 [] "" []

end Form

end WebForm
