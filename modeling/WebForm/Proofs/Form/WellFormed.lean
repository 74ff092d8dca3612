import WebForm.Form.Structure
import WebForm.Proofs.Field.Place
/-!
# Well-formed forms

What the structural check decides. A form is *well-formed* when its title is there and every field
that is reached keeps the rules of the mode; this is said field by field, with no order and no
walk. The check agrees with it, and when it refuses a form it names the first fault: the first
field in preorder that breaks a rule, and on that field the rule that is tried first.

The one rule whose two sides differ is that of distinct names. A well-formed field differs from all
its siblings, but the check blames the younger of two fields of one name, because it has not met
the younger one yet when it passes the elder.
-/

set_option autoImplicit false

namespace WebForm

open WebForm.Field

/-! ## Rules -/

/-- The rules for a field. -/
inductive Rule where
  /-- It has a name. -/
  | named
  /-- No elder sibling has its name. -/
  | distinct
  /-- It has a label. -/
  | labelled
  /-- Its kind is known. -/
  | known
  /-- A choice has options. -/
  | options
  /-- Only a list has children. -/
  | childless
  /-- A list does not have children and an item type. -/
  | oneItemShape
  /-- The item type of a list is a primitive kind. -/
  | itemType
deriving DecidableEq, Repr

namespace Rule

/-- The rules of a mode, in the order in which they are tried. -/
def askedIn : Strictness → List Rule
  | .strict =>
    [.named, .distinct, .labelled, .known, .options, .childless, .oneItemShape, .itemType]
  | .permissive => [.named, .distinct]

/-- That the field at a place breaks a rule. -/
def BrokenAt (p : Place) : Rule → Prop
  | .named => Text.isBlank p.field.name = true
  | .distinct => ∃ elder ∈ p.elders, elder.name = p.field.name
  | .labelled => Text.isBlank p.field.label = true
  | .known => p.field.kind? = none
  | .options =>
    (p.field.kind? = some .select ∨ p.field.kind? = some .radio) ∧ p.field.options = []
  | .childless => p.field.kind? ≠ some .array ∧ p.field.children ≠ []
  | .oneItemShape =>
    p.field.kind? = some .array ∧ p.field.children ≠ [] ∧ p.field.spec.itemType ≠ none
  | .itemType =>
    p.field.kind? = some .array ∧ ∃ type, p.field.spec.itemType = some type ∧
      ∀ kind, type.kind? = some kind → kind.isPrimitive = false

/-- What is reported about a field that breaks a rule. It names the field by its path, or, where
there is no name to make a path of, by what is around it and its number among the siblings. -/
def report (p : Place) : Rule → StructuralError
  | .named => .emptyName (if p.parent.isEmpty then "form" else p.parent) p.index
  | .distinct => .duplicateName p.path
  | .labelled => .emptyLabel p.path
  | .known => .unknownKind p.path p.field.spec.type.spelling
  | .options => .missingOptions p.path p.field.spec.type.spelling
  | .childless => .unexpectedChildren p.path p.field.spec.type.spelling
  | .oneItemShape => .conflictingItems p.path
  | .itemType => .invalidItemType p.path ((p.field.spec.itemType.map FieldType.spelling).getD "")

end Rule

/-! ## Well-formedness -/

/-- A field that keeps the rules of a mode, and differs from its siblings whichever comes first. -/
structure Field.Place.WellFormed (strictness : Strictness) (p : Place) : Prop where
  named : Text.isBlank p.field.name = false
  distinct : ∀ g ∈ p.siblings, g.name ≠ p.field.name
  labelled : strictness = .strict → Text.isBlank p.field.label = false
  known : strictness = .strict → ∃ kind, p.field.kind? = some kind
  options : strictness = .strict → p.field.kind? = some .select ∨ p.field.kind? = some .radio →
    p.field.options ≠ []
  childless : strictness = .strict → p.field.kind? ≠ some .array → p.field.children = []
  oneItemShape : strictness = .strict → p.field.kind? = some .array →
    ¬ (p.field.children ≠ [] ∧ p.field.spec.itemType ≠ none)
  itemType : strictness = .strict → p.field.kind? = some .array →
    ∀ type, p.field.spec.itemType = some type →
      ∃ kind, type.kind? = some kind ∧ kind.isPrimitive = true

/-- A form with a title whose fields all keep the rules of a mode. -/
structure Form.WellFormed (strictness : Strictness) (form : Form) : Prop where
  titled : Text.isBlank form.title = false
  fields : ∀ p ∈ form.places, p.WellFormed strictness

/-- The first fault of a form with a title: a field that breaks a rule of the mode, where no field
before it in preorder breaks any, nor the field itself a rule that is tried earlier. -/
structure Form.FirstFault (strictness : Strictness) (form : Form) (p : Place) (rule : Rule) :
    Prop where
  broken : rule.BrokenAt p
  order : ∃ tried untried, Rule.askedIn strictness = tried ++ rule :: untried ∧
    ∀ r ∈ tried, ¬ r.BrokenAt p
  preorder : ∃ before after, form.places = before ++ p :: after ∧
    ∀ q ∈ before, ∀ r ∈ Rule.askedIn strictness, ¬ r.BrokenAt q

/-! ## One field -/

namespace Field.Place

/-- The first rule that a field breaks at its place. -/
def violation? (strictness : Strictness) (p : Place) : Option StructuralError :=
  p.field.violation? strictness p.parent p.index (p.elders.map Field.name).reverse

section
open Classical

/-- The report of the first rule out of some that a field breaks. -/
noncomputable def firstReport (p : Place) (rules : List Rule) : Option StructuralError :=
  (rules.find? fun r => decide (r.BrokenAt p)).map (Rule.report p)

@[simp] theorem firstReport_nil (p : Place) : p.firstReport [] = none := rfl

theorem firstReport_of_broken {p : Place} {r : Rule} (h : r.BrokenAt p) (rest : List Rule) :
    p.firstReport (r :: rest) = some (r.report p) := by
  simp [firstReport, h]

theorem firstReport_of_kept {p : Place} {r : Rule} (h : ¬ r.BrokenAt p) (rest : List Rule) :
    p.firstReport (r :: rest) = p.firstReport rest := by
  simp [firstReport, h]

end

theorem arrayViolation?_eq {p : Place} (hkind : p.field.kind? = some .array) :
    p.field.arrayViolation? p.path = p.firstReport [.oneItemShape, .itemType] := by
  rw [arrayViolation?]
  cases htype : p.field.spec.itemType with
  | none =>
    have hshape : ¬ Rule.oneItemShape.BrokenAt p := fun h => h.2.2 htype
    have hitem : ¬ Rule.itemType.BrokenAt p := by
      rintro ⟨-, type, htype', -⟩
      rw [htype] at htype'
      cases htype'
    rw [firstReport_of_kept hshape, firstReport_of_kept hitem, firstReport_nil]
  | some type =>
    by_cases hchildren : p.field.children = []
    · have hshape : ¬ Rule.oneItemShape.BrokenAt p := fun h => h.2.1 hchildren
      rw [firstReport_of_kept hshape]
      cases hprim : (type.kind?.map FieldKind.isPrimitive).getD false with
      | false =>
        have hitem : Rule.itemType.BrokenAt p := by
          refine ⟨hkind, type, htype, ?_⟩
          intro kind hk
          simpa [hk] using hprim
        rw [firstReport_of_broken hitem]
        simp [hchildren, hprim, Rule.report, htype]
      | true =>
        have hitem : ¬ Rule.itemType.BrokenAt p := by
          rintro ⟨-, type', htype', hnone⟩
          obtain rfl := Option.some.inj (htype.symm.trans htype')
          cases hk : type.kind? with
          | none => simp [hk] at hprim
          | some kind => simp [hk, hnone kind hk] at hprim
        rw [firstReport_of_kept hitem, firstReport_nil]
        simp [hchildren, hprim]
    · have hshape : Rule.oneItemShape.BrokenAt p := ⟨hkind, hchildren, by simp [htype]⟩
      rw [firstReport_of_broken hshape]
      simp [hchildren, Rule.report]

theorem options_brokenAt_iff {p : Place} {kind : FieldKind} (hkind : p.field.kind? = some kind) :
    Rule.options.BrokenAt p ↔ (kind.hasOptions && p.field.options.isEmpty) = true := by
  have hchoice : kind.hasOptions = true ↔ kind = .select ∨ kind = .radio := by
    cases kind <;> decide
  rw [Bool.and_eq_true, hchoice, List.isEmpty_iff, Rule.BrokenAt, hkind, Option.some.injEq,
    Option.some.injEq]

theorem kindViolation?_eq {p : Place} {kind : FieldKind}
    (htype : p.field.spec.type = .known kind) :
    p.field.kindViolation? p.path kind =
      p.firstReport [.options, .childless, .oneItemShape, .itemType] := by
  have hkind : p.field.kind? = some kind := Field.kind?_eq_some_iff.mpr htype
  rw [kindViolation?]
  by_cases hoptions : Rule.options.BrokenAt p
  · rw [if_pos ((options_brokenAt_iff hkind).mp hoptions), firstReport_of_broken hoptions,
      Rule.report, htype, FieldType.spelling]
  · rw [if_neg fun h => hoptions ((options_brokenAt_iff hkind).mpr h),
      firstReport_of_kept hoptions]
    by_cases harray : kind = .array
    · subst harray
      have hchildless : ¬ Rule.childless.BrokenAt p := fun h => h.1 hkind
      rw [if_pos rfl, firstReport_of_kept hchildless, arrayViolation?_eq hkind]
    · have hnot : p.field.kind? ≠ some .array := by
        rw [hkind]
        exact fun h => harray (Option.some.inj h)
      -- the rules on items are only about lists, so they are tried in vain
      have hshape : ¬ Rule.oneItemShape.BrokenAt p := fun h => hnot h.1
      have hitem : ¬ Rule.itemType.BrokenAt p := fun h => hnot h.1
      rw [if_neg harray]
      by_cases hchildren : p.field.children = []
      · have hchildless : ¬ Rule.childless.BrokenAt p := fun h => h.2 hchildren
        rw [firstReport_of_kept hchildless, firstReport_of_kept hshape,
          firstReport_of_kept hitem, firstReport_nil]
        simp [hchildren]
      · have hchildless : Rule.childless.BrokenAt p := ⟨hnot, hchildren⟩
        rw [firstReport_of_broken hchildless, Rule.report, htype, FieldType.spelling]
        simp [hchildren]

theorem distinct_brokenAt_iff {p : Place} :
    Rule.distinct.BrokenAt p ↔
      (p.elders.map Field.name).reverse.contains p.field.name = true := by
  rw [List.contains_iff_mem, List.mem_reverse, List.mem_map]
  exact Iff.rfl

/-- In strict mode, what comes after the rules on names. -/
theorem strictViolation?_eq (p : Place) :
    (if Text.isBlank p.field.label then some (StructuralError.emptyLabel p.path)
      else
        match p.field.spec.type with
        | .unrecognized raw => some (.unknownKind p.path raw)
        | .known kind => p.field.kindViolation? p.path kind) =
      p.firstReport [.labelled, .known, .options, .childless, .oneItemShape, .itemType] := by
  by_cases hlabel : Text.isBlank p.field.label = true
  · have hlabelled : Rule.labelled.BrokenAt p := hlabel
    rw [if_pos hlabel, firstReport_of_broken hlabelled, Rule.report]
  · have hlabelled : ¬ Rule.labelled.BrokenAt p := hlabel
    rw [if_neg hlabel, firstReport_of_kept hlabelled]
    cases htype : p.field.spec.type with
    | unrecognized raw =>
      have hknown : Rule.known.BrokenAt p := by
        rw [Rule.BrokenAt, Field.kind?, htype, FieldType.kind?]
      rw [firstReport_of_broken hknown, Rule.report, htype, FieldType.spelling]
    | known kind =>
      have hknown : ¬ Rule.known.BrokenAt p := by
        rw [Rule.BrokenAt, Field.kind?, htype, FieldType.kind?]
        exact Option.some_ne_none kind
      rw [firstReport_of_kept hknown]
      exact kindViolation?_eq htype

/-- A field is refused with the report of the first rule of the mode that it breaks. -/
theorem violation?_eq (strictness : Strictness) (p : Place) :
    p.violation? strictness = p.firstReport (Rule.askedIn strictness) := by
  unfold violation? Field.violation?
  dsimp only
  rw [← Place.path]
  by_cases hname : Text.isBlank p.field.name = true
  · have hnamed : Rule.named.BrokenAt p := hname
    rw [if_pos hname]
    cases strictness <;> exact (firstReport_of_broken hnamed _).symm
  · have hnamed : ¬ Rule.named.BrokenAt p := hname
    rw [if_neg hname]
    by_cases hdistinct : Rule.distinct.BrokenAt p
    · rw [if_pos (distinct_brokenAt_iff.mp hdistinct)]
      cases strictness <;>
        exact ((firstReport_of_kept hnamed _).trans (firstReport_of_broken hdistinct _)).symm
    · rw [if_neg fun h => hdistinct (distinct_brokenAt_iff.mpr h)]
      cases strictness with
      | permissive =>
        rw [Rule.askedIn, firstReport_of_kept hnamed, firstReport_of_kept hdistinct,
          firstReport_nil]
      | strict =>
        rw [Rule.askedIn, firstReport_of_kept hnamed, firstReport_of_kept hdistinct]
        exact strictViolation?_eq p

end Field.Place

/-! ## The walk -/

namespace Field

/-- The outcome of a check that found a violation, or none. -/
def refusal : Option StructuralError → Except StructuralError Unit
  | none => .ok ()
  | some e => .error e

theorem refusal_eq_ok_iff {o : Option StructuralError} : refusal o = .ok () ↔ o = none := by
  cases o <;> simp [refusal]

theorem refusal_eq_error_iff {o : Option StructuralError} {e : StructuralError} :
    refusal o = .error e ↔ o = some e := by
  cases o <;> simp [refusal]

theorem refusal_or (a b : Option StructuralError) :
    refusal (a.or b) = (refusal a >>= fun _ => refusal b) := by
  cases a <;> rfl

/-- What checking the fields of a forest one after the other comes to: the first violation at any
of its places, in preorder. -/
theorem checkAll_eq_of_check_eq {strictness : Strictness} {fs : List Field}
    (ih : ∀ f ∈ fs, ∀ parent elders juniors,
      check strictness parent elders.length (elders.map name).reverse f =
        refusal ((placesIn parent elders juniors f).findSome? (·.violation? strictness)))
    {parent : String} {elders : List Field} :
    checkAll strictness parent elders.length (elders.map name).reverse fs =
      refusal ((places parent elders fs).findSome? (·.violation? strictness)) := by
  induction fs generalizing elders with
  | nil => rfl
  | cons f rest ihrest =>
    have hrest := @ihrest (fun g hg => ih g (List.mem_cons_of_mem f hg)) (elders ++ [f])
    rw [List.length_append, List.length_singleton, List.map_append, List.map_singleton,
      List.reverse_append, List.reverse_singleton, List.singleton_append] at hrest
    rw [checkAll, places, List.findSome?_append, refusal_or,
      ih f List.mem_cons_self parent elders rest, hrest]

theorem check_eq (strictness : Strictness) (f : Field) :
    ∀ parent elders juniors,
      check strictness parent elders.length (elders.map name).reverse f =
        refusal ((placesIn parent elders juniors f).findSome? (·.violation? strictness)) := by
  induction f using Field.induction with
  | mk spec children ih =>
    intro parent elders juniors
    have hplace : violation? strictness parent elders.length (elders.map name).reverse
        ⟨spec, children⟩ =
          Place.violation? strictness ⟨parent, elders, ⟨spec, children⟩, juniors⟩ := rfl
    rw [check, placesIn, List.findSome?_cons, hplace]
    cases Place.violation? strictness ⟨parent, elders, ⟨spec, children⟩, juniors⟩ with
    | some e => rfl
    | none =>
      dsimp only
      by_cases harray : spec.type.kind? = some .array
      · rw [if_pos harray, if_pos harray]
        exact @checkAll_eq_of_check_eq strictness children ih (joinPath parent spec.name) []
      · rw [if_neg harray, if_neg harray]
        rfl

end Field

/-- A form with a title is checked at all of its places. -/
theorem Form.check_eq_of_titled {strictness : Strictness} {form : Form}
    (h : Text.isBlank form.title = false) :
    form.check strictness =
      Field.refusal (form.places.findSome? (·.violation? strictness)) := by
  rw [Form.check, h, if_neg Bool.false_ne_true]
  exact @Field.checkAll_eq_of_check_eq strictness form.fields
    (fun f _ => Field.check_eq strictness f) "" []

/-! ## Distinct names

The check compares a field with its elders only. Over all places of a form this comes to the same
as comparing it with all its siblings, because a junior of the same name would have a place of its
own at which the field is an elder. -/

namespace Field

theorem exists_place_of_junior_of_below {fs : List Field}
    (ih : ∀ f ∈ fs, ∀ parent, ∀ p ∈ placesBelow parent f, ∀ g ∈ p.juniors,
      ∃ q ∈ placesBelow parent f, q.field = g ∧ p.field ∈ q.elders)
    {parent : String} {elders : List Field} {p : Place} (hp : p ∈ places parent elders fs)
    {g : Field} (hg : g ∈ p.juniors) :
    ∃ q ∈ places parent elders fs, q.field = g ∧ p.field ∈ q.elders := by
  obtain ⟨before, f, after, rfl, rfl | hbelow⟩ := mem_places.mp hp
  · obtain ⟨a, b, hafter⟩ := List.append_of_mem hg
    refine ⟨⟨parent, elders ++ (before ++ f :: a), g, b⟩, ?_, rfl, by simp⟩
    have hsplit : before ++ f :: after = (before ++ f :: a) ++ g :: b := by
      rw [show after = a ++ g :: b from hafter, List.append_assoc, List.cons_append]
    rw [hsplit]
    exact mem_places_of_split
  · obtain ⟨q, hq, hfield, helder⟩ := ih f (by simp) parent p hbelow g hg
    exact ⟨q, mem_places.mpr ⟨before, f, after, rfl, Or.inr hq⟩, hfield, helder⟩

theorem exists_place_of_junior_below (f : Field) :
    ∀ parent, ∀ p ∈ placesBelow parent f, ∀ g ∈ p.juniors,
      ∃ q ∈ placesBelow parent f, q.field = g ∧ p.field ∈ q.elders := by
  induction f using Field.induction with
  | mk spec children ih =>
    intro parent p hp g hg
    by_cases harray : spec.type.kind? = some .array
    · have hbelow : placesBelow parent ⟨spec, children⟩ =
          places (joinPath parent spec.name) [] children := if_pos harray
      rw [hbelow] at hp ⊢
      exact exists_place_of_junior_of_below ih hp hg
    · have hbelow : placesBelow parent ⟨spec, children⟩ = [] := if_neg harray
      rw [hbelow] at hp
      cases hp

end Field

/-- A sibling behind a field that is reached is reached too, with the field among its elders. -/
theorem Form.exists_place_of_junior {form : Form} {p : Place} (hp : p ∈ form.places) {g : Field}
    (hg : g ∈ p.juniors) : ∃ q ∈ form.places, q.field = g ∧ p.field ∈ q.elders :=
  Field.exists_place_of_junior_of_below (fun f _ => Field.exists_place_of_junior_below f) hp hg

theorem Rule.mem_askedIn_strict (r : Rule) : r ∈ Rule.askedIn .strict := by
  cases r <;> decide

theorem Rule.named_mem_askedIn (s : Strictness) : Rule.named ∈ Rule.askedIn s := by
  cases s <;> decide

theorem Rule.distinct_mem_askedIn (s : Strictness) : Rule.distinct ∈ Rule.askedIn s := by
  cases s <;> decide

/-- A field that is well-formed breaks no rule of the mode. -/
theorem Field.Place.WellFormed.not_brokenAt {s : Strictness} {p : Place} (h : p.WellFormed s)
    {r : Rule} (hr : r ∈ Rule.askedIn s) : ¬ r.BrokenAt p := by
  have hnamed : ¬ Rule.named.BrokenAt p := Bool.eq_false_iff.mp h.named
  have hdistinct : ¬ Rule.distinct.BrokenAt p := by
    rintro ⟨g, hg, hname⟩
    exact h.distinct g (List.mem_append_left p.juniors hg) hname
  cases s with
  | permissive =>
    rcases List.mem_cons.mp hr with rfl | hr
    · exact hnamed
    · obtain rfl := List.mem_singleton.mp hr
      exact hdistinct
  | strict =>
    cases r with
    | named => exact hnamed
    | distinct => exact hdistinct
    | labelled => exact Bool.eq_false_iff.mp (h.labelled rfl)
    | known => exact Option.ne_none_iff_exists'.mpr (h.known rfl)
    | options =>
      rintro ⟨hchoice, hoptions⟩
      exact h.options rfl hchoice hoptions
    | childless =>
      rintro ⟨hkind, hchildren⟩
      exact hchildren (h.childless rfl hkind)
    | oneItemShape =>
      rintro ⟨hkind, hboth⟩
      exact h.oneItemShape rfl hkind hboth
    | itemType =>
      rintro ⟨hkind, type, htype, hnone⟩
      obtain ⟨kind, hk, hprim⟩ := h.itemType rfl hkind type htype
      rw [hnone kind hk] at hprim
      cases hprim

/-- If no field that is reached breaks a rule of the mode, all of them are well-formed. -/
theorem Form.wellFormed_of_kept {s : Strictness} {form : Form}
    (h : ∀ p ∈ form.places, ∀ r ∈ Rule.askedIn s, ¬ r.BrokenAt p) {p : Place}
    (hp : p ∈ form.places) : p.WellFormed s := by
  have hstrict : s = .strict → ∀ r : Rule, ¬ r.BrokenAt p := by
    rintro rfl r
    exact h p hp r (Rule.mem_askedIn_strict r)
  refine ⟨?_, ?_, ?_, ?_, ?_, ?_, ?_, ?_⟩
  · exact Bool.eq_false_iff.mpr (h p hp .named (Rule.named_mem_askedIn s))
  · intro g hg hname
    rcases List.mem_append.mp hg with helder | hjunior
    · exact h p hp .distinct (Rule.distinct_mem_askedIn s) ⟨g, helder, hname⟩
    -- two siblings of one name: it is the younger of them that breaks the rule
    · obtain ⟨q, hq, hfield, helder⟩ := exists_place_of_junior hp hjunior
      refine h q hq .distinct (Rule.distinct_mem_askedIn s) ⟨p.field, helder, ?_⟩
      rw [hfield, hname]
  · intro hs
    exact Bool.eq_false_iff.mpr (hstrict hs .labelled)
  · intro hs
    exact Option.ne_none_iff_exists'.mp (hstrict hs .known)
  · intro hs hchoice hoptions
    exact hstrict hs .options ⟨hchoice, hoptions⟩
  · intro hs hkind
    exact Classical.not_not.mp fun hchildren => hstrict hs .childless ⟨hkind, hchildren⟩
  · intro hs hkind hboth
    exact hstrict hs .oneItemShape ⟨hkind, hboth⟩
  · intro hs hkind type htype
    refine Classical.not_not.mp fun hnone => hstrict hs .itemType ⟨hkind, type, htype, ?_⟩
    intro kind hk
    exact Bool.eq_false_iff.mpr fun hprim => hnone ⟨kind, hk, hprim⟩

/-! ## The check -/

/-- A field is refused exactly when it breaks a rule of the mode. -/
theorem Field.Place.violation?_eq_none_iff {s : Strictness} {p : Place} :
    p.violation? s = none ↔ ∀ r ∈ Rule.askedIn s, ¬ r.BrokenAt p := by
  rw [violation?_eq, firstReport, Option.map_eq_none_iff, List.find?_eq_none]
  simp

/-- The report about a field is that of the first rule of the mode that it breaks. -/
theorem Field.Place.violation?_eq_some_iff {s : Strictness} {p : Place} {e : StructuralError} :
    p.violation? s = some e ↔ ∃ rule : Rule, rule.BrokenAt p ∧ e = rule.report p ∧
      ∃ tried untried, Rule.askedIn s = tried ++ rule :: untried ∧ ∀ r ∈ tried, ¬ r.BrokenAt p := by
  rw [violation?_eq, firstReport, Option.map_eq_some_iff]
  simp only [List.find?_eq_some_iff_append, decide_eq_true_eq, Bool.not_eq_true',
    decide_eq_false_iff_not, and_assoc]
  refine exists_congr fun rule => ?_
  constructor
  · rintro ⟨hbroken, ⟨tried, untried, hrules, hkept⟩, rfl⟩
    exact ⟨hbroken, rfl, tried, untried, hrules, hkept⟩
  · rintro ⟨hbroken, rfl, tried, untried, hrules, hkept⟩
    exact ⟨hbroken, ⟨tried, untried, hrules, hkept⟩, rfl⟩

/-- A form passes the check exactly when it is well-formed. -/
theorem Form.check_eq_ok_iff {s : Strictness} {form : Form} :
    form.check s = .ok () ↔ form.WellFormed s := by
  cases htitle : Text.isBlank form.title with
  | true =>
    rw [Form.check, if_pos htitle]
    constructor
    · intro h
      cases h
    · intro h
      rw [h.titled] at htitle
      cases htitle
  | false =>
    rw [check_eq_of_titled htitle, Field.refusal_eq_ok_iff, List.findSome?_eq_none_iff]
    simp only [Field.Place.violation?_eq_none_iff]
    constructor
    · intro hkept
      exact ⟨htitle, fun p hp => wellFormed_of_kept hkept hp⟩
    · intro h p hp r hr
      exact (h.fields p hp).not_brokenAt hr

/-- A form with a title is refused exactly with the report of its first fault. -/
theorem Form.check_eq_error_iff {s : Strictness} {form : Form}
    (htitle : Text.isBlank form.title = false) {e : StructuralError} :
    form.check s = .error e ↔ ∃ p rule, form.FirstFault s p rule ∧ e = rule.report p := by
  rw [check_eq_of_titled htitle, Field.refusal_eq_error_iff, List.findSome?_eq_some_iff]
  simp only [Field.Place.violation?_eq_none_iff, Field.Place.violation?_eq_some_iff]
  constructor
  · rintro ⟨before, p, after, hplaces, ⟨rule, hbroken, he, horder⟩, hkept⟩
    exact ⟨p, rule, ⟨hbroken, horder, before, after, hplaces, hkept⟩, he⟩
  · rintro ⟨p, rule, ⟨hbroken, horder, before, after, hplaces, hkept⟩, he⟩
    exact ⟨before, p, after, hplaces, ⟨rule, hbroken, he, horder⟩, hkept⟩

/-- **The check decides well-formedness and reports the first fault.** It passes a form exactly
when the form is well-formed. It refuses one exactly with the missing title, or, if the title is
there, with the report of the first rule that the first faulty field in preorder breaks. -/
theorem Form.check_decides_wellFormed (s : Strictness) (form : Form) :
    (form.check s = .ok () ↔ form.WellFormed s) ∧
      ∀ e, form.check s = .error e ↔
        (Text.isBlank form.title = true ∧ e = .emptyTitle) ∨
          (Text.isBlank form.title = false ∧
            ∃ p rule, form.FirstFault s p rule ∧ e = rule.report p) := by
  refine ⟨check_eq_ok_iff, ?_⟩
  intro e
  cases htitle : Text.isBlank form.title with
  | true =>
    rw [Form.check, if_pos htitle]
    simp [eq_comm]
  | false =>
    rw [check_eq_error_iff htitle]
    simp

end WebForm
