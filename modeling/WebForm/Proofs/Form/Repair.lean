import WebForm.Form.Load
import WebForm.Proofs.Form.WellFormed
import WebForm.Proofs.Outcome
/-!
# Repaired forms

What permissive loading makes of a form, and how it compares with strict loading. A repair touches a
field at its own place and no other, so the places of a repaired form are the places of the form,
each repaired. Two facts about one place then settle what happens at every depth: a place that is
well-formed in permissive mode keeps, once it is repaired, all strict rules but those on kinds and
options, which no repair can mend; and a place that is well-formed in strict mode has nothing to
repair.

`Settled` says of a field that its repair leaves it as it is. Every field that is reached in a
repaired form is settled, so repairing twice is repairing once.
-/

set_option autoImplicit false

namespace WebForm

open Field Outcome

/-! ## One field -/

namespace Field

/-- The name of a field that has one is a label as good as any. -/
theorem isBlank_repairedLabel {spec : FieldSpec} (h : Text.isBlank spec.name = false) :
    Text.isBlank spec.repairedLabel = false := by
  unfold FieldSpec.repairedLabel
  by_cases hlabel : Text.isBlank spec.label = true
  · rw [if_pos hlabel]
    exact h
  · rw [if_neg hlabel]
    exact Bool.eq_false_iff.mpr hlabel

theorem repairedLabel_of_labelled {spec : FieldSpec} (h : Text.isBlank spec.label = false) :
    spec.repairedLabel = spec.label := by
  rw [FieldSpec.repairedLabel, h, if_neg Bool.false_ne_true]

theorem repair_of_array {f : Field} (h : f.kind? = some .array) :
    repair f =
      ⟨{ f.spec with label := f.spec.repairedLabel, itemType := repairedItemType f },
        repairAll f.children⟩ := by
  obtain ⟨spec, children⟩ := f
  rw [repair, if_pos (show spec.type.kind? = some .array from h)]

theorem repair_of_ne_array {f : Field} (h : f.kind? ≠ some .array) :
    repair f = ⟨{ f.spec with label := f.spec.repairedLabel }, []⟩ := by
  obtain ⟨spec, children⟩ := f
  rw [repair, if_neg (show spec.type.kind? ≠ some .array from h)]

/-- A repair touches the label, the item type and the children of a field, and nothing else. -/
theorem exists_spec_repair (f : Field) : ∃ itemType,
    (repair f).spec = { f.spec with label := f.spec.repairedLabel, itemType := itemType } := by
  by_cases harray : f.kind? = some .array
  · rw [repair_of_array harray]
    exact ⟨_, rfl⟩
  · rw [repair_of_ne_array harray]
    exact ⟨f.spec.itemType, rfl⟩

@[simp] theorem label_repair (f : Field) : (repair f).label = f.spec.repairedLabel := by
  obtain ⟨itemType, h⟩ := exists_spec_repair f
  rw [label, h]

@[simp] theorem type_repair (f : Field) : (repair f).spec.type = f.spec.type := by
  obtain ⟨itemType, h⟩ := exists_spec_repair f
  rw [h]

@[simp] theorem required_repair (f : Field) : (repair f).required = f.required := by
  obtain ⟨itemType, h⟩ := exists_spec_repair f
  rw [required, h, required]

@[simp] theorem constraints_repair (f : Field) : (repair f).constraints = f.constraints := by
  obtain ⟨itemType, h⟩ := exists_spec_repair f
  rw [constraints, h, constraints]

@[simp] theorem options_repair (f : Field) : (repair f).options = f.options := by
  obtain ⟨itemType, h⟩ := exists_spec_repair f
  rw [options, h, options]

theorem itemType_repair {f : Field} (h : f.kind? = some .array) :
    (repair f).spec.itemType = repairedItemType f := by
  rw [repair_of_array h]

theorem children_repair {f : Field} (h : f.kind? = some .array) :
    (repair f).children = repairAll f.children := by
  rw [repair_of_array h]

theorem repairAll_eq_nil_iff {fs : List Field} : repairAll fs = [] ↔ fs = [] := by
  rw [repairAll_eq_map, List.map_eq_nil_iff]

/-- A list has objects for items exactly when it had them before. -/
@[simp] theorem isObjectArray_repair (f : Field) :
    (repair f).isObjectArray = f.isObjectArray := by
  unfold isObjectArray
  rw [kind?_repair]
  by_cases harray : f.kind? = some .array
  · have hempty : (repairAll f.children).isEmpty = f.children.isEmpty := by
      rw [repairAll_eq_map, List.isEmpty_map]
    rw [children_repair harray, hempty]
  · rw [beq_eq_false_iff_ne.mpr harray, Bool.false_and, Bool.false_and]

theorem kind?_of_isObjectArray {f : Field} (h : f.isObjectArray = true) :
    f.kind? = some .array :=
  eq_of_beq ((Bool.and_eq_true _ _).mp h).1

/-! ### Item types -/

theorem repairedItemType_of_children {f : Field} (h : f.children ≠ []) :
    repairedItemType f = none := by
  unfold repairedItemType
  rw [if_pos]
  simpa using h

/-- The item type of a list of primitives stays, unless it only stands for text. -/
theorem repairedItemType_of_childless {f : Field} (h : f.children = []) :
    repairedItemType f =
      if f.itemKind = .text && f.spec.itemType ≠ some (.known .text) then none
      else f.spec.itemType := by
  unfold repairedItemType
  rw [h]
  rfl

/-- Text stands in for a kind that is no primitive. -/
theorem itemKind_of_itemType {f : Field} {type : FieldType} {kind : FieldKind}
    (htype : f.spec.itemType = some type) (hkind : type.kind? = some kind) :
    f.itemKind = if kind.isPrimitive then kind else .text := by
  rw [itemKind, htype, Option.bind_some, hkind, Option.filter_some]
  split <;> rfl

/-- An item type that counts is a known kind. -/
theorem itemType_of_itemKind_ne_text {f : Field} (h : f.itemKind ≠ .text) :
    f.spec.itemType = some (.known f.itemKind) := by
  cases htype : f.spec.itemType with
  | none =>
    rw [itemKind, htype] at h
    exact absurd rfl h
  | some type =>
    cases type with
    | unrecognized raw =>
      rw [itemKind, htype] at h
      exact absurd rfl h
    | known kind =>
      have hknown : (FieldType.known kind).kind? = some kind := rfl
      have hkind := itemKind_of_itemType htype hknown
      by_cases hprim : kind.isPrimitive = true
      · rw [if_pos hprim] at hkind
        rw [hkind]
      · rw [if_neg hprim] at hkind
        exact absurd hkind h

/-- An item type is left as it is, if it is left. -/
theorem itemType_of_repairedItemType {f : Field} {type : FieldType}
    (h : repairedItemType f = some type) : f.spec.itemType = some type := by
  unfold repairedItemType at h
  split at h
  · cases h
  · split at h
    · cases h
    · exact h

/-- What is left of an item type is a known primitive kind. -/
theorem exists_kind_of_repairedItemType {f : Field} {type : FieldType}
    (h : repairedItemType f = some type) :
    ∃ kind, type.kind? = some kind ∧ kind.isPrimitive = true := by
  have hkept := itemType_of_repairedItemType h
  by_cases hnone : f.children = []
  · rw [repairedItemType_of_childless hnone] at h
    by_cases htext : f.itemKind = .text
    · by_cases hknown : f.spec.itemType = some (.known .text)
      · rw [htext, hknown] at h
        obtain rfl := Option.some.inj h
        exact ⟨.text, rfl, rfl⟩
      · simp [htext, hknown] at h
    · have htype := itemType_of_itemKind_ne_text htext
      obtain rfl := Option.some.inj (htype.symm.trans hkept)
      exact ⟨f.itemKind, rfl, f.isPrimitive_itemKind⟩
  · rw [repairedItemType_of_children hnone] at h
    cases h

/-- A known primitive kind is not taken away. -/
theorem repairedItemType_of_isPrimitive {f : Field} (hnone : f.children = []) {type : FieldType}
    (htype : f.spec.itemType = some type) {kind : FieldKind} (hkind : type.kind? = some kind)
    (hprim : kind.isPrimitive = true) : repairedItemType f = f.spec.itemType := by
  have hitem : f.itemKind = kind := by rw [itemKind_of_itemType htype hkind, if_pos hprim]
  rw [repairedItemType_of_childless hnone, hitem, htype]
  cases type with
  | unrecognized raw => cases hkind
  | known kind' =>
    obtain rfl := Option.some.inj hkind
    by_cases htext : kind' = .text
    · simp [htext]
    · simp [htext]

/-- Repairing keeps the kind of the items of a list of primitives. -/
theorem itemKind_repair {f : Field} (harray : f.kind? = some .array) (hnone : f.children = []) :
    (repair f).itemKind = f.itemKind := by
  have htype := itemType_repair harray
  rw [repairedItemType_of_childless hnone] at htype
  by_cases htext : f.itemKind = .text
  · by_cases hknown : f.spec.itemType = some (.known .text)
    · simp [itemKind, htype, hknown]
    · have hdropped : (repair f).spec.itemType = none := by simpa [htext, hknown] using htype
      rw [htext, itemKind, hdropped]
      rfl
  · have hkept : (repair f).spec.itemType = f.spec.itemType := by simpa [htext] using htype
    rw [itemKind, hkept, itemKind]

/-! ### Settled fields -/

/-- A field that its repair leaves as it is, the fields inside it apart. -/
structure Settled (f : Field) : Prop where
  labelled : f.spec.repairedLabel = f.spec.label
  itemType : f.kind? = some .array → repairedItemType f = f.spec.itemType
  childless : f.kind? ≠ some .array → f.children = []

/-- A field is left as it is if everything that is reached in it is settled. -/
theorem repair_eq_self (f : Field) : Everywhere Settled f → repair f = f := by
  induction f using Field.induction with
  | mk spec children ih =>
    intro h
    obtain ⟨hsettled, hbelow⟩ := everywhere_iff.mp h
    by_cases harray : (Field.mk spec children).kind? = some .array
    · have hchildren : repairAll children = children := by
        rw [repairAll_eq_map, List.map_congr_left fun c hc => ih c hc (hbelow harray c hc)]
        exact List.map_id children
      rw [repair_of_array harray, hsettled.labelled, hsettled.itemType harray]
      exact congrArg (Field.mk spec) hchildren
    · rw [repair_of_ne_array harray, hsettled.labelled]
      exact congrArg (Field.mk spec) (hsettled.childless harray).symm

/-- A field is settled once it is repaired. -/
theorem settled_repair (f : Field) : Settled (repair f) := by
  refine ⟨?_, ?_, ?_⟩
  · obtain ⟨itemType, h⟩ := exists_spec_repair f
    rw [h, FieldSpec.repairedLabel]
    dsimp only
    by_cases hblank : Text.isBlank f.spec.repairedLabel = true
    · -- only the name can be left as a blank label, and it would be put in again
      rw [if_pos hblank]
      unfold FieldSpec.repairedLabel at hblank ⊢
      by_cases hlabel : Text.isBlank f.spec.label = true
      · rw [if_pos hlabel]
      · rw [if_neg hlabel] at hblank
        exact absurd hblank hlabel
    · rw [if_neg hblank]
  · intro hkind
    have harray : f.kind? = some .array := by rwa [kind?_repair] at hkind
    have htype := itemType_repair harray
    by_cases hnone : f.children = []
    · have hchildren : (repair f).children = [] := by
        rw [children_repair harray, hnone, repairAll]
      rw [htype]
      -- an item type that survived one repair is primitive, so it survives another
      cases hrepaired : repairedItemType f with
      | none =>
        rw [hrepaired] at htype
        rw [repairedItemType_of_childless hchildren, htype]
        simp
      | some type =>
        rw [hrepaired] at htype
        obtain ⟨kind, hk, hprim⟩ := exists_kind_of_repairedItemType hrepaired
        rw [repairedItemType_of_isPrimitive hchildren htype hk hprim, htype]
    · have hchildren : (repair f).children ≠ [] := by
        rw [children_repair harray]
        exact fun h => hnone (repairAll_eq_nil_iff.mp h)
      rw [htype, repairedItemType_of_children hnone, repairedItemType_of_children hchildren]
  · intro hkind
    rw [kind?_repair] at hkind
    rw [repair_of_ne_array hkind]

/-- Everything that is reached in a repaired field is settled. -/
theorem everywhere_settled_repair (f : Field) : Everywhere Settled (repair f) := by
  induction f using Field.induction with
  | mk spec children ih =>
    refine everywhere_iff.mpr ⟨settled_repair _, ?_⟩
    intro harray c hc
    rw [kind?_repair] at harray
    rw [children_repair harray, repairAll_eq_map] at hc
    obtain ⟨d, hd, rfl⟩ := List.mem_map.mp hc
    exact ih d hd

/-- Repairing a second time changes nothing. -/
@[simp] theorem repair_repair (f : Field) : repair (repair f) = repair f :=
  repair_eq_self _ (everywhere_settled_repair f)

/-! ## Places -/

/-- The place with all fields in it repaired. -/
def Place.repair (p : Place) : Place :=
  ⟨p.parent, p.elders.map Field.repair, p.field.repair, p.juniors.map Field.repair⟩

@[simp] theorem Place.path_repair (p : Place) : p.repair.path = p.path := by
  rw [Place.path, Place.repair, name_repair, Place.path]

theorem places_repairAll_of_placesBelow {fs : List Field}
    (ih : ∀ f ∈ fs, ∀ parent,
      placesBelow parent (repair f) = (placesBelow parent f).map Place.repair)
    (parent : String) (elders : List Field) :
    places parent (elders.map repair) (repairAll fs) =
      (places parent elders fs).map Place.repair := by
  induction fs generalizing elders with
  | nil => rfl
  | cons f rest ihrest =>
    have hrest := ihrest (fun g hg => ih g (List.mem_cons_of_mem f hg)) (elders ++ [f])
    rw [List.map_append, List.map_singleton] at hrest
    rw [repairAll, places, places, placesIn_eq, placesIn_eq, ih f List.mem_cons_self, hrest,
      repairAll_eq_map, List.map_append, List.map_cons, Place.repair]

theorem placesBelow_repair (f : Field) : ∀ parent,
    placesBelow parent (repair f) = (placesBelow parent f).map Place.repair := by
  induction f using Field.induction with
  | mk spec children ih =>
    intro parent
    rw [placesBelow, placesBelow, kind?_repair, name_repair]
    by_cases harray : (Field.mk spec children).kind? = some .array
    · rw [if_pos harray, if_pos harray, children_repair harray]
      exact places_repairAll_of_placesBelow ih _ []
    · rw [if_neg harray, if_neg harray, List.map_nil]

end Field

namespace Form

/-- The places of a repaired form are the places of the form, each repaired. -/
theorem places_repair (form : Form) :
    form.repair.places = form.places.map Place.repair :=
  places_repairAll_of_placesBelow (fun f _ => placesBelow_repair f) "" []

/-- Repairing a form a second time changes nothing. -/
@[simp] theorem repair_repair (form : Form) : form.repair.repair = form.repair := by
  have hfields : repairAll (repairAll form.fields) = repairAll form.fields := by
    rw [repairAll_eq_map, repairAll_eq_map, List.map_map]
    exact List.map_congr_left fun f _ => Field.repair_repair f
  rw [repair, repair, hfields]

end Form

/-! ## Rules -/

/-- A repaired place keeps all rules but those that no repair can mend. -/
theorem Field.Place.WellFormed.not_brokenAt_repair {p : Place} (h : p.WellFormed .permissive)
    {r : Rule} (hknown : r ≠ .known) (hoptions : r ≠ .options) : ¬ r.BrokenAt p.repair := by
  cases r with
  | named =>
    intro hbroken
    have hname : Text.isBlank p.field.repair.name = true := hbroken
    rw [name_repair, h.named] at hname
    cases hname
  | distinct =>
    rintro ⟨g, hg, hname⟩
    obtain ⟨elder, helder, rfl⟩ := List.mem_map.mp hg
    have hsame : elder.repair.name = p.field.repair.name := hname
    rw [name_repair, name_repair] at hsame
    exact h.distinct elder (List.mem_append_left p.juniors helder) hsame
  | labelled =>
    intro hbroken
    have hlabel : Text.isBlank p.field.repair.label = true := hbroken
    rw [label_repair, isBlank_repairedLabel h.named] at hlabel
    cases hlabel
  | known => exact absurd rfl hknown
  | options => exact absurd rfl hoptions
  | childless =>
    rintro ⟨hkind, hchildren⟩
    exact hchildren ((settled_repair p.field).childless hkind)
  | oneItemShape =>
    rintro ⟨hkind, hchildren, htype⟩
    have hsettled := (settled_repair p.field).itemType hkind
    have hnone : repairedItemType p.field.repair = none := repairedItemType_of_children hchildren
    exact htype (hsettled.symm.trans hnone)
  | itemType =>
    rintro ⟨hkind, type, htype, hnone⟩
    have hsettled := (settled_repair p.field).itemType hkind
    obtain ⟨kind, hk, hprim⟩ := exists_kind_of_repairedItemType (hsettled.trans htype)
    rw [hnone kind hk] at hprim
    cases hprim

/-- A place that keeps all strict rules has nothing to repair. -/
theorem Field.Place.WellFormed.settled {p : Place} (h : p.WellFormed .strict) :
    Settled p.field := by
  refine ⟨repairedLabel_of_labelled (h.labelled rfl), ?_, h.childless rfl⟩
  intro harray
  by_cases hnone : p.field.children = []
  · cases htype : p.field.spec.itemType with
    | none =>
      rw [repairedItemType_of_childless hnone, htype]
      simp
    | some type =>
      obtain ⟨kind, hk, hprim⟩ := h.itemType rfl harray type htype
      rw [repairedItemType_of_isPrimitive hnone htype hk hprim, htype]
  · have htype : p.field.spec.itemType = none :=
      Classical.not_not.mp fun htype => h.oneItemShape rfl harray ⟨hnone, htype⟩
    rw [repairedItemType_of_children hnone, htype]

namespace Form

/-- What is well-formed in strict mode is so in permissive mode. -/
theorem WellFormed.permissive {form : Form} (h : form.WellFormed .strict) :
    form.WellFormed .permissive := by
  refine ⟨h.titled, ?_⟩
  intro p hp
  refine wellFormed_of_kept ?_ hp
  intro q hq r _
  exact (h.fields q hq).not_brokenAt (Rule.mem_askedIn_strict r)

/-- A form that is well-formed in permissive mode stays so when it is repaired. -/
theorem WellFormed.repair {form : Form} (h : form.WellFormed .permissive) :
    form.repair.WellFormed .permissive := by
  refine ⟨h.titled, ?_⟩
  intro p hp
  refine wellFormed_of_kept ?_ hp
  intro q hq r hr
  rw [places_repair] at hq
  obtain ⟨place, hplace, rfl⟩ := List.mem_map.mp hq
  refine (h.fields place hplace).not_brokenAt_repair ?_ ?_
  · rintro rfl
    exact absurd hr (by decide)
  · rintro rfl
    exact absurd hr (by decide)

/-- A form that is well-formed in strict mode is left as it is. -/
theorem WellFormed.repair_eq_self {form : Form} (h : form.WellFormed .strict) :
    form.repair = form := by
  have hsettled : EverywhereIn Settled form.fields :=
    (@everywhereIn_iff_forall_places Settled "" [] form.fields).mpr
      fun p hp => (h.fields p hp).settled
  have hfields : repairAll form.fields = form.fields := by
    rw [repairAll_eq_map, List.map_congr_left fun f hf =>
      Field.repair_eq_self f (everywhereIn_iff_forall_mem.mp hsettled f hf)]
    exact List.map_id form.fields
  exact congrArg (Form.mk form.title) hfields

/-! ## Loading -/

/-- What a mode makes of a form that it accepts. -/
def keptBy : Strictness → Form → Form
  | .strict, form => form
  | .permissive, form => form.repair

/-- A mode accepts what is well-formed in it. -/
theorem accept_eq_ok_iff {s : Strictness} {decoded form : Form} :
    decoded.accept s = .ok form ↔ decoded.WellFormed s ∧ form = decoded.keptBy s := by
  unfold accept
  rw [bind_eq_ok_iff]
  constructor
  · rintro ⟨u, hcheck, h⟩
    refine ⟨check_eq_ok_iff.mp (mapError_eq_ok_iff.mp hcheck), ?_⟩
    cases s <;> exact (Except.ok.inj h).symm
  · rintro ⟨h, rfl⟩
    refine ⟨(), mapError_eq_ok_iff.mpr (check_eq_ok_iff.mpr h), ?_⟩
    cases s <;> rfl

/-- What is kept of a well-formed form is well-formed in the same mode, and kept as it is. -/
theorem WellFormed.keptBy {s : Strictness} {form : Form} (h : form.WellFormed s) :
    (form.keptBy s).WellFormed s ∧ (form.keptBy s).keptBy s = form.keptBy s := by
  cases s with
  | strict => exact ⟨h, rfl⟩
  | permissive => exact ⟨h.repair, form.repair_repair⟩

/-- Loading a value is decoding it and accepting what was decoded. -/
theorem loadJson_eq_ok_iff {s : Strictness} {value : Json} {form : Form} :
    loadJson s value = .ok form ↔
      ∃ decoded, decodeJson value = .ok decoded ∧ decoded.accept s = .ok form := by
  rw [loadJson, bind_eq_ok_iff]
  exact exists_congr fun decoded => and_congr_left' mapError_eq_ok_iff

/-- The strict check of a repaired form finds only what no repair can mend. -/
theorem WellFormed.check_repair_strict {form : Form} (h : form.WellFormed .permissive) :
    form.repair.check .strict = .ok () ∨
      ∃ field kind, form.repair.check .strict = .error (.unknownKind field kind) ∨
        form.repair.check .strict = .error (.missingOptions field kind) := by
  cases hcheck : form.repair.check .strict with
  | ok u => exact Or.inl rfl
  | error e =>
    obtain ⟨p, rule, hfault, rfl⟩ := (check_eq_error_iff h.repair.titled).mp hcheck
    -- the field at fault is a repaired one
    obtain ⟨before, after, hplaces, -⟩ := hfault.preorder
    have hp : p ∈ form.places.map Place.repair := by
      rw [← places_repair, hplaces]
      exact List.mem_append_right before List.mem_cons_self
    obtain ⟨place, hplace, rfl⟩ := List.mem_map.mp hp
    have hkept := (h.fields place hplace).not_brokenAt_repair (r := rule)
    by_cases hknown : rule = .known
    · subst hknown
      exact Or.inr ⟨_, _, Or.inl rfl⟩
    · by_cases hoptions : rule = .options
      · subst hoptions
        exact Or.inr ⟨_, _, Or.inr rfl⟩
      · exact absurd hfault.broken (hkept hknown hoptions)

/-- **Permissive loading extends strict loading.** A value that is loaded in strict mode is loaded
to the same form in permissive mode. What is loaded in permissive mode passes the strict check, or
is refused because of a kind that is not known or a choice without options, and for no other
reason. -/
theorem loadJson_permissive_extends_strict (value : Json) :
    (∀ form, loadJson .strict value = .ok form → loadJson .permissive value = .ok form) ∧
      ∀ form, loadJson .permissive value = .ok form →
        form.check .strict = .ok () ∨
          ∃ field kind, form.check .strict = .error (.unknownKind field kind) ∨
            form.check .strict = .error (.missingOptions field kind) := by
  constructor
  · intro form h
    obtain ⟨decoded, hdecode, haccept⟩ := loadJson_eq_ok_iff.mp h
    obtain ⟨hstrict, rfl⟩ := accept_eq_ok_iff.mp haccept
    refine loadJson_eq_ok_iff.mpr ⟨form, hdecode, accept_eq_ok_iff.mpr ?_⟩
    exact ⟨hstrict.permissive, hstrict.repair_eq_self.symm⟩
  · intro form h
    obtain ⟨decoded, -, haccept⟩ := loadJson_eq_ok_iff.mp h
    obtain ⟨hpermissive, rfl⟩ := accept_eq_ok_iff.mp haccept
    exact hpermissive.check_repair_strict

/-- A document that keeps all rules. -/
def memoDocument : Json :=
  .object [("title", .string "Memo"), ("fields", .array
    [.object [("name", .string "lines"), ("type", .string "array"), ("label", .string "Lines"),
      ("itemType", .string "number")]])]

/-- The form of the document. -/
def memoForm : Form :=
  ⟨"Memo", [.leaf ⟨"lines", .known .array, "Lines", false, none, [], some (.known .number),
    none, none⟩]⟩

/-- A document with a kind that is not known, and with a label, an item type and children that have
to be repaired. -/
def planDocument : Json :=
  .object [("title", .string "Plan"), ("fields", .array
    [.object [("name", .string "when"), ("type", .string "date"), ("label", .string "When")],
      .object [("name", .string "steps"), ("type", .string "array"), ("itemType", .string "radio"),
        ("fields", .array
          [.object [("name", .string "what"), ("type", .string "text"),
            ("fields", .array [.object [("name", .string ""), ("type", .string "text")]])]])]])]

/-- What the document is repaired to. -/
def planForm : Form :=
  ⟨"Plan",
    [.leaf ⟨"when", .unrecognized "date", "When", false, none, [], none, none, none⟩,
      ⟨⟨"steps", .known .array, "steps", false, none, [], none, none, none⟩,
        [.leaf ⟨"what", .known .text, "what", false, none, [], none, none, none⟩]⟩]⟩

/-- The first document is loaded in both modes, the second in permissive mode only. -/
theorem memoDocument_and_planDocument_load :
    (loadJson .strict memoDocument = .ok memoForm ∧
      loadJson .permissive memoDocument = .ok memoForm) ∧
    loadJson .permissive planDocument = .ok planForm ∧
      ∃ field kind, planForm.check .strict = .error (.unknownKind field kind) ∨
        planForm.check .strict = .error (.missingOptions field kind) := by
  have hmemo : loadJson .strict memoDocument = .ok memoForm := rfl
  have hplan : loadJson .permissive planDocument = .ok planForm := rfl
  refine ⟨⟨hmemo, (loadJson_permissive_extends_strict memoDocument).1 memoForm hmemo⟩, hplan, ?_⟩
  rcases (loadJson_permissive_extends_strict planDocument).2 planForm hplan with hok | hrefused
  · have hcheck : planForm.check .strict = .error (.unknownKind "when" "date") := rfl
    cases hcheck.symm.trans hok
  · exact hrefused

end Form

end WebForm
