import Mathlib.Data.List.Forall2
import WebForm.Proofs.Schema.Decision
/-!
# Relaxed forms

A form is relaxed by turning `required` off, by removing bounds and patterns, and by offering more
options, anywhere in the tree and leaving all else as it is. What was accepted before is accepted
afterwards. This is not plain from the compiler, because `required` goes both into the wrapping of a
field and into its rule: it decides whether a checkbox has to be checked, whether a list may be
empty, and whether the empty text counts as missing. It is plain from `Field.Accepts`, in which each
of these uses stands in a place of its own, so acceptance is what the induction over the tree is
about (`Field.Accepts.of_relaxesTo`).
-/

set_option autoImplicit false

namespace WebForm

open Schema Validator

/-! ## Relaxed constraints -/

namespace Constraints

/-- A bound has been removed, or it is as before. -/
def Kept {α : Type} (before after : Option α) : Prop := after = none ∨ after = before

theorem Kept.eq_some {α : Type} {before after : Option α} (h : Kept before after) {b : α}
    (hb : after = some b) : before = some b := by
  rcases h with hnone | hsame
  · rw [hnone] at hb
    cases hb
  · rw [← hsame, hb]

/-- Some bounds have been removed. -/
structure RelaxesTo (c d : Constraints) : Prop where
  minLength : Kept c.minLength d.minLength
  maxLength : Kept c.maxLength d.maxLength
  min : Kept c.min d.min
  max : Kept c.max d.max
  pattern : Kept c.pattern d.pattern

section
variable {c d : Constraints}

theorem AdmitsLength.of_relaxesTo {n : Nat} (h : c.RelaxesTo d) (hn : c.AdmitsLength n) :
    d.AdmitsLength n where
  atLeast b hb hne := hn.atLeast b (h.minLength.eq_some hb) hne
  atMost b hb hne := hn.atMost b (h.maxLength.eq_some hb) hne

theorem AdmitsNumber.of_relaxesTo {x : Double} (h : c.RelaxesTo d) (hx : c.AdmitsNumber x) :
    d.AdmitsNumber x where
  atLeast b hb := hx.atLeast b (h.min.eq_some hb)
  atMost b hb := hx.atMost b (h.max.eq_some hb)

theorem AdmitsText.of_relaxesTo {matching : String → String → Prop} {kind : FieldKind}
    {s : String} (h : c.RelaxesTo d) (hs : c.AdmitsText matching kind s) :
    d.AdmitsText matching kind s where
  nonempty := hs.nonempty
  length := hs.length.of_relaxesTo h
  email := hs.email
  pattern source hsource hne := hs.pattern source (h.pattern.eq_some hsource) hne

end

end Constraints

/-! ## Relaxed fields -/

namespace Field

/-- A field has been relaxed, its children left aside. Placeholders and helper texts may be
anything. -/
structure RelaxesOwn (a b : Field) : Prop where
  name : b.name = a.name
  type : b.spec.type = a.spec.type
  label : b.label = a.label
  itemType : b.spec.itemType = a.spec.itemType
  required : b.required = true → a.required = true
  constraints : a.constraints.RelaxesTo b.constraints
  options : a.options ⊆ b.options

/-- A field has been relaxed, at any depth. -/
inductive RelaxesTo : Field → Field → Prop
  | mk {a b : Field} (own : a.RelaxesOwn b)
      (children : List.Forall₂ RelaxesTo a.children b.children) : RelaxesTo a b

section
variable {a b : Field}

theorem RelaxesTo.own (h : a.RelaxesTo b) : a.RelaxesOwn b := by
  cases h with
  | mk hown _ => exact hown

theorem RelaxesTo.children (h : a.RelaxesTo b) :
    List.Forall₂ RelaxesTo a.children b.children := by
  cases h with
  | mk _ hchildren => exact hchildren

theorem RelaxesOwn.kind?_eq (h : a.RelaxesOwn b) : b.kind? = a.kind? :=
  congrArg FieldType.kind? h.type

theorem RelaxesOwn.itemKind_eq (h : a.RelaxesOwn b) : b.itemKind = a.itemKind := by
  rw [itemKind, itemKind, h.itemType]

/-- A field that is not required stays so. -/
theorem RelaxesOwn.required_eq_false (h : a.RelaxesOwn b) (ha : a.required = false) :
    b.required = false := by
  rw [Bool.eq_false_iff] at ha ⊢
  exact fun hb => ha (h.required hb)

end

/-! ## Acceptance -/

/-- Relaxed siblings take the members that the siblings took, if this is so of each of them. -/
theorem AcceptsAll.of_relaxesTo {matching : String → String → Prop} {fs gs : List Field}
    (ih : ∀ f ∈ fs, ∀ g, f.RelaxesTo g → ∀ x, f.Accepts matching x → g.Accepts matching x)
    (h : List.Forall₂ RelaxesTo fs gs) {members : List (String × Json)}
    (hmembers : AcceptsAll matching fs members) : AcceptsAll matching gs members := by
  induction h with
  | nil => trivial
  | @cons f g _ _ hfirst _ ihrest =>
    rw [AcceptsAll] at hmembers ⊢
    rw [List.forall_mem_cons] at ih
    rw [hfirst.own.name]
    exact ⟨ih.1 g hfirst _ hmembers.1, ihrest ih.2 hmembers.2⟩

/-- A relaxed field takes what the field took. -/
theorem Accepts.of_relaxesTo {matching : String → String → Prop} (a : Field) :
    ∀ b, a.RelaxesTo b → ∀ x, a.Accepts matching x → b.Accepts matching x := by
  induction a using Field.induction with
  | mk spec children ih =>
    rintro ⟨relaxed, inside⟩ h x hx
    have hown := h.own
    have hchildren : List.Forall₂ RelaxesTo children inside := h.children
    have hkind : relaxed.type.kind? = spec.type.kind? := hown.kind?_eq
    have hconstraints : (spec.constraints.getD {}).RelaxesTo (relaxed.constraints.getD {}) :=
      hown.constraints
    have hrequired : spec.required = false → relaxed.required = false := hown.required_eq_false
    cases x with
    | none =>
      rw [Accepts] at hx ⊢
      rw [hkind]
      exact ⟨hx.1, hrequired hx.2⟩
    | some v =>
      rw [Accepts] at hx ⊢
      rw [hkind]
      cases hknown : spec.type.kind? with
      | none => simp only [hknown] at hx
      | some kind =>
        simp only [hknown] at hx ⊢
        cases hbase : kind.base with
        | string =>
          simp only [hbase] at hx ⊢
          rcases hx with ⟨hempty, hfree⟩ | ⟨s, hs, hadmits⟩
          · exact .inl ⟨hempty, hrequired hfree⟩
          · exact .inr ⟨s, hs, hadmits.of_relaxesTo hconstraints⟩
        | number =>
          simp only [hbase] at hx ⊢
          rcases hx with ⟨hempty, hfree⟩ | ⟨n, hn, hadmits⟩
          · exact .inl ⟨hempty, hrequired hfree⟩
          · exact .inr ⟨n, hn, hadmits.of_relaxesTo hconstraints⟩
        | boolean =>
          simp only [hbase] at hx ⊢
          exact hx.imp_right fun hunchecked => ⟨hunchecked.1, hrequired hunchecked.2⟩
        | oneOf =>
          simp only [hbase] at hx ⊢
          obtain ⟨option, hoption, hv⟩ := hx
          exact ⟨option, hown.options hoption, hv⟩
        | list =>
          simp only [hbase] at hx ⊢
          obtain ⟨items, hv, hitems, hinside⟩ := hx
          refine ⟨items, hv, fun hstill => hitems (hown.required hstill), ?_⟩
          rcases hinside with ⟨hnone, hall⟩ | ⟨hsome, hall⟩
          -- without children before, and hence without children now
          · subst hnone
            rw [hown.itemKind_eq]
            exact .inl ⟨List.forall₂_nil_left_iff.mp hchildren, hall⟩
          · refine .inr ⟨?_, fun item hitem => ?_⟩
            · rintro rfl
              exact hsome (List.forall₂_nil_right_iff.mp hchildren)
            · obtain ⟨members, hobject, hmembers⟩ := hall item hitem
              exact ⟨members, hobject, hmembers.of_relaxesTo ih hchildren⟩

/-! ## Compiling -/

/-- A relaxed field compiles by itself if the field did: its kind is the same, and so is its
pattern, if it still has one. -/
theorem Compilable.of_relaxesOwn {a b : Field} (h : a.RelaxesOwn b) (ha : a.Compilable) :
    b.Compilable where
  known := by
    obtain ⟨kind, hkind⟩ := ha.known
    exact ⟨kind, h.kind?_eq.trans hkind⟩
  pattern kind hkind htext source hsource hne :=
    ha.pattern kind (h.kind?_eq.symm.trans hkind) htext source
      (h.constraints.pattern.eq_some hsource) hne

theorem everywhereIn_compilable_of_relaxesTo_of_mem {fs gs : List Field}
    (ih : ∀ f ∈ fs, ∀ g, f.RelaxesTo g → Everywhere Compilable f → Everywhere Compilable g)
    (h : List.Forall₂ RelaxesTo fs gs) (hall : EverywhereIn Compilable fs) :
    EverywhereIn Compilable gs := by
  induction h with
  | nil => trivial
  | @cons f g _ _ hfirst _ ihrest =>
    rw [List.forall_mem_cons] at ih
    exact ⟨ih.1 g hfirst hall.1, ihrest ih.2 hall.2⟩

theorem everywhere_compilable_of_relaxesTo (a : Field) :
    ∀ b, a.RelaxesTo b → Everywhere Compilable a → Everywhere Compilable b := by
  induction a using Field.induction with
  | mk spec children ih =>
    rintro ⟨relaxed, inside⟩ h ha
    rw [Everywhere] at ha ⊢
    refine ⟨ha.1.of_relaxesOwn h.own, fun harray => ?_⟩
    have hbefore : spec.type.kind? = some .array := h.own.kind?_eq.symm.trans harray
    exact everywhereIn_compilable_of_relaxesTo_of_mem ih h.children (ha.2 hbefore)

end Field

namespace Form

/-- A form has been relaxed. -/
structure RelaxesTo (form relaxed : Form) : Prop where
  title : relaxed.title = form.title
  fields : List.Forall₂ Field.RelaxesTo form.fields relaxed.fields

end Form

namespace Schema

/-- A form compiles if and only if the fields that are reached in it compile by themselves. -/
theorem exists_ofForm_iff_everywhereIn {form : Form} :
    (∃ schema, ValidationSchema.ofForm form = .ok schema) ↔
      Field.EverywhereIn Field.Compilable form.fields := by
  have hplaces := @Field.everywhereIn_iff_forall_places Field.Compilable "" [] form.fields
  rw [hplaces, ← Form.places, ← Outcome.error?_eq_none_iff, error?_ofForm,
    List.findSome?_eq_none_iff]
  simp only [fault?_eq_none_iff]

/-- **Relaxing a form never rejects more.** If a form compiles, it compiles after it has been
relaxed, and the schema of the relaxed form accepts every submission that was accepted before. -/
theorem valid_of_relaxesTo {form relaxed : Form} {schema : ValidationSchema}
    (h : form.RelaxesTo relaxed) (hschema : ValidationSchema.ofForm form = .ok schema) :
    ∃ schema', ValidationSchema.ofForm relaxed = .ok schema' ∧
      ∀ v, (schema.validate v).valid = true → (schema'.validate v).valid = true := by
  have hcompilable : Field.EverywhereIn Field.Compilable relaxed.fields :=
    Field.everywhereIn_compilable_of_relaxesTo_of_mem
      (fun f _ => Field.everywhere_compilable_of_relaxesTo f) h.fields
      (exists_ofForm_iff_everywhereIn.mp ⟨schema, hschema⟩)
  obtain ⟨schema', hschema'⟩ := exists_ofForm_iff_everywhereIn.mpr hcompilable
  refine ⟨schema', hschema', fun v hv => ?_⟩
  obtain ⟨fields, hfields, rfl⟩ := ofForm_eq_ok_iff.mp hschema
  obtain ⟨fields', hfields', rfl⟩ := ofForm_eq_ok_iff.mp hschema'
  -- no errors is the same as acceptance, for the form as for the relaxed one
  have haccepts := @Field.checkFields_eq_nil_iff_acceptsAll form.fields
    (fun f _ => Field.checkPresent_eq_nil_iff_accepts f) "" fields hfields ""
  have haccepts' := @Field.checkFields_eq_nil_iff_acceptsAll relaxed.fields
    (fun f _ => Field.checkPresent_eq_nil_iff_accepts f) "" fields' hfields' ""
  obtain ⟨members, hobject, hmembers⟩ := valid_validate_iff_exists_members.mp hv
  refine valid_validate_iff_exists_members.mpr ⟨members, hobject, haccepts'.mpr ?_⟩
  exact (haccepts.mp hmembers).of_relaxesTo (fun f _ => Field.Accepts.of_relaxesTo f) h.fields

/-- A booking without bounds on the length of the address and the number of seats and with one more
age to choose from, in which neither the address nor the ages are required. -/
def relaxedBookingForm : Form :=
  ⟨"Booking",
    [.leaf ⟨"email", .known .email, "E-mail", false, none, [], none, none, none⟩,
      .leaf ⟨"seats", .known .number, "Seats", false, none, [], none, none, none⟩,
      ⟨⟨"guests", .known .array, "Guest", true, none, [], none, none, none⟩,
        [.leaf ⟨"age", .known .select, "Age", false, none, ["adult", "senior", "child"], none,
            none, none⟩,
          .leaf ⟨"vegan", .known .boolean, "Vegan", false, none, [], none, none, none⟩]⟩]⟩

/-- What was accepted as a booking is accepted by the relaxed form, and a booking that was not is
accepted as well. -/
theorem bookingForm_relaxed :
    bookingForm.RelaxesTo relaxedBookingForm ∧
      ∃ schema schema', ValidationSchema.ofForm bookingForm = .ok schema ∧
        ValidationSchema.ofForm relaxedBookingForm = .ok schema' ∧
        (schema'.validate (.object [("email", .string "ada@x.io"), ("seats", .string " 2 "),
          ("guests", .array [.object [("age", .string "child"), ("vegan", .null)]])])).valid =
            true ∧
        (schema.validate (.object [("guests", .array [.object []])])).valid = false ∧
        (schema'.validate (.object [("guests", .array [.object []])])).valid = true := by
  have hkept : ∀ c : Constraints, c.RelaxesTo c :=
    fun c => ⟨.inr rfl, .inr rfl, .inr rfl, .inr rfl, .inr rfl⟩
  have hsame : ∀ f : Field, f.RelaxesOwn f :=
    fun f => ⟨rfl, rfl, rfl, rfl, id, hkept _, List.Subset.refl _⟩
  have hrelaxes : bookingForm.RelaxesTo relaxedBookingForm := by
    refine ⟨rfl, .cons ⟨?email, .nil⟩ (.cons ⟨?seats, .nil⟩ (.cons ⟨?guests, ?inside⟩ .nil))⟩
    case email =>
      exact ⟨rfl, rfl, rfl, rfl, fun _ => rfl, ⟨.inr rfl, .inl rfl, .inr rfl, .inr rfl, .inr rfl⟩,
        List.Subset.refl _⟩
    case seats =>
      exact ⟨rfl, rfl, rfl, rfl, id, ⟨.inr rfl, .inr rfl, .inl rfl, .inr rfl, .inr rfl⟩,
        List.Subset.refl _⟩
    case guests =>
      exact ⟨rfl, rfl, rfl, rfl, id, hkept _, List.Subset.refl _⟩
    case inside =>
      refine .cons ⟨⟨rfl, rfl, rfl, rfl, fun _ => rfl, hkept _, ?_⟩, .nil⟩
        (.cons ⟨hsame _, .nil⟩ .nil)
      exact List.cons_subset_cons _ (List.subset_cons_self _ _)
  obtain ⟨schema, hschema⟩ : ∃ schema, ValidationSchema.ofForm bookingForm = .ok schema := ⟨_, rfl⟩
  obtain ⟨schema', hschema', hvalid⟩ := valid_of_relaxesTo hrelaxes hschema
  refine ⟨hrelaxes, schema, schema', hschema, hschema', hvalid _ ?_, ?_, ?_⟩
  · cases hschema
    decide +kernel
  · cases hschema
    decide +kernel
  · cases hschema'
    decide +kernel

end Schema

end WebForm
