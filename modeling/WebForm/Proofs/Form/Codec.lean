import WebForm.Proofs.Form.Repair
/-!
# Forms written and read back

What is decoded from the document of a form is the form. Writing leaves out what is absent or empty,
and decoding puts the same in for what is missing, so no member is lost on the way. The one thing
that could be is the difference between a kind and its spelling, because a document holds spellings
only: a type is *well-spelled* if it is the one that its own spelling stands for, and decoding gives
fields with well-spelled types only.

Together with what repairs do to a form this settles that loading is stable: a form that was loaded
is loaded again, in the same mode, from the document that it is written to.
-/

set_option autoImplicit false

namespace WebForm

open Outcome Field

/-! ## Reading members back

Constraints, fields and forms are all read member by member into slots. A member that was written
fills its slot, and a member that was left out leaves its slot empty, which comes to the same as
filling it with an absent value. -/

namespace Decode

/-- A list, or nothing if it is empty. -/
def nonempty? {α : Type} (xs : List α) : Option (List α) := if xs.isEmpty then none else some xs

@[simp] theorem getD_nonempty? {α : Type} (xs : List α) : (nonempty? xs).getD [] = xs := by
  cases xs <;> rfl

/-- A reader that takes the members of an object one by one, `step` saying what a member does to
the slots. -/
structure IsMemberReader {Slots : Type}
    (read : Slots → List (Except Fault String × Draft) → Decoded Slots)
    (step : Slots → String → Draft → Decoded Slots) : Prop where
  nil : ∀ s, read s [] = .ok s
  cons : ∀ s name d rest,
    read s ((.ok name, d) :: rest) = step s name d >>= fun s' => read s' rest

namespace IsMemberReader

variable {Slots : Type} {read : Slots → List (Except Fault String × Draft) → Decoded Slots}
  {step : Slots → String → Draft → Decoded Slots} {s s' s'' : Slots}

/-- Members are read from left to right. -/
theorem append (hread : IsMemberReader read step) {ms ms' : List (String × Json)}
    (hleft : read s (Draft.ofMembers ms) = .ok s')
    (hright : read s' (Draft.ofMembers ms') = .ok s'') :
    read s (Draft.ofMembers (ms ++ ms')) = .ok s'' := by
  induction ms generalizing s with
  | nil =>
    rw [Draft.ofMembers, hread.nil, Except.ok.injEq] at hleft
    subst hleft
    exact hright
  | cons m rest ih =>
    obtain ⟨name, value⟩ := m
    rw [Draft.ofMembers, hread.cons] at hleft
    obtain ⟨next, hstep, hrest⟩ := bind_eq_ok_iff.mp hleft
    rw [List.cons_append, Draft.ofMembers, hread.cons, hstep, bind_ok]
    exact ih hrest

theorem singleton (hread : IsMemberReader read step) {name : String} {value : Json}
    (hstep : step s name (.ofJson value) = .ok s') :
    read s (Draft.ofMembers [(name, value)]) = .ok s' := by
  rw [Draft.ofMembers, hread.cons, hstep, bind_ok]
  exact hread.nil s'

/-- A member that is written only if it is there fills its slot with what is there. -/
theorem optionalMember (hread : IsMemberReader read step) {α : Type} (name : String)
    (encode : α → Json) (x : Option α) (put : Option (Option α) → Slots)
    (hstep : ∀ a, x = some a →
      step (put none) name (.ofJson (encode a)) = .ok (put (some (some a)))) :
    read (put none) (Draft.ofMembers (Constraints.optionalMember name encode x)) =
      .ok (put (x.map some)) := by
  cases x with
  | none => exact hread.nil (put none)
  | some a => exact hread.singleton (hstep a rfl)

/-- A list that is written only if it is not empty fills its slot with what is there. -/
theorem listMember (hread : IsMemberReader read step) {α : Type} (name : String)
    (xs : List α) (items : List Json) (put : Option (List α) → Slots)
    (hstep : step (put none) name (.ofJson (.array items)) = .ok (put (some xs))) :
    read (put none)
        (Draft.ofMembers (if xs.isEmpty then [] else [(name, .array items)])) =
      .ok (put (nonempty? xs)) := by
  cases xs with
  | nil => exact hread.nil (put none)
  | cons x rest => exact hread.singleton hstep

end IsMemberReader

/-- An array or object that is closed gives its value. -/
theorem closeWith_eq_ok_iff {α : Type} {a b : α} {ending : Option Fault} :
    closeWith a ending = .ok b ↔ ending = none ∧ a = b := by
  cases ending with
  | none => simp [closeWith]
  | some fault => simp [closeWith]

/-- What a slot holds after a member that may be absent. -/
@[simp] theorem join_map_some {α : Type} (x : Option α) : (x.map some).join = x := by
  cases x <;> rfl

/-- A list of strings that was written is read back. -/
@[simp] theorem listOf_string_ofJson (texts : List String) :
    listOf string .value (.ofJson (.array (texts.map .string))) = .ok texts := by
  have hitems : (Draft.ofItems (texts.map .string)).mapM string = .ok texts := by
    induction texts with
    | nil => rfl
    | cons s rest ih =>
      rw [List.map_cons, Draft.ofItems, List.mapM_cons, string_ofJson, bind_ok, ih]
      rfl
  rw [Draft.ofJson, listOf, Origin.enter, bind_ok, hitems]
  rfl

end Decode

open Decode

/-! ## Constraints -/

namespace Constraints

theorem isMemberReader_members : IsMemberReader Slots.members Slots.member :=
  ⟨fun _ => rfl, fun _ _ _ _ => rfl⟩

/-- Constraints that were written are read back. -/
@[simp] theorem decode_toJson (c : Constraints) : decode .value (.ofJson c.toJson) = .ok c := by
  obtain ⟨minLength, maxLength, min, max, pattern⟩ := c
  have hword : ∀ n, optional word (.ofJson (wordJson n)) = .ok (some n) :=
    fun n => congrArg (Except.map some) (word_ofJson n)
  have hreader := isMemberReader_members
  -- each member finds its slot empty and leaves the others as they are
  have hminLength := hreader.optionalMember "minLength" wordJson minLength
    (fun x => { minLength := x })
    fun n _ => by simp [Slots.member, fresh, hword]
  have hmaxLength := hreader.optionalMember "maxLength" wordJson maxLength
    (fun x => { minLength := minLength.map some, maxLength := x })
    fun n _ => by simp [Slots.member, fresh, hword]
  have hmin := hreader.optionalMember "min" doubleJson min
    (fun x => { minLength := minLength.map some, maxLength := maxLength.map some, min := x })
    fun d _ => rfl
  have hmax := hreader.optionalMember "max" doubleJson max
    (fun x => { minLength := minLength.map some, maxLength := maxLength.map some,
                       min := min.map some, max := x })
    fun d _ => rfl
  have hpattern := hreader.optionalMember "pattern" Json.string pattern
    (fun x => { minLength := minLength.map some, maxLength := maxLength.map some,
                       min := min.map some, max := max.map some, pattern := x })
    fun s _ => rfl
  have hmembers := hreader.append
    (hreader.append (hreader.append (hreader.append hminLength hmaxLength) hmin) hmax) hpattern
  rw [toJson, Draft.ofJson, decode, Origin.enter, bind_ok, hmembers, bind_ok, closeWith,
    Slots.finish]
  simp only [join_map_some]

end Constraints

/-! ## Fields -/

/-- A type that is the one its spelling stands for: a kind, or a spelling of no kind. -/
def FieldType.WellSpelled (t : FieldType) : Prop := ofSpelling t.spelling = t

theorem FieldType.wellSpelled_ofSpelling (s : String) : (ofSpelling s).WellSpelled :=
  congrArg ofSpelling (spelling_ofSpelling s)

namespace Field

/-- A field all of whose types are well-spelled, at every depth and in children that mean nothing
too. -/
inductive WellSpelled : Field → Prop
  | mk {spec : FieldSpec} {children : List Field} (htype : spec.type.WellSpelled)
      (hitemType : ∀ t, spec.itemType = some t → t.WellSpelled)
      (hchildren : ∀ c ∈ children, WellSpelled c) : WellSpelled ⟨spec, children⟩

/-- Decodes one member of a field, the children too. -/
def Slots.anyMember (o : Origin) (s : Slots) (name : String) (d : Draft) : Decoded Slots :=
  if name = "fields" then do
    fresh name s.children
    return { s with children := some (← decodeList o d) }
  else s.member o name d

theorem isMemberReader_decodeMembers (o : Origin) :
    IsMemberReader (decodeMembers o) (Slots.anyMember o) := by
  refine ⟨fun _ => by rw [decodeMembers], ?_⟩
  intro s name d rest
  rw [decodeMembers, Slots.anyMember, key, mapError_ok, bind_ok]
  by_cases hname : name = "fields"
  · rw [if_pos hname, if_pos hname]
    cases fresh name s.children with
    | error e => rfl
    | ok u =>
      rw [bind_ok, bind_ok]
      cases decodeList o d <;> rfl
  · rw [if_neg hname, if_neg hname]

theorem decodeAll_ofItems {fs : List Field}
    (ih : ∀ f ∈ fs, decode .value (.ofJson f.toJson) = .ok f) :
    decodeAll .value (Draft.ofItems (toJsonAll fs)) = .ok fs := by
  induction fs with
  | nil => rfl
  | cons f rest ihrest =>
    rw [toJsonAll, Draft.ofItems, decodeAll, ih f List.mem_cons_self, bind_ok,
      ihrest fun g hg => ih g (List.mem_cons_of_mem f hg)]
    rfl

/-- Fields that were written are read back, if each of them is. -/
theorem decodeList_ofJson {fs : List Field}
    (ih : ∀ f ∈ fs, decode .value (.ofJson f.toJson) = .ok f) :
    decodeList .value (.ofJson (.array (toJsonAll fs))) = .ok fs := by
  rw [Draft.ofJson, decodeList, Origin.enter, bind_ok, decodeAll_ofItems ih]
  rfl

/-- The slots when the members before the children have been read. -/
def Slots.before (spec : FieldSpec) : Slots where
  name := some spec.name
  type := some spec.type
  label := some spec.label
  required := some spec.required
  constraints := spec.constraints.map some
  options := nonempty? spec.options
  itemType := spec.itemType.map some

/-- The slots when the members behind the children have been read too. -/
def Slots.after (s : Slots) (spec : FieldSpec) : Slots :=
  { s with placeholder := spec.placeholder.map some, helperText := spec.helperText.map some }

theorem decodeMembers_before {spec : FieldSpec} (htype : spec.type.WellSpelled)
    (hitemType : ∀ t, spec.itemType = some t → t.WellSpelled) :
    decodeMembers .value {} (Draft.ofMembers (specMembers spec).1) = .ok (Slots.before spec) := by
  have hreader := isMemberReader_decodeMembers .value
  -- each member finds its slot empty and leaves the others as they are
  let named : Slots :=
    { name := some spec.name, type := some spec.type, label := some spec.label,
      required := some spec.required }
  have hnamed : decodeMembers .value {} (Draft.ofMembers
      [("name", .string spec.name), ("type", .string spec.type.spelling),
        ("label", .string spec.label), ("required", .bool spec.required)]) = .ok named := by
    have hspelled : FieldType.ofSpelling spec.type.spelling = spec.type := htype
    simp [Draft.ofMembers, hreader.nil, hreader.cons, Slots.anyMember, Slots.member, fresh,
      hspelled, named]
  have hconstraints := hreader.optionalMember "validation" Constraints.toJson spec.constraints
    (fun x => { named with constraints := x }) fun c _ => by
      have hread : optional (Constraints.decode .value) (.ofJson c.toJson) = .ok (some c) :=
        congrArg (Except.map some) (Constraints.decode_toJson c)
      simp [Slots.anyMember, Slots.member, fresh, hread]
  let constrained : Slots := { named with constraints := spec.constraints.map some }
  have hoptions := hreader.listMember "options" spec.options (spec.options.map .string)
    (fun x => { constrained with options := x })
    (by simp [Slots.anyMember, Slots.member, fresh])
  let chosen : Slots := { constrained with options := nonempty? spec.options }
  have hitems := hreader.optionalMember "itemType" (fun t => .string t.spelling) spec.itemType
    (fun x => { chosen with itemType := x }) fun t ht => by
      have hspelled : FieldType.ofSpelling t.spelling = t := hitemType t ht
      have hread : optional string (.ofJson (.string t.spelling)) = .ok (some t.spelling) := rfl
      simp [Slots.anyMember, Slots.member, fresh, hread, hspelled]
  exact hreader.append (hreader.append (hreader.append hnamed hconstraints) hoptions) hitems

theorem decodeMembers_after (s : Slots) (spec : FieldSpec) (hplaceholder : s.placeholder = none)
    (hhelperText : s.helperText = none) :
    decodeMembers .value s (Draft.ofMembers (specMembers spec).2) = .ok (s.after spec) := by
  obtain ⟨name, type, label, required, constraints, options, itemType, children, _, _⟩ := s
  subst hplaceholder hhelperText
  have hreader := isMemberReader_decodeMembers .value
  have hfirst := hreader.optionalMember "placeholder" Json.string spec.placeholder
    (fun x => ⟨name, type, label, required, constraints, options, itemType, children, x, none⟩)
    fun _ _ => rfl
  have hsecond := hreader.optionalMember "helperText" Json.string spec.helperText
    (fun x => ⟨name, type, label, required, constraints, options, itemType, children,
      spec.placeholder.map some, x⟩) fun _ _ => rfl
  exact hreader.append hfirst hsecond

/-- A field that was written is read back. -/
theorem decode_toJson (f : Field) : f.WellSpelled → decode .value (.ofJson f.toJson) = .ok f := by
  induction f using Field.induction with
  | mk spec below ih =>
    rintro ⟨htype, hitemType, hbelow⟩
    have hreader := isMemberReader_decodeMembers .value
    have hlist : decodeList .value (.ofJson (.array (toJsonAll below))) = .ok below :=
      decodeList_ofJson fun c hc => ih c hc (hbelow c hc)
    let filled : Slots := { Slots.before spec with children := nonempty? below }
    have hchildren := hreader.listMember "fields" below (toJsonAll below)
      (fun x => { Slots.before spec with children := x })
      (by simp [Slots.anyMember, fresh, hlist])
    have hmembers := hreader.append
      (hreader.append (decodeMembers_before htype hitemType) hchildren)
      (decodeMembers_after filled spec rfl rfl)
    have hisEmpty : (toJsonAll below).isEmpty = below.isEmpty := by
      rw [toJsonAll_eq_map, List.isEmpty_map]
    have hfinish : (filled.after spec).finish spec.name spec.type = ⟨spec, below⟩ := by
      simp [Slots.finish, Slots.after, filled, Slots.before]
    rw [toJson, Draft.ofJson, decode, Origin.enter, bind_ok]
    simp only [hisEmpty]
    rw [hmembers, bind_ok, closeWith, bind_ok]
    exact congrArg Except.ok hfinish

/-! ### What is decoded is well-spelled -/

namespace Slots

/-- Slots that hold well-spelled types and fields. -/
structure WellSpelled (s : Slots) : Prop where
  type : ∀ t, s.type = some t → t.WellSpelled
  itemType : ∀ t, s.itemType = some (some t) → t.WellSpelled
  children : ∀ fs, s.children = some fs → ∀ f ∈ fs, f.WellSpelled

theorem wellSpelled_empty : WellSpelled {} := by
  refine ⟨?_, ?_, ?_⟩ <;> rintro _ ⟨⟩

/-- A member other than the children keeps what is well-spelled so, because types are made of
spellings. -/
theorem WellSpelled.member {o : Origin} {s s' : Slots} {name : String} {d : Draft}
    (h : s.WellSpelled) (hmember : s.member o name d = .ok s') : s'.WellSpelled := by
  unfold Slots.member at hmember
  split at hmember <;> obtain ⟨-, -, hmember⟩ := bind_eq_ok_iff.mp hmember
  -- the type
  case h_2 =>
    obtain ⟨spelling, -, hmember⟩ := bind_eq_ok_iff.mp hmember
    cases hmember
    refine ⟨?_, h.itemType, h.children⟩
    rintro t ⟨⟩
    exact FieldType.wellSpelled_ofSpelling spelling
  -- the item type
  case h_7 =>
    obtain ⟨spelling, -, hmember⟩ := bind_eq_ok_iff.mp hmember
    cases hmember
    refine ⟨h.type, ?_, h.children⟩
    intro t ht
    obtain ⟨raw, -, rfl⟩ := Option.map_eq_some_iff.mp (Option.some.inj ht)
    exact FieldType.wellSpelled_ofSpelling raw
  -- a member that is passed over
  case h_10 =>
    cases hmember
    exact h
  all_goals
    obtain ⟨_, -, hmember⟩ := bind_eq_ok_iff.mp hmember
    cases hmember
    exact ⟨h.type, h.itemType, h.children⟩

theorem WellSpelled.withChildren {s : Slots} {fs : List Field} (h : s.WellSpelled)
    (hfs : ∀ f ∈ fs, f.WellSpelled) : WellSpelled { s with children := some fs } := by
  refine ⟨h.type, h.itemType, ?_⟩
  rintro _ ⟨⟩
  exact hfs

theorem WellSpelled.finish {s : Slots} (h : s.WellSpelled) (name : String) {type : FieldType}
    (htype : s.type = some type) : (s.finish name type).WellSpelled := by
  refine ⟨h.type type htype, ?_, ?_⟩
  · intro t ht
    exact h.itemType t (Option.join_eq_some_iff.mp ht)
  · intro f hf
    cases hchildren : s.children with
    | none =>
      have hnil : f ∈ s.children.getD [] := hf
      rw [hchildren] at hnil
      cases hnil
    | some fs =>
      have hfs : f ∈ s.children.getD [] := hf
      rw [hchildren] at hfs
      exact h.children fs hchildren f hfs

theorem WellSpelled.finishObject {s : Slots} {f : Field} (h : s.WellSpelled)
    (hfinish : s.finishObject = .ok f) : f.WellSpelled := by
  obtain ⟨name, -, hfinish⟩ := bind_eq_ok_iff.mp hfinish
  obtain ⟨type, htype, hfinish⟩ := bind_eq_ok_iff.mp hfinish
  cases hfinish
  refine h.finish name ?_
  cases hs : s.type with
  | none =>
    rw [hs, require] at htype
    cases htype
  | some t =>
    rw [hs, require] at htype
    exact congrArg some (Except.ok.inj htype)

theorem WellSpelled.finishArray {s : Slots} {length : Nat} {f : Field} (h : s.WellSpelled)
    (hfinish : s.finishArray length = .ok f) : f.WellSpelled := by
  unfold Slots.finishArray at hfinish
  split at hfinish
  · next name type hname htype =>
    cases hfinish
    exact h.finish name htype
  · cases hfinish

end Slots

mutual

/-- A field that was decoded is well-spelled. -/
theorem wellSpelled_of_decode {o : Origin} {d : Draft} {f : Field} (h : decode o d = .ok f) :
    f.WellSpelled := by
  match d with
  | .scalar read skipped =>
    rw [decode] at h
    cases h
  | .object members ending =>
    rw [decode] at h
    obtain ⟨inner, -, h⟩ := bind_eq_ok_iff.mp h
    obtain ⟨s, hmembers, h⟩ := bind_eq_ok_iff.mp h
    obtain ⟨-, -, h⟩ := bind_eq_ok_iff.mp h
    exact (wellSpelled_of_decodeMembers Slots.wellSpelled_empty hmembers).finishObject h
  | .array items ending =>
    rw [decode] at h
    obtain ⟨inner, -, h⟩ := bind_eq_ok_iff.mp h
    obtain ⟨⟨s, full⟩, helements, h⟩ := bind_eq_ok_iff.mp h
    obtain ⟨field, hfinish, h⟩ := bind_eq_ok_iff.mp h
    have hfield :=
      (wellSpelled_of_decodeElements Slots.wellSpelled_empty helements).finishArray hfinish
    cases full with
    | true => cases h
    | false => rwa [← (closeWith_eq_ok_iff.mp h).2]
termination_by structural d

theorem wellSpelled_of_decodeMembers {o : Origin} {s s' : Slots}
    {members : List (Except Fault String × Draft)} (hs : s.WellSpelled)
    (h : decodeMembers o s members = .ok s') : s'.WellSpelled := by
  match members with
  | [] =>
    rw [decodeMembers] at h
    cases h
    exact hs
  | (k, d) :: rest =>
    rw [decodeMembers] at h
    obtain ⟨name, -, h⟩ := bind_eq_ok_iff.mp h
    by_cases hname : name = "fields"
    · rw [if_pos hname] at h
      obtain ⟨-, -, h⟩ := bind_eq_ok_iff.mp h
      obtain ⟨fs, hlist, h⟩ := bind_eq_ok_iff.mp h
      exact wellSpelled_of_decodeMembers (hs.withChildren (wellSpelled_of_decodeList hlist)) h
    · rw [if_neg hname] at h
      obtain ⟨next, hmember, h⟩ := bind_eq_ok_iff.mp h
      exact wellSpelled_of_decodeMembers (hs.member hmember) h
termination_by structural members

theorem wellSpelled_of_decodeElements {o : Origin} {s s' : Slots} {ending : Option Fault}
    {names : List String} {items : List Draft} {full : Bool} (hs : s.WellSpelled)
    (h : decodeElements o s ending names items = .ok (s', full)) : s'.WellSpelled := by
  match items, names with
  | [], names =>
    rw [decodeElements] at h
    have hsame : s = s' := by
      split at h
      · cases h
        rfl
      · exact congrArg Prod.fst (closeWith_eq_ok_iff.mp h).2
    rwa [← hsame]
  -- elements beyond the last member are not looked at
  | d :: rest, [] =>
    rw [decodeElements] at h
    cases h
    exact hs
  | d :: rest, name :: names =>
    rw [decodeElements] at h
    by_cases hname : name = "fields"
    · rw [if_pos hname] at h
      obtain ⟨fs, hlist, h⟩ := bind_eq_ok_iff.mp h
      exact wellSpelled_of_decodeElements (hs.withChildren (wellSpelled_of_decodeList hlist)) h
    · rw [if_neg hname] at h
      obtain ⟨next, hmember, h⟩ := bind_eq_ok_iff.mp h
      exact wellSpelled_of_decodeElements (hs.member hmember) h
termination_by structural items

theorem wellSpelled_of_decodeList {o : Origin} {d : Draft} {fs : List Field}
    (h : decodeList o d = .ok fs) : ∀ f ∈ fs, f.WellSpelled := by
  match d with
  | .scalar read skipped =>
    rw [decodeList] at h
    cases h
  | .object members ending =>
    rw [decodeList] at h
    cases h
  | .array items ending =>
    rw [decodeList] at h
    obtain ⟨inner, -, h⟩ := bind_eq_ok_iff.mp h
    obtain ⟨decoded, hall, h⟩ := bind_eq_ok_iff.mp h
    rw [← (closeWith_eq_ok_iff.mp h).2]
    exact wellSpelled_of_decodeAll hall
termination_by structural d

theorem wellSpelled_of_decodeAll {o : Origin} {items : List Draft} {fs : List Field}
    (h : decodeAll o items = .ok fs) : ∀ f ∈ fs, f.WellSpelled := by
  match items with
  | [] =>
    rw [decodeAll] at h
    cases h
    intro f hf
    cases hf
  | d :: rest =>
    rw [decodeAll] at h
    obtain ⟨first, hfirst, h⟩ := bind_eq_ok_iff.mp h
    obtain ⟨others, hothers, h⟩ := bind_eq_ok_iff.mp h
    cases h
    intro f hf
    rcases List.mem_cons.mp hf with rfl | hmem
    · exact wellSpelled_of_decode hfirst
    · exact wellSpelled_of_decodeAll hothers f hmem
termination_by structural items

end

/-- Repairing a field makes no type that was not there. -/
theorem WellSpelled.repair {f : Field} (h : f.WellSpelled) : (Field.repair f).WellSpelled := by
  induction f using Field.induction with
  | mk spec children ih =>
    obtain ⟨htype, hitemType, hchildren⟩ := h
    by_cases harray : (Field.mk spec children).kind? = some .array
    · rw [repair_of_array harray, repairAll_eq_map]
      refine .mk htype ?_ ?_
      · intro t ht
        exact hitemType t (itemType_of_repairedItemType ht)
      · intro c hc
        obtain ⟨child, hchild, rfl⟩ := List.mem_map.mp hc
        exact ih child hchild (hchildren child hchild)
    · rw [repair_of_ne_array harray]
      refine .mk htype hitemType ?_
      rintro c ⟨⟩

end Field

/-! ## Forms -/

namespace Form

theorem isMemberReader_members (o : Origin) :
    IsMemberReader (Slots.members o) (Slots.member o) :=
  ⟨fun _ => rfl, fun _ _ _ _ => rfl⟩

/-- A form whose fields are well-spelled is read back as it was written. -/
theorem decodeJson_toJson {form : Form} (h : ∀ f ∈ form.fields, f.WellSpelled) :
    decodeJson form.toJson = .ok form := by
  have hlist : Field.decodeList .value (.ofJson (.array (Field.toJsonAll form.fields))) =
      .ok form.fields :=
    Field.decodeList_ofJson fun f hf => Field.decode_toJson f (h f hf)
  have hmembers : Slots.members .value {} (Draft.ofMembers
      [("title", .string form.title), ("fields", .array (Field.toJsonAll form.fields))]) =
      .ok { title := some form.title, fields := some form.fields } := by
    have hreader := isMemberReader_members .value
    simp [Draft.ofMembers, hreader.nil, hreader.cons, Slots.member, fresh, hlist]
  rw [decodeJson, toJson, Draft.ofJson, decode, Origin.enter, bind_ok, hmembers]
  rfl

/-- Slots that hold well-spelled fields. -/
def Slots.WellSpelled (s : Slots) : Prop := ∀ fs, s.fields = some fs → ∀ f ∈ fs, f.WellSpelled

theorem Slots.WellSpelled.member {o : Origin} {s s' : Slots} {name : String} {d : Draft}
    (h : s.WellSpelled) (hmember : s.member o name d = .ok s') : s'.WellSpelled := by
  unfold Slots.member at hmember
  split at hmember <;> obtain ⟨-, -, hmember⟩ := bind_eq_ok_iff.mp hmember
  -- the title
  · obtain ⟨title, -, hmember⟩ := bind_eq_ok_iff.mp hmember
    cases hmember
    exact h
  -- the fields
  · obtain ⟨fields, hfields, hmember⟩ := bind_eq_ok_iff.mp hmember
    cases hmember
    rintro fs ⟨⟩
    exact Field.wellSpelled_of_decodeList hfields
  -- a member that is passed over
  · cases hmember
    exact h

theorem Slots.WellSpelled.members {o : Origin} {s s' : Slots}
    {ms : List (Except Fault String × Draft)} (h : s.WellSpelled)
    (hmembers : s.members o ms = .ok s') : s'.WellSpelled := by
  induction ms generalizing s with
  | nil =>
    cases hmembers
    exact h
  | cons m rest ih =>
    obtain ⟨k, d⟩ := m
    obtain ⟨name, -, hmembers⟩ := bind_eq_ok_iff.mp hmembers
    obtain ⟨next, hmember, hmembers⟩ := bind_eq_ok_iff.mp hmembers
    exact ih (h.member hmember) hmembers

/-- A form that was decoded has well-spelled fields. -/
theorem wellSpelled_of_decode {o : Origin} {d : Draft} {form : Form}
    (h : decode o d = .ok form) : ∀ f ∈ form.fields, f.WellSpelled := by
  unfold decode at h
  split at h
  -- an object
  · obtain ⟨inner, -, h⟩ := bind_eq_ok_iff.mp h
    obtain ⟨s, hmembers, h⟩ := bind_eq_ok_iff.mp h
    obtain ⟨-, -, h⟩ := bind_eq_ok_iff.mp h
    obtain ⟨title, -, h⟩ := bind_eq_ok_iff.mp h
    cases h
    have hempty : Slots.WellSpelled {} := by
      rintro fs ⟨⟩
    have hs := hempty.members hmembers
    intro f hf
    cases hfields : s.fields with
    | none => simp [hfields] at hf
    | some fs =>
      simp only [hfields, Option.getD_some] at hf
      exact hs fs hfields f hf
  -- arrays of no element, of one, and of more
  · obtain ⟨_, -, h⟩ := bind_eq_ok_iff.mp h
    obtain ⟨_, -, h⟩ := bind_eq_ok_iff.mp h
    cases h
  · obtain ⟨_, -, h⟩ := bind_eq_ok_iff.mp h
    obtain ⟨title, -, h⟩ := bind_eq_ok_iff.mp h
    rw [← (closeWith_eq_ok_iff.mp h).2]
    rintro f ⟨⟩
  · obtain ⟨inner, -, h⟩ := bind_eq_ok_iff.mp h
    obtain ⟨title, -, h⟩ := bind_eq_ok_iff.mp h
    obtain ⟨fs, hfields, h⟩ := bind_eq_ok_iff.mp h
    split at h
    · rw [← (closeWith_eq_ok_iff.mp h).2]
      exact Field.wellSpelled_of_decodeList hfields
    · cases h
  · cases h

/-- Neither mode makes a type that was not there. -/
theorem wellSpelled_keptBy {form : Form} (h : ∀ f ∈ form.fields, f.WellSpelled)
    (s : Strictness) : ∀ f ∈ (form.keptBy s).fields, f.WellSpelled := by
  cases s with
  | strict => exact h
  | permissive =>
    intro f hf
    rw [keptBy, repair, repairAll_eq_map] at hf
    obtain ⟨g, hg, rfl⟩ := List.mem_map.mp hf
    exact (h g hg).repair

/-- **Loading is stable.** A form that was loaded is loaded again, in the same mode and equal in
every member of every field, from the document that it is written to. -/
theorem loadJson_toJson {s : Strictness} {value : Json} {form : Form}
    (h : loadJson s value = .ok form) : loadJson s form.toJson = .ok form := by
  obtain ⟨decoded, hdecode, haccept⟩ := loadJson_eq_ok_iff.mp h
  obtain ⟨hrules, rfl⟩ := accept_eq_ok_iff.mp haccept
  have hspelled := wellSpelled_keptBy (wellSpelled_of_decode hdecode) s
  have hread : decodeJson (decoded.keptBy s).toJson = .ok (decoded.keptBy s) :=
    decodeJson_toJson hspelled
  obtain ⟨hkept, hagain⟩ := hrules.keptBy
  exact loadJson_eq_ok_iff.mpr ⟨_, hread, accept_eq_ok_iff.mpr ⟨hkept, hagain.symm⟩⟩

/-- The double 3. -/
def three : Double := ⟨false, 0x4008000000000000, by decide⟩

/-- A document that keeps all rules, with a bound of zero, an absent one, a number as a bound and
an empty list of options. -/
def scaleDocument : Json :=
  .object [("title", .string "Scale"), ("fields", .array
    [.object [("name", .string "weight"), ("type", .string "number"), ("label", .string "Weight"),
      ("validation", .object [("max", .number (.double three)),
        ("minLength", .number (.integer ⟨0, by decide⟩)), ("pattern", .null)]),
      ("options", .array []), ("note", .null)]])]

/-- The form of the document. -/
def scaleForm : Form :=
  ⟨"Scale", [.leaf ⟨"weight", .known .number, "Weight", false,
    some { minLength := some 0, max := some three }, [], none, none, none⟩]⟩

/-- A document in which records are arrays, with a kind that is not known and with a label and an
item type that have to be repaired. -/
def stockDocument : Json :=
  .array [.string "Stock", .array
    [.array [.string "tint", .string "colour"],
      .object [("fields", .array [.array [.string "sku", .string "text", .string "Sku"]]),
        ("itemType", .string "text"), ("type", .string "array"), ("name", .string "parts"),
        ("placeholder", .string "none")]]]

/-- The form of the document as it stands there. -/
def stockDraft : Form :=
  ⟨"Stock",
    [.leaf ⟨"tint", .unrecognized "colour", "", false, none, [], none, none, none⟩,
      ⟨⟨"parts", .known .array, "", false, none, [], some (.known .text), some "none", none⟩,
        [.leaf ⟨"sku", .known .text, "Sku", false, none, [], none, none, none⟩]⟩]⟩

/-- What the form is repaired to. -/
def stockForm : Form :=
  ⟨"Stock",
    [.leaf ⟨"tint", .unrecognized "colour", "tint", false, none, [], none, none, none⟩,
      ⟨⟨"parts", .known .array, "parts", false, none, [], none, some "none", none⟩,
        [.leaf ⟨"sku", .known .text, "Sku", false, none, [], none, none, none⟩]⟩]⟩

/-- Both documents are loaded, and so is what the forms are written to. -/
theorem scaleForm_and_stockForm_reload :
    (loadJson .strict scaleDocument = .ok scaleForm ∧
      loadJson .strict scaleForm.toJson = .ok scaleForm) ∧
    loadJson .permissive stockDocument = .ok stockForm ∧
      loadJson .permissive stockForm.toJson = .ok stockForm := by
  have hscale : loadJson .strict scaleDocument = .ok scaleForm := rfl
  have hstock : loadJson .permissive stockDocument = .ok stockForm :=
    loadJson_eq_ok_iff.mpr ⟨stockDraft, rfl, rfl⟩
  exact ⟨⟨hscale, loadJson_toJson hscale⟩, hstock, loadJson_toJson hstock⟩

end Form

end WebForm
