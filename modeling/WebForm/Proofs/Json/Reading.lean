import WebForm.Json.Decode
import WebForm.Proofs.Json.Members
import WebForm.Proofs.Outcome
/-!
# Texts and their values

A text is read into a draft, and a decoder may walk the draft or the value that the draft stands
for. Where the text has a value and no object of it repeats a name, the draft holds no more than the
value: it is the one that any faultless text of the value has. What is left of the text is how deep
its arrays and objects nest.
-/

set_option autoImplicit false

namespace WebForm

open Outcome

namespace Draft

/-! ## Drafts of texts -/

/-- Induction over drafts. -/
@[elab_as_elim]
theorem induction {motive : Draft → Prop} (scalar : ∀ read skipped, motive (.scalar read skipped))
    (array : ∀ items ending, (∀ d ∈ items, motive d) → motive (.array items ending))
    (object : ∀ members ending, (∀ m ∈ members, motive m.2) → motive (.object members ending))
    (d : Draft) : motive d := by
  refine @Draft.rec motive (fun items => ∀ d ∈ items, motive d)
    (fun members => ∀ m ∈ members, motive m.2) (fun m => motive m.2) scalar array object
    ?_ ?_ ?_ ?_ ?_ d
  · intro d hd
    cases hd
  · exact fun first rest hfirst hrest => List.forall_mem_cons.mpr ⟨hfirst, hrest⟩
  · intro m hm
    cases hm
  · exact fun first rest hfirst hrest => List.forall_mem_cons.mpr ⟨hfirst, hrest⟩
  · exact fun _ _ h => h

/-- A draft in which what can be read can also be passed over. -/
inductive Sound : Draft → Prop
  | scalar {read : Except Fault Scalar} {skipped : Option Fault}
      (h : ∀ s, read = .ok s → skipped = none) : Sound (.scalar read skipped)
  | array {items : List Draft} {ending : Option Fault} (h : ∀ d ∈ items, Sound d) :
      Sound (.array items ending)
  | object {members : List (Except Fault String × Draft)} {ending : Option Fault}
      (h : ∀ m ∈ members, Sound m.2) : Sound (.object members ending)

theorem sound_fault (f : Fault) : Sound (fault f) := .scalar fun _ h => nomatch h

/-- A string is read only if its closing quote is reached. -/
theorem exists_rest_of_readString {p : Pending} {cs : List Char} {s : String}
    (h : (readString p cs).value = .ok s) : ∃ rest, (readString p cs).rest = .ok rest := by
  have hbroken : ∀ (p : Pending) (f : Fault), (p.breakOff f).value ≠ .ok s := by
    rintro ⟨text, high⟩ f
    cases text <;> exact fun h => nomatch h
  fun_induction readString p cs with
  | case2 p rest => exact ⟨rest, rfl⟩
  | case4 p a b c d rest n _ ih => exact ih h
  | case7 p e rest _ _ c _ ih => exact ih h
  | case10 p c rest _ _ _ _ _ _ ih => exact ih h
  | _ => exact absurd h (hbroken _ _)

theorem sound_brokenNumber (rest : List Char) : Sound (brokenNumber rest).value :=
  .scalar fun _ h => nomatch h

theorem sound_readNumber (negative : Bool) (cs : List Char) :
    Sound (readNumber negative cs).value := by
  unfold readNumber
  dsimp only
  split
  · exact sound_brokenNumber _
  split
  · exact sound_fault _
  split
  · exact sound_brokenNumber _
  split
  · exact sound_brokenNumber _
  · exact .scalar fun _ _ => rfl

theorem sound_readWord (value : Scalar) (word cs : List Char) :
    Sound (readWord value word cs).value := by
  induction word generalizing cs with
  | nil =>
    rw [readWord]
    exact .scalar fun _ _ => rfl
  | cons w word ih =>
    cases cs with
    | nil => exact sound_fault _
    | cons c rest =>
      rw [readWord]
      split
      · exact ih rest
      · exact sound_fault _

theorem sound_readScalar (cs : List Char) : Sound (readScalar cs).value := by
  unfold readScalar
  split
  · exact sound_fault _
  · refine .scalar fun s h => ?_
    obtain ⟨text, htext, -⟩ := map_eq_ok_iff.mp h
    obtain ⟨rest, hrest⟩ := exists_rest_of_readString htext
    rw [hrest]
  · exact sound_readNumber _ _
  · exact sound_readWord _ _ _
  · exact sound_readWord _ _ _
  · exact sound_readWord _ _ _
  · split
    · exact sound_readNumber _ _
    · exact sound_fault _

/-- Whatever is read is sound: a step of the readers at a time. -/
theorem sound_read (fuel : Nat) :
    (∀ cs, Sound (readValue fuel cs).value) ∧
      (∀ cs, ∀ d ∈ (readItems fuel cs).value.1, Sound d) ∧
      ∀ cs, ∀ m ∈ (readMembers fuel cs).value.1, Sound m.2 := by
  induction fuel with
  | zero =>
    refine ⟨fun _ => sound_fault _, ?_, ?_⟩
    · intro _ _ h
      cases h
    · intro _ _ h
      cases h
  | succ fuel ih =>
    obtain ⟨hvalue, hitems, hmembers⟩ := ih
    have hnone : ∀ m ∈ ([] : List (Except Fault String × Draft)), Sound m.2 := by simp
    refine ⟨fun cs => ?_, fun cs => ?_, fun cs => ?_⟩
    · unfold readValue
      split
      · split
        · exact .array (by simp)
        · exact .array (by simp)
        · exact .array (hitems _)
      · split
        · exact .object hnone
        · exact .object hnone
        · exact .object (hmembers _)
      · exact sound_readScalar _
    · have hsingle : ∀ d ∈ [(readValue fuel cs).value], Sound d :=
        List.forall_mem_singleton.mpr (hvalue cs)
      unfold readItems
      dsimp only
      split
      · exact hsingle
      · split
        · exact hsingle
        · exact hsingle
        · exact List.forall_mem_cons.mpr ⟨hvalue cs, hitems _⟩
        · exact hsingle
    · unfold readMembers
      split
      · exact hnone
      · dsimp only
        split
        · exact List.forall_mem_singleton.mpr (sound_fault _)
        · split
          · exact List.forall_mem_singleton.mpr (sound_fault _)
          · split
            · exact List.forall_mem_singleton.mpr (hvalue _)
            · split
              · exact List.forall_mem_singleton.mpr (hvalue _)
              · exact List.forall_mem_singleton.mpr (hvalue _)
              · exact List.forall_mem_cons.mpr ⟨hvalue _, hmembers _⟩
              · exact List.forall_mem_singleton.mpr (hvalue _)
          · exact List.forall_mem_singleton.mpr (sound_fault _)
      · exact hnone

/-! ## Names that are not repeated -/

/-- A draft in which no object repeats a name. -/
inductive NamesDistinct : Draft → Prop
  | scalar (read : Except Fault Scalar) (skipped : Option Fault) :
      NamesDistinct (.scalar read skipped)
  | array {items : List Draft} {ending : Option Fault} (h : ∀ d ∈ items, NamesDistinct d) :
      NamesDistinct (.array items ending)
  | object {members : List (Except Fault String × Draft)} {ending : Option Fault}
      (hnames : (members.map Prod.fst).Nodup) (h : ∀ m ∈ members, NamesDistinct m.2) :
      NamesDistinct (.object members ending)

namespace NamesDistinct

@[simp] theorem ofScalar (s : Scalar) : NamesDistinct (ofScalar s) := .scalar _ _

@[simp] theorem array_iff {items : List Draft} {ending : Option Fault} :
    NamesDistinct (.array items ending) ↔ ∀ d ∈ items, NamesDistinct d := by
  constructor
  · intro h
    cases h with
    | array hitems => exact hitems
  · exact .array

@[simp] theorem object_iff {members : List (Except Fault String × Draft)} {ending : Option Fault} :
    NamesDistinct (.object members ending) ↔
      (members.map Prod.fst).Nodup ∧ ∀ m ∈ members, NamesDistinct m.2 := by
  constructor
  · intro h
    cases h with
    | object hnames hmembers => exact ⟨hnames, hmembers⟩
  · exact fun ⟨hnames, hmembers⟩ => .object hnames hmembers

end NamesDistinct

/-! ## Depth -/

mutual

/-- How deep arrays and objects nest. -/
def depth : Draft → Nat
  | .scalar _ _ => 0
  | .array items _ => depthAll items + 1
  | .object members _ => depthMembers members + 1
termination_by structural d => d

/-- How deep arrays and objects nest in items. -/
def depthAll : List Draft → Nat
  | [] => 0
  | d :: rest => max (depth d) (depthAll rest)
termination_by structural items => items

/-- How deep arrays and objects nest in members. -/
def depthMembers : List (Except Fault String × Draft) → Nat
  | [] => 0
  | (_, d) :: rest => max (depth d) (depthMembers rest)
termination_by structural members => members

end

/-! ## The value tells the draft -/

/-- Items that have values are the drafts of these values, if each item is. -/
theorem ofItems_of_itemsToJson {room : Nat} {items : List Draft} {values : List Json}
    (h : itemsToJson room items = .ok values)
    (ih : ∀ d ∈ items, ∀ v, toJson room d = .ok v → d = ofJson v ∧ d.depth ≤ room) :
    items = ofItems values ∧ depthAll items ≤ room := by
  induction items generalizing values with
  | nil =>
    cases h
    exact ⟨rfl, Nat.zero_le _⟩
  | cons d rest ihrest =>
    rw [List.forall_mem_cons] at ih
    rw [itemsToJson] at h
    obtain ⟨v, hv, h⟩ := bind_eq_ok_iff.mp h
    obtain ⟨others, hothers, h⟩ := bind_eq_ok_iff.mp h
    cases h
    obtain ⟨hd, hdepth⟩ := ih.1 v hv
    obtain ⟨hrest, hdepths⟩ := ihrest hothers ih.2
    exact ⟨by rw [ofItems, ← hd, ← hrest], Nat.max_le.mpr ⟨hdepth, hdepths⟩⟩

theorem ofMembers_of_membersToJson {room : Nat} {members : List (Except Fault String × Draft)}
    {values : List (String × Json)} (h : membersToJson room members = .ok values)
    (ih : ∀ m ∈ members, ∀ v, toJson room m.2 = .ok v → m.2 = ofJson v ∧ m.2.depth ≤ room) :
    members = ofMembers values ∧ depthMembers members ≤ room := by
  induction members generalizing values with
  | nil =>
    cases h
    exact ⟨rfl, Nat.zero_le _⟩
  | cons m rest ihrest =>
    obtain ⟨key, d⟩ := m
    rw [List.forall_mem_cons] at ih
    rw [membersToJson] at h
    obtain ⟨name, hname, h⟩ := bind_eq_ok_iff.mp h
    obtain ⟨v, hv, h⟩ := bind_eq_ok_iff.mp h
    obtain ⟨others, hothers, h⟩ := bind_eq_ok_iff.mp h
    cases h
    obtain ⟨hd, hdepth⟩ := ih.1 v hv
    obtain ⟨hrest, hdepths⟩ := ihrest hothers ih.2
    exact ⟨by rw [ofMembers, ← hd, ← hrest, hname], Nat.max_le.mpr ⟨hdepth, hdepths⟩⟩

theorem map_fst_ofMembers (members : List (String × Json)) :
    (ofMembers members).map Prod.fst = (members.map Prod.fst).map Except.ok := by
  induction members with
  | nil => rfl
  | cons m rest ih =>
    rw [ofMembers, List.map_cons, ih]
    rfl

/-- An array or object that ends without a fault has its value. -/
theorem endWith_eq_ok_iff {α : Type} {a b : α} {ending : Option Fault} :
    endWith a ending = .ok b ↔ ending = none ∧ a = b := by
  cases ending <;> simp [endWith]

/-- A sound draft without repeated names is the draft of its value, if it has one, and nests no
deeper than there is room. -/
theorem eq_ofJson_of_toJson {room : Nat} {d : Draft} {v : Json} (hsound : d.Sound)
    (hnames : d.NamesDistinct) (h : toJson room d = .ok v) : d = ofJson v ∧ d.depth ≤ room := by
  induction d using Draft.induction generalizing room v with
  | scalar read skipped =>
    cases hsound with
    | scalar hskipped =>
      rw [toJson] at h
      obtain ⟨s, hs, rfl⟩ := map_eq_ok_iff.mp h
      rw [hs, hskipped s hs]
      exact ⟨by cases s <;> rfl, Nat.zero_le _⟩
  | array items ending ih =>
    cases hsound with
    | array hitems =>
    cases hnames with
    | array hdistinct =>
    cases room with
    | zero => cases h
    | succ room =>
      rw [toJson] at h
      obtain ⟨values, hvalues, h⟩ := bind_eq_ok_iff.mp h
      obtain ⟨rfl, rfl⟩ := endWith_eq_ok_iff.mp h
      obtain ⟨heq, hdepth⟩ := ofItems_of_itemsToJson hvalues fun d hd v hv =>
        ih d hd (hitems d hd) (hdistinct d hd) hv
      exact ⟨by rw [ofJson, ← heq], Nat.succ_le_succ hdepth⟩
  | object members ending ih =>
    cases hsound with
    | object hmembers =>
    cases hnames with
    | object hnodup hdistinct =>
    cases room with
    | zero => cases h
    | succ room =>
      rw [toJson] at h
      obtain ⟨values, hvalues, h⟩ := bind_eq_ok_iff.mp h
      obtain ⟨rfl, rfl⟩ := endWith_eq_ok_iff.mp h
      obtain ⟨heq, hdepth⟩ := ofMembers_of_membersToJson hvalues fun m hm v hv =>
        ih m hm (hmembers m hm) (hdistinct m hm) hv
      -- no name comes twice, so all members are kept
      have hkeys : (values.map Prod.fst).Nodup := by
        rw [heq, map_fst_ofMembers, List.Nodup, List.pairwise_map] at hnodup
        exact hnodup.imp fun hne hkey => hne (congrArg Except.ok hkey)
      rw [Json.collectMembers_of_nodup hkeys]
      exact ⟨by rw [ofJson, ← heq], Nat.succ_le_succ hdepth⟩

end Draft

namespace Document

/-- No object of a text repeats a name. -/
def NamesDistinct (text : String) : Prop := (read text).value.NamesDistinct

/-- A text with a value is read as the draft of this value, with nothing behind it. -/
theorem read_of_parse {text : String} {v : Json} (h : Json.parse text = .ok v)
    (hnames : NamesDistinct text) :
    read text = ⟨.ofJson v, false⟩ ∧ (Draft.ofJson v).depth ≤ maxDepth := by
  obtain ⟨value, hvalue, hend⟩ := bind_eq_ok_iff.mp h
  have htrailing : (read text).trailing = false ∧ value = v := by
    rw [endOfText] at hend
    split at hend
    · cases hend
    next hnone => exact ⟨by simpa using hnone, Except.ok.inj hend⟩
  obtain ⟨htrailing, rfl⟩ := htrailing
  have hsound : (read text).value.Sound := (Draft.sound_read _).1 _
  obtain ⟨heq, hdepth⟩ := Draft.eq_ofJson_of_toJson hsound hnames hvalue
  rw [← heq]
  refine ⟨?_, hdepth⟩
  rw [← htrailing]

end Document

end WebForm
