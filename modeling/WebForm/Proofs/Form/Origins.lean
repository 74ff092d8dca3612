import Mathlib
import WebForm.Form.Load
import WebForm.Proofs.Json.Reading
/-!
# Forms from texts and from values

A form is loaded from a text, whose faults may stop the decoder anywhere, or from a value that is
there as a whole. The two origins differ in how deep a document may nest and in what is said of an
array that is too long for its record. A text that has a value nests no deeper than is allowed, and
what is said of an array is an error both times, so the two ways of loading end alike.
-/

set_option autoImplicit false

namespace WebForm

open Outcome

/-! ## Outcomes with the same success -/

namespace Outcome

/-- Two chains of steps that succeed with the same result, or both fail. -/
def SameSuccess {ε α : Type} (x y : Except ε α) : Prop := ∀ a, x = .ok a ↔ y = .ok a

namespace SameSuccess

variable {ε α β : Type} {x y : Except ε α}

@[refl] theorem refl (x : Except ε α) : SameSuccess x x := fun _ => Iff.rfl

theorem of_errors (d e : ε) : SameSuccess (.error d : Except ε α) (.error e) := by
  intro a
  constructor <;> exact fun h => nomatch h

theorem bind {f g : α → Except ε β} (h : SameSuccess x y) (hfg : ∀ a, SameSuccess (f a) (g a)) :
    SameSuccess (x >>= f) (y >>= g) := by
  intro b
  rw [bind_eq_ok_iff, bind_eq_ok_iff]
  constructor
  · rintro ⟨a, ha, hb⟩
    exact ⟨a, (h a).mp ha, (hfg a b).mp hb⟩
  · rintro ⟨a, ha, hb⟩
    exact ⟨a, (h a).mpr ha, (hfg a b).mpr hb⟩

theorem map (f : α → β) (h : SameSuccess x y) : SameSuccess (x.map f) (y.map f) := by
  intro b
  rw [map_eq_ok_iff, map_eq_ok_iff]
  simp only [h _]

end SameSuccess

end Outcome

/-! ## Decoders of both origins -/

/-- There is room for a level less below an array or object. -/
theorem Origin.exists_enter_text {room depth : Nat} (h : depth + 1 ≤ room) :
    ∃ inner, (Origin.text room).enter = .ok (.text inner) ∧ depth ≤ inner := by
  obtain ⟨inner, rfl⟩ := Nat.exists_eq_add_of_le' (Nat.le_of_add_left_le h)
  exact ⟨inner, rfl, Nat.le_of_succ_le_succ h⟩

namespace Decode

variable {α : Type} {room : Nat} {d : Draft}

theorem sameSuccess_optional {f g : Draft → Decoded α} (h : SameSuccess (f d) (g d)) :
    SameSuccess (optional f d) (optional g d) := by
  unfold optional
  split
  · rfl
  · exact h.map some

/-- A list is decoded the same. -/
theorem listOf_text (decode : Draft → Decoded α) (h : d.depth ≤ room) :
    listOf decode (.text room) d = listOf decode .value d := by
  cases d with
  | scalar read skipped => rfl
  | object members ending => rfl
  | array items ending =>
    obtain ⟨inner, henter, -⟩ := Origin.exists_enter_text h
    rw [listOf, listOf, henter]
    rfl

end Decode

open Decode

namespace Constraints

theorem sameSuccess_decode {room : Nat} {d : Draft} (h : d.depth ≤ room) :
    SameSuccess (decode (.text room) d) (decode .value d) := by
  cases d with
  | scalar read skipped => rfl
  | object members ending =>
    obtain ⟨inner, henter, -⟩ := Origin.exists_enter_text h
    rw [decode, decode, henter]
    rfl
  | array items ending =>
    obtain ⟨inner, henter, -⟩ := Origin.exists_enter_text h
    rw [decode, decode, henter, Origin.enter, bind_ok, bind_ok]
    refine .bind (.refl _) fun taken => ?_
    obtain ⟨s, rest⟩ := taken
    dsimp only
    -- too long an array is an error of either origin
    split
    · rfl
    · exact .of_errors _ _

end Constraints

namespace Field

theorem Slots.sameSuccess_member {room : Nat} (s : Slots) (name : String) {d : Draft}
    (h : d.depth ≤ room) :
    SameSuccess (s.member (.text room) name d) (s.member .value name d) := by
  unfold Slots.member
  split
  case h_5 =>
    refine .bind (.refl _) fun _ => .bind (sameSuccess_optional ?_) fun _ => .refl _
    exact Constraints.sameSuccess_decode h
  case h_6 =>
    rw [listOf_text string h]
  all_goals exact .refl _

/-- What is shown of a draft: as a field and as a list of fields it is decoded alike. -/
def DecodesAlike (d : Draft) : Prop :=
  ∀ room, d.depth ≤ room →
    SameSuccess (decode (.text room) d) (decode .value d) ∧
      SameSuccess (decodeList (.text room) d) (decodeList .value d)

variable {room : Nat}

theorem sameSuccess_decodeMembers {members : List (Except Fault String × Draft)}
    (ih : ∀ m ∈ members, DecodesAlike m.2) (h : Draft.depthMembers members ≤ room) (s : Slots) :
    SameSuccess (decodeMembers (.text room) s members) (decodeMembers .value s members) := by
  induction members generalizing s with
  | nil => exact .refl _
  | cons m rest ihrest =>
    obtain ⟨k, d⟩ := m
    rw [List.forall_mem_cons] at ih
    obtain ⟨hdepth, hdepths⟩ := Nat.max_le.mp h
    rw [decodeMembers, decodeMembers]
    refine .bind (.refl _) fun name => ?_
    by_cases hname : name = "fields"
    · rw [if_pos hname, if_pos hname]
      exact .bind (.refl _) fun _ => .bind (ih.1 room hdepth).2 fun _ => ihrest ih.2 hdepths _
    · rw [if_neg hname, if_neg hname]
      exact .bind (s.sameSuccess_member name hdepth) fun _ => ihrest ih.2 hdepths _

theorem sameSuccess_decodeElements {items : List Draft} (ih : ∀ d ∈ items, DecodesAlike d)
    (h : Draft.depthAll items ≤ room) (s : Slots) (ending : Option Fault) (names : List String) :
    SameSuccess (decodeElements (.text room) s ending names items)
      (decodeElements .value s ending names items) := by
  induction items generalizing s names with
  | nil => exact .refl _
  | cons d rest ihrest =>
    rw [List.forall_mem_cons] at ih
    obtain ⟨hdepth, hdepths⟩ := Nat.max_le.mp h
    cases names with
    | nil => exact .refl _
    | cons name names =>
      rw [decodeElements, decodeElements]
      by_cases hname : name = "fields"
      · rw [if_pos hname, if_pos hname]
        exact .bind (ih.1 room hdepth).2 fun _ => ihrest ih.2 hdepths _ _
      · rw [if_neg hname, if_neg hname]
        exact .bind (s.sameSuccess_member name hdepth) fun _ => ihrest ih.2 hdepths _ _

theorem sameSuccess_decodeAll {items : List Draft} (ih : ∀ d ∈ items, DecodesAlike d)
    (h : Draft.depthAll items ≤ room) :
    SameSuccess (decodeAll (.text room) items) (decodeAll .value items) := by
  induction items with
  | nil => exact .refl _
  | cons d rest ihrest =>
    rw [List.forall_mem_cons] at ih
    obtain ⟨hdepth, hdepths⟩ := Nat.max_le.mp h
    rw [decodeAll, decodeAll]
    exact .bind (ih.1 room hdepth).1 fun _ => .bind (ihrest ih.2 hdepths) fun _ => .refl _

/-- A field is decoded alike from a text and from a value, at every depth. -/
theorem decodesAlike (d : Draft) : DecodesAlike d := by
  induction d using Draft.induction with
  | scalar read skipped => exact fun _ _ => ⟨.refl _, .refl _⟩
  | array items ending ih =>
    intro room h
    obtain ⟨inner, henter, hdepth⟩ := Origin.exists_enter_text h
    constructor
    · rw [decode, decode, henter, Origin.enter, bind_ok, bind_ok]
      refine .bind (sameSuccess_decodeElements ih hdepth _ _ _) fun taken => ?_
      obtain ⟨s, full⟩ := taken
      refine .bind (.refl _) fun field => ?_
      cases full with
      | true => exact .of_errors _ _
      | false => exact .refl _
    · rw [decodeList, decodeList, henter, Origin.enter, bind_ok, bind_ok]
      exact .bind (sameSuccess_decodeAll ih hdepth) fun _ => .refl _
  | object members ending ih =>
    intro room h
    obtain ⟨inner, henter, hdepth⟩ := Origin.exists_enter_text h
    refine ⟨?_, .refl _⟩
    rw [decode, decode, henter, Origin.enter, bind_ok, bind_ok]
    exact .bind (sameSuccess_decodeMembers ih hdepth _) fun _ => .refl _

end Field

namespace Form

variable {room : Nat}

theorem Slots.sameSuccess_member (s : Slots) (name : String) {d : Draft} (h : d.depth ≤ room) :
    SameSuccess (s.member (.text room) name d) (s.member .value name d) := by
  unfold Slots.member
  split
  case h_2 =>
    exact .bind (.refl _) fun _ => .bind (Field.decodesAlike d room h).2 fun _ => .refl _
  all_goals exact .refl _

theorem Slots.sameSuccess_members {members : List (Except Fault String × Draft)}
    (h : Draft.depthMembers members ≤ room) (s : Slots) :
    SameSuccess (Slots.members (.text room) s members) (Slots.members .value s members) := by
  induction members generalizing s with
  | nil => exact .refl _
  | cons m rest ih =>
    obtain ⟨k, d⟩ := m
    obtain ⟨hdepth, hdepths⟩ := Nat.max_le.mp h
    rw [Slots.members, Slots.members]
    exact .bind (.refl _) fun name => .bind (s.sameSuccess_member name hdepth) fun _ =>
      ih hdepths _

/-- A form is decoded alike from a text and from a value. -/
theorem sameSuccess_decode {d : Draft} (h : d.depth ≤ room) :
    SameSuccess (decode (.text room) d) (decode .value d) := by
  cases d with
  | scalar read skipped => exact .refl _
  | object members ending =>
    obtain ⟨inner, henter, hdepth⟩ := Origin.exists_enter_text h
    rw [decode, decode, henter, Origin.enter, bind_ok, bind_ok]
    exact .bind (Slots.sameSuccess_members hdepth _) fun _ => .refl _
  | array items ending =>
    obtain ⟨inner, henter, hdepth⟩ := Origin.exists_enter_text h
    match items with
    | [] =>
      rw [decode, decode, henter]
      exact .refl _
    | [title] =>
      rw [decode, decode, henter]
      exact .refl _
    | title :: fields :: rest =>
      have hfields : fields.depth ≤ inner :=
        (Nat.max_le.mp (Nat.max_le.mp hdepth).2).1
      rw [decode, decode, henter, Origin.enter, bind_ok, bind_ok]
      refine .bind (.refl _) fun _ => .bind (Field.decodesAlike fields inner hfields).2 fun _ => ?_
      dsimp only
      split
      · exact .refl _
      · exact .of_errors _ _

/-! ## Loading -/

/-- Two ways of loading that end alike: with the same form, with the same structural error, or both
with an error of the document. -/
inductive SameOutcome : Except LoadError Form → Except LoadError Form → Prop
  | form (form : Form) : SameOutcome (.ok form) (.ok form)
  | structural (e : StructuralError) :
      SameOutcome (.error (.structural e)) (.error (.structural e))
  | json (d e : DecodeError) : SameOutcome (.error (.json d)) (.error (.json e))

/-- A decoded form is accepted or breaks a structural rule. -/
theorem sameOutcome_accept (strictness : Strictness) (form : Form) :
    SameOutcome (form.accept strictness) (form.accept strictness) := by
  unfold accept
  cases form.check strictness with
  | error e => exact .structural e
  | ok u => cases strictness <;> exact .form _

/-- What is decoded alike is loaded alike. -/
theorem sameOutcome_of_sameSuccess {x y : Decoded Form} (h : SameSuccess x y)
    (strictness : Strictness) :
    SameOutcome (x.mapError .json >>= accept strictness)
      (y.mapError .json >>= accept strictness) := by
  cases x with
  | ok form =>
    rw [(h form).mp rfl]
    exact sameOutcome_accept strictness form
  | error d =>
    cases y with
    | ok form => exact nomatch (h form).mpr rfl
    | error e => exact .json d e

/-- **Forms are loaded alike from a text and from its value.** Whichever way a document is spelled,
as long as no object of it repeats a name. -/
theorem loadText_agrees_loadJson {text : String} {value : Json}
    (hparse : Json.parse text = .ok value) (hnames : Document.NamesDistinct text)
    (strictness : Strictness) :
    SameOutcome (loadText strictness text) (loadJson strictness value) := by
  obtain ⟨hread, hdepth⟩ := Document.read_of_parse hparse hnames
  have hdecode : SameSuccess (decodeText text) (decodeJson value) := by
    have hwhole : decodeText text = decode (.text Document.maxDepth) (.ofJson value) := by
      rw [decodeText, hread]
      exact bind_pure _
    rw [hwhole]
    exact sameSuccess_decode hdepth
  exact sameOutcome_of_sameSuccess hdecode strictness

/-- A text in which one field is an array and the other an object with its members in another order,
an unknown one among them. -/
def petText : String :=
  "\x7b\"fields\": [[\"age\", \"number\"],\n\t\x7b\"type\": \"text\", \"hint\": [null], " ++
  "\"label\": \"Pet\\u0027s name\", \"name\": \"pet\"\x7d], \"title\": \"Pet\"\x7d"

/-- The value of the text. -/
def petDocument : Json :=
  .object [("fields", .array [.array [.string "age", .string "number"],
      .object [("type", .string "text"), ("hint", .array [.null]),
        ("label", .string "Pet's name"), ("name", .string "pet")]]),
    ("title", .string "Pet")]

/-- The text and its value are loaded alike. -/
theorem petText_agrees_petDocument :
    Json.parse petText = .ok petDocument ∧ Document.NamesDistinct petText ∧
      SameOutcome (loadText .strict petText) (loadJson .strict petDocument) := by
  have hread : Document.read petText = ⟨.ofJson petDocument, false⟩ := by
    have hchars : petText.toList = _ := String.toList_append.trans
      (congr (congrArg HAppend.hAppend String.toList_ofList) String.toList_ofList)
    rw [Document.read, hchars]
    cbv
  have hparse : Json.parse petText = .ok petDocument := by
    rw [Json.parse, hread]
    rfl
  have hnames : Document.NamesDistinct petText := by
    rw [Document.NamesDistinct, hread]
    simp [petDocument, Draft.ofJson, Draft.ofItems, Draft.ofMembers]
  exact ⟨hparse, hnames, loadText_agrees_loadJson hparse hnames .strict⟩

end Form

end WebForm
