import WebForm.Proofs.Field.Position
/-!
# Positions that share a path

A path joins the names and indices that lead to a value with dots, and nothing keeps a name from
having dots of its own. Beside a list `player`, a field of the name `player.0.name` is at the path
of the member `name` of the first player. This is the only way in which two positions can share a
path: they *part* at a list, which is entered at an item, and a sibling whose name goes on behind
the name of the list as a path does that enters this item
(`Form.LeadsTo.sameOrPart_of_pathOf_eq`). Where no field has such a sibling, the path determines
the position.
-/

set_option autoImplicit false

namespace WebForm

/-! ## Segments -/

/-- A text that can follow a whole segment of a path: it is empty or starts with a dot. -/
def FollowsSegment (s : String) : Prop := ∀ c ∈ s.toList.head?, c = '.'

theorem followsSegment_empty : FollowsSegment "" := by
  intro c hc
  cases hc

theorem FollowsSegment.of_append {s t : String} (h : FollowsSegment (s ++ t)) :
    FollowsSegment s := by
  intro c hc
  refine h c ?_
  rw [String.toList_append, List.head?_append, Option.mem_def.mp hc]
  rfl

/-- A text without dots follows a segment only if it is empty. -/
theorem FollowsSegment.eq_empty {s : String} (h : FollowsSegment s) (hdots : '.' ∉ s.toList) :
    s = "" := by
  rw [← String.toList_eq_nil_iff, ← List.head?_eq_none_iff, Option.eq_none_iff_forall_ne_some]
  intro c hc
  obtain rfl := h c hc
  exact hdots (List.mem_of_head? hc)

/-- Of two ways to cut a text in two, one cuts further behind. -/
theorem exists_of_append_eq_append {a b c d : String} (h : a ++ b = c ++ d) :
    (∃ m, c = a ++ m ∧ b = m ++ d) ∨ ∃ m, a = c ++ m ∧ d = m ++ b := by
  rw [← String.toList_inj, String.toList_append, String.toList_append,
    List.append_eq_append_iff] at h
  rcases h with ⟨m, hc, hb⟩ | ⟨m, ha, hd⟩
  · refine .inl ⟨String.ofList m, ?_, ?_⟩
    · simp [← String.toList_inj, hc]
    · simp [← String.toList_inj, hb]
  · refine .inr ⟨String.ofList m, ?_, ?_⟩
    · simp [← String.toList_inj, ha]
    · simp [← String.toList_inj, hd]

/-- Indices are read back from their digits. -/
theorem index_injective {i j : Nat} (h : toString i = toString j) : i = j := by
  have hsame := congrArg (fun s => Nat.ofDigitChars 10 s.toList 0) h
  simpa [Nat.toString_eq_ofList_toDigits] using hsame

theorem dot_notMem_toString (i : Nat) : '.' ∉ (toString i).toList := by
  intro hdot
  rw [Nat.toString_eq_ofList_toDigits, String.toList_ofList] at hdot
  exact absurd (Nat.isDigit_of_mem_toDigits (by decide) (by decide) hdot) (by decide)

/-- A cut behind the dot before an index is not within the index, if a segment ends there. -/
theorem exists_append_of_item_append {i : Nat} {a m b : String} (ha : FollowsSegment a)
    (hb : FollowsSegment b) (hm : m ≠ "") (h : "." ++ toString i ++ a = m ++ b) :
    ∃ rest, FollowsSegment rest ∧ m = "." ++ toString i ++ rest ∧ a = rest ++ b := by
  rcases exists_of_append_eq_append h with ⟨rest, hrest, hcut⟩ | ⟨rest, hrest, hcut⟩
  · exact ⟨rest, .of_append (hcut ▸ ha), hrest, hcut⟩
  · -- what is cut off the index has no dot
    have hdots : '.' ∉ rest.toList := by
      intro hdot
      have hchars := congrArg String.toList hrest
      rw [String.toList_append, String.toList_append] at hchars
      obtain ⟨c, cs, hcs⟩ := List.exists_cons_of_ne_nil (mt String.toList_eq_nil_iff.mp hm)
      rw [hcs] at hchars
      have htail : (toString i).toList = cs ++ rest.toList := (List.cons.inj hchars).2
      exact dot_notMem_toString i (htail ▸ List.mem_append_right cs hdot)
    obtain rfl := FollowsSegment.eq_empty (.of_append (hcut ▸ hb)) hdots
    rw [String.append_empty] at hrest
    exact ⟨"", followsSegment_empty, by rw [hrest, String.append_empty], hcut.symm⟩

namespace Step

/-- What some steps add to the path of the steps before them. -/
def behind : List Step → String
  | [] => ""
  | s :: trail => "." ++ s.text ++ behind trail

theorem pathOf_cons (s : Step) (trail : List Step) :
    pathOf (s :: trail) = s.text ++ behind trail := by
  induction trail generalizing s with
  | nil => rw [pathOf_singleton, behind, String.append_empty]
  | cons s' trail ih =>
    have hjoin : pathOf (s :: s' :: trail) = s.text ++ "." ++ pathOf (s' :: trail) := by
      have h := @String.intercalate_append_of_ne_nil [s.text] ((s' :: trail).map text) "."
        (List.cons_ne_nil _ _) (List.cons_ne_nil _ _)
      rwa [String.intercalate_singleton] at h
    rw [hjoin, ih, behind, String.append_assoc, String.append_assoc]

theorem followsSegment_behind (trail : List Step) : FollowsSegment (behind trail) := by
  cases trail with
  | nil => exact followsSegment_empty
  | cons s trail =>
    intro c hc
    rw [behind, String.toList_append, String.toList_append] at hc
    exact (Option.some.inj hc).symm

theorem behind_eq_empty_iff {trail : List Step} : behind trail = "" ↔ trail = [] := by
  cases trail with
  | nil => exact iff_of_true rfl rfl
  | cons s trail => simp [behind]

theorem behind_member_eq_iff {name other : String} {t u : List Step} :
    behind (.member name :: t) = behind (.member other :: u) ↔
      name ++ behind t = other ++ behind u := by
  rw [behind, behind, String.append_assoc, String.append_assoc, String.append_right_inj]
  rfl

/-- Indices at the same place of a path are the same. -/
theorem index_eq_of_behind_eq {i j : Nat} {t u : List Step}
    (h : behind (.item i :: t) = behind (.item j :: u)) : i = j ∧ behind t = behind u := by
  obtain ⟨rest, hrest, hindex, hbehind⟩ := exists_append_of_item_append (followsSegment_behind t)
    (followsSegment_behind u) (by simp) h
  rw [String.append_assoc, String.append_right_inj] at hindex
  have hempty : rest = "" := by
    refine hrest.eq_empty fun hdot => dot_notMem_toString j ?_
    rw [show toString j = toString i ++ rest from hindex, String.toList_append]
    exact List.mem_append_right _ hdot
  rw [hempty, String.append_empty] at hindex
  rw [hempty, String.empty_append] at hbehind
  exact ⟨(index_injective hindex).symm, hbehind⟩

end Step

/-! ## Fields at the end of steps -/

namespace Field

/-- From a field some steps lead to another one: to its value, or to an item of it. -/
inductive LeadsTo : Field → List Step → Field → Prop
  | value (f : Field) : LeadsTo f [] f
  | item {f : Field} (harray : f.kind? = some .array) (i : Nat) : LeadsTo f [.item i] f
  | inside {f c g : Field} {name : String} {trail : List Step} (harray : f.kind? = some .array)
      (i : Nat) (hc : c ∈ f.children) (hname : c.name = name) (h : LeadsTo c trail g) :
      LeadsTo f (.item i :: .member name :: trail) g

theorem LeadsTo.exists_item {f g : Field} {trail : List Step} (h : f.LeadsTo trail g)
    (hne : trail ≠ []) : f.kind? = some .array ∧ ∃ i rest, trail = .item i :: rest := by
  cases h with
  | value => exact absurd rfl hne
  | item harray i => exact ⟨harray, i, [], rfl⟩
  | inside harray i => exact ⟨harray, i, _, rfl⟩

/-- The name of a field goes on behind the name of a list as a path does that enters an item of
the list. -/
def LooksInside (g f : Field) (i : Nat) : Prop :=
  f.kind? = some .array ∧
    ∃ rest, FollowsSegment rest ∧ g.name = f.name ++ ("." ++ toString i ++ rest)

/-- Two ways from some siblings part where the one enters an item of a list, and the other goes to
a sibling of the list that looks as if it were inside this item. -/
inductive Part : List Field → List Step → List Step → Prop
  | here {fs : List Field} {f g : Field} {i : Nat} {t u : List Step} (hf : f ∈ fs) (hg : g ∈ fs)
      (h : g.LooksInside f i) : Part fs (.member f.name :: .item i :: t) (.member g.name :: u)
  | inside {fs : List Field} {f : Field} {t u : List Step} (hf : f ∈ fs)
      (harray : f.kind? = some .array) (i : Nat) (h : Part f.children t u) :
      Part fs (.member f.name :: .item i :: t) (.member f.name :: .item i :: u)

/-! ## Siblings -/

/-- A relation between each field that is reached in a forest and each of its siblings. -/
def AmongSiblings (R : Field → Field → Prop) (parent : String) (fs : List Field) : Prop :=
  ∀ p ∈ places parent [] fs, ∀ g ∈ p.siblings, R p.field g

section
variable {R : Field → Field → Prop} {parent : String} {fs : List Field} {f g : Field}

theorem AmongSiblings.of_mem (h : AmongSiblings R parent fs) (hf : f ∈ fs) (hg : g ∈ fs)
    (hne : g ≠ f) : R f g := by
  obtain ⟨before, after, rfl⟩ := List.append_of_mem hf
  refine h _ mem_places_of_split g ?_
  rcases List.mem_append.mp hg with hbefore | hafter
  · exact List.mem_append_left _ hbefore
  · exact List.mem_append_right _ ((List.mem_cons.mp hafter).resolve_left hne)

theorem AmongSiblings.children (h : AmongSiblings R parent fs) (hf : f ∈ fs)
    (harray : f.kind? = some .array) : AmongSiblings R (joinPath parent f.name) f.children := by
  obtain ⟨before, after, rfl⟩ := List.append_of_mem hf
  intro p hp
  refine h p (mem_places.mpr ⟨before, f, after, rfl, .inr ?_⟩)
  rwa [placesBelow, if_pos harray]

end

/-- Siblings have different names, wherever they are reached. -/
abbrev Distinct : String → List Field → Prop := AmongSiblings fun f g => g.name ≠ f.name

/-- No field looks as if it were inside a list beside it, wherever it is reached. -/
abbrev Unambiguous : String → List Field → Prop :=
  AmongSiblings fun f g => ∀ i, ¬ g.LooksInside f i

theorem AmongSiblings.eq_of_name_eq {parent : String} {fs : List Field} (h : Distinct parent fs)
    {f g : Field} (hf : f ∈ fs) (hg : g ∈ fs) (hname : g.name = f.name) : g = f :=
  Classical.byContradiction fun hne => h.of_mem hf hg hne hname

theorem amongSiblings_of_below {R : Field → Field → Prop} {P : Field → Prop}
    (hR : ∀ f g, P f → P g → R f g) {fs : List Field}
    (ih : ∀ f ∈ fs, ∀ parent, ∀ p ∈ placesBelow parent f, ∀ g ∈ p.siblings, R p.field g)
    (hP : ∀ f ∈ fs, P f) (parent : String) : AmongSiblings R parent fs := by
  intro p hp g hg
  obtain ⟨before, f, after, rfl, rfl | hbelow⟩ := mem_places.mp hp
  · refine hR f g (hP f (by simp)) (hP g ?_)
    rcases List.mem_append.mp hg with hbefore | hafter
    · exact List.mem_append_left _ hbefore
    · exact List.mem_append_right _ (List.mem_cons_of_mem f hafter)
  · exact ih f (by simp) parent p hbelow g hg

theorem forall_siblings_of_everywhere {R : Field → Field → Prop} {P : Field → Prop}
    (hR : ∀ f g, P f → P g → R f g) (f : Field) : Everywhere P f →
      ∀ parent, ∀ p ∈ placesBelow parent f, ∀ g ∈ p.siblings, R p.field g := by
  induction f using Field.induction with
  | mk spec children ih =>
    intro hP parent p hp
    obtain ⟨-, hchildren⟩ := everywhere_iff.mp hP
    rw [placesBelow] at hp
    split at hp
    · next harray =>
      have hinside := hchildren harray
      exact amongSiblings_of_below hR (fun c hc => ih c hc (hinside c hc))
        (fun c hc => (everywhere_iff.mp (hinside c hc)).1) _ p hp
    · cases hp

/-- Siblings are related if this follows from a property of fields that all of them have. -/
theorem amongSiblings_of_everywhere {R : Field → Field → Prop} {P : Field → Prop}
    (hR : ∀ f g, P f → P g → R f g) {fs : List Field} (hP : EverywhereIn P fs) (parent : String) :
    AmongSiblings R parent fs := by
  have hfs := everywhereIn_iff_forall_mem.mp hP
  exact amongSiblings_of_below hR (fun f hf => forall_siblings_of_everywhere hR f (hfs f hf))
    (fun f hf => (everywhere_iff.mp (hfs f hf)).1) parent

/-- Steps lead to one field at most. -/
theorem LeadsTo.eq_of_distinct {f g : Field} {trail : List Step} (h : f.LeadsTo trail g) :
    ∀ {parent fs g'}, Distinct parent fs → f ∈ fs → f.LeadsTo trail g' → g' = g := by
  induction h with
  | value f =>
    intro parent fs g' _ _ h'
    cases h'
    rfl
  | item harray i =>
    intro parent fs g' _ _ h'
    cases h'
    rfl
  | @inside f c g name trail harray i hc hname h ih =>
    intro parent fs g' hdistinct hf h'
    have hchildren := hdistinct.children hf harray
    cases h' with
    | inside _ _ hd hname' h' =>
      obtain rfl := hchildren.eq_of_name_eq hc hd (hname'.trans hname.symm)
      exact ih hchildren hc h'

/-- No field looks as if it were inside itself. -/
theorem LooksInside.ne {f g : Field} {i : Nat} (h : g.LooksInside f i) : g ≠ f := by
  rintro rfl
  obtain ⟨-, rest, -, hname⟩ := h
  have hnil : "." ++ toString i ++ rest = "" :=
    (String.append_right_inj g.name).mp (by rw [← hname, String.append_empty])
  simp at hnil

/-- Where no field looks as if it were inside a list, no ways part. -/
theorem Part.false_of_unambiguous {fs : List Field} {t u : List Step} (h : Part fs t u) :
    ∀ {parent}, ¬ Unambiguous parent fs := by
  induction h with
  | here hf hg h => exact fun hfs => hfs.of_mem hf hg h.ne _ h
  | inside hf harray i _ ih => exact fun hfs => ih (hfs.children hf harray)

/-! ## Shared paths -/

/-- Two ways from some siblings are the same, or they part. -/
def SameOrPart (fs : List Field) (t u : List Step) : Prop := t = u ∨ Part fs t u ∨ Part fs u t

theorem SameOrPart.inside {fs : List Field} {f : Field} {t u : List Step} (hf : f ∈ fs)
    (harray : f.kind? = some .array) (i : Nat) (h : SameOrPart f.children t u) :
    SameOrPart fs (.member f.name :: .item i :: t) (.member f.name :: .item i :: u) := by
  rcases h with rfl | hpart | hpart
  · exact .inl rfl
  · exact .inr (.inl (.inside hf harray i hpart))
  · exact .inr (.inr (.inside hf harray i hpart))

/-- Ways into a field share a path with what is behind a longer name only if the name looks as if
it were inside an item of the field. -/
theorem LeadsTo.part_of_append {fs : List Field} {f g a : Field} {t u : List Step} {m : String}
    (ht : f.LeadsTo t a) (hf : f ∈ fs) (hg : g ∈ fs) (hne : f.name ≠ g.name)
    (hname : g.name = f.name ++ m) (h : Step.behind t = m ++ Step.behind u) :
    Part fs (.member f.name :: t) (.member g.name :: u) := by
  have hm : m ≠ "" := by
    rintro rfl
    exact hne (by rw [hname, String.append_empty])
  have ht' : t ≠ [] := by
    rintro rfl
    exact hm (String.append_eq_empty_iff.mp h.symm).1
  obtain ⟨harray, i, rest, rfl⟩ := ht.exists_item ht'
  obtain ⟨more, hmore, rfl, -⟩ := exists_append_of_item_append (Step.followsSegment_behind rest)
    (Step.followsSegment_behind u) hm h
  exact .here hf hg ⟨harray, more, hmore, hname⟩

/-- Ways from siblings share a path only if they are the same or part, if this is so of ways from
the same sibling. -/
theorem LeadsTo.sameOrPart_of_siblings {parent : String} {fs : List Field}
    (hdistinct : Distinct parent fs) {f g a b : Field} (hf : f ∈ fs) (hg : g ∈ fs)
    {t u : List Step} (ht : f.LeadsTo t a) (hu : g.LeadsTo u b)
    (hsame : f.LeadsTo u b → Step.behind t = Step.behind u →
      SameOrPart fs (.member f.name :: t) (.member f.name :: u))
    (h : f.name ++ Step.behind t = g.name ++ Step.behind u) :
    SameOrPart fs (.member f.name :: t) (.member g.name :: u) := by
  by_cases hname : f.name = g.name
  · obtain rfl := hdistinct.eq_of_name_eq hg hf hname
    exact hsame hu ((String.append_right_inj _).mp h)
  -- the shorter one of two names that differ is that of the list
  · rcases exists_of_append_eq_append h with ⟨m, hlonger, hbehind⟩ | ⟨m, hlonger, hbehind⟩
    · exact .inr (.inl (ht.part_of_append hf hg hname hlonger hbehind))
    · exact .inr (.inr (hu.part_of_append hg hf (Ne.symm hname) hlonger hbehind))

/-- Ways into one field share a path only if they are the same, or part further inside. -/
theorem LeadsTo.sameOrPart {f a : Field} {t : List Step} (ht : f.LeadsTo t a) :
    ∀ {parent fs b u}, Distinct parent fs → f ∈ fs → f.LeadsTo u b →
      Step.behind t = Step.behind u →
      SameOrPart fs (.member f.name :: t) (.member f.name :: u) := by
  induction ht with
  | value f =>
    intro parent fs b u _ _ _ h
    rw [Step.behind_eq_empty_iff.mp h.symm]
    exact .inl rfl
  | item harray i =>
    intro parent fs b u _ _ hu h
    cases hu with
    | value => cases Step.behind_eq_empty_iff.mp h
    | item _ j =>
      obtain ⟨rfl, -⟩ := Step.index_eq_of_behind_eq h
      exact .inl rfl
    | inside _ j =>
      cases Step.behind_eq_empty_iff.mp (Step.index_eq_of_behind_eq h).2.symm
  | inside harray i hc hcname hlead ih =>
    intro parent fs b u hdistinct hf hu h
    have hchildren := hdistinct.children hf harray
    cases hu with
    | value => cases Step.behind_eq_empty_iff.mp h
    | item _ j => cases Step.behind_eq_empty_iff.mp (Step.index_eq_of_behind_eq h).2
    | inside _ j hd hdname hu =>
      obtain ⟨rfl, hbehind⟩ := Step.index_eq_of_behind_eq h
      subst hcname hdname
      exact .inside hf harray i (hlead.sameOrPart_of_siblings hchildren hc hd hu
        (ih hchildren hc) (Step.behind_member_eq_iff.mp hbehind))

end Field

namespace Form

/-- Into a form some steps lead to a field: to its value, or to an item of it. -/
def LeadsTo (form : Form) (trail : List Step) (f : Field) : Prop :=
  ∃ top ∈ form.fields, ∃ rest, trail = .member top.name :: rest ∧ top.LeadsTo rest f

/-- No field of the form looks as if it were inside a list beside it. -/
def Unambiguous (form : Form) : Prop :=
  ∀ p ∈ form.places, ∀ g ∈ p.siblings, ∀ i, ¬ g.LooksInside p.field i

/-- Names without dots never look as if they were inside something. -/
theorem unambiguous_of_no_dots {form : Form}
    (h : ∀ p ∈ form.places, '.' ∉ p.field.name.toList) : form.Unambiguous := by
  have hlooks : ∀ f g : Field, '.' ∉ f.name.toList → '.' ∉ g.name.toList →
      ∀ i, ¬ g.LooksInside f i := by
    rintro f g - hg i ⟨-, rest, -, hname⟩
    refine hg ?_
    rw [hname]
    simp
  exact Field.amongSiblings_of_everywhere hlooks (Field.everywhereIn_iff_forall_places.mpr h) ""

section
variable {form : Form}

/-- Steps into a form lead to one field at most. -/
theorem LeadsTo.eq (hdistinct : Field.Distinct "" form.fields) {trail : List Step} {f g : Field}
    (hf : form.LeadsTo trail f) (hg : form.LeadsTo trail g) : g = f := by
  obtain ⟨top, htop, rest, rfl, hf⟩ := hf
  obtain ⟨top', htop', rest', hsame, hg⟩ := hg
  obtain ⟨hname, rfl⟩ := List.cons.inj hsame
  obtain rfl := hdistinct.eq_of_name_eq htop' htop (Step.member.inj hname)
  exact hf.eq_of_distinct hdistinct htop hg

/-- Ways into a form share a path only if they are the same, or part. -/
theorem LeadsTo.sameOrPart_of_pathOf_eq (hdistinct : Field.Distinct "" form.fields)
    {t u : List Step} {f g : Field} (ht : form.LeadsTo t f) (hu : form.LeadsTo u g)
    (h : Step.pathOf t = Step.pathOf u) : Field.SameOrPart form.fields t u := by
  obtain ⟨top, htop, rest, rfl, ht⟩ := ht
  obtain ⟨top', htop', rest', rfl, hu⟩ := hu
  rw [Step.pathOf_cons, Step.pathOf_cons] at h
  exact ht.sameOrPart_of_siblings hdistinct htop htop' hu (ht.sameOrPart hdistinct htop) h

end

end Form

end WebForm
