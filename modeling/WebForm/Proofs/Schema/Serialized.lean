import WebForm.Proofs.Form.Codec
import WebForm.Proofs.Json.Same
import WebForm.Proofs.Schema.Visit
/-!
# Schemas as documents

The document of a schema tells everything about the schema. Every validator is an object of its own
that names its kind, and a member is left out only where the validator has nothing for it, so the
validator can be read off the members. This needs no more than that the documents are the same as
values: the order of members does not matter, and where the two zeros are taken for one number,
everything but the sign of a zero bound can be read off. The sign of a zero bound is seen by nobody,
neither in a check nor in a message.
-/

set_option autoImplicit false

namespace WebForm

namespace Schema

namespace Validator

/-! ## Bounds -/

mutual

/-- The validator with every bound of a number changed. -/
def mapBounds (f : Double → Double) : Validator → Validator
  | .string rules => .string rules
  | .number rules => .number { rules with min := rules.min.map f, max := rules.max.map f }
  | .boolean mustBeChecked => .boolean mustBeChecked
  | .oneOf label options => .oneOf label options
  | .array item minItems message => .array (item.mapBounds f) minItems message
  | .object fields => .object (mapFieldBounds f fields)
  | .optional inner acceptsEmptyString => .optional (inner.mapBounds f) acceptsEmptyString
termination_by structural v => v

/-- The fields of an object with every bound changed. -/
def mapFieldBounds (f : Double → Double) : List (String × Validator) → List (String × Validator)
  | [] => []
  | (name, v) :: rest => (name, v.mapBounds f) :: mapFieldBounds f rest
termination_by structural fields => fields

end

theorem mapFieldBounds_eq_self {f : Double → Double} {fields : List (String × Validator)}
    (h : ∀ entry ∈ fields, entry.2.mapBounds f = entry.2) : mapFieldBounds f fields = fields := by
  induction fields with
  | nil => rfl
  | cons entry rest ih =>
    rw [List.forall_mem_cons] at h
    rw [mapFieldBounds, h.1, ih h.2]

@[simp] theorem mapBounds_id (v : Validator) : v.mapBounds id = v := by
  induction v using Validator.induction with
  | string | boolean | oneOf => rfl
  | number rules => simp [mapBounds]
  | array item minItems message ih => rw [mapBounds, ih]
  | object fields ih => rw [mapBounds, mapFieldBounds_eq_self ih]
  | optional inner acceptsEmptyString ih => rw [mapBounds, ih]

/-! ## Reading a validator off its document -/

/-- The name of the kind of a validator. -/
def kindName : Validator → String
  | .string _ => "string"
  | .number _ => "number"
  | .boolean _ => "boolean"
  | .oneOf _ _ => "oneOf"
  | .array _ _ _ => "array"
  | .object _ => "object"
  | .optional _ _ => "optional"

theorem lookup_countMember (name key : String) (n : Option UInt64) :
    Json.lookup key (countMember name n) =
      if name = key then n.map fun n => .number (.ofWord n) else none := by
  cases n with
  | none => simp [countMember]
  | some n => rfl

theorem lookup_doubleMember (name key : String) (d : Option Double) :
    Json.lookup key (doubleMember name d) =
      if name = key then d.map fun d => .number (.double d) else none := by
  cases d with
  | none => simp [doubleMember]
  | some d => rfl

section
variable (r : StringRules)

theorem member?_minLength :
    (string r).toJson.member? "minLength" = r.minLength.map fun n => .number (.ofWord n) := by
  rw [toJson]
  cases r.pattern <;> simp [Json.member?, Json.lookup_append, Json.lookup, lookup_countMember]

theorem member?_maxLength :
    (string r).toJson.member? "maxLength" = r.maxLength.map fun n => .number (.ofWord n) := by
  rw [toJson]
  cases r.pattern <;> simp [Json.member?, Json.lookup_append, Json.lookup, lookup_countMember]

theorem member?_email : (string r).toJson.member? "email" = some (.bool r.email) := by
  rw [toJson]
  simp [Json.member?, Json.lookup_append, Json.lookup, lookup_countMember]

theorem member?_pattern :
    (string r).toJson.member? "pattern" = r.pattern.map fun p => .string p.source := by
  rw [toJson]
  cases r.pattern <;> simp [Json.member?, Json.lookup_append, Json.lookup, lookup_countMember]

end

section
variable (r : NumberRules)

theorem member?_min :
    (number r).toJson.member? "min" = r.min.map fun d => .number (.double d) := by
  rw [toJson]
  simp [Json.member?, Json.lookup_append, Json.lookup, lookup_doubleMember]

theorem member?_max :
    (number r).toJson.member? "max" = r.max.map fun d => .number (.double d) := by
  rw [toJson]
  simp [Json.member?, Json.lookup_append, Json.lookup, lookup_doubleMember]

end

/-- A message that is null where there is none. -/
def messageJson : Option String → Json
  | none => .null
  | some message => .string message

theorem member?_mustBeChecked (mustBeChecked : Option String) :
    (boolean mustBeChecked).toJson.member? "mustBeChecked" = some (messageJson mustBeChecked) := by
  cases mustBeChecked <;> rfl

theorem fieldsToJson_eq_map (fields : List (String × Validator)) :
    fieldsToJson fields = fields.map fun entry =>
      .object [("name", .string entry.1), ("validator", entry.2.toJson)] := by
  induction fields with
  | nil => rfl
  | cons entry rest ih => rw [fieldsToJson, ih, List.map_cons]

theorem mapFieldBounds_eq_map (f : Double → Double) (fields : List (String × Validator)) :
    mapFieldBounds f fields = fields.map fun entry => (entry.1, entry.2.mapBounds f) := by
  induction fields with
  | nil => rfl
  | cons entry rest ih => rw [mapFieldBounds, ih, List.map_cons]

/-! ## Reading a validator off its document -/

section
variable {f : Double → Double}

/-- Counts that are written the same are equal. -/
theorem ofWord_eq_of_same (m n : UInt64)
    (h : Json.Same f (.number (.ofWord m)) (.number (.ofWord n))) : m = n := by
  have hval : (m.toNat : Int) = n.toNat :=
    congrArg Subtype.val (Json.Same.number_integer_inj h)
  exact UInt64.toNat_inj.mp (by exact_mod_cast hval)

theorem eq_of_same_messageJson (m n : Option String)
    (h : Json.Same f (messageJson m) (messageJson n)) : m = n := by
  cases m with
  | none =>
    cases n with
    | none => rfl
    | some message => cases h
  | some message =>
    cases n with
    | none => cases h
    | some message' => exact congrArg some h.string_inj

/-- The kind of a validator is read off its document. -/
theorem kindName_eq_of_same {v w : Validator} (h : Json.Same f v.toJson w.toJson) :
    v.kindName = w.kindName := by
  have hkind : ∀ u : Validator, u.toJson.member? "type" = some (.string u.kindName) := by
    intro u
    cases u <;> rfl
  exact h.eq_of_member? .string id "type" (hkind v) (hkind w) Json.Same.string_inj

/-- The rules of a text are read off its document, the pattern by its source. -/
theorem stringRules_eq_of_same {r r' : StringRules}
    (h : Json.Same f (string r).toJson (string r').toJson) : r = r' := by
  have hmessage := h.eq_of_member? (a := r.requiredMessage) (b := r'.requiredMessage) .string id
    "requiredMessage" rfl rfl Json.Same.string_inj
  have hminLength := h.map_eq_map id (member?_minLength r) (member?_minLength r')
    ofWord_eq_of_same
  have hmaxLength := h.map_eq_map id (member?_maxLength r) (member?_maxLength r')
    ofWord_eq_of_same
  have hemail := h.eq_of_member? .bool id "email" (member?_email r) (member?_email r')
    Json.Same.bool_inj
  have hpattern := h.map_eq_map id (member?_pattern r) (member?_pattern r')
    fun _ _ hsame => Pattern.ext_source hsame.string_inj
  simp only [Option.map_id, id] at hmessage hminLength hmaxLength hemail hpattern
  obtain ⟨message, minLength, maxLength, email, pattern⟩ := r
  obtain ⟨message', minLength', maxLength', email', pattern'⟩ := r'
  subst hmessage hminLength hmaxLength hemail hpattern
  rfl

theorem numberRules_eq_of_same {r r' : NumberRules}
    (h : Json.Same f (number r).toJson (number r').toJson) :
    (number r).mapBounds f = (number r').mapBounds f := by
  have hmessage := h.eq_of_member? (a := r.requiredMessage) (b := r'.requiredMessage) .string id
    "requiredMessage" rfl rfl Json.Same.string_inj
  have hmin := h.map_eq_map f (member?_min r) (member?_min r')
    fun _ _ => Json.Same.double_inj
  have hmax := h.map_eq_map f (member?_max r) (member?_max r')
    fun _ _ => Json.Same.double_inj
  rw [mapBounds, mapBounds, hmin, hmax, show r.requiredMessage = r'.requiredMessage from hmessage]

/-- Documents of fields give back the names and the validators, if each validator is read off its
document. -/
theorem mapFieldBounds_eq_of_same {fields fields' : List (String × Validator)}
    (h : Json.Same f (.array (fieldsToJson fields)) (.array (fieldsToJson fields')))
    (ih : ∀ entry ∈ fields, ∀ w : Validator, Json.Same f entry.2.toJson w.toJson →
      entry.2.mapBounds f = w.mapBounds f) :
    mapFieldBounds f fields = mapFieldBounds f fields' := by
  have hitems := h.items
  rw [fieldsToJson_eq_map, fieldsToJson_eq_map] at hitems
  rw [mapFieldBounds_eq_map, mapFieldBounds_eq_map]
  refine Json.Same.map_eq_of_forall₂ _ hitems ?_
  intro entry hentry entry' hsame
  have hname : entry.1 = entry'.1 :=
    hsame.eq_of_member? .string id "name" rfl rfl
      Json.Same.string_inj
  have hvalidator : entry.2.mapBounds f = entry'.2.mapBounds f :=
    hsame.eq_of_member? toJson (mapBounds f) "validator" rfl rfl
      (ih entry hentry entry'.2)
  rw [hname, hvalidator]

/-- **A validator is read off its document.** -/
theorem mapBounds_eq_of_same {v w : Validator} (h : Json.Same f v.toJson w.toJson) :
    v.mapBounds f = w.mapBounds f := by
  induction v using Validator.induction generalizing w with
  | string rules =>
    have hkind := kindName_eq_of_same h
    cases w with
    | string rules' => rw [stringRules_eq_of_same h]
    | _ => exact absurd hkind (by simp [kindName])
  | number rules =>
    have hkind := kindName_eq_of_same h
    cases w with
    | number rules' => exact numberRules_eq_of_same h
    | _ => exact absurd hkind (by simp [kindName])
  | boolean mustBeChecked =>
    have hkind := kindName_eq_of_same h
    cases w with
    | boolean mustBeChecked' =>
      have hmessage := h.eq_of_member? messageJson id "mustBeChecked"
        (member?_mustBeChecked mustBeChecked) (member?_mustBeChecked mustBeChecked')
        (eq_of_same_messageJson _ _)
      exact congrArg boolean hmessage
    | _ => exact absurd hkind (by simp [kindName])
  | oneOf label options =>
    have hkind := kindName_eq_of_same h
    cases w with
    | oneOf label' options' =>
      have hlabel : label = label' :=
        h.eq_of_member? .string id "label" rfl rfl
          Json.Same.string_inj
      have hoptions : options = options' :=
        h.eq_of_member? (fun options => .array (options.map .string)) id "options" rfl rfl
          fun hsame => by
            have hitems := Json.Same.map_eq_of_forall₂ id hsame.items
              fun _ _ _ => Json.Same.string_inj
            simpa using hitems
      rw [hlabel, hoptions]
    | _ => exact absurd hkind (by simp [kindName])
  | array item minItems message ih =>
    have hkind := kindName_eq_of_same h
    cases w with
    | array item' minItems' message' =>
      have hitem : item.mapBounds f = item'.mapBounds f :=
        h.eq_of_member? toJson (mapBounds f) "item" rfl rfl ih
      have hcount : minItems = minItems' :=
        h.eq_of_member? (fun n => .number (.ofWord n)) id "minItems" rfl rfl
          (ofWord_eq_of_same _ _)
      have hmessage : message = message' :=
        h.eq_of_member? .string id "minItemsMessage" rfl rfl
          Json.Same.string_inj
      rw [mapBounds, mapBounds, hitem, hcount, hmessage]
    | _ => exact absurd hkind (by simp [kindName])
  | object fields ih =>
    have hkind := kindName_eq_of_same h
    cases w with
    | object fields' =>
      have hfields : mapFieldBounds f fields = mapFieldBounds f fields' :=
        h.eq_of_member? (fun fields => .array (fieldsToJson fields)) (mapFieldBounds f) "fields"
          rfl rfl fun hsame =>
            mapFieldBounds_eq_of_same hsame fun entry hentry _ => ih entry hentry
      rw [mapBounds, mapBounds, hfields]
    | _ => exact absurd hkind (by simp [kindName])
  | optional inner acceptsEmptyString ih =>
    have hkind := kindName_eq_of_same h
    cases w with
    | optional inner' acceptsEmptyString' =>
      have hinner : inner.mapBounds f = inner'.mapBounds f :=
        h.eq_of_member? toJson (mapBounds f) "inner" rfl rfl ih
      have haccepts : acceptsEmptyString = acceptsEmptyString' :=
        h.eq_of_member? .bool id "acceptsEmptyString" rfl rfl
          Json.Same.bool_inj
      rw [mapBounds, mapBounds, hinner, haccepts]
    | _ => exact absurd hkind (by simp [kindName])

end

end Validator

end Schema

/-! ## The sign of a zero bound

Neither a comparison nor the wording of a bound depends on it. -/

namespace Double

theorem withoutZeroSign_of_magnitude_eq_zero {d : Double} (h : d.magnitude = 0) :
    d.withoutZeroSign = zero false := if_pos h

theorem withoutZeroSign_of_magnitude_ne_zero {d : Double} (h : d.magnitude ≠ 0) :
    d.withoutZeroSign = d := if_neg h

@[simp] theorem key_withoutZeroSign (d : Double) : d.withoutZeroSign.key = d.key := by
  by_cases h : d.magnitude = 0
  · rw [withoutZeroSign_of_magnitude_eq_zero h, key_zero, key, h]
    simp
  · rw [withoutZeroSign_of_magnitude_ne_zero h]

@[simp] theorem less_withoutZeroSign (a d : Double) : a.less d.withoutZeroSign = a.less d := by
  simp [less]

@[simp] theorem withoutZeroSign_less (a d : Double) : d.withoutZeroSign.less a = d.less a := by
  simp [less]

/-- Zero is written without a sign. -/
theorem plainText_of_magnitude_eq_zero {d : Double} (h : d.magnitude = 0) : d.plainText = "0" := by
  have hsignificand : d.significand = 0 := by
    rw [significand, h, if_pos (twoTo_pos 52)]
  have hunits : d.units = 0 := by rw [units, hsignificand, Nat.zero_mul]
  have hintegral : d.isIntegral = true := by
    rw [isIntegral, hunits, Nat.zero_mod]
    rfl
  have htruncate : d.truncate = 0 := by
    rw [truncate, hunits, Nat.zero_div]
    cases d.negative <;> rfl
  have hsmall : Int.natAbs 0 < tenTo 15 := tenTo_pos 15
  have hplain : (true && decide (Int.natAbs 0 < tenTo 15)) = true := by
    rw [Bool.true_and, decide_eq_true_iff]
    exact hsmall
  rw [plainText, hintegral, htruncate, if_pos hplain]
  rfl

@[simp] theorem plainText_withoutZeroSign (d : Double) :
    d.withoutZeroSign.plainText = d.plainText := by
  by_cases h : d.magnitude = 0
  · rw [withoutZeroSign_of_magnitude_eq_zero h, plainText_of_magnitude_eq_zero h,
      plainText_of_magnitude_eq_zero rfl]
  · rw [withoutZeroSign_of_magnitude_ne_zero h]

end Double

namespace Schema

namespace Validator

@[simp] theorem failRule_map {α β : Type} (g : α → β) (rule : Option α) (wrong : β → Bool)
    (e : β → FieldError) :
    failRule (rule.map g) wrong e = failRule rule (fun a => wrong (g a)) fun a => e (g a) := by
  cases rule <;> rfl

theorem checkFields_mapFieldBounds {f : Double → Double} {fields : List (String × Validator)}
    (h : ∀ entry ∈ fields, (entry.2.mapBounds f).checkPresent = entry.2.checkPresent)
    (path : String)
    (members : List (String × Json)) :
    checkFields (mapFieldBounds f fields) path members = checkFields fields path members := by
  induction fields with
  | nil => rfl
  | cons entry rest ih =>
    rw [List.forall_mem_cons] at h
    rw [mapFieldBounds, checkFields, checkFields, h.1, ih h.2]

/-- The errors about bounds quote them without the sign of zero. -/
theorem minValue_withoutZeroSign (path : String) (d : Double) :
    FieldError.minValue path d.withoutZeroSign = FieldError.minValue path d :=
  congrArg (fun text => FieldError.mk path ("Minimum value is " ++ text) "min_value")
    d.plainText_withoutZeroSign

theorem maxValue_withoutZeroSign (path : String) (d : Double) :
    FieldError.maxValue path d.withoutZeroSign = FieldError.maxValue path d :=
  congrArg (fun text => FieldError.mk path ("Maximum value is " ++ text) "max_value")
    d.plainText_withoutZeroSign

/-- What is wrong with a number does not depend on the signs of zero bounds. -/
theorem errorsOf_withoutZeroSign (rules : NumberRules) (path : String) (n : Double) :
    NumberRules.errorsOf
        { rules with
          min := rules.min.map Double.withoutZeroSign
          max := rules.max.map Double.withoutZeroSign } path n =
      rules.errorsOf path n := by
  simp only [NumberRules.errorsOf, failRule_map, Double.less_withoutZeroSign,
    Double.withoutZeroSign_less, minValue_withoutZeroSign, maxValue_withoutZeroSign]

/-- What is wrong with a value does not depend on the signs of zero bounds. -/
theorem checkPresent_withoutZeroSign (v : Validator) :
    (v.mapBounds Double.withoutZeroSign).checkPresent = v.checkPresent := by
  induction v using Validator.induction with
  | string | boolean | oneOf => rfl
  | number rules =>
    funext path x
    simp only [mapBounds, checkPresent, NumberRules.check, errorsOf_withoutZeroSign]
  | array item minItems message ih =>
    funext path x
    simp only [mapBounds, checkPresent, ih]
  | object fields ih =>
    funext path x
    simp only [mapBounds, checkPresent, checkFields_mapFieldBounds ih]
  | optional inner acceptsEmptyString ih =>
    funext path x
    simp only [mapBounds, checkPresent, ih]

end Validator

/-! ## Schemas -/

namespace ValidationSchema

/-- The schema with every bound of a number changed. -/
def mapBounds (f : Double → Double) (s : ValidationSchema) : ValidationSchema :=
  { s with fields := Validator.mapFieldBounds f s.fields }

/-- The schema, where no zero bound has a sign. -/
def withoutZeroSigns (s : ValidationSchema) : ValidationSchema := s.mapBounds Double.withoutZeroSign

/-- Two schemas whose documents are the same as JSON values: objects are compared as maps, and the
two zeros are one number. -/
def SameDocument (s t : ValidationSchema) : Prop :=
  Json.Same Double.withoutZeroSign s.toJson t.toJson

theorem mapBounds_id (s : ValidationSchema) : s.mapBounds id = s := by
  rw [mapBounds, Validator.mapFieldBounds_eq_self fun entry _ => Validator.mapBounds_id entry.2]

theorem validate_withoutZeroSigns (s : ValidationSchema) (submission : Json) :
    s.withoutZeroSigns.validate submission = s.validate submission := by
  have hcheck := Validator.checkPresent_withoutZeroSign (.object s.fields)
  rw [Validator.mapBounds] at hcheck
  rw [validate, validate, Validator.validate, Validator.validate, Validator.check, Validator.check]
  rw [withoutZeroSigns, mapBounds, hcheck]

/-- A warning as a document. -/
def warningJson (w : Warning) : Json :=
  .object [("field", .string w.field), ("message", .string w.message)]

theorem member?_root (s : ValidationSchema) :
    s.toJson.member? "root" =
      some (.object [("fields", .array (Validator.fieldsToJson s.fields))]) := rfl

/-- Warnings are written if there are any. -/
theorem member?_warnings (s : ValidationSchema) :
    s.toJson.member? "warnings" =
      (Decode.nonempty? s.warnings).map fun ws => .array (ws.map warningJson) := by
  rw [toJson, Decode.nonempty?]
  cases s.warnings <;> rfl

section
variable {f : Double → Double}

theorem warning_eq_of_same {a b : Warning} (h : Json.Same f (warningJson a) (warningJson b)) :
    a = b := by
  obtain ⟨field, message⟩ := a
  obtain ⟨field', message'⟩ := b
  have hfield : field = field' :=
    h.eq_of_member? .string id "field" rfl rfl
      Json.Same.string_inj
  have hmessage : message = message' :=
    h.eq_of_member? .string id "message" rfl rfl
      Json.Same.string_inj
  rw [hfield, hmessage]

/-- A schema is read off its document, its warnings too. -/
theorem mapBounds_eq_of_same {s t : ValidationSchema} (h : Json.Same f s.toJson t.toJson) :
    s.mapBounds f = t.mapBounds f := by
  have hfields : Validator.mapFieldBounds f s.fields = Validator.mapFieldBounds f t.fields := by
    refine h.eq_of_member?
      (fun fields => .object [("fields", .array (Validator.fieldsToJson fields))])
      (Validator.mapFieldBounds f) "root" (member?_root s) (member?_root t) fun hroot => ?_
    refine hroot.eq_of_member? (fun fields => .array (Validator.fieldsToJson fields))
      (Validator.mapFieldBounds f) "fields" rfl rfl fun hsame => ?_
    exact Validator.mapFieldBounds_eq_of_same hsame fun _ _ _ => Validator.mapBounds_eq_of_same
  have hsome : (Decode.nonempty? s.warnings).map id = (Decode.nonempty? t.warnings).map id := by
    refine h.map_eq_map id (member?_warnings s) (member?_warnings t) fun ws ws' hsame => ?_
    have hitems := Json.Same.map_eq_of_forall₂ id hsame.items
      fun _ _ _ => warning_eq_of_same
    simpa using hitems
  have hwarnings : s.warnings = t.warnings := by
    rw [Option.map_id] at hsome
    rw [← Decode.getD_nonempty? s.warnings, ← Decode.getD_nonempty? t.warnings]
    exact congrArg (Option.getD · []) hsome
  rw [mapBounds, mapBounds, hfields, hwarnings]

end

/-- A form with a zero bound, and a choice without options, about which there is a warning. -/
def meterForm : Form :=
  ⟨"Meter",
    [.leaf ⟨"reading", .known .number, "Reading", true, some { min := some (.zero false) }, [], none,
      some "0.0", none⟩,
    .leaf ⟨"unit", .known .select, "Unit", false, none, [], none, none, none⟩]⟩

/-- A form that differs in its title, a hint and the sign of the bound. -/
def gaugeForm : Form :=
  ⟨"Gauge",
    [.leaf ⟨"reading", .known .number, "Reading", true, some { min := some (.zero true) }, [], none,
      none, none⟩,
    .leaf ⟨"unit", .known .select, "Unit", false, none, [], none, none, some "Litre?"⟩]⟩

/-- The schema of both forms, but for the sign of the bound. -/
def meterSchema (negative : Bool) : ValidationSchema :=
  ⟨[("reading", .number ⟨"Reading is required", some (.zero negative), none⟩),
      ("unit", .optional (.oneOf "Unit" []) false)],
    [⟨"unit", "select field has no options and rejects every value"⟩]⟩

end ValidationSchema

end Schema

end WebForm
