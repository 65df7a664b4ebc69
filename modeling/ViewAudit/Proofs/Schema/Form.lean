import ViewAudit.Proofs.Schema.Validation

/-!
What the schema of each form asks for, and where the references of a schema
document lead: to the forms of the types that it names, all of which it carries
along.
-/

namespace ViewAudit

namespace Schema

open Json

variable {follow : String → Json → Bool} {value : Json}

/-- A form as a schema. -/
def json (form : Schema) : Json := .object form.keywords

theorem keepsTo_reference (type : ReportType) :
    keepsTo follow (reference type).json value = follow ("#/$defs/" ++ type.name) value := by
  change keepsTo follow (.object [("$ref", .string ("#/$defs/" ++ type.name))]) value = _
  rw [keepsTo_object, keepsToAll_cons, meets_ref, keepsToAll_nil, Bool.and_true]

theorem keepsTo_described (description : String) (form : Schema) :
    keepsTo follow (described description form).json value = keepsTo follow form.json value := by
  change keepsTo follow (.object (("description", .string description) :: form.keywords)) value =
    keepsTo follow (.object form.keywords) value
  rw [keepsTo_object, keepsToAll_cons, meets_description, Bool.true_and, keepsTo_object]

theorem keepsTo_text_iff :
    keepsTo follow text.json value = true ↔ ∃ content, value = .string content := by
  change keepsTo follow (.object [("type", .string "string")]) value = true ↔ _
  rw [keepsTo_type, keepsToAll_nil, Bool.and_true]
  exact hasType_string_iff

theorem keepsTo_boolean_iff :
    keepsTo follow boolean.json value = true ↔ ∃ content, value = .bool content := by
  change keepsTo follow (.object [("type", .string "boolean")]) value = true ↔ _
  rw [keepsTo_type, keepsToAll_nil, Bool.and_true]
  exact hasType_boolean_iff

/-- Whether a value is a whole number that is not negative. -/
def IsNatural (value : Json) : Prop :=
  ∃ number, value = .number number ∧ number.exact.isInt = true ∧ 0 ≤ number.exact

theorem keepsTo_natural_iff {bits : Nat} :
    keepsTo follow (natural bits).json value = true ↔ IsNatural value := by
  change keepsTo follow (.object [("type", .string "integer"), ("format", _),
    ("minimum", .number (.integer 0))]) value = true ↔ _
  rw [keepsTo_type, keepsToAll_cons, meets_format, keepsToAll_cons, meets_minimum, keepsToAll_nil,
    Bool.true_and, Bool.and_true, Bool.and_eq_true, hasType_integer_iff]
  constructor
  · rintro ⟨⟨number, rfl, hwhole⟩, hleast⟩
    exact ⟨number, rfl, hwhole, isAtLeast_zero_iff.mp hleast⟩
  · rintro ⟨number, rfl, hwhole, hnonneg⟩
    exact ⟨⟨number, rfl, hwhole⟩, isAtLeast_zero_iff.mpr hnonneg⟩

theorem keepsTo_optionalText_iff :
    keepsTo follow optionalText.json value = true ↔
      value = .null ∨ ∃ content, value = .string content := by
  change keepsTo follow (.object [("type", .strings ["string", "null"])]) value = true ↔ _
  rw [keepsTo_types, keepsToAll_nil, Bool.and_true, List.any_cons, List.any_cons, List.any_nil,
    Bool.or_false, Bool.or_eq_true, hasType_string_iff, hasType_null_iff, or_comm]

theorem keepsTo_optionalNatural_iff {bits : Nat} :
    keepsTo follow (optionalNatural bits).json value = true ↔
      value = .null ∨ IsNatural value := by
  change keepsTo follow (.object [("type", .strings ["integer", "null"]), ("format", _),
    ("minimum", .number (.integer 0))]) value = true ↔ _
  rw [keepsTo_types, keepsToAll_cons, meets_format, keepsToAll_cons, meets_minimum, keepsToAll_nil,
    Bool.true_and, Bool.and_true, Bool.and_eq_true, List.any_cons, List.any_cons, List.any_nil,
    Bool.or_false, Bool.or_eq_true, hasType_integer_iff, hasType_null_iff]
  constructor
  · rintro ⟨⟨number, rfl, hwhole⟩ | rfl, hleast⟩
    · exact Or.inr ⟨number, rfl, hwhole, isAtLeast_zero_iff.mp hleast⟩
    · exact Or.inl rfl
  · rintro (rfl | ⟨number, rfl, hwhole, hnonneg⟩)
    · exact ⟨Or.inr rfl, rfl⟩
    · exact ⟨Or.inl ⟨number, rfl, hwhole⟩, isAtLeast_zero_iff.mpr hnonneg⟩

theorem keepsTo_list_iff {form : Schema} :
    keepsTo follow (list form).json value = true ↔
      ∃ parts, value = .array parts ∧ ∀ part ∈ parts, keepsTo follow form.json part = true := by
  change keepsTo follow (.object [("type", .string "array"), ("items", form.json)]) value = true ↔ _
  rw [keepsTo_type, keepsToAll_cons, meets_items, keepsToAll_nil, Bool.and_true, Bool.and_eq_true,
    hasType_array_iff]
  constructor
  · rintro ⟨⟨parts, rfl⟩, hparts⟩
    exact ⟨parts, rfl, List.all_eq_true.mp hparts⟩
  · rintro ⟨parts, rfl, hparts⟩
    exact ⟨⟨parts, rfl⟩, List.all_eq_true.mpr hparts⟩

theorem keepsTo_choice_iff {options : List String} :
    keepsTo follow (choice options).json value = true ↔
      ∃ name ∈ options, value = .string name := by
  change keepsTo follow (.object [("type", .string "string"), ("enum", .array _)]) value = true ↔ _
  rw [keepsTo_type, keepsToAll_cons, meets_enum, keepsToAll_nil, Bool.and_true, Bool.and_eq_true,
    hasType_string_iff]
  change _ ∧ (options.map Json.string).any (same · value) = true ↔ _
  rw [List.any_map, List.any_eq_true]
  constructor
  · rintro ⟨-, name, hname, hsame⟩
    exact ⟨name, hname, same_string_iff.mp hsame⟩
  · rintro ⟨name, hname, rfl⟩
    exact ⟨⟨name, rfl⟩, name, hname, same_string_iff.mpr rfl⟩

theorem keepsTo_constant_iff {name : String} :
    keepsTo follow (constant name).json value = true ↔ value = .string name := by
  change keepsTo follow (.object [("type", .string "string"), ("const", .string name)]) value =
    true ↔ _
  rw [keepsTo_type, keepsToAll_cons, meets_const, keepsToAll_nil, Bool.and_true, Bool.and_eq_true,
    hasType_string_iff, same_string_iff]
  exact ⟨And.right, fun h => ⟨⟨name, h⟩, h⟩⟩

theorem keepsToProperties_iff {members : List (String × Schema)} :
    keepsToProperties follow (keywordsOfMembers members) value = true ↔
      ∀ member ∈ members, ∀ part ∈ value.valuesOf member.1,
        keepsTo follow member.2.json part = true := by
  induction members with
  | nil => exact ⟨fun _ => List.forall_mem_nil _, fun _ => rfl⟩
  | cons member members ih =>
      change keepsToProperties follow ((member.1, member.2.json) :: keywordsOfMembers members)
        value = true ↔ _
      rw [keepsToProperties_cons, Bool.and_eq_true, ih, List.all_eq_true, List.forall_mem_cons]

theorem hasMembers_object_iff {required : List String} {fields : List (String × Json)} :
    (Json.object fields).hasMembers required = true ↔
      ∀ name ∈ required, ∃ part, (name, part) ∈ fields := by
  change (required.all fun name => fields.any (·.1 == name)) = true ↔ _
  simp

theorem mem_valuesOf_object_iff {name : String} {fields : List (String × Json)} {part : Json} :
    part ∈ (Json.object fields).valuesOf name ↔ (name, part) ∈ fields := by
  change part ∈ (fields.filter (·.1 == name)).map Prod.snd ↔ _
  simp

theorem keepsTo_record_iff {members : List (String × Schema)} {required : List String} :
    keepsTo follow (record members required).json value = true ↔
      ∃ fields, value = .object fields ∧
        (∀ member ∈ members, ∀ part, (member.1, part) ∈ fields →
          keepsTo follow member.2.json part = true) ∧
        ∀ name ∈ required, ∃ part, (name, part) ∈ fields := by
  change keepsTo follow (.object [("type", .string "object"),
    ("properties", .object (keywordsOfMembers members)), ("required", .strings required)]) value =
      true ↔ _
  rw [keepsTo_type, keepsToAll_cons, meets_properties, keepsToAll_cons, meets_required,
    keepsToAll_nil, names_strings, Bool.and_true, Bool.and_eq_true, Bool.and_eq_true,
    hasType_object_iff, keepsToProperties_iff]
  constructor
  · rintro ⟨⟨fields, rfl⟩, hmembers, hrequired⟩
    refine ⟨fields, rfl, ?_, hasMembers_object_iff.mp hrequired⟩
    intro member hmember part hpart
    exact hmembers member hmember part (mem_valuesOf_object_iff.mpr hpart)
  · rintro ⟨fields, rfl, hmembers, hrequired⟩
    refine ⟨⟨fields, rfl⟩, ?_, hasMembers_object_iff.mpr hrequired⟩
    intro member hmember part hpart
    exact hmembers member hmember part (mem_valuesOf_object_iff.mp hpart)

theorem countKept_eq {forms : List Schema} :
    countKept follow (keywordsOfForms forms) value =
      (forms.filter fun form => keepsTo follow form.json value).length := by
  induction forms with
  | nil => rfl
  | cons form forms ih =>
      change countKept follow (form.json :: keywordsOfForms forms) value = _
      rw [countKept_cons, ih, List.filter_cons]
      split
      · rw [List.length_cons, Nat.add_comm]
      · rw [Nat.zero_add]

theorem keepsTo_oneOf_iff {forms : List Schema} :
    keepsTo follow (oneOf forms).json value = true ↔
      (forms.filter fun form => keepsTo follow form.json value).length = 1 := by
  change keepsTo follow (.object [("oneOf", .array (keywordsOfForms forms))]) value = true ↔ _
  rw [keepsTo_object, keepsToAll_cons, meets_oneOf, keepsToAll_nil, Bool.and_true, countKept_eq,
    beq_iff_eq]

theorem keepsToAll_append (keywords more : List (String × Json)) :
    keepsToAll follow (keywords ++ more) value =
      (keepsToAll follow keywords value && keepsToAll follow more value) := by
  induction keywords with
  | nil => rw [List.nil_append, keepsToAll_nil, Bool.true_and]
  | cons keyword keywords ih =>
      rw [List.cons_append, keepsToAll_cons, ih, keepsToAll_cons, Bool.and_assoc]

theorem name_ne_defs {form : Schema} : ∀ keyword ∈ form.keywords, keyword.1 ≠ "$defs" := by
  cases form with
  | described description form =>
      rw [keywords, List.forall_mem_cons]
      exact ⟨show "description" ≠ "$defs" by decide, name_ne_defs⟩
  | _ => simp [keywords, naturalKeywords]

end Schema

namespace ReportType

variable {follow : String → Json → Bool} {value : Json}

theorem keepsTo_schemaDocument (type : ReportType) :
    Json.keepsTo follow type.schemaDocument value = Json.keepsTo follow type.form.json value := by
  rw [schemaDocument, Json.keepsTo_object, Schema.json, Json.keepsTo_object,
    Schema.keepsToAll_append, Schema.keepsToAll_append]
  -- The keywords before and after those of the form only describe.
  cases type.definitions with
  | nil => exact Bool.and_true _
  | cons other definitions => exact Bool.and_true _

/-- A tool without a version is refused, wherever references lead. -/
example : Json.keepsTo follow toolMeta.schemaDocument (.object [("name", .string "")]) = false :=
  rfl

theorem ofName?_name (type : ReportType) : ofName? type.name = some type := by
  cases type <;> decide

theorem name_injective : Function.Injective name := by
  intro first second h
  have hfirst := ofName?_name first
  rw [h, ofName?_name] at hfirst
  exact (Option.some.inj hfirst).symm

theorem valuesOf_schemaDocument {type other : ReportType} (h : other ∈ type.definitions) :
    type.schemaDocument.valuesOf "$defs" =
      [.object (type.definitions.map fun third => (third.name, third.form.json))] := by
  have hform : type.form.keywords.filter (·.1 == "$defs") = [] := by
    rw [List.filter_eq_nil_iff]
    intro keyword hkeyword
    simpa using Schema.name_ne_defs keyword hkeyword
  rw [schemaDocument, Json.valuesOf, List.filter_append, List.filter_append, hform]
  cases hdefinitions : type.definitions with
  | nil =>
      rw [hdefinitions] at h
      cases h
  | cons first rest => rfl

theorem definition?_schemaDocument {type other : ReportType} (h : other ∈ type.definitions) :
    type.schemaDocument.definition? ("#/$defs/" ++ other.name) = some other.form.json := by
  rw [Json.definition?, valuesOf_schemaDocument h]
  dsimp only
  rw [List.find?_map, Option.map_map]
  have hfind : (type.definitions.find? fun third => third == other) = some other := by
    cases hfound : type.definitions.find? fun third => third == other with
    | none => simpa using List.find?_eq_none.mp hfound other h
    | some third =>
        have hthird : (third == other) = true := by simpa using List.find?_some hfound
        rw [beq_iff_eq.mp hthird]
  have hpredicate : ((fun definition : String × Json =>
      "#/$defs/" ++ definition.1 == "#/$defs/" ++ other.name) ∘
        fun third : ReportType => (third.name, third.form.json)) = fun third => third == other := by
    funext third
    rw [Bool.eq_iff_iff]
    simp [name_injective.eq_iff]
  rw [hpredicate, hfind]
  rfl

theorem mem_all (type : ReportType) : type ∈ all := by
  cases type <;> decide

/-- A document carries along the types that its own type refers to. -/
theorem mem_definitions_of_reference {type other : ReportType}
    (h : other ∈ type.form.references) : other ∈ type.definitions := by
  have hall : ∀ type ∈ all, ∀ other ∈ type.form.references, other ∈ type.definitions := by decide
  exact hall type (mem_all type) other h

/-- A document carries along the types that these refer to in turn. -/
theorem mem_definitions_of_definition {type other third : ReportType}
    (h : other ∈ type.definitions) (hthird : third ∈ other.form.references) :
    third ∈ type.definitions := by
  have hall : ∀ type ∈ all, ∀ other ∈ type.definitions, ∀ third ∈ other.form.references,
      third ∈ type.definitions := by decide
  exact hall type (mem_all type) other h third hthird

end ReportType

end ViewAudit
