import ViewAudit.Proofs.Json.Equality
import ViewAudit.Report.Schema

/-!
Values that keep to a JSON schema of draft 2020-12, as far as the keywords of the
published schemas go. Every keyword of a schema is a condition of its own; a
keyword that is not among these only describes. References lead into the
definitions of the document, so what they ask for is a question of its own.
-/

namespace ViewAudit.Json

/-- Whether a value is of the type that schemas call so. A number is an integer
if it has no fraction, however it is written. -/
def hasType : Json → String → Bool
  | .null, name => name == "null"
  | .bool _, name => name == "boolean"
  | .number value, name => name == "number" || (name == "integer" && value.exact.isInt)
  | .string _, name => name == "string"
  | .array _, name => name == "array"
  | .object _, name => name == "object"

/-- The names that an argument consists of, be it one or an array of them. -/
def names : Json → List String
  | .string name => [name]
  | .array items => items.filterMap text?
  | _ => []

/-- The values that an object has under a name. -/
def valuesOf (name : String) : Json → List Json
  | .object members => (members.filter (·.1 == name)).map Prod.snd
  | _ => []

def items : Json → List Json
  | .array items => items
  | _ => []

def hasMembers (names : List String) : Json → Bool
  | .object members => names.all fun name => members.any (·.1 == name)
  | _ => true

def isAtLeast (least : JsonNumber) : Json → Bool
  | .number value => decide (least.exact ≤ value.exact)
  | _ => true

mutual

/-- Whether a value keeps to a schema, when `follow` tells whether it keeps to the
one that a reference leads to. -/
def keepsTo (follow : String → Json → Bool) : (schema : Json) → (value : Json) → Bool
  | .bool answer, _ => answer
  | .object keywords, value => keepsToAll follow keywords value
  | _, _ => false
termination_by structural schema => schema

/-- Whether a value meets every one of some keywords. -/
def keepsToAll (follow : String → Json → Bool) : List (String × Json) → Json → Bool
  | [], _ => true
  | keyword :: rest, value => meets follow keyword value && keepsToAll follow rest value
termination_by structural keywords => keywords

/-- Whether a value meets a keyword. -/
def meets (follow : String → Json → Bool) : String × Json → Json → Bool
  | ("$ref", target), value => target.text?.any (follow · value)
  | ("type", types), value => types.names.any value.hasType
  | ("properties", .object forms), value => keepsToProperties follow forms value
  | ("required", required), value => value.hasMembers required.names
  | ("items", form), value => value.items.all (keepsTo follow form)
  | ("enum", options), value => options.items.any (same · value)
  | ("const", constant), value => same constant value
  | ("oneOf", .array forms), value => countKept follow forms value == 1
  | ("minimum", .number least), value => value.isAtLeast least
  | (keyword, _), _ => keyword ∉ ["properties", "oneOf", "minimum"]
termination_by structural keyword => keyword

/-- Whether what a value has under the names of some properties keeps to their
schemas. -/
def keepsToProperties (follow : String → Json → Bool) : List (String × Json) → Json → Bool
  | [], _ => true
  | (name, form) :: rest, value =>
      (value.valuesOf name).all (keepsTo follow form) && keepsToProperties follow rest value
termination_by structural forms => forms

/-- The number of schemas that a value keeps to. -/
def countKept (follow : String → Json → Bool) : List Json → Json → Nat
  | [], _ => 0
  | form :: rest, value =>
      (if keepsTo follow form value then 1 else 0) + countKept follow rest value
termination_by structural forms => forms

end

/-! ## Types -/

section

variable {value : Json}

theorem hasType_null_iff : value.hasType "null" = true ↔ value = .null := by
  cases value with
  | null => exact ⟨fun _ => rfl, fun _ => rfl⟩
  | _ => exact ⟨nofun, nofun⟩

theorem hasType_boolean_iff : value.hasType "boolean" = true ↔ ∃ answer, value = .bool answer := by
  cases value with
  | bool answer => exact ⟨fun _ => ⟨answer, rfl⟩, fun _ => rfl⟩
  | _ => exact ⟨nofun, nofun⟩

theorem hasType_integer_iff :
    value.hasType "integer" = true ↔
      ∃ number, value = .number number ∧ number.exact.isInt = true := by
  cases value with
  | number number =>
      constructor
      · exact fun h => ⟨number, rfl, h⟩
      · rintro ⟨_, ⟨⟩, h⟩
        exact h
  | _ => exact ⟨nofun, nofun⟩

theorem hasType_string_iff : value.hasType "string" = true ↔ ∃ text, value = .string text := by
  cases value with
  | string text => exact ⟨fun _ => ⟨text, rfl⟩, fun _ => rfl⟩
  | _ => exact ⟨nofun, nofun⟩

theorem hasType_array_iff : value.hasType "array" = true ↔ ∃ items, value = .array items := by
  cases value with
  | array items => exact ⟨fun _ => ⟨items, rfl⟩, fun _ => rfl⟩
  | _ => exact ⟨nofun, nofun⟩

theorem hasType_object_iff :
    value.hasType "object" = true ↔ ∃ members, value = .object members := by
  cases value with
  | object members => exact ⟨fun _ => ⟨members, rfl⟩, fun _ => rfl⟩
  | _ => exact ⟨nofun, nofun⟩

theorem names_strings (texts : List String) : (strings texts).names = texts := by
  change (texts.map Json.string).filterMap text? = texts
  rw [List.filterMap_map]
  exact List.filterMap_some

theorem isAtLeast_zero_iff {number : JsonNumber} :
    (Json.number number).isAtLeast (.integer 0) = true ↔ 0 ≤ number.exact := by
  change decide ((0 : Int) ≤ number.exact) = true ↔ _
  rw [decide_eq_true_eq, Int.cast_zero]

end

/-! ## Keywords -/

section

variable (follow : String → Json → Bool) (value : Json)

theorem keepsTo_object (keywords : List (String × Json)) :
    keepsTo follow (.object keywords) value = keepsToAll follow keywords value := rfl

theorem keepsToAll_nil : keepsToAll follow [] value = true := rfl

theorem keepsToAll_cons (keyword : String × Json) (rest : List (String × Json)) :
    keepsToAll follow (keyword :: rest) value =
      (meets follow keyword value && keepsToAll follow rest value) := rfl

theorem meets_ref (target : String) :
    meets follow ("$ref", .string target) value = follow target value := rfl

theorem meets_type (types : Json) :
    meets follow ("type", types) value = types.names.any value.hasType := rfl

theorem meets_properties (forms : List (String × Json)) :
    meets follow ("properties", .object forms) value = keepsToProperties follow forms value := rfl

theorem meets_required (required : Json) :
    meets follow ("required", required) value = value.hasMembers required.names := rfl

theorem meets_items (form : Json) :
    meets follow ("items", form) value = value.items.all (keepsTo follow form) := rfl

theorem meets_enum (options : Json) :
    meets follow ("enum", options) value = options.items.any (same · value) := rfl

theorem meets_const (constant : Json) :
    meets follow ("const", constant) value = same constant value := rfl

theorem meets_oneOf (forms : List Json) :
    meets follow ("oneOf", .array forms) value = (countKept follow forms value == 1) := rfl

theorem meets_minimum (least : JsonNumber) :
    meets follow ("minimum", .number least) value = value.isAtLeast least := rfl

theorem meets_format (format : Json) : meets follow ("format", format) value = true := rfl

theorem meets_description (description : Json) :
    meets follow ("description", description) value = true := rfl

/-- The type is one of a name alone. -/
theorem keepsTo_type (type : String) (rest : List (String × Json)) :
    keepsTo follow (.object (("type", .string type) :: rest)) value =
      (value.hasType type && keepsToAll follow rest value) := by
  rw [keepsTo_object, keepsToAll_cons, meets_type]
  exact congrArg (· && _) (Bool.or_false _)

theorem keepsTo_types (types : List String) (rest : List (String × Json)) :
    keepsTo follow (.object (("type", .strings types) :: rest)) value =
      (types.any value.hasType && keepsToAll follow rest value) := by
  rw [keepsTo_object, keepsToAll_cons, meets_type, names_strings]

theorem keepsToProperties_cons (name : String) (form : Json) (rest : List (String × Json)) :
    keepsToProperties follow ((name, form) :: rest) value =
      ((value.valuesOf name).all (keepsTo follow form) &&
        keepsToProperties follow rest value) := rfl

theorem countKept_cons (form : Json) (rest : List Json) :
    countKept follow (form :: rest) value =
      (if keepsTo follow form value then 1 else 0) + countKept follow rest value := rfl

end

/-! ## References -/

/-- The schema to which a reference within a document leads. -/
def definition? (document : Json) (target : String) : Option Json :=
  match document.valuesOf "$defs" with
  | [.object definitions] =>
      (definitions.find? fun definition => "#/$defs/" ++ definition.1 == target).map Prod.snd
  | _ => none

/-- Whether a value keeps to the schema to which a reference leads, if no more than
so many references are followed one within the other. -/
def follow (document : Json) : Nat → String → Json → Bool
  | 0, _, _ => false
  | depth + 1, target, value =>
      (document.definition? target).any fun schema => keepsTo (document.follow depth) schema value

/-- A value is valid if it keeps to the schema of a document however many
references are followed, from some number on. -/
def IsValid (document value : Json) : Prop :=
  ∃ enough, ∀ depth, enough ≤ depth → keepsTo (document.follow depth) document value = true

end ViewAudit.Json
