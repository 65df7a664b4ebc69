import Mathlib.Algebra.Order.Field.Rat
import Mathlib.Data.List.Forall2
import ViewAudit.Json.Value

/-!
Equality of JSON values as data: numbers are equal if they have the same value,
and the order of the members of an object does not count.
-/

namespace ViewAudit

/-- The exact value of a number. -/
def JsonNumber.exact : JsonNumber → ℚ
  | .integer value => value
  | .decimal negative digits exponent => (if negative then -1 else 1) * digits * 10 ^ exponent

namespace Json

mutual

/-- Whether two values are equal as data. -/
def same : Json → Json → Bool
  | .null, .null => true
  | .bool value, .bool other => value == other
  | .number value, .number other => decide (value.exact = other.exact)
  | .string value, .string other => value == other
  | .array items, .array others => sameItems items others
  | .object members, .object others =>
      includedIn members others && others.all fun other => members.any (·.1 == other.1)
  | _, _ => false

def sameItems : List Json → List Json → Bool
  | [], [] => true
  | item :: rest, other :: others => same item other && sameItems rest others
  | _, _ => false

/-- Whether every member is among some others. -/
def includedIn : List (String × Json) → List (String × Json) → Bool
  | [], _ => true
  | (name, value) :: rest, others =>
      (others.any fun other => other.1 == name && same value other.2) && includedIn rest others

end

/-! The equations of `same` for each kind of value. -/

theorem same_string (text other : String) :
    same (.string text) (.string other) = (text == other) := rfl

theorem same_bool (value other : Bool) : same (.bool value) (.bool other) = (value == other) := rfl

theorem same_number (value other : JsonNumber) :
    same (.number value) (.number other) = decide (value.exact = other.exact) := rfl

theorem same_array (items others : List Json) :
    same (.array items) (.array others) = sameItems items others := rfl

theorem same_object (members others : List (String × Json)) :
    same (.object members) (.object others) =
      (includedIn members others && others.all fun other => members.any (·.1 == other.1)) := rfl

theorem same_string_iff {text : String} {value : Json} :
    same (.string text) value = true ↔ value = .string text := by
  cases value with
  | string other => rw [same_string, beq_iff_eq, string.injEq, eq_comm]
  | _ => exact ⟨nofun, nofun⟩

@[simp]
theorem same_strings_iff {text other : String} :
    same (.string text) (.string other) = true ↔ text = other := by
  rw [same_string, beq_iff_eq]

@[simp]
theorem same_bool_iff {value other : Bool} :
    same (.bool value) (.bool other) = true ↔ value = other := by
  rw [same_bool, beq_iff_eq]

@[simp]
theorem same_natural_iff {m n : Nat} : same (.natural m) (.natural n) = true ↔ m = n := by
  simp [natural, same_number, JsonNumber.exact]

theorem sameItems_cons (item other : Json) (items others : List Json) :
    sameItems (item :: items) (other :: others) = (same item other && sameItems items others) :=
  rfl

theorem same_array_iff {items others : List Json} :
    same (.array items) (.array others) = true ↔
      List.Forall₂ (fun item other => same item other = true) items others := by
  rw [same_array]
  induction items generalizing others with
  | nil =>
      cases others with
      | nil => exact ⟨fun _ => .nil, fun _ => rfl⟩
      | cons other others => exact ⟨nofun, nofun⟩
  | cons item items ih =>
      cases others with
      | nil => exact ⟨nofun, nofun⟩
      | cons other others =>
          rw [sameItems_cons, Bool.and_eq_true, ih, List.forall₂_cons]

theorem includedIn_cons (member : String × Json) (members others : List (String × Json)) :
    includedIn (member :: members) others =
      ((others.any fun other => other.1 == member.1 && same member.2 other.2) &&
        includedIn members others) := rfl

theorem includedIn_iff {members others : List (String × Json)} :
    includedIn members others = true ↔
      ∀ member ∈ members, ∃ other ∈ others, other.1 = member.1 ∧ same member.2 other.2 = true := by
  induction members with
  | nil => exact ⟨fun _ => List.forall_mem_nil _, fun _ => rfl⟩
  | cons member members ih =>
      rw [includedIn_cons, Bool.and_eq_true, ih, List.forall_mem_cons]
      simp only [List.any_eq_true, Bool.and_eq_true, beq_iff_eq]

theorem same_object_iff {members others : List (String × Json)} :
    same (.object members) (.object others) = true ↔
      (∀ member ∈ members, ∃ other ∈ others, other.1 = member.1 ∧
        same member.2 other.2 = true) ∧
      ∀ other ∈ others, ∃ member ∈ members, member.1 = other.1 := by
  rw [same_object, Bool.and_eq_true, includedIn_iff]
  simp only [List.all_eq_true, List.any_eq_true, beq_iff_eq]

/-- Objects that are equal have members of the same names. -/
theorem exists_name_iff_of_same {members others : List (String × Json)}
    (h : same (.object members) (.object others) = true) (name : String) :
    (∃ member ∈ members, member.1 = name) ↔ ∃ other ∈ others, other.1 = name := by
  obtain ⟨hmembers, hothers⟩ := same_object_iff.mp h
  constructor
  · rintro ⟨member, hmem, rfl⟩
    obtain ⟨other, hother, hname, -⟩ := hmembers member hmem
    exact ⟨other, hother, hname⟩
  · rintro ⟨other, hother, rfl⟩
    exact hothers other hother

/-- Equal objects have equal values in the only members of a name. -/
theorem same_of_filter {members others : List (String × Json)}
    (h : same (.object members) (.object others) = true) {name : String} {value other : Json}
    (hvalue : members.filter (·.1 == name) = [(name, value)])
    (hother : others.filter (·.1 == name) = [(name, other)]) : same value other = true := by
  have hmem : (name, value) ∈ members := by
    apply List.mem_of_mem_filter
    rw [hvalue]
    exact List.mem_singleton.mpr rfl
  obtain ⟨found, hfound, hname, hsame⟩ := (same_object_iff.mp h).1 _ hmem
  have honly : found ∈ others.filter (·.1 == name) := by simp [hfound, hname]
  rw [hother, List.mem_singleton] at honly
  rwa [honly] at hsame

/-- Arrays of parts that are told apart are equal only if the parts are. -/
theorem eq_of_same_array_map {α : Type} {write : α → Json}
    (hwrite : ∀ first second, same (write first) (write second) = true → first = second)
    {parts others : List α}
    (h : same (.array (parts.map write)) (.array (others.map write)) = true) : parts = others := by
  rw [same_array_iff, List.forall₂_map_left_iff, List.forall₂_map_right_iff] at h
  induction h with
  | nil => rfl
  | cons hhead _ ih => rw [hwrite _ _ hhead, ih]

theorem eq_of_same_strings {texts others : List String}
    (h : same (.strings texts) (.strings others) = true) : texts = others :=
  eq_of_same_array_map (fun _ _ => same_strings_iff.mp) h

end Json

end ViewAudit
