/-!
JSON values. Members of an object are listed in the order in which they are
written.
-/

namespace ViewAudit

/-- A number as it is read: whole numbers of 64 bits are integers, all others are
the exact decimals of binary floating-point numbers. -/
inductive JsonNumber where
  | integer (value : Int)
  /-- The decimal `digits × 10 ^ exponent`, or its negative. -/
  | decimal (negative : Bool) (digits : Nat) (exponent : Int)
  deriving DecidableEq, Repr

inductive Json where
  | null
  | bool (value : Bool)
  | number (value : JsonNumber)
  | string (value : String)
  | array (items : List Json)
  | object (members : List (String × Json))

namespace Json

def natural (n : Nat) : Json := .number (.integer n)

/-- An array of strings. -/
def strings (texts : List String) : Json := .array (texts.map .string)

/-- The members of an object. -/
def members? : Json → Option (List (String × Json))
  | .object members => some members
  | _ => none

def text? : Json → Option String
  | .string value => some value
  | _ => none

def bool? : Json → Option Bool
  | .bool value => some value
  | _ => none

/-- A whole number from zero to `last`. -/
def natural? (last : Nat) : Json → Option Nat
  | .number (.integer value) =>
      if 0 ≤ value ∧ value ≤ last then some value.toNat else none
  | _ => none

/-- The list of an array's items, if each of them can be read. -/
def list? {α : Type} (read : Json → Option α) : Json → Option (List α)
  | .array items => items.mapM read
  | _ => none

/-- The members of a record. It is written as an object, or as the array of its
members' values in the order of their names; at the end of an array the
`optional` ones may be left out. -/
def record? (names : List String) (optional : List String := []) :
    Json → Option (List (String × Json))
  | .object members => some members
  | .array items =>
      let all := names ++ optional
      if names.length ≤ items.length ∧ items.length ≤ all.length then some (all.zip items) else none
  | _ => none

/-- What a member holds that an object must have, once. -/
def required? {α : Type} (read : Json → Option α) (name : String)
    (members : List (String × Json)) : Option α :=
  match members.filter (·.1 == name) with
  | [(_, value)] => read value
  | _ => none

/-- What a member holds that an object may have, once; null is as good as no
member. -/
def optional? {α : Type} (read : Json → Option α) (name : String)
    (members : List (String × Json)) : Option (Option α) :=
  match members.filter (·.1 == name) with
  | [] | [(_, .null)] => some none
  | [(_, value)] => (read value).map some
  | _ => none

/-- The tag of a value and the value without it: the member `name` of an object,
which may stay there, or the first item of an array. -/
def tagged? (name : String) : Json → Option (String × Json)
  | .object members => do some (← required? text? name members, .object members)
  | .array (tag :: items) => do some (← tag.text?, .array items)
  | _ => none

mutual

/-- A value in whose objects each name occurs once; of several members of a
name the last one counts. -/
def lastMembers : Json → Json
  | .array items => .array (lastMembersOfItems items)
  | .object members => .object (lastMembersOfMembers members)
  | value => value

def lastMembersOfItems : List Json → List Json
  | [] => []
  | item :: rest => lastMembers item :: lastMembersOfItems rest

def lastMembersOfMembers : List (String × Json) → List (String × Json)
  | [] => []
  | (name, value) :: rest =>
      let rest' := lastMembersOfMembers rest
      if rest'.any (·.1 == name) then rest' else (name, lastMembers value) :: rest'

end

end Json

end ViewAudit
