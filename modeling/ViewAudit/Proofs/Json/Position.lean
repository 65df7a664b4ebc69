import Mathlib.Data.Finset.Dedup
import Mathlib.Data.List.Sort
import ViewAudit.Json.Value

/-!
Positions in JSON values: the ways from a value to the values within it. What is
seen at all positions is everything but the order of members, so values whose
members are in the order of their names are equal if they look the same at every
position.
-/

namespace ViewAudit

namespace Json

/-- A step from an array or an object to a value in it. -/
inductive Step where
  | item (index : Nat)
  | member (name : String)
  deriving DecidableEq, Repr

/-- The way to a value within another one. -/
abbrev Position := List Step

/-- What a step leads to. -/
def child? : Json → Step → Option Json
  | .array items, .item index => items[index]?
  | .object members, .member name => (members.find? (·.1 == name)).map Prod.snd
  | _, _ => none

/-- What stands at a position. -/
def valueAt? : Json → Position → Option Json
  | value, [] => some value
  | value, step :: rest => (value.child? step).bind (·.valueAt? rest)

/-- What is seen of a value without a look at the values in it: its kind, all of it
if it is neither an array nor an object, the length of an array and the set of names
in an object. -/
inductive Node where
  | null
  | bool (value : Bool)
  | number (value : JsonNumber)
  | string (value : String)
  | array (length : Nat)
  | object (names : Finset String)
  deriving DecidableEq

def node : Json → Node
  | .null => .null
  | .bool value => .bool value
  | .number value => .number value
  | .string value => .string value
  | .array items => .array items.length
  | .object members => .object (members.map Prod.fst).toFinset

/-- What is seen at a position. -/
def nodeAt? (value : Json) (position : Position) : Option Node :=
  (value.valueAt? position).map node

/-- Two values that look the same at every position: they are equal up to the order
of members. -/
def LooksLike (first second : Json) : Prop :=
  ∀ position, first.nodeAt? position = second.nodeAt? position

/-! ## Steps -/

theorem valueAt?_cons (value : Json) (step : Step) (rest : Position) :
    value.valueAt? (step :: rest) = (value.child? step).bind (·.valueAt? rest) := rfl

@[simp]
theorem valueAt?_singleton (value : Json) (step : Step) :
    value.valueAt? [step] = value.child? step := by
  rw [valueAt?_cons]
  exact Option.bind_fun_some _

theorem valueAt?_append (value : Json) (front rest : Position) :
    value.valueAt? (front ++ rest) = (value.valueAt? front).bind (·.valueAt? rest) := by
  induction front generalizing value with
  | nil => rfl
  | cons step front ih =>
      rw [List.cons_append, valueAt?_cons, valueAt?_cons, Option.bind_assoc]
      exact Option.bind_congr fun part _ => ih part

theorem nodeAt?_cons (value : Json) (step : Step) (rest : Position) :
    value.nodeAt? (step :: rest) = (value.child? step).bind (·.nodeAt? rest) := by
  rw [nodeAt?, valueAt?_cons, Option.map_bind]
  rfl

/-- Whether a step leads from what is seen to something. -/
def Node.Leads : Node → Step → Prop
  | .array length, .item index => index < length
  | .object names, .member name => name ∈ names
  | _, _ => False

theorem isSome_child?_iff (value : Json) (step : Step) :
    (value.child? step).isSome = true ↔ value.node.Leads step := by
  cases value with
  | array items => cases step <;> simp [child?, node, Node.Leads]
  | object members => cases step <;> simp [child?, node, Node.Leads]
  | _ => cases step <;> exact ⟨nofun, nofun⟩

/-- A step leads somewhere from both of two values that look the same, or from
neither. -/
theorem isSome_child?_of_node_eq {first second : Json} (h : first.node = second.node)
    (step : Step) : (first.child? step).isSome = (second.child? step).isSome := by
  rw [Bool.eq_iff_iff, isSome_child?_iff, isSome_child?_iff, h]

theorem isSome_valueAt?_of_nodeAt?_eq {first second : Json} {front : Position}
    (h : first.nodeAt? front = second.nodeAt? front) (step : Step) :
    (first.valueAt? (front ++ [step])).isSome = (second.valueAt? (front ++ [step])).isSome := by
  rw [valueAt?_append, valueAt?_append]
  simp only [nodeAt?] at h
  cases hfirst : first.valueAt? front with
  | none =>
      rw [hfirst, Option.map_none, eq_comm, Option.map_eq_none_iff] at h
      rw [h]
  | some part =>
      rw [hfirst, Option.map_some, eq_comm, Option.map_eq_some_iff] at h
      obtain ⟨other, hother, hnode⟩ := h
      rw [hother, Option.bind_some, Option.bind_some, valueAt?_singleton, valueAt?_singleton]
      exact isSome_child?_of_node_eq hnode.symm step

/-! ## Values changed in place -/

/-- The values of members changed, depending on their names. -/
def changeMembers (change : String → Json → Json) (members : List (String × Json)) :
    List (String × Json) :=
  members.map fun member => (member.1, change member.1 member.2)

theorem child?_changeMembers (change : String → Json → Json) (members : List (String × Json))
    (name : String) :
    (Json.object (changeMembers change members)).child? (.member name) =
      ((Json.object members).child? (.member name)).map (change name) := by
  induction members with
  | nil => rfl
  | cons member members ih =>
      by_cases hname : member.1 = name
      · simp [child?, changeMembers, hname]
      · simpa [child?, changeMembers, hname] using ih

@[simp]
theorem node_changeMembers (change : String → Json → Json) (members : List (String × Json)) :
    (Json.object (changeMembers change members)).node = (Json.object members).node := by
  simp [node, changeMembers, Function.comp_def]

/-! ## Values in order -/

/-- A value whose members are in the order of their names, with each name once. -/
inductive IsSorted : Json → Prop
  | null : IsSorted .null
  | bool (value : Bool) : IsSorted (.bool value)
  | number (value : JsonNumber) : IsSorted (.number value)
  | string (value : String) : IsSorted (.string value)
  | array {items : List Json} (h : ∀ item ∈ items, IsSorted item) : IsSorted (.array items)
  | object {members : List (String × Json)} (hnames : members.Pairwise (·.1 < ·.1))
      (h : ∀ member ∈ members, IsSorted member.2) : IsSorted (.object members)

theorem isSorted_array_iff {items : List Json} :
    (Json.array items).IsSorted ↔ ∀ item ∈ items, item.IsSorted := by
  constructor
  · intro h
    cases h with
    | array hitems => exact hitems
  · exact .array

theorem isSorted_object_iff {members : List (String × Json)} :
    (Json.object members).IsSorted ↔
      members.Pairwise (·.1 < ·.1) ∧ ∀ member ∈ members, member.2.IsSorted := by
  constructor
  · intro h
    cases h with
    | object hnames hmembers => exact ⟨hnames, hmembers⟩
  · exact fun h => .object h.1 h.2

theorem IsSorted.object_changeMembers {members : List (String × Json)}
    {change : String → Json → Json} (hnames : members.Pairwise (·.1 < ·.1))
    (h : ∀ member ∈ members, IsSorted (change member.1 member.2)) :
    IsSorted (.object (changeMembers change members)) := by
  refine .object (List.pairwise_map.mpr hnames) ?_
  intro changed hchanged
  obtain ⟨member, hmember, rfl⟩ := List.mem_map.mp hchanged
  exact h member hmember

theorem child?_eq_some_iff_mem {members : List (String × Json)}
    (h : members.Pairwise (·.1 < ·.1)) {name : String} {value : Json} :
    (Json.object members).child? (.member name) = some value ↔ (name, value) ∈ members := by
  induction members with
  | nil => simp [child?]
  | cons member members ih =>
      obtain ⟨hfirst, hrest⟩ := List.pairwise_cons.mp h
      by_cases hname : member.1 = name
      · obtain ⟨key, part⟩ := member
        subst hname
        have hlater : (key, value) ∉ members := fun hmem =>
          String.lt_irrefl key (hfirst (key, value) hmem)
        simp [child?, hlater, eq_comm]
      · have hother : (name, value) ≠ member := by
          rintro rfl
          exact hname rfl
        have hskip : (Json.object (member :: members)).child? (.member name) =
            (Json.object members).child? (.member name) := by
          simp [child?, hname]
        rw [hskip, ih hrest, List.mem_cons, or_iff_right hother]

/-- Lists of members in order are equal if they have the same members. -/
theorem eq_of_mem_iff {members others : List (String × Json)}
    (hmembers : members.Pairwise (·.1 < ·.1)) (hothers : others.Pairwise (·.1 < ·.1))
    (h : ∀ member, member ∈ members ↔ member ∈ others) : members = others := by
  let order (first second : String × Json) : Prop := first.1 < second.1
  have : Std.Irrefl order := ⟨fun member => String.lt_irrefl member.1⟩
  have : Std.Antisymm order := ⟨fun _ _ hlt hgt => absurd hgt (String.lt_asymm hlt)⟩
  exact List.Pairwise.eq_of_mem_iff (r := order) hmembers hothers h

theorem LooksLike.node_eq {first second : Json} (h : first.LooksLike second) :
    first.node = second.node :=
  Option.some.inj (h [])

/-- What looks alike also does so within. -/
theorem LooksLike.child? {first second part : Json} (h : first.LooksLike second) {step : Step}
    (hpart : first.child? step = some part) :
    ∃ other, second.child? step = some other ∧ part.LooksLike other := by
  have hsome := isSome_child?_of_node_eq h.node_eq step
  rw [hpart] at hsome
  obtain ⟨other, hother⟩ := Option.isSome_iff_exists.mp hsome.symm
  refine ⟨other, hother, fun position => ?_⟩
  have hseen := h (step :: position)
  rwa [nodeAt?_cons, nodeAt?_cons, hpart, hother, Option.bind_some, Option.bind_some] at hseen

/-- Values in order are equal if they look the same at every position. -/
theorem IsSorted.eq_of_looksLike {first second : Json} (hfirst : first.IsSorted)
    (hsecond : second.IsSorted) (h : first.LooksLike second) : first = second := by
  have hnode := h.node_eq
  induction hfirst generalizing second with
  | null => cases hsecond <;> first | rfl | cases hnode
  | bool value => cases hsecond <;> cases hnode; rfl
  | number value => cases hsecond <;> cases hnode; rfl
  | string value => cases hsecond <;> cases hnode; rfl
  | @array items hitems ih =>
      cases hsecond with
      | @array others hothers =>
          have hlength : items.length = others.length := Node.array.inj hnode
          congr 1
          apply List.ext_getElem hlength
          intro index hindex hindex'
          have hitem : (Json.array items).child? (.item index) = some items[index] :=
            List.getElem?_eq_getElem hindex
          obtain ⟨other, hother, hlooks⟩ := h.child? hitem
          obtain rfl : others[index] = other :=
            Option.some.inj ((List.getElem?_eq_getElem hindex').symm.trans hother)
          exact ih _ (List.getElem_mem hindex) (hothers _ (List.getElem_mem hindex')) hlooks
            hlooks.node_eq
      | _ => cases hnode
  | @object members hnames hmembers ih =>
      cases hsecond with
      | @object others hnames' hothers =>
          have hnames_eq : (members.map Prod.fst).toFinset = (others.map Prod.fst).toFinset :=
            Node.object.inj hnode
          have hmem : ∀ member ∈ members, member ∈ others := by
            rintro ⟨name, part⟩ hmember
            obtain ⟨other, hother, hlooks⟩ :=
              h.child? ((child?_eq_some_iff_mem hnames).mpr hmember)
            have hmem_other := (child?_eq_some_iff_mem hnames').mp hother
            rw [show part = other from ih _ hmember (hothers _ hmem_other) hlooks hlooks.node_eq]
            exact hmem_other
          rw [eq_of_mem_iff hnames hnames' fun member => ⟨hmem member, ?_⟩]
          intro hmember
          -- The name is also one of the first object, whose member is then the same.
          have hname : member.1 ∈ (members.map Prod.fst).toFinset := by
            rw [hnames_eq, List.mem_toFinset]
            exact List.mem_map_of_mem hmember
          obtain ⟨twin, htwin, hsame⟩ := List.mem_map.mp (List.mem_toFinset.mp hname)
          obtain ⟨name, value⟩ := member
          obtain ⟨_, part⟩ := twin
          cases hsame
          have hpart := (child?_eq_some_iff_mem hnames').mpr (hmem _ htwin)
          rw [(child?_eq_some_iff_mem hnames').mpr hmember] at hpart
          rwa [Option.some.inj hpart]
      | _ => cases hnode

end Json

end ViewAudit
