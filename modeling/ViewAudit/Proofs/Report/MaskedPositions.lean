import ViewAudit.Proofs.Json.Position
import ViewAudit.Proofs.Report.Masking

/-!
Where masking changes a value. At the masked positions there is a mask, whatever
stood there; everywhere else a value looks as before. So two values have the same
masked form exactly if they agree outside the masked positions.
-/

namespace ViewAudit

open Json

/-! ## Masked positions -/

/-- Where the version of the tool stands in a report. -/
def versionPosition : Json.Position := [.member "tool", .member "version"]

/-- An object that has a schema, a tool and a run. -/
structure Json.IsEnvelope (value : Json) : Prop where
  schema : (value.valueAt? [.member "schema"]).isSome = true
  tool : (value.valueAt? [.member "tool"]).isSome = true
  run : (value.valueAt? [.member "run"]).isSome = true

/-- An envelope whose tool is an object that has a version. -/
structure Json.IsReport (value : Json) : Prop extends IsEnvelope value where
  version : (value.valueAt? versionPosition).isSome = true

/-- The positions of the values that are masked, each with its mask. -/
inductive IsMasked (value : Json) : Json.Position → Json → Prop
  | time (front : Json.Position) {name : String} (h : name = "started_at" ∨ name = "ended_at") :
      IsMasked value (front ++ [.member name]) (.string "__TIMESTAMP__")
  | duration (front : Json.Position) :
      IsMasked value (front ++ [.member "duration_ms"]) (.natural 0)
  | version (h : value.IsReport) : IsMasked value versionPosition (.string "__VERSION__")

/-- A position of a masked value or within one. -/
def IsUnderMask (value : Json) (position : Json.Position) : Prop :=
  ∃ front mask rest, IsMasked value front mask ∧ position = front ++ rest

/-- A position within a masked value. -/
def IsWithinMask (value : Json) (position : Json.Position) : Prop :=
  ∃ front mask step rest, IsMasked value front mask ∧ position = front ++ step :: rest

theorem not_isUnderMask_of_not_isWithinMask {value : Json} {front : Json.Position} {step : Step}
    (h : ¬ IsWithinMask value (front ++ [step])) : ¬ IsUnderMask value front := by
  rintro ⟨first, mask, rest, hmasked, rfl⟩
  apply h
  cases rest with
  | nil => exact ⟨first, mask, step, [], hmasked, by simp⟩
  | cons next rest => exact ⟨first, mask, next, rest ++ [step], hmasked, by simp⟩

/-- The mask of what a step leads to, if that is one of the times of a run. -/
def stepMask? : Step → Option Json
  | .item _ => none
  | .member name => timeMask? name

theorem timeMask?_eq_some_iff {name : String} {mask : Json} :
    timeMask? name = some mask ↔
      (name = "started_at" ∨ name = "ended_at") ∧ mask = .string "__TIMESTAMP__" ∨
        name = "duration_ms" ∧ mask = .natural 0 := by
  rw [timeMask?]
  split
  case isTrue htime =>
    have hduration : name ≠ "duration_ms" := by rcases htime with rfl | rfl <;> decide
    simp [htime, hduration, eq_comm]
  case isFalse htime =>
    split
    case isTrue hduration => simp [hduration, eq_comm]
    case isFalse hduration => simp [htime, hduration]

theorem isMasked_of_stepMask? {value mask : Json} {step : Step} (h : stepMask? step = some mask)
    (front : Json.Position) : IsMasked value (front ++ [step]) mask := by
  cases step with
  | item => cases h
  | member name =>
      rcases timeMask?_eq_some_iff.mp h with ⟨htime, rfl⟩ | ⟨rfl, rfl⟩
      · exact .time front htime
      · exact .duration front

/-- Outside the masks no step of a position leads to a time. -/
theorem stepMask?_eq_none_of_not_isUnderMask {value : Json} {position : Json.Position}
    (h : ¬ IsUnderMask value position) : ∀ step ∈ position, stepMask? step = none := by
  intro step hstep
  rw [Option.eq_none_iff_forall_ne_some]
  intro mask hmask
  obtain ⟨front, rest, rfl⟩ := List.append_of_mem hstep
  exact h ⟨front ++ [step], mask, rest, isMasked_of_stepMask? hmask front, by simp⟩

theorem not_isReport_of_not_isUnderMask {value : Json} {rest : Json.Position}
    (h : ¬ IsUnderMask value (versionPosition ++ rest)) : ¬ value.IsReport :=
  fun hreport => h ⟨versionPosition, _, rest, .version hreport, rfl⟩

/-! ## Masked times -/

theorem maskTimes_array (items : List Json) :
    maskTimes (.array items) = .array (items.map maskTimes) :=
  congrArg Json.array (maskTimesInItems_eq_map items)

/-- The value of a member with its times masked. -/
def maskTimesIn (name : String) (value : Json) : Json := (timeMask? name).getD (maskTimes value)

theorem maskTimesInMembers_eq (members : List (String × Json)) :
    maskTimesInMembers members = changeMembers maskTimesIn members := by
  induction members with
  | nil => rfl
  | cons member members ih => exact congrArg (_ :: ·) ih

theorem child?_maskTimes (value : Json) (step : Step) :
    (maskTimes value).child? step =
      (value.child? step).map fun part => (stepMask? step).getD (maskTimes part) := by
  cases value with
  | array items =>
      rw [maskTimes_array]
      cases step with
      | item index => exact List.getElem?_map
      | member name => rfl
  | object members =>
      rw [maskTimes_object, maskTimesInMembers_eq]
      cases step with
      | item index => rfl
      | member name => exact child?_changeMembers maskTimesIn members name
  | _ => cases step <;> rfl

@[simp]
theorem node_maskTimes (value : Json) : (maskTimes value).node = value.node := by
  cases value with
  | array items => simp [maskTimes_array, node]
  | object members => rw [maskTimes_object, maskTimesInMembers_eq, node_changeMembers]
  | _ => rfl

theorem valueAt?_maskTimes {position : Json.Position}
    (h : ∀ step ∈ position, stepMask? step = none) (value : Json) :
    (maskTimes value).valueAt? position = (value.valueAt? position).map maskTimes := by
  induction position generalizing value with
  | nil => rfl
  | cons step rest ih =>
      rw [List.forall_mem_cons] at h
      obtain ⟨hstep, hrest⟩ := h
      rw [valueAt?_cons, valueAt?_cons, child?_maskTimes, hstep]
      cases value.child? step with
      | none => rfl
      | some part => exact ih hrest part

theorem nodeAt?_maskTimes {position : Json.Position}
    (h : ∀ step ∈ position, stepMask? step = none) (value : Json) :
    (maskTimes value).nodeAt? position = value.nodeAt? position := by
  rw [nodeAt?, valueAt?_maskTimes h, Option.map_map, nodeAt?]
  exact congrArg (Option.map · _) (funext node_maskTimes)

/-- Where a time stands there is its mask. -/
theorem valueAt?_maskTimes_of_mask {front : Json.Position} {step : Step} {mask : Json}
    (hfront : ∀ step ∈ front, stepMask? step = none) (hstep : stepMask? step = some mask)
    (value : Json) :
    (maskTimes value).valueAt? (front ++ [step]) =
      (value.valueAt? (front ++ [step])).map fun _ => mask := by
  rw [valueAt?_append, valueAt?_maskTimes hfront, valueAt?_append]
  cases value.valueAt? front with
  | none => rfl
  | some part =>
      simp only [Option.map_some, Option.bind_some, valueAt?_singleton, child?_maskTimes, hstep,
        Option.getD_some]

/-! ## The masked version -/

/-- A value with another one in place of the member of a name, if it has one. -/
def changeMember (name : String) (change : Json → Json) : Json → Json
  | .object members => .object (replaceMember name change members)
  | value => value

theorem replaceMember_eq (name : String) (change : Json → Json) (members : List (String × Json)) :
    replaceMember name change members =
      changeMembers (fun key value => if key = name then change value else value) members := rfl

theorem child?_changeMember_self (name : String) (change : Json → Json) (value : Json) :
    (changeMember name change value).child? (.member name) =
      (value.child? (.member name)).map change := by
  cases value with
  | object members =>
      rw [changeMember, replaceMember_eq, child?_changeMembers]
      simp only [if_true]
  | _ => rfl

theorem child?_changeMember_of_ne {name : String} {step : Step} (h : step ≠ .member name)
    (change : Json → Json) (value : Json) :
    (changeMember name change value).child? step = value.child? step := by
  cases value with
  | object members =>
      cases step with
      | item index => rfl
      | member other =>
          have hname : other ≠ name := fun heq => h (congrArg Step.member heq)
          rw [changeMember, replaceMember_eq, child?_changeMembers]
          simp only [hname, if_false, Option.map_id']
  | _ => rfl

@[simp]
theorem node_changeMember (name : String) (change : Json → Json) (value : Json) :
    (changeMember name change value).node = value.node := by
  cases value with
  | object members => rw [changeMember, replaceMember_eq, node_changeMembers]
  | _ => rfl

/-- The mask of the version of a tool. -/
def maskedVersion : Json := .string "__VERSION__"

theorem maskToolVersion_eq (value : Json) :
    maskToolVersion value = changeMember "version" (fun _ => maskedVersion) value := by
  cases value <;> rfl

theorem hasMember_eq (name : String) (members : List (String × Json)) :
    hasMember name members = ((Json.object members).valueAt? [.member name]).isSome := by
  rw [valueAt?_singleton, child?, Option.isSome_map, hasMember, Bool.eq_iff_iff, List.any_eq_true,
    List.find?_isSome]

theorem maskVersion_of_isEnvelope {value : Json} (h : value.IsEnvelope) :
    maskVersion value = changeMember "tool" maskToolVersion value := by
  cases value with
  | object members =>
      rw [maskVersion, if_pos]
      · rfl
      · rw [hasMember_eq, hasMember_eq, hasMember_eq, h.schema, h.tool, h.run]
        rfl
  | _ => rfl

theorem maskVersion_of_not_isEnvelope {value : Json} (h : ¬ value.IsEnvelope) :
    maskVersion value = value := by
  cases value with
  | object members =>
      rw [maskVersion, if_neg]
      intro hall
      rw [hasMember_eq, hasMember_eq, hasMember_eq, Bool.and_eq_true, Bool.and_eq_true] at hall
      exact h ⟨hall.1.1, hall.1.2, hall.2⟩
  | _ => rfl

@[simp]
theorem node_maskVersion (value : Json) : (maskVersion value).node = value.node := by
  by_cases henvelope : value.IsEnvelope
  · rw [maskVersion_of_isEnvelope henvelope, node_changeMember]
  · rw [maskVersion_of_not_isEnvelope henvelope]

theorem child?_maskVersion_of_ne {step : Step} (h : step ≠ .member "tool") (value : Json) :
    (maskVersion value).child? step = value.child? step := by
  by_cases henvelope : value.IsEnvelope
  · rw [maskVersion_of_isEnvelope henvelope, child?_changeMember_of_ne h]
  · rw [maskVersion_of_not_isEnvelope henvelope]

theorem child?_maskVersion_tool {value : Json} (h : value.IsEnvelope) :
    (maskVersion value).child? (.member "tool") =
      (value.child? (.member "tool")).map maskToolVersion := by
  rw [maskVersion_of_isEnvelope h, child?_changeMember_self]

/-- The version of a tool is masked exactly in a report. -/
theorem valueAt?_maskVersion_of_isReport {value : Json} (h : value.IsReport) :
    (maskVersion value).valueAt? versionPosition = some maskedVersion := by
  have hversion := h.version
  rw [versionPosition, valueAt?_cons, child?_maskVersion_tool h.toIsEnvelope]
  rw [versionPosition, valueAt?_cons] at hversion
  cases htool : value.child? (.member "tool") with
  | none =>
      rw [htool] at hversion
      cases hversion
  | some tool =>
      rw [htool, Option.bind_some, valueAt?_singleton] at hversion
      obtain ⟨version, hchild⟩ := Option.isSome_iff_exists.mp hversion
      rw [Option.map_some, Option.bind_some, valueAt?_singleton, maskToolVersion_eq,
        child?_changeMember_self, hchild, Option.map_some]

/-- Nothing else is masked with the version: elsewhere there stands what stood there
before, but for the tool and the whole value, which have the version in them. -/
theorem valueAt?_maskVersion {value : Json} {position : Json.Position} (hroot : position ≠ [])
    (htool : position ≠ [.member "tool"])
    (h : ¬ (value.IsReport ∧ versionPosition <+: position)) :
    (maskVersion value).valueAt? position = value.valueAt? position := by
  by_cases henvelope : value.IsEnvelope
  case neg => rw [maskVersion_of_not_isEnvelope henvelope]
  match position with
  | [] => exact absurd rfl hroot
  | first :: rest =>
      by_cases hfirst : first = .member "tool"
      case neg => rw [valueAt?_cons, child?_maskVersion_of_ne hfirst, valueAt?_cons]
      subst hfirst
      match rest with
      | [] => exact absurd rfl htool
      | second :: rest =>
          rw [valueAt?_cons, child?_maskVersion_tool henvelope, valueAt?_cons]
          cases hpart : value.child? (.member "tool") with
          | none => rfl
          | some tool =>
              rw [Option.map_some, Option.bind_some, Option.bind_some, valueAt?_cons,
                valueAt?_cons, maskToolVersion_eq]
              by_cases hsecond : second = .member "version"
              · -- In an envelope that is no report the tool has no version.
                subst hsecond
                have hnone : tool.child? (.member "version") = none := by
                  by_contra hsome
                  refine h ⟨⟨henvelope, ?_⟩, ⟨rest, rfl⟩⟩
                  rw [versionPosition, valueAt?_cons, hpart, Option.bind_some, valueAt?_singleton]
                  exact Option.isSome_iff_ne_none.mpr hsome
                rw [child?_changeMember_self, hnone]
                rfl
              · rw [child?_changeMember_of_ne hsecond]

theorem nodeAt?_maskVersion {value : Json} {position : Json.Position}
    (h : ¬ IsUnderMask value position) :
    (maskVersion value).nodeAt? position = value.nodeAt? position := by
  by_cases hroot : position = []
  · subst hroot
    exact congrArg some (node_maskVersion value)
  by_cases htool : position = [.member "tool"]
  · subst htool
    rw [nodeAt?, nodeAt?, valueAt?_singleton, valueAt?_singleton]
    by_cases henvelope : value.IsEnvelope
    · rw [child?_maskVersion_tool henvelope, Option.map_map]
      refine congrArg (Option.map · _) (funext fun tool => ?_)
      rw [Function.comp_apply, maskToolVersion_eq, node_changeMember]
    · rw [maskVersion_of_not_isEnvelope henvelope]
  · rw [nodeAt?, nodeAt?, valueAt?_maskVersion hroot htool]
    rintro ⟨hreport, rest, rfl⟩
    exact not_isReport_of_not_isUnderMask h hreport

/-! ## What masking does at each position -/

/-- A value is the masked form of another one: outside the masks they look the same, at
the masked positions there are the masks, with nothing within them, and all other
versions are as they were, but for the times in them. -/
structure IsMaskingOf (masked value : Json) : Prop where
  kept : ∀ position, ¬ IsUnderMask value position →
    masked.nodeAt? position = value.nodeAt? position
  replaced : ∀ position mask, IsMasked value position mask → ¬ IsWithinMask value position →
    masked.valueAt? position = (value.valueAt? position).map fun _ => mask
  nothing_within : ∀ position, IsWithinMask value position → masked.valueAt? position = none
  other_versions : ∀ front, ¬ IsUnderMask value (front ++ [.member "version"]) →
    masked.valueAt? (front ++ [.member "version"]) =
      (value.valueAt? (front ++ [.member "version"])).map maskTimes

theorem nodeAt?_maskRun {value : Json} {position : Json.Position}
    (h : ¬ IsUnderMask value position) :
    (maskRun value).nodeAt? position = value.nodeAt? position := by
  rw [maskRun, nodeAt?_maskTimes (stepMask?_eq_none_of_not_isUnderMask h), nodeAt?_maskVersion h]

theorem map_const_eq_of_isSome_eq {α β : Type} {first second : Option α}
    (h : first.isSome = second.isSome) (value : β) :
    (first.map fun _ => value) = second.map fun _ => value := by
  cases first <;> cases second <;> first | rfl | cases h

theorem valueAt?_maskRun_of_time {value mask : Json} {front : Json.Position} {step : Step}
    (hstep : stepMask? step = some mask) (h : ¬ IsUnderMask value front) :
    (maskRun value).valueAt? (front ++ [step]) =
      (value.valueAt? (front ++ [step])).map fun _ => mask := by
  have hsome := isSome_valueAt?_of_nodeAt?_eq (nodeAt?_maskVersion h) step
  rw [maskRun, valueAt?_maskTimes_of_mask (stepMask?_eq_none_of_not_isUnderMask h) hstep]
  exact map_const_eq_of_isSome_eq hsome mask

theorem stepMask?_eq_none_of_mem_versionPosition :
    ∀ step ∈ versionPosition, stepMask? step = none := by
  simp [versionPosition, stepMask?, timeMask?]

theorem valueAt?_maskRun_of_isReport {value : Json} (h : value.IsReport) :
    (maskRun value).valueAt? versionPosition = some maskedVersion := by
  rw [maskRun, valueAt?_maskTimes stepMask?_eq_none_of_mem_versionPosition,
    valueAt?_maskVersion_of_isReport h, Option.map_some, maskedVersion, maskTimes_string]

theorem valueAt?_maskRun_of_isMasked {value mask : Json} {position : Json.Position}
    (hmasked : IsMasked value position mask) (h : ¬ IsWithinMask value position) :
    (maskRun value).valueAt? position = (value.valueAt? position).map fun _ => mask := by
  cases hmasked with
  | time front hname =>
      refine valueAt?_maskRun_of_time ?_ (not_isUnderMask_of_not_isWithinMask h)
      exact timeMask?_eq_some_iff.mpr (.inl ⟨hname, rfl⟩)
  | duration front =>
      exact valueAt?_maskRun_of_time rfl (not_isUnderMask_of_not_isWithinMask h)
  | version hreport =>
      obtain ⟨version, hversion⟩ := Option.isSome_iff_exists.mp hreport.version
      rw [valueAt?_maskRun_of_isReport hreport, hversion]
      rfl

theorem IsMasked.child?_mask {value mask : Json} {position : Json.Position}
    (h : IsMasked value position mask) (step : Step) : mask.child? step = none := by
  cases h <;> cases step <;> rfl

/-- The masks are neither arrays nor objects, so nothing is within them. -/
theorem valueAt?_maskRun_of_isWithinMask {value : Json} {position : Json.Position}
    (h : IsWithinMask value position) : (maskRun value).valueAt? position = none := by
  induction hlength : position.length using Nat.strong_induction_on generalizing position with
  | _ length ih =>
      obtain ⟨front, mask, step, rest, hmasked, rfl⟩ := h
      rw [valueAt?_append]
      by_cases hwithin : IsWithinMask value front
      · have hshorter : front.length < length := by
          rw [← hlength, List.length_append, List.length_cons]
          omega
        rw [ih front.length hshorter hwithin rfl, Option.bind_none]
      · rw [valueAt?_maskRun_of_isMasked hmasked hwithin]
        cases value.valueAt? front with
        | none => rfl
        | some part =>
            rw [Option.map_some, Option.bind_some, valueAt?_cons, hmasked.child?_mask,
              Option.bind_none]

theorem isMaskingOf_maskRun (value : Json) : IsMaskingOf (maskRun value) value where
  kept := fun _ => nodeAt?_maskRun
  replaced := fun _ _ => valueAt?_maskRun_of_isMasked
  nothing_within := fun _ => valueAt?_maskRun_of_isWithinMask
  other_versions := by
    intro front h
    have htool : front ++ [.member "version"] ≠ [.member "tool"] := by
      intro heq
      simpa using congrArg List.getLast? heq
    rw [maskRun, valueAt?_maskTimes (stepMask?_eq_none_of_not_isUnderMask h),
      valueAt?_maskVersion (by simp) htool]
    rintro ⟨hreport, rest, hposition⟩
    rw [← hposition] at h
    exact not_isReport_of_not_isUnderMask h hreport

/-! ## Masking twice -/

@[simp]
theorem changeMembers_changeMembers (change other : String → Json → Json)
    (members : List (String × Json)) :
    changeMembers change (changeMembers other members) =
      changeMembers (fun name value => change name (other name value)) members := by
  simp [changeMembers, Function.comp_def]

mutual

theorem maskTimes_maskTimes : (value : Json) → maskTimes (maskTimes value) = maskTimes value
  | .null | .bool _ | .number _ | .string _ => rfl
  | .array items => congrArg Json.array (maskTimesInItems_maskTimesInItems items)
  | .object members => congrArg Json.object (maskTimesInMembers_maskTimesInMembers members)

theorem maskTimesInItems_maskTimesInItems : (items : List Json) →
    maskTimesInItems (maskTimesInItems items) = maskTimesInItems items
  | [] => rfl
  | item :: rest => by
      rw [maskTimesInItems, maskTimesInItems, maskTimes_maskTimes item,
        maskTimesInItems_maskTimesInItems rest]

theorem maskTimesInMembers_maskTimesInMembers : (members : List (String × Json)) →
    maskTimesInMembers (maskTimesInMembers members) = maskTimesInMembers members
  | [] => rfl
  | (name, value) :: rest => by
      rw [maskTimesInMembers, maskTimesInMembers, maskTimesInMembers_maskTimesInMembers rest]
      cases timeMask? name with
      | none => rw [Option.getD_none, Option.getD_none, maskTimes_maskTimes value]
      | some mask => rw [Option.getD_some, Option.getD_some]

end

/-- Masking the times and changing a member that is none of them can be done in either
order, if this is so within the member. -/
theorem changeMember_maskTimes {name : String} {change : Json → Json}
    (hname : timeMask? name = none)
    (h : ∀ value, change (maskTimes value) = maskTimes (change value)) (value : Json) :
    changeMember name change (maskTimes value) = maskTimes (changeMember name change value) := by
  cases value with
  | object members =>
      rw [changeMember, maskTimes_object, maskTimes_object, maskTimesInMembers_eq,
        maskTimesInMembers_eq, changeMember, replaceMember_eq, replaceMember_eq,
        changeMembers_changeMembers, changeMembers_changeMembers]
      congr 2
      funext key part
      by_cases hkey : key = name
      · subst hkey
        rw [if_pos rfl, if_pos rfl, maskTimesIn, maskTimesIn, hname, Option.getD_none,
          Option.getD_none, h]
      · rw [if_neg hkey, if_neg hkey]
  | _ => rfl

theorem changeMember_changeMember {name : String} {change : Json → Json}
    (h : ∀ value, change (change value) = change value) (value : Json) :
    changeMember name change (changeMember name change value) = changeMember name change value := by
  cases value with
  | object members =>
      rw [changeMember, changeMember, replaceMember_eq, replaceMember_eq,
        changeMembers_changeMembers]
      congr 2
      funext key part
      by_cases hkey : key = name
      · rw [if_pos hkey, if_pos hkey, h]
      · rw [if_neg hkey, if_neg hkey]
  | _ => rfl

theorem maskToolVersion_maskTimes (value : Json) :
    maskToolVersion (maskTimes value) = maskTimes (maskToolVersion value) := by
  rw [maskToolVersion_eq, maskToolVersion_eq]
  exact @changeMember_maskTimes "version" (fun _ => maskedVersion) (by decide) (fun _ => rfl) value

theorem isEnvelope_congr {first second : Json} (h : first.node = second.node)
    (henvelope : first.IsEnvelope) : second.IsEnvelope := by
  have hmember (name : String) : (second.valueAt? [.member name]).isSome =
      (first.valueAt? [.member name]).isSome := by
    rw [valueAt?_singleton, valueAt?_singleton]
    exact isSome_child?_of_node_eq h.symm (.member name)
  exact ⟨(hmember _).trans henvelope.schema, (hmember _).trans henvelope.tool,
    (hmember _).trans henvelope.run⟩

theorem maskVersion_maskTimes (value : Json) :
    maskVersion (maskTimes value) = maskTimes (maskVersion value) := by
  by_cases henvelope : value.IsEnvelope
  · have hmasked := isEnvelope_congr (node_maskTimes value).symm henvelope
    rw [maskVersion_of_isEnvelope hmasked, maskVersion_of_isEnvelope henvelope]
    exact changeMember_maskTimes (by decide) maskToolVersion_maskTimes value
  · have hmasked : ¬ (maskTimes value).IsEnvelope :=
      fun h => henvelope (isEnvelope_congr (node_maskTimes value) h)
    rw [maskVersion_of_not_isEnvelope hmasked, maskVersion_of_not_isEnvelope henvelope]

theorem maskVersion_maskVersion (value : Json) :
    maskVersion (maskVersion value) = maskVersion value := by
  by_cases henvelope : value.IsEnvelope
  · have hmasked := isEnvelope_congr (node_maskVersion value).symm henvelope
    rw [maskVersion_of_isEnvelope hmasked, maskVersion_of_isEnvelope henvelope]
    refine changeMember_changeMember (fun tool => ?_) value
    rw [maskToolVersion_eq, maskToolVersion_eq]
    exact @changeMember_changeMember "version" (fun _ => maskedVersion) (fun _ => rfl) tool
  · rw [maskVersion_of_not_isEnvelope henvelope, maskVersion_of_not_isEnvelope henvelope]

theorem maskRun_maskRun (value : Json) : maskRun (maskRun value) = maskRun value := by
  rw [maskRun, maskRun, maskVersion_maskTimes, maskVersion_maskVersion, maskTimes_maskTimes]

/-! ## Values with the same masked form -/

/-- Two values look the same wherever neither of them has a mask. -/
def AgreesOutsideMasks (first second : Json) : Prop :=
  ∀ position, ¬ IsUnderMask first position → ¬ IsUnderMask second position →
    first.nodeAt? position = second.nodeAt? position

theorem IsMasked.exists_eq_append {value mask : Json} {position : Json.Position}
    (h : IsMasked value position mask) : ∃ front step, position = front ++ [step] := by
  cases h with
  | time front => exact ⟨front, _, rfl⟩
  | duration front => exact ⟨front, _, rfl⟩
  | version => exact ⟨[.member "tool"], _, rfl⟩

theorem not_isUnderMask_nil (value : Json) : ¬ IsUnderMask value [] := by
  rintro ⟨front, mask, rest, hmasked, hposition⟩
  obtain ⟨before, step, rfl⟩ := hmasked.exists_eq_append
  simp at hposition

theorem not_isUnderMask_tool (value : Json) : ¬ IsUnderMask value [.member "tool"] := by
  rintro ⟨front, mask, rest, hmasked, hposition⟩
  cases hmasked with
  | time front hname => rcases hname with rfl | rfl <;> simp [List.cons_eq_append_iff] at hposition
  | duration front => simp [List.cons_eq_append_iff] at hposition
  | version => simp [versionPosition] at hposition

theorem AgreesOutsideMasks.symm {first second : Json} (h : AgreesOutsideMasks first second) :
    AgreesOutsideMasks second first :=
  fun position hsecond hfirst => (h position hfirst hsecond).symm

/-- Whether a value is a report is seen outside the masks. -/
theorem AgreesOutsideMasks.isReport {first second : Json} (h : AgreesOutsideMasks first second)
    (hreport : first.IsReport) : second.IsReport := by
  have hroot := h [] (not_isUnderMask_nil first) (not_isUnderMask_nil second)
  have htool := h [.member "tool"] (not_isUnderMask_tool first) (not_isUnderMask_tool second)
  have henvelope := isEnvelope_congr (Option.some.inj hroot) hreport.toIsEnvelope
  have hversion := isSome_valueAt?_of_nodeAt?_eq htool (.member "version")
  exact ⟨henvelope, hversion.symm.trans hreport.version⟩

theorem IsMasked.congr {first second mask : Json} {position : Json.Position}
    (hreport : first.IsReport → second.IsReport) (h : IsMasked first position mask) :
    IsMasked second position mask := by
  cases h with
  | time front hname => exact .time front hname
  | duration front => exact .duration front
  | version hfirst => exact .version (hreport hfirst)

theorem isUnderMask_iff {value : Json} {position : Json.Position} :
    IsUnderMask value position ↔
      IsWithinMask value position ∨ ∃ mask, IsMasked value position mask := by
  constructor
  · rintro ⟨front, mask, rest, hmasked, rfl⟩
    cases rest with
    | nil => exact .inr ⟨mask, by rwa [List.append_nil]⟩
    | cons step rest => exact .inl ⟨front, mask, step, rest, hmasked, rfl⟩
  · rintro (⟨front, mask, step, rest, hmasked, rfl⟩ | ⟨mask, hmasked⟩)
    · exact ⟨front, mask, step :: rest, hmasked, rfl⟩
    · exact ⟨position, mask, [], hmasked, (List.append_nil position).symm⟩

theorem AgreesOutsideMasks.isWithinMask {first second : Json} {position : Json.Position}
    (h : AgreesOutsideMasks first second) (hwithin : IsWithinMask first position) :
    IsWithinMask second position := by
  obtain ⟨front, mask, step, rest, hmasked, hposition⟩ := hwithin
  exact ⟨front, mask, step, rest, hmasked.congr h.isReport, hposition⟩

theorem AgreesOutsideMasks.isUnderMask {first second : Json} {position : Json.Position}
    (h : AgreesOutsideMasks first second) (hunder : IsUnderMask first position) :
    IsUnderMask second position := by
  obtain ⟨front, mask, rest, hmasked, hposition⟩ := hunder
  exact ⟨front, mask, rest, hmasked.congr h.isReport, hposition⟩

/-- Values that agree outside the masks have masked values at the same positions. -/
theorem AgreesOutsideMasks.isSome_valueAt? {first second mask : Json} {position : Json.Position}
    (h : AgreesOutsideMasks first second) (hmasked : IsMasked first position mask)
    (hwithin : ¬ IsWithinMask first position) :
    (first.valueAt? position).isSome = (second.valueAt? position).isSome := by
  obtain ⟨front, step, rfl⟩ := hmasked.exists_eq_append
  have hfirst : ¬ IsUnderMask first front := not_isUnderMask_of_not_isWithinMask hwithin
  have hsecond : ¬ IsUnderMask second front := fun hunder => hfirst (h.symm.isUnderMask hunder)
  exact isSome_valueAt?_of_nodeAt?_eq (h front hfirst hsecond) step

/-- The masked forms of two values are equal up to the order of members exactly if the
values agree outside the masks. -/
theorem looksLike_maskRun_iff (first second : Json) :
    (maskRun first).LooksLike (maskRun second) ↔ AgreesOutsideMasks first second := by
  constructor
  · intro h position hfirst hsecond
    rw [← nodeAt?_maskRun hfirst, ← nodeAt?_maskRun hsecond]
    exact h position
  · intro h position
    by_cases hunder : IsUnderMask first position
    · rw [nodeAt?, nodeAt?]
      congr 1
      by_cases hwithin : IsWithinMask first position
      · rw [valueAt?_maskRun_of_isWithinMask hwithin,
          valueAt?_maskRun_of_isWithinMask (h.isWithinMask hwithin)]
      · obtain ⟨mask, hmasked⟩ := (isUnderMask_iff.mp hunder).resolve_left hwithin
        have hwithin' : ¬ IsWithinMask second position :=
          fun hsecond => hwithin (h.symm.isWithinMask hsecond)
        have hsome := h.isSome_valueAt? hmasked hwithin
        rw [valueAt?_maskRun_of_isMasked hmasked hwithin,
          valueAt?_maskRun_of_isMasked (hmasked.congr h.isReport) hwithin']
        exact map_const_eq_of_isSome_eq hsome mask
    · have hunder' : ¬ IsUnderMask second position :=
        fun hsecond => hunder (h.symm.isUnderMask hsecond)
      rw [nodeAt?_maskRun hunder, nodeAt?_maskRun hunder', h position hunder hunder']

theorem isSorted_maskTimes {value : Json} (h : value.IsSorted) : (maskTimes value).IsSorted := by
  induction h with
  | null => exact .null
  | bool value => exact .bool value
  | number value => exact .number value
  | string value => exact .string value
  | array hitems ih =>
      rw [maskTimes_array]
      refine .array fun masked hmasked => ?_
      obtain ⟨item, hitem, rfl⟩ := List.mem_map.mp hmasked
      exact ih item hitem
  | object hnames hmembers ih =>
      rw [maskTimes_object, maskTimesInMembers_eq]
      refine .object_changeMembers hnames fun member hmember => ?_
      rw [maskTimesIn]
      cases hmask : timeMask? member.1 with
      | none => exact ih member hmember
      | some mask =>
          rcases timeMask?_eq_some_iff.mp hmask with ⟨-, rfl⟩ | ⟨-, rfl⟩
          · exact .string _
          · exact .number _

theorem isSorted_changeMember {name : String} {change : Json → Json} {value : Json}
    (h : value.IsSorted) (hchange : ∀ part, part.IsSorted → (change part).IsSorted) :
    (changeMember name change value).IsSorted := by
  cases h with
  | object hnames hmembers =>
      rw [changeMember, replaceMember_eq]
      refine .object_changeMembers hnames fun member hmember => ?_
      split
      · exact hchange member.2 (hmembers member hmember)
      · exact hmembers member hmember
  | null => exact .null
  | bool value => exact .bool value
  | number value => exact .number value
  | string value => exact .string value
  | array hitems => exact .array hitems

theorem isSorted_maskRun {value : Json} (h : value.IsSorted) : (maskRun value).IsSorted := by
  apply isSorted_maskTimes
  by_cases henvelope : value.IsEnvelope
  · rw [maskVersion_of_isEnvelope henvelope]
    refine isSorted_changeMember h fun tool htool => ?_
    rw [maskToolVersion_eq]
    exact isSorted_changeMember htool fun _ _ => .string _
  · rwa [maskVersion_of_not_isEnvelope henvelope]

/-- Masking changes a value at the masked positions and nowhere else, and a second time
not at all. Two values become equal by it exactly if they agree outside the masks, as
data or, with their members in order, as they are written. -/
theorem maskRun_masks_exactly :
    (∀ value, maskRun (maskRun value) = maskRun value ∧ IsMaskingOf (maskRun value) value) ∧
    (∀ first second, (maskRun first).LooksLike (maskRun second) ↔
      AgreesOutsideMasks first second) ∧
    ∀ first second : Json, first.IsSorted → second.IsSorted →
      (maskRun first = maskRun second ↔ AgreesOutsideMasks first second) := by
  refine ⟨fun value => ⟨maskRun_maskRun value, isMaskingOf_maskRun value⟩,
    looksLike_maskRun_iff, ?_⟩
  intro first second hfirst hsecond
  rw [← looksLike_maskRun_iff]
  constructor
  · intro heq position
    rw [heq]
  · exact IsSorted.eq_of_looksLike (isSorted_maskRun hfirst) (isSorted_maskRun hsecond)

/-- A run shows in its times, whatever they are, and in the version of the outermost tool;
a report within a list is a value like any other. -/
theorem outermost_version_is_masked :
    let record (version : Json) (inner : String) (time : Json) : Json :=
      .object
        [("parts", .array [.object
          [("run", .null), ("schema", .null), ("tool", .object [("version", .string inner)])]]),
        ("run", .object [("ended_at", time), ("started_at", .null)]),
        ("schema", .null),
        ("tool", .object [("duration_ms", time), ("version", version)])]
    let early := record .null "1" (.object [("version", .string "1")])
    let late := record (.array [.null]) "1" (.natural 7)
    let other := record .null "2" (.object [("version", .string "1")])
    AgreesOutsideMasks early late ∧ ¬ AgreesOutsideMasks early other := by
  intro record early late other
  have hsorted {version time : Json} (inner : String) (hversion : version.IsSorted)
      (htime : time.IsSorted) : (record version inner time).IsSorted := by
    simp only [record, isSorted_object_iff, isSorted_array_iff, IsSorted.null, IsSorted.string,
      List.pairwise_cons, List.Pairwise.nil, List.mem_cons, List.not_mem_nil, or_false,
      forall_eq_or_imp, forall_eq, IsEmpty.forall_iff, implies_true, and_self, String.reduceLT,
      hversion, htime]
  have hearly : early.IsSorted :=
    hsorted "1" .null (by simp [isSorted_object_iff, IsSorted.string])
  have hlate : late.IsSorted :=
    hsorted "1" (by simp [isSorted_array_iff, IsSorted.null]) (.number _)
  have hother : other.IsSorted :=
    hsorted "2" .null (by simp [isSorted_object_iff, IsSorted.string])
  obtain ⟨-, -, hsame⟩ := maskRun_masks_exactly
  refine ⟨(hsame early late hearly hlate).mp rfl, ?_⟩
  rw [← hsame early other hearly hother]
  intro heq
  let inner : Json.Position := [.member "parts", .item 0, .member "tool", .member "version"]
  have hfirst : (maskRun early).valueAt? inner = some (.string "1") := rfl
  have hsecond : (maskRun other).valueAt? inner = some (.string "2") := rfl
  rw [heq, hsecond] at hfirst
  simp at hfirst

end ViewAudit
