import ViewAudit.Json.Value

/-!
Masking what differs from one run to the next, so that reports of different
runs can be compared: the times at any depth, and the version of the tool in
the outermost object.
-/

namespace ViewAudit

/-- What is put in place of the value of a member, if its name is one of the
times of a run. -/
def timeMask? (name : String) : Option Json :=
  if name = "started_at" ∨ name = "ended_at" then some (.string "__TIMESTAMP__")
  else if name = "duration_ms" then some (.natural 0)
  else none

mutual

/-- A value with the times in all its objects masked. -/
def maskTimes : Json → Json
  | .array items => .array (maskTimesInItems items)
  | .object members => .object (maskTimesInMembers members)
  | value => value

def maskTimesInItems : List Json → List Json
  | [] => []
  | item :: rest => maskTimes item :: maskTimesInItems rest

def maskTimesInMembers : List (String × Json) → List (String × Json)
  | [] => []
  | (name, value) :: rest =>
      (name, (timeMask? name).getD (maskTimes value)) :: maskTimesInMembers rest

end

def hasMember (name : String) (members : List (String × Json)) : Bool :=
  members.any (·.1 == name)

/-- The members with another value in place of that of `name`, if there is one. -/
def replaceMember (name : String) (replace : Json → Json) (members : List (String × Json)) :
    List (String × Json) :=
  members.map fun (key, value) => (key, if key = name then replace value else value)

/-- A description of a tool with its version masked. -/
def maskToolVersion : Json → Json
  | .object members => .object (replaceMember "version" (fun _ => .string "__VERSION__") members)
  | value => value

/-- A report with the version of its tool masked; a report is an object that
names its schema, its tool and its run. -/
def maskVersion : Json → Json
  | .object members =>
      if hasMember "schema" members && hasMember "tool" members && hasMember "run" members then
        .object (replaceMember "tool" maskToolVersion members)
      else .object members
  | value => value

/-- A value without what differs from one run to the next. -/
def maskRun (value : Json) : Json := maskTimes (maskVersion value)

end ViewAudit
