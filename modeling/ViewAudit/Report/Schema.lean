import ViewAudit.Report.Record

/-!
The published form of reports: a JSON schema for each type of which they are
made. A schema that refers to other types carries their schemas along.
-/

namespace ViewAudit

/-- A type with a published schema. -/
inductive ReportType where
  | scanReport
  | adviceReport
  | runMeta
  | finding
  | severity
  | adviceEntry
  | verdict
  | verdictStatus
  | verdictCounts
  | toolMeta
  deriving DecidableEq, Repr

/-- The form of a value. -/
inductive Schema where
  /-- A value of a published type. -/
  | reference (type : ReportType)
  | text
  | boolean
  /-- A whole number of so many bits, without sign. -/
  | natural (bits : Nat)
  /-- A text or null. -/
  | optionalText
  /-- A whole number or null. -/
  | optionalNatural (bits : Nat)
  | list (items : Schema)
  /-- One of these texts. -/
  | choice (names : List String)
  /-- This text. -/
  | constant (name : String)
  /-- An object with these members, of which some are required. -/
  | record (members : List (String × Schema)) (required : List String)
  /-- A value that has exactly one of these forms. -/
  | oneOf (forms : List Schema)
  /-- A form with a description of what it is for. -/
  | described (description : String) (form : Schema)

namespace ReportType

/-- Every published type, in the order of their names. -/
def all : List ReportType :=
  [scanReport, adviceEntry, adviceReport, finding, runMeta, severity, toolMeta, verdict,
    verdictCounts, verdictStatus]

def name : ReportType → String
  | scanReport => "A11yReport"
  | adviceReport => "AdviceReport"
  | runMeta => "RunMeta"
  | finding => "Finding"
  | severity => "Severity"
  | adviceEntry => "AdviceEntry"
  | verdict => "Verdict"
  | verdictStatus => "VerdictStatus"
  | verdictCounts => "VerdictCounts"
  | toolMeta => "ToolMeta"

def ofName? (name : String) : Option ReportType := all.find? (·.name == name)

/-- An object all of whose members are required. -/
def fullRecord (members : List (String × Schema)) : Schema :=
  .record members (members.map Prod.fst)

/-- The form of the values of a type. -/
def form : ReportType → Schema
  | scanReport =>
      .described "JSON report emitted by `a11y-check --format json`." <|
        fullRecord
          [("schema", .described "Versioned schema identifier for the report shape." .text),
            ("tool", .reference toolMeta),
            ("run", .reference runMeta),
            ("verdict", .reference verdict),
            ("issues", .list (.reference finding)),
            ("warnings", .list (.reference finding))]
  | adviceReport =>
      .described "JSON report emitted by `hig-advisor --format json`." <|
        fullRecord
          [("schema", .text),
            ("tool", .reference toolMeta),
            ("run", .reference runMeta),
            ("topics",
              .described "Matched topic names, in topic-table order." (.list .text)),
            ("general",
              .described "True when no keyword matched and the general pack was selected."
                .boolean),
            ("recommendations", .list (.reference adviceEntry)),
            ("recommendations_total",
              .described "Entry count before the recommendation cap was applied."
                (.natural 32)),
            ("truncated", .boolean),
            ("loaded_guides", .list .text)]
  | runMeta =>
      .record
        [("started_at", .text), ("ended_at", .optionalText), ("duration_ms", .optionalNatural 64)]
        ["started_at"]
  | finding =>
      .record
        [("severity", .reference severity),
          ("check_id", .text),
          ("code", .text),
          ("message", .text),
          ("help", .optionalText),
          ("url", .optionalText)]
        ["severity", "check_id", "code", "message"]
  | severity =>
      .described "Two tiers only: an issue must be fixed, a warning should be reviewed." <|
        .choice (Severity.all.map Severity.name)
  | adviceEntry =>
      .described
        ("One entry of the assembled recommendation list.\n\n" ++
          "The notice and headers count as entries in their own right, so the\n" ++
          "recommendation cap applies to them as well as to points.") <|
        .oneOf
          [.described "No topic keyword matched; every topic is shown."
              (fullRecord [("kind", .constant "general_notice")]),
            fullRecord [("kind", .constant "guide_header"), ("guide", .text)],
            fullRecord [("kind", .constant "point"), ("guide", .text), ("text", .text)]]
  | verdict =>
      fullRecord [("status", .reference verdictStatus), ("counts", .reference verdictCounts)]
  | verdictStatus => .choice (VerdictStatus.all.map VerdictStatus.name)
  | verdictCounts => fullRecord [("issues", .natural 32), ("warnings", .natural 32)]
  | toolMeta => fullRecord [("name", .text), ("version", .text)]

end ReportType

namespace Schema

mutual

/-- The types that a form refers to by name. -/
def references : Schema → List ReportType
  | reference type => [type]
  | list items => items.references
  | record members _ => referencesOfMembers members
  | oneOf forms => referencesOfForms forms
  | described _ form => form.references
  | _ => []

def referencesOfForms : List Schema → List ReportType
  | [] => []
  | form :: rest => form.references ++ referencesOfForms rest

def referencesOfMembers : List (String × Schema) → List ReportType
  | [] => []
  | (_, form) :: rest => form.references ++ referencesOfMembers rest

end

def naturalKeywords (type : Json) (bits : Nat) : List (String × Json) :=
  [("type", type), ("format", .string ("uint" ++ bits.repr)), ("minimum", .natural 0)]

mutual

/-- The members of the object that stands for a form. -/
def keywords : Schema → List (String × Json)
  | reference type => [("$ref", .string ("#/$defs/" ++ type.name))]
  | text => [("type", .string "string")]
  | boolean => [("type", .string "boolean")]
  | natural bits => naturalKeywords (.string "integer") bits
  | optionalText => [("type", .strings ["string", "null"])]
  | optionalNatural bits => naturalKeywords (.strings ["integer", "null"]) bits
  | list items => [("type", .string "array"), ("items", .object items.keywords)]
  | choice names => [("type", .string "string"), ("enum", .strings names)]
  | constant name => [("type", .string "string"), ("const", .string name)]
  | record members required =>
      [("type", .string "object"), ("properties", .object (keywordsOfMembers members)),
        ("required", .strings required)]
  | oneOf forms => [("oneOf", .array (keywordsOfForms forms))]
  | described description form => ("description", .string description) :: form.keywords

def keywordsOfForms : List Schema → List Json
  | [] => []
  | form :: rest => .object form.keywords :: keywordsOfForms rest

def keywordsOfMembers : List (String × Schema) → List (String × Json)
  | [] => []
  | (name, form) :: rest => (name, .object form.keywords) :: keywordsOfMembers rest

end

end Schema

namespace ReportType

/-- The types that are among some types or that the form of one of them refers
to, taken so many times. -/
def reachedIn : Nat → List ReportType → List ReportType
  | 0, types => types
  | steps + 1, types =>
      reachedIn steps <| all.filter fun other =>
        types.contains other || types.any (·.form.references.contains other)

/-- The other types that the form of a type refers to, directly or not. -/
def definitions (type : ReportType) : List ReportType :=
  (reachedIn all.length type.form.references).filter (· ≠ type)

/-- The schema document of a type. -/
def schemaDocument (type : ReportType) : Json :=
  .object <|
    [("$schema", .string "https://json-schema.org/draft/2020-12/schema"),
      ("title", .string type.name)] ++ type.form.keywords ++
    match type.definitions with
    | [] => []
    | definitions =>
        [("$defs",
          .object (definitions.map fun other => (other.name, .object other.form.keywords)))]

end ReportType

end ViewAudit
