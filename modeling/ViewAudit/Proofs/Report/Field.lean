import Mathlib.Algebra.Group.Nat.Defs
import ViewAudit.Proofs.Report.Reading
import ViewAudit.Report.Schema

/-!
The fields of records. What a record is read as depends on its fields only, and on
each of them only as far as reading it goes. A record that has been read has all of
its fields but the optional ones, and in each of them a value of its form.
-/

namespace ViewAudit

open Json

namespace Schema

/-- A form without the description of it. -/
def plain : Schema → Schema
  | described _ form => form.plain
  | form => form

/-- The members of a record with their forms. -/
def members : Schema → List (String × Schema)
  | described _ form => form.members
  | record members _ => members.map fun member => (member.1, member.2.plain)
  | _ => []

/-- Whether null and no value at all are as good as a value of a form. -/
def isOptional : Schema → Bool
  | optionalText | optionalNatural _ => true
  | _ => false

/-- Whether a value is of a form, where `admits` tells which values are of a type that
the form refers to. -/
def Holds (admits : ReportType → Json → Prop) : Schema → Json → Prop
  | reference type, value => admits type value
  | text, value => ∃ content, value = .string content
  | boolean, value => ∃ content, value = .bool content
  | natural bits, value => ∃ n < 2 ^ bits, value = .natural n
  | optionalText, value => value = .null ∨ ∃ content, value = .string content
  | optionalNatural bits, value => value = .null ∨ ∃ n < 2 ^ bits, value = .natural n
  | list items, value => ∃ parts, value = .array parts ∧ ∀ part ∈ parts, items.Holds admits part
  | choice names, value => ∃ name ∈ names, value = .string name
  | constant name, value => value = .string name
  | _, _ => True

theorem Holds.mono {admits admits' : ReportType → Json → Prop}
    (hadmits : ∀ type value, admits type value → admits' type value) {form : Schema}
    {value : Json} (h : form.Holds admits value) : form.Holds admits' value := by
  cases form with
  | reference type => exact hadmits type value h
  | list items =>
      obtain ⟨parts, hvalue, hparts⟩ := h
      exact ⟨parts, hvalue, fun part hpart => Holds.mono hadmits (hparts part hpart)⟩
  | _ => exact h

end Schema

namespace ReportType

/-- What values of a type are read as. -/
abbrev Part : ReportType → Type
  | scanReport => ScanReport
  | adviceReport => AdviceReport
  | runMeta => RunMeta
  | finding => Finding
  | severity => Severity
  | adviceEntry => AdviceEntry
  | verdict => Verdict
  | verdictStatus => VerdictStatus
  | verdictCounts => VerdictCounts
  | toolMeta => ToolMeta

def read? : (type : ReportType) → Json → Option type.Part
  | scanReport => ScanReport.ofJson?
  | adviceReport => AdviceReport.ofJson?
  | runMeta => RunMeta.ofJson?
  | finding => Finding.ofJson?
  | severity => Severity.ofJson?
  | adviceEntry => AdviceEntry.ofJson?
  | verdict => Verdict.ofJson?
  | verdictStatus => VerdictStatus.ofJson?
  | verdictCounts => VerdictCounts.ofJson?
  | toolMeta => ToolMeta.ofJson?

/-- Whether a value is read as one of a type. -/
def accepts (type : ReportType) (value : Json) : Bool := (type.read? value).isSome

/-- The fields of a record with some members. Those of an entry of advice are its kind
and what the kind asks for. -/
def fields (type : ReportType) (members : List (String × Json)) : List (String × Schema) :=
  match type with
  | adviceEntry =>
      ("kind", .choice ["general_notice", "guide_header", "point"]) ::
        if required? text? "kind" members = some "guide_header" then [("guide", .text)]
        else if required? text? "kind" members = some "point" then
          [("guide", .text), ("text", .text)]
        else []
  | type => type.form.members

/-- A header has no text, whatever else its object has. -/
example : (adviceEntry.fields [("text", .null), ("kind", .string "guide_header")]).map Prod.fst =
    ["kind", "guide"] := rfl

/-- Whether the values of a type are records; the others are names. -/
def isRecord : ReportType → Bool
  | severity | verdictStatus => false
  | _ => true

end ReportType

/-- Two objects are read alike under the name of a field. -/
def ReadsAlike (members others : List (String × Json)) : String × Schema → Prop
  | (name, .reference type) => required? type.read? name members = required? type.read? name others
  | (name, .list (.reference type)) =>
      required? (list? type.read?) name members = required? (list? type.read?) name others
  | (name, .optionalText) | (name, .optionalNatural _) =>
      ∀ {α : Type} (read : Json → Option α),
        optional? read name members = optional? read name others
  | (name, _) =>
      ∀ {α : Type} (read : Json → Option α),
        required? read name members = required? read name others

namespace ReportType

theorem ofJson?_adviceEntry_congr {members others : List (String × Json)}
    (h : ∀ field ∈ adviceEntry.fields members, ReadsAlike members others field) :
    AdviceEntry.ofJson? (.object members) = AdviceEntry.ofJson? (.object others) := by
  rw [fields, List.forall_mem_cons] at h
  obtain ⟨hkind, hrest⟩ := h
  refine Option.ext fun entry => ?_
  rw [AdviceEntry.ofJson?_object_iff, AdviceEntry.ofJson?_object_iff, ← hkind text?]
  cases entry with
  | generalNotice => rfl
  | guideHeader guide =>
      refine and_congr_right fun hheader => ?_
      rw [if_pos hheader, List.forall_mem_singleton] at hrest
      rw [hrest text?]
  | point guide text =>
      refine and_congr_right fun hpoint => ?_
      have hheader : required? text? "kind" members ≠ some "guide_header" := by simp [hpoint]
      rw [if_neg hheader, if_pos hpoint, List.forall_mem_cons, List.forall_mem_singleton] at hrest
      rw [hrest.1 text?, hrest.2 text?]

/-- What a record is read as depends on its fields only. -/
theorem read?_congr {type : ReportType} (hrecord : type.isRecord = true)
    {members others : List (String × Json)}
    (h : ∀ field ∈ type.fields members, ReadsAlike members others field) :
    type.read? (.object members) = type.read? (.object others) := by
  cases type with
  | severity => cases hrecord
  | verdictStatus => cases hrecord
  | adviceEntry => exact ofJson?_adviceEntry_congr h
  | _ =>
      simp only [fields, form, fullRecord, Schema.members, Schema.plain, List.map_cons,
        List.map_nil, List.forall_mem_cons, ReadsAlike] at h
      refine Option.ext fun part => ?_
      simp only [read?] at h ⊢
      simp only [ScanReport.ofJson?_object_iff, AdviceReport.ofJson?_object_iff,
        RunMeta.ofJson?_object_iff, Finding.ofJson?_object_iff, Verdict.ofJson?_object_iff,
        VerdictCounts.ofJson?_object_iff, ToolMeta.ofJson?_object_iff, h]

end ReportType

/-! ## Fields of a record that has been read -/

/-- An object has something under the name of a field, unless the field is optional, and
all that it has there can be read. -/
def HasField (members : List (String × Json)) (field : String × Schema) : Prop :=
  (field.2.isOptional = true ∨ ∃ value, (field.1, value) ∈ members) ∧
    ∀ value, (field.1, value) ∈ members → field.2.Holds (·.accepts · = true) value

section

variable {members : List (String × Json)} {name : String} {form : Schema}

theorem hasField_of_required? {α : Type} {read : Json → Option α} {part : α}
    (h : required? read name members = some part)
    (hread : ∀ value, read value = some part → form.Holds (·.accepts · = true) value) :
    HasField members (name, form) :=
  ⟨.inr (exists_of_required? h), fun value hvalue => hread value (read_of_required? h hvalue)⟩

theorem hasField_of_optional? {α : Type} {read : Json → Option α} {part : Option α}
    (hform : form.isOptional = true) (h : optional? read name members = some part)
    (hnull : form.Holds (·.accepts · = true) .null)
    (hread : ∀ value found, read value = some found → form.Holds (·.accepts · = true) value) :
    HasField members (name, form) := by
  refine ⟨.inl hform, fun value hvalue => ?_⟩
  rcases read_of_optional? h hvalue with ⟨rfl, -⟩ | ⟨found, hfound, -⟩
  · exact hnull
  · exact hread value found hfound

theorem hasField_text {text : String} (h : required? text? name members = some text) :
    HasField members (name, .text) :=
  hasField_of_required? h fun _ hread => ⟨text, text?_eq_some_iff.mp hread⟩

theorem hasField_boolean {answer : Bool} (h : required? bool? name members = some answer) :
    HasField members (name, .boolean) :=
  hasField_of_required? h fun _ hread => ⟨answer, bool?_eq_some_iff.mp hread⟩

theorem hasField_count {count : UInt32} (h : required? count? name members = some count) :
    HasField members (name, .natural 32) := by
  refine hasField_of_required? h fun value hread => ?_
  obtain ⟨n, hn, -⟩ := Option.map_eq_some_iff.mp hread
  obtain ⟨hlast, hvalue⟩ := eq_natural_of_natural? hn
  exact ⟨n, by simp [UInt32.size] at hlast; omega, hvalue⟩

theorem hasField_duration {duration : Option UInt64}
    (h : optional? RunMeta.duration? name members = some duration) :
    HasField members (name, .optionalNatural 64) := by
  refine hasField_of_optional? rfl h (.inl rfl) fun value found hread => .inr ?_
  obtain ⟨n, hn, -⟩ := Option.map_eq_some_iff.mp hread
  obtain ⟨hlast, hvalue⟩ := eq_natural_of_natural? hn
  exact ⟨n, by simp [UInt64.size] at hlast; omega, hvalue⟩

theorem hasField_optionalText {text : Option String}
    (h : optional? text? name members = some text) : HasField members (name, .optionalText) :=
  hasField_of_optional? rfl h (.inl rfl) fun _ found hread =>
    .inr ⟨found, text?_eq_some_iff.mp hread⟩

theorem exists_string_of_stamp? {value : Json} {stamp : Stamp}
    (h : RunMeta.stamp? value = some stamp) : ∃ text, value = .string text := by
  obtain ⟨text, htext, -⟩ := Option.bind_eq_some_iff.mp h
  exact ⟨text, text?_eq_some_iff.mp htext⟩

theorem hasField_texts {texts : List String}
    (h : required? (list? text?) name members = some texts) :
    HasField members (name, .list .text) := by
  refine hasField_of_required? h fun value hread => ?_
  obtain ⟨items, rfl, hitems⟩ := exists_of_list? hread
  refine ⟨items, rfl, fun item hitem => ?_⟩
  obtain ⟨text, htext⟩ := hitems item hitem
  exact ⟨text, text?_eq_some_iff.mp htext⟩

theorem hasField_reference (type : ReportType) {part : type.Part}
    (h : required? type.read? name members = some part) :
    HasField members (name, .reference type) :=
  hasField_of_required? h fun _ hread => Option.isSome_iff_exists.mpr ⟨part, hread⟩

theorem hasField_references (type : ReportType) {parts : List type.Part}
    (h : required? (list? type.read?) name members = some parts) :
    HasField members (name, .list (.reference type)) := by
  refine hasField_of_required? h fun value hread => ?_
  obtain ⟨items, rfl, hitems⟩ := exists_of_list? hread
  exact ⟨items, rfl, fun item hitem => Option.isSome_iff_exists.mpr (hitems item hitem)⟩

theorem hasField_kind {kind : String} (h : required? text? "kind" members = some kind)
    {names : List String} (hkind : kind ∈ names) : HasField members ("kind", .choice names) :=
  hasField_of_required? h fun _ hread => ⟨kind, hkind, text?_eq_some_iff.mp hread⟩

end

namespace ReportType

theorem hasField_of_adviceEntry {members : List (String × Json)} {entry : AdviceEntry}
    (h : AdviceEntry.ofJson? (.object members) = some entry) :
    ∀ field ∈ adviceEntry.fields members, HasField members field := by
  have hread := AdviceEntry.ofJson?_object_iff.mp h
  rw [fields, List.forall_mem_cons]
  cases entry with
  | generalNotice =>
      refine ⟨hasField_kind hread (by decide), ?_⟩
      rw [hread, if_neg (by decide), if_neg (by decide)]
      exact List.forall_mem_nil _
  | guideHeader guide =>
      obtain ⟨hkind, hguide⟩ := hread
      refine ⟨hasField_kind hkind (by decide), ?_⟩
      rw [if_pos hkind, List.forall_mem_singleton]
      exact hasField_text hguide
  | point guide text =>
      obtain ⟨hkind, hguide, htext⟩ := hread
      refine ⟨hasField_kind hkind (by decide), ?_⟩
      rw [hkind, if_neg (by decide), if_pos rfl, List.forall_mem_cons, List.forall_mem_singleton]
      exact ⟨hasField_text hguide, hasField_text htext⟩

/-- A record that has been read has its fields. -/
theorem hasField_of_read? {type : ReportType} (hrecord : type.isRecord = true)
    {members : List (String × Json)} {part : type.Part}
    (h : type.read? (.object members) = some part) :
    ∀ field ∈ type.fields members, HasField members field := by
  cases type <;>
    simp only [fields, form, fullRecord, Schema.members, Schema.plain, List.map_cons,
      List.map_nil, List.forall_mem_cons]
  case severity => cases hrecord
  case verdictStatus => cases hrecord
  case adviceEntry => exact List.forall_mem_cons.mp (hasField_of_adviceEntry h)
  case scanReport =>
    obtain ⟨hschema, htool, hrun, hverdict, hissues, hwarnings⟩ :=
      ScanReport.ofJson?_object_iff.mp h
    exact ⟨hasField_text hschema, hasField_reference toolMeta htool,
      hasField_reference runMeta hrun, hasField_reference verdict hverdict,
      hasField_references finding hissues, hasField_references finding hwarnings,
      List.forall_mem_nil _⟩
  case adviceReport =>
    obtain ⟨hschema, htool, hrun, htopics, hgeneral, hentries, htotal, htruncated, hguides⟩ :=
      AdviceReport.ofJson?_object_iff.mp h
    exact ⟨hasField_text hschema, hasField_reference toolMeta htool,
      hasField_reference runMeta hrun, hasField_texts htopics, hasField_boolean hgeneral,
      hasField_references adviceEntry hentries, hasField_count htotal, hasField_boolean htruncated,
      hasField_texts hguides, List.forall_mem_nil _⟩
  case runMeta =>
    obtain ⟨hstarted, hended, hduration⟩ := RunMeta.ofJson?_object_iff.mp h
    refine ⟨hasField_of_required? hstarted fun _ => exists_string_of_stamp?, ?_,
      hasField_duration hduration, List.forall_mem_nil _⟩
    exact hasField_of_optional? rfl hended (.inl rfl) fun _ _ hread =>
      .inr (exists_string_of_stamp? hread)
  case finding =>
    obtain ⟨hseverity, hcheck, hcode, hmessage, hhelp, hurl⟩ := Finding.ofJson?_object_iff.mp h
    exact ⟨hasField_reference severity hseverity, hasField_text hcheck, hasField_text hcode,
      hasField_text hmessage, hasField_optionalText hhelp, hasField_optionalText hurl,
      List.forall_mem_nil _⟩
  case verdict =>
    obtain ⟨hstatus, hcounts⟩ := Verdict.ofJson?_object_iff.mp h
    exact ⟨hasField_reference verdictStatus hstatus, hasField_reference verdictCounts hcounts,
      List.forall_mem_nil _⟩
  case verdictCounts =>
    obtain ⟨hissues, hwarnings⟩ := VerdictCounts.ofJson?_object_iff.mp h
    exact ⟨hasField_count hissues, hasField_count hwarnings, List.forall_mem_nil _⟩
  case toolMeta =>
    obtain ⟨hname, hversion⟩ := ToolMeta.ofJson?_object_iff.mp h
    exact ⟨hasField_text hname, hasField_text hversion, List.forall_mem_nil _⟩

end ReportType

end ViewAudit
