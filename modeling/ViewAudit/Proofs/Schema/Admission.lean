import ViewAudit.Proofs.Report.Field
import ViewAudit.Proofs.Report.RoundTrip
import ViewAudit.Proofs.Schema.Form

/-!
The published schemas admit all that is read and written. This is shown of values
whose records are objects and whose names are strings; readers also take an array
for a record and an object for a name, which the schemas do not mention.
-/

namespace ViewAudit

namespace Json

def IsObject (value : Json) : Prop := ∃ members, value = .object members

def IsString (value : Json) : Prop := ∃ text, value = .string text

/-- Whether all that an object has under a name is so. -/
def EachMember (name : String) (holds : Json → Prop) (value : Json) : Prop :=
  ∀ members, value = .object members → ∀ part, (name, part) ∈ members → holds part

def EachItem (holds : Json → Prop) (value : Json) : Prop :=
  ∀ items, value = .array items → ∀ item ∈ items, holds item

end Json

namespace ReportType

/-! ## Plain values -/

def IsPlainFinding (value : Json) : Prop :=
  value.IsObject ∧ value.EachMember "severity" Json.IsString

def IsPlainVerdict (value : Json) : Prop :=
  value.IsObject ∧ value.EachMember "status" Json.IsString ∧
    value.EachMember "counts" Json.IsObject

/-- A value that gives every record of a type as an object and every name as a
string. -/
def IsPlain : ReportType → Json → Prop
  | severity, value | verdictStatus, value => value.IsString
  | toolMeta, value | runMeta, value | verdictCounts, value | adviceEntry, value =>
      value.IsObject
  | finding, value => IsPlainFinding value
  | verdict, value => IsPlainVerdict value
  | scanReport, value =>
      value.IsObject ∧ value.EachMember "tool" Json.IsObject ∧
        value.EachMember "run" Json.IsObject ∧ value.EachMember "verdict" IsPlainVerdict ∧
        value.EachMember "issues" (Json.EachItem IsPlainFinding) ∧
        value.EachMember "warnings" (Json.EachItem IsPlainFinding)
  | adviceReport, value =>
      value.IsObject ∧ value.EachMember "tool" Json.IsObject ∧
        value.EachMember "run" Json.IsObject ∧
        value.EachMember "recommendations" (Json.EachItem Json.IsObject)

/-- What a reference to a type is to admit. -/
def Admits (follow : String → Json → Bool) (type : ReportType) : Prop :=
  ∀ value, type.IsPlain value → type.accepts value = true →
    follow ("#/$defs/" ++ type.name) value = true

end ReportType

namespace Schema

open Json

variable {follow : String → Json → Bool} {value : Json}

/-! ## Parts that have been read -/

theorem keepsTo_text_of_text? {text : String} (h : value.text? = some text) :
    keepsTo follow Schema.text.json value = true :=
  keepsTo_text_iff.mpr ⟨text, text?_eq_some_iff.mp h⟩

theorem keepsTo_boolean_of_bool? {answer : Bool} (h : value.bool? = some answer) :
    keepsTo follow boolean.json value = true :=
  keepsTo_boolean_iff.mpr ⟨answer, bool?_eq_some_iff.mp h⟩

theorem isNatural_of_natural? {last n : Nat} (h : value.natural? last = some n) :
    IsNatural value := by
  obtain ⟨-, rfl⟩ := eq_natural_of_natural? h
  refine ⟨_, rfl, ?_, ?_⟩
  · rw [JsonNumber.exact, Rat.isInt, Rat.den_intCast]
    rfl
  · rw [JsonNumber.exact]
    exact_mod_cast Int.natCast_nonneg n

theorem keepsTo_natural_of_count? {bits : Nat} {count : UInt32} (h : count? value = some count) :
    keepsTo follow (natural bits).json value = true := by
  obtain ⟨n, hn, -⟩ := Option.map_eq_some_iff.mp h
  exact keepsTo_natural_iff.mpr (isNatural_of_natural? hn)

theorem keepsTo_list_of_list? {α : Type} {read : Json → Option α} {form : Schema}
    {parts : List α} (h : list? read value = some parts)
    (hread : ∀ item part, read item = some part → keepsTo follow form.json item = true) :
    keepsTo follow (list form).json value = true := by
  obtain ⟨items, rfl, hitems⟩ := exists_of_list? h
  refine keepsTo_list_iff.mpr ⟨items, rfl, ?_⟩
  intro item hitem
  obtain ⟨part, hpart⟩ := hitems item hitem
  exact hread item part hpart

/-! ## Members that have been read -/

/-- What an object has under a name keeps to a form. -/
def AgreesAt (follow : String → Json → Bool) (fields : List (String × Json)) (name : String)
    (form : Schema) : Prop :=
  ∀ part, (name, part) ∈ fields → keepsTo follow form.json part = true

/-- An object has something under a name, which keeps to a form. -/
def HasAt (follow : String → Json → Bool) (fields : List (String × Json)) (name : String)
    (form : Schema) : Prop :=
  (∃ part, (name, part) ∈ fields) ∧ AgreesAt follow fields name form

variable {fields : List (String × Json)} {name : String} {form : Schema}

theorem hasAt_described (description : String) (h : HasAt follow fields name form) :
    HasAt follow fields name (described description form) := by
  refine ⟨h.1, ?_⟩
  intro part hpart
  rw [keepsTo_described]
  exact h.2 part hpart

theorem keepsTo_fullRecord {members : List (String × Schema)}
    (h : ∀ member ∈ members, HasAt follow fields member.1 member.2) :
    keepsTo follow (ReportType.fullRecord members).json (.object fields) = true := by
  refine keepsTo_record_iff.mpr ⟨fields, rfl, fun member hmember => (h member hmember).2, ?_⟩
  intro name hname
  obtain ⟨member, hmember, rfl⟩ := List.mem_map.mp hname
  exact (h member hmember).1

theorem hasAt_of_required? {α : Type} {read : Json → Option α} {part : α}
    (h : required? read name fields = some part)
    (hread : ∀ value, (name, value) ∈ fields → read value = some part →
      keepsTo follow form.json value = true) : HasAt follow fields name form := by
  refine ⟨exists_of_required? h, ?_⟩
  intro value hvalue
  exact hread value hvalue (read_of_required? h hvalue)

theorem hasAt_text {text : String} (h : required? text? name fields = some text) :
    HasAt follow fields name Schema.text :=
  hasAt_of_required? h fun _ _ => keepsTo_text_of_text?

theorem hasAt_boolean {answer : Bool} (h : required? bool? name fields = some answer) :
    HasAt follow fields name boolean :=
  hasAt_of_required? h fun _ _ => keepsTo_boolean_of_bool?

theorem hasAt_natural {bits : Nat} {count : UInt32}
    (h : required? count? name fields = some count) : HasAt follow fields name (natural bits) :=
  hasAt_of_required? h fun _ _ => keepsTo_natural_of_count?

theorem hasAt_texts {texts : List String}
    (h : required? (list? text?) name fields = some texts) :
    HasAt follow fields name (list .text) := by
  apply hasAt_of_required? h
  intro value _ hvalue
  exact keepsTo_list_of_list? hvalue fun _ _ => keepsTo_text_of_text?

theorem hasAt_constant (h : required? text? "kind" fields = some name) :
    HasAt follow fields "kind" (constant name) := by
  apply hasAt_of_required? h
  intro value _ hvalue
  exact keepsTo_constant_iff.mpr (text?_eq_some_iff.mp hvalue)

theorem agreesAt_optionalText {text : Option String}
    (h : optional? text? name fields = some text) :
    AgreesAt follow fields name optionalText := by
  intro value hvalue
  apply keepsTo_optionalText_iff.mpr
  rcases read_of_optional? h hvalue with ⟨hnull, -⟩ | ⟨found, hfound, -⟩
  · exact Or.inl hnull
  · exact Or.inr ⟨found, text?_eq_some_iff.mp hfound⟩

theorem agreesAt_optionalNatural {bits : Nat} {duration : Option UInt64}
    (h : optional? RunMeta.duration? name fields = some duration) :
    AgreesAt follow fields name (optionalNatural bits) := by
  intro value hvalue
  apply keepsTo_optionalNatural_iff.mpr
  rcases read_of_optional? h hvalue with ⟨hnull, -⟩ | ⟨found, hfound, -⟩
  · exact Or.inl hnull
  · obtain ⟨n, hn, -⟩ := Option.map_eq_some_iff.mp hfound
    exact Or.inr (isNatural_of_natural? hn)

/-- A member of a published type, read and plain. -/
theorem hasAt_reference {type : ReportType} {part : type.Part} (hadmits : type.Admits follow)
    (h : required? type.read? name fields = some part)
    (hplain : ∀ value, (name, value) ∈ fields → type.IsPlain value) :
    HasAt follow fields name (reference type) := by
  apply hasAt_of_required? h
  intro value hvalue hread
  rw [keepsTo_reference]
  exact hadmits value (hplain value hvalue) (Option.isSome_iff_exists.mpr ⟨part, hread⟩)

theorem hasAt_references {type : ReportType} {parts : List type.Part}
    (hadmits : type.Admits follow)
    (h : required? (list? type.read?) name fields = some parts)
    (hplain : ∀ value, (name, value) ∈ fields → value.EachItem type.IsPlain) :
    HasAt follow fields name (list (reference type)) := by
  apply hasAt_of_required? h
  intro value hvalue hread
  obtain ⟨items, rfl, hitems⟩ := exists_of_list? hread
  refine keepsTo_list_iff.mpr ⟨items, rfl, ?_⟩
  intro item hitem
  rw [keepsTo_reference]
  exact hadmits item (hplain _ hvalue items rfl item hitem)
    (Option.isSome_iff_exists.mpr (hitems item hitem))

end Schema

namespace ReportType

open Schema

variable {follow : String → Json → Bool} {value : Json}

/-! ## Types -/

theorem keepsTo_toolMeta {tool : ToolMeta} (hplain : value.IsObject)
    (h : ToolMeta.ofJson? value = some tool) :
    Json.keepsTo follow toolMeta.form.json value = true := by
  obtain ⟨fields, rfl⟩ := hplain
  obtain ⟨hname, hversion⟩ := ToolMeta.ofJson?_object_iff.mp h
  apply keepsTo_fullRecord
  simp only [List.forall_mem_cons]
  exact ⟨hasAt_text hname, hasAt_text hversion, List.forall_mem_nil _⟩

theorem keepsTo_verdictCounts {counts : VerdictCounts} (hplain : value.IsObject)
    (h : VerdictCounts.ofJson? value = some counts) :
    Json.keepsTo follow verdictCounts.form.json value = true := by
  obtain ⟨fields, rfl⟩ := hplain
  obtain ⟨hissues, hwarnings⟩ := VerdictCounts.ofJson?_object_iff.mp h
  apply keepsTo_fullRecord
  simp only [List.forall_mem_cons]
  exact ⟨hasAt_natural hissues, hasAt_natural hwarnings, List.forall_mem_nil _⟩

theorem keepsTo_verdict {found : Verdict} (hstatus : verdictStatus.Admits follow)
    (hcounts : verdictCounts.Admits follow) (hplain : IsPlainVerdict value)
    (h : Verdict.ofJson? value = some found) :
    Json.keepsTo follow verdict.form.json value = true := by
  obtain ⟨⟨fields, rfl⟩, hplainStatus, hplainCounts⟩ := hplain
  obtain ⟨hreadStatus, hreadCounts⟩ := Verdict.ofJson?_object_iff.mp h
  apply keepsTo_fullRecord
  simp only [List.forall_mem_cons]
  refine ⟨?_, ?_, List.forall_mem_nil _⟩
  · exact hasAt_reference hstatus hreadStatus (hplainStatus fields rfl)
  · exact hasAt_reference hcounts hreadCounts (hplainCounts fields rfl)

theorem keepsTo_choice_of_named? {α : Type} {label : α → String} {parts : List α} {part : α}
    (hplain : value.IsString) (h : named? label parts value = some part) :
    Json.keepsTo follow (choice (parts.map label)).json value = true := by
  obtain ⟨text, rfl⟩ := hplain
  change parts.find? (label · == text) = some part at h
  have hlabel := List.find?_some h
  rw [beq_iff_eq] at hlabel
  have hpart : part ∈ parts := List.mem_of_find?_eq_some h
  exact keepsTo_choice_iff.mpr ⟨text, List.mem_map.mpr ⟨part, hpart, hlabel⟩, rfl⟩

theorem keepsTo_finding {found : Finding} (hseverity : severity.Admits follow)
    (hplain : IsPlainFinding value) (h : Finding.ofJson? value = some found) :
    Json.keepsTo follow finding.form.json value = true := by
  obtain ⟨⟨fields, rfl⟩, hplainSeverity⟩ := hplain
  obtain ⟨hreadSeverity, hcheck, hcode, hmessage, hhelp, hurl⟩ := Finding.ofJson?_object_iff.mp h
  have hatSeverity : HasAt follow fields "severity" (reference severity) :=
    hasAt_reference hseverity hreadSeverity (hplainSeverity fields rfl)
  apply keepsTo_record_iff.mpr
  refine ⟨fields, rfl, ?_, ?_⟩
  · simp only [List.forall_mem_cons]
    exact ⟨hatSeverity.2, (hasAt_text hcheck).2, (hasAt_text hcode).2, (hasAt_text hmessage).2,
      agreesAt_optionalText hhelp, agreesAt_optionalText hurl, List.forall_mem_nil _⟩
  · simp only [List.forall_mem_cons]
    exact ⟨hatSeverity.1, Json.exists_of_required? hcheck, Json.exists_of_required? hcode,
      Json.exists_of_required? hmessage, List.forall_mem_nil _⟩

theorem keepsTo_runMeta {run : RunMeta} (hplain : value.IsObject)
    (h : RunMeta.ofJson? value = some run) :
    Json.keepsTo follow runMeta.form.json value = true := by
  obtain ⟨fields, rfl⟩ := hplain
  obtain ⟨hstarted, hended, hduration⟩ := RunMeta.ofJson?_object_iff.mp h
  have hstring {stamp : Stamp} {part : Json} (hpart : RunMeta.stamp? part = some stamp) :
      part.IsString := by
    obtain ⟨text, htext, -⟩ := Option.bind_eq_some_iff.mp hpart
    exact ⟨text, Json.text?_eq_some_iff.mp htext⟩
  apply keepsTo_record_iff.mpr
  refine ⟨fields, rfl, ?_, ?_⟩
  · simp only [List.forall_mem_cons]
    refine ⟨?_, ?_, agreesAt_optionalNatural hduration, List.forall_mem_nil _⟩
    · intro part hpart
      exact keepsTo_text_iff.mpr (hstring (Json.read_of_required? hstarted hpart))
    · intro part hpart
      apply keepsTo_optionalText_iff.mpr
      rcases Json.read_of_optional? hended hpart with ⟨hnull, -⟩ | ⟨stamp, hstamp, -⟩
      · exact Or.inl hnull
      · exact Or.inr (hstring hstamp)
  · simp only [List.forall_mem_cons]
    exact ⟨Json.exists_of_required? hstarted, List.forall_mem_nil _⟩

theorem keepsTo_eq_false_of_kind {kind other : String} {fields : List (String × Json)}
    {members : List (String × Schema)} (h : Json.required? Json.text? "kind" fields = some kind)
    (hne : kind ≠ other) :
    Json.keepsTo follow (fullRecord (("kind", .constant other) :: members)).json (.object fields) =
      false := by
  rw [Bool.eq_false_iff]
  intro hkeeps
  obtain ⟨_, hfields, hmembers, -⟩ := keepsTo_record_iff.mp hkeeps
  obtain rfl := Json.object.inj hfields
  obtain ⟨part, hpart⟩ := Json.exists_of_required? h
  have hother := keepsTo_constant_iff.mp (hmembers _ List.mem_cons_self part hpart)
  have hread := Json.text?_eq_some_iff.mp (Json.read_of_required? h hpart)
  rw [hother] at hread
  exact hne (Json.string.inj hread).symm

/-- The kind of an entry picks one form, and rules the others out. -/
theorem keepsTo_adviceEntry {entry : AdviceEntry} (hplain : value.IsObject)
    (h : AdviceEntry.ofJson? value = some entry) :
    Json.keepsTo follow adviceEntry.form.json value = true := by
  obtain ⟨fields, rfl⟩ := hplain
  have hread := AdviceEntry.ofJson?_object_iff.mp h
  rw [form, keepsTo_described, keepsTo_oneOf_iff]
  simp only [List.filter_cons, keepsTo_described, List.filter_nil]
  cases entry with
  | generalNotice =>
      have hkeeps : Json.keepsTo follow (fullRecord [("kind", .constant "general_notice")]).json
          (.object fields) = true := by
        apply keepsTo_fullRecord
        simp only [List.forall_mem_cons]
        exact ⟨hasAt_constant hread, List.forall_mem_nil _⟩
      rw [if_pos hkeeps, keepsTo_eq_false_of_kind hread (by decide),
        keepsTo_eq_false_of_kind hread (by decide)]
      rfl
  | guideHeader guide =>
      obtain ⟨hkind, hguide⟩ := hread
      have hkeeps : Json.keepsTo follow
          (fullRecord [("kind", .constant "guide_header"), ("guide", .text)]).json
          (.object fields) = true := by
        apply keepsTo_fullRecord
        simp only [List.forall_mem_cons]
        exact ⟨hasAt_constant hkind, hasAt_text hguide, List.forall_mem_nil _⟩
      rw [if_pos hkeeps, keepsTo_eq_false_of_kind hkind (by decide),
        keepsTo_eq_false_of_kind hkind (by decide)]
      rfl
  | point guide text =>
      obtain ⟨hkind, hguide, htext⟩ := hread
      have hkeeps : Json.keepsTo follow
          (fullRecord [("kind", .constant "point"), ("guide", .text), ("text", .text)]).json
          (.object fields) = true := by
        apply keepsTo_fullRecord
        simp only [List.forall_mem_cons]
        exact ⟨hasAt_constant hkind, hasAt_text hguide, hasAt_text htext, List.forall_mem_nil _⟩
      rw [if_pos hkeeps, keepsTo_eq_false_of_kind hkind (by decide),
        keepsTo_eq_false_of_kind hkind (by decide)]
      rfl

theorem keepsTo_scanReport {report : ScanReport}
    (hadmits : ∀ type ∈ scanReport.form.references, type.Admits follow)
    (hplain : scanReport.IsPlain value) (h : ScanReport.ofJson? value = some report) :
    Json.keepsTo follow scanReport.form.json value = true := by
  obtain ⟨⟨fields, rfl⟩, hplainTool, hplainRun, hplainVerdict, hplainIssues, hplainWarnings⟩ :=
    hplain
  obtain ⟨hschema, htool, hrun, hverdict, hissues, hwarnings⟩ := ScanReport.ofJson?_object_iff.mp h
  have hfinding : finding.Admits follow := hadmits finding (by decide)
  rw [form, keepsTo_described]
  apply keepsTo_fullRecord
  simp only [List.forall_mem_cons]
  refine ⟨hasAt_described _ (hasAt_text hschema), ?_, ?_, ?_, ?_, ?_, List.forall_mem_nil _⟩
  · exact hasAt_reference (hadmits toolMeta (by decide)) htool (hplainTool fields rfl)
  · exact hasAt_reference (hadmits runMeta (by decide)) hrun (hplainRun fields rfl)
  · exact hasAt_reference (hadmits verdict (by decide)) hverdict (hplainVerdict fields rfl)
  · exact hasAt_references hfinding hissues (hplainIssues fields rfl)
  · exact hasAt_references hfinding hwarnings (hplainWarnings fields rfl)

theorem keepsTo_adviceReport {report : AdviceReport}
    (hadmits : ∀ type ∈ adviceReport.form.references, type.Admits follow)
    (hplain : adviceReport.IsPlain value) (h : AdviceReport.ofJson? value = some report) :
    Json.keepsTo follow adviceReport.form.json value = true := by
  obtain ⟨⟨fields, rfl⟩, hplainTool, hplainRun, hplainEntries⟩ := hplain
  obtain ⟨hschema, htool, hrun, htopics, hgeneral, hentries, htotal, htruncated, hguides⟩ :=
    AdviceReport.ofJson?_object_iff.mp h
  rw [form, keepsTo_described]
  apply keepsTo_fullRecord
  simp only [List.forall_mem_cons]
  refine ⟨hasAt_text hschema, ?_, ?_, hasAt_described _ (hasAt_texts htopics),
    hasAt_described _ (hasAt_boolean hgeneral), ?_, hasAt_described _ (hasAt_natural htotal),
    hasAt_boolean htruncated, hasAt_texts hguides, List.forall_mem_nil _⟩
  · exact hasAt_reference (hadmits toolMeta (by decide)) htool (hplainTool fields rfl)
  · exact hasAt_reference (hadmits runMeta (by decide)) hrun (hplainRun fields rfl)
  · exact hasAt_references (hadmits adviceEntry (by decide)) hentries (hplainEntries fields rfl)

/-- What is read as a type keeps to its form, if references admit what is read as
the types that they name. -/
theorem keepsTo_form {type : ReportType}
    (hadmits : ∀ other ∈ type.form.references, other.Admits follow) (hplain : type.IsPlain value)
    (haccepts : type.accepts value = true) : Json.keepsTo follow type.form.json value = true := by
  cases type <;> obtain ⟨part, hpart⟩ := Option.isSome_iff_exists.mp haccepts
  case scanReport => exact keepsTo_scanReport hadmits hplain hpart
  case adviceReport => exact keepsTo_adviceReport hadmits hplain hpart
  case runMeta => exact keepsTo_runMeta hplain hpart
  case finding => exact keepsTo_finding (hadmits severity (by decide)) hplain hpart
  case severity =>
    rw [form, keepsTo_described]
    exact keepsTo_choice_of_named? hplain hpart
  case adviceEntry => exact keepsTo_adviceEntry hplain hpart
  case verdict =>
    exact keepsTo_verdict (hadmits verdictStatus (by decide)) (hadmits verdictCounts (by decide))
      hplain hpart
  case verdictStatus => exact keepsTo_choice_of_named? hplain hpart
  case verdictCounts => exact keepsTo_verdictCounts hplain hpart
  case toolMeta => exact keepsTo_toolMeta hplain hpart

/-! ## Documents -/

/-- How many references are followed one within the other to tell whether a value
is of a type. -/
def height : ReportType → Nat
  | scanReport | adviceReport => 2
  | finding | verdict => 1
  | severity | verdictStatus | verdictCounts | toolMeta | runMeta | adviceEntry => 0

theorem height_lt_of_reference {type other : ReportType} (h : other ∈ type.form.references) :
    other.height < type.height := by
  have hall : ∀ type ∈ all, ∀ other ∈ type.form.references, other.height < type.height := by
    decide
  exact hall type (mem_all type) other h

/-- The references of a document admit what is read as the types that they name. -/
theorem admits_follow {root type : ReportType} {depth : Nat} (htype : type ∈ root.definitions)
    (hdepth : type.height < depth) : type.Admits (root.schemaDocument.follow depth) := by
  induction depth generalizing type with
  | zero => omega
  | succ depth ih =>
      intro value hplain haccepts
      rw [Json.follow, definition?_schemaDocument htype, Option.any_some]
      refine keepsTo_form ?_ hplain haccepts
      intro other hother
      have hheight := height_lt_of_reference hother
      exact ih (mem_definitions_of_definition htype hother) (by omega)

theorem isValid_of_accepts {type : ReportType} (hplain : type.IsPlain value)
    (haccepts : type.accepts value = true) : type.schemaDocument.IsValid value := by
  refine ⟨type.height, ?_⟩
  intro depth hdepth
  rw [keepsTo_schemaDocument]
  refine keepsTo_form ?_ hplain haccepts
  intro other hother
  have hheight := height_lt_of_reference hother
  exact admits_follow (mem_definitions_of_reference hother) (by omega)

/-! ## Written values -/

theorem eachMember_object {name : String} {holds : Json → Prop} {fields : List (String × Json)}
    (h : ∀ part, (name, part) ∈ fields → holds part) :
    (Json.object fields).EachMember name holds := by
  rintro _ ⟨⟩
  exact h

theorem isPlainFinding_toJson (found : Finding) : IsPlainFinding found.toJson := by
  refine ⟨⟨_, rfl⟩, eachMember_object ?_⟩
  intro part hpart
  obtain ⟨_, _, _, _, help, url⟩ := found
  cases help <;> cases url <;> simp [optionalMember] at hpart <;> exact ⟨_, hpart⟩

theorem isPlainVerdict_toJson (found : Verdict) : IsPlainVerdict found.toJson := by
  refine ⟨⟨_, rfl⟩, eachMember_object ?_, eachMember_object ?_⟩
  · simp [Json.IsString]
  · simp [Json.IsObject, VerdictCounts.toJson]

theorem eachItem_map {α : Type} {write : α → Json} {holds : Json → Prop}
    (h : ∀ part, holds (write part)) (parts : List α) :
    (Json.array (parts.map write)).EachItem holds := by
  rintro _ ⟨⟩ item hitem
  obtain ⟨part, -, rfl⟩ := List.mem_map.mp hitem
  exact h part

theorem isPlain_scanReport_members (report : ScanReport) :
    scanReport.IsPlain (.object report.members) := by
  have hfindings := eachItem_map isPlainFinding_toJson
  refine ⟨⟨_, rfl⟩, ?_, ?_, ?_, ?_, ?_⟩ <;> apply eachMember_object <;>
    simp only [ScanReport.members, List.mem_cons, Prod.mk.injEq]
  · simp [Json.IsObject, ToolMeta.toJson]
  · simp [Json.IsObject]
  · simp [isPlainVerdict_toJson]
  · simp [hfindings]
  · simp [hfindings]

theorem isPlain_adviceReport_members (report : AdviceReport) :
    adviceReport.IsPlain (.object report.members) := by
  have hobject (entry : AdviceEntry) : entry.toJson.IsObject := by
    cases entry <;> exact ⟨_, rfl⟩
  have hentries := eachItem_map hobject report.recommendations
  refine ⟨⟨_, rfl⟩, ?_, ?_, ?_⟩ <;> apply eachMember_object <;>
    simp only [AdviceReport.members, List.mem_cons, Prod.mk.injEq]
  · simp [Json.IsObject, ToolMeta.toJson]
  · simp [Json.IsObject]
  · simp [hentries]

end ReportType

/-- A value is valid against the schema of a type if it is read as one of that type
and gives records as objects and names as strings. So is every report and every
run with times that can be written, as it is written. -/
theorem schemas_admit_what_is_read_and_written :
    (∀ (type : ReportType) (value : Json), type.IsPlain value → type.accepts value = true →
      type.schemaDocument.IsValid value) ∧
    (∀ report : ScanReport, report.run.IsWritable →
      ∃ value, report.toJson = .ok value ∧ ReportType.scanReport.schemaDocument.IsValid value) ∧
    (∀ report : AdviceReport, report.run.IsWritable →
      ∃ value, report.toJson = .ok value ∧ ReportType.adviceReport.schemaDocument.IsValid value) ∧
    (∀ run : RunMeta, run.IsWritable →
      ∃ value, run.toJson = .ok value ∧ ReportType.runMeta.schemaDocument.IsValid value) := by
  refine ⟨?_, ?_, ?_, ?_⟩
  · intro type value hplain haccepts
    exact ReportType.isValid_of_accepts hplain haccepts
  · intro report h
    refine ⟨_, report.writesRun.eq_ok h, ?_⟩
    apply ReportType.isValid_of_accepts (ReportType.isPlain_scanReport_members report)
    rw [ReportType.accepts, ReportType.read?, ScanReport.ofJson?_members h]
    rfl
  · intro report h
    refine ⟨_, report.writesRun.eq_ok h, ?_⟩
    apply ReportType.isValid_of_accepts (ReportType.isPlain_adviceReport_members report)
    rw [ReportType.accepts, ReportType.read?, AdviceReport.ofJson?_members h]
    rfl
  · intro run h
    have hplain : ReportType.runMeta.IsPlain (.object run.members) := ⟨_, rfl⟩
    refine ⟨_, RunMeta.toJson_of_isWritable h, ?_⟩
    apply ReportType.isValid_of_accepts hplain
    rw [ReportType.accepts, ReportType.read?, RunMeta.ofJson?_members h]
    rfl

/-- A report with members that the schema does not mention and with null for what
is absent, one of whose entries has members of another kind. -/
theorem report_with_foreign_members_is_valid :
    let run : Json :=
      .object [("ended_at", .null), ("host", .array []),
        ("started_at", .string "2016-12-31t23:59:60z"), ("duration_ms", .null)]
    let entry : Json :=
      .object [("text", .null), ("kind", .string "guide_header"), ("guide", .string "")]
    let value : Json :=
      .object [("loaded_guides", .array []), ("schema", .string ""), ("run", run),
        ("tool", .object [("version", .string ""), ("name", .string "")]), ("topics", .array []),
        ("general", .bool true), ("recommendations", .array [entry]),
        ("recommendations_total", .number (.integer 7)), ("truncated", .bool false),
        ("run ", .null)]
    let written : RunMeta := ⟨⟨⟨0, 2, 29, by decide, by decide⟩, ⟨0, 0, 0, 1⟩, -60⟩, none, some 0⟩
    ReportType.adviceReport.schemaDocument.IsValid value ∧
      ReportType.runMeta.schemaDocument.IsValid run ∧
      ∃ value, written.toJson = .ok value ∧ ReportType.runMeta.schemaDocument.IsValid value := by
  intro run entry value written
  obtain ⟨hvalid, -, -, hwritten⟩ := schemas_admit_what_is_read_and_written
  refine ⟨hvalid .adviceReport value ?_ (by rfl), hvalid .runMeta run ⟨_, rfl⟩ (by rfl),
    hwritten written (by decide)⟩
  refine ⟨⟨_, rfl⟩, ?_, ?_, ?_⟩ <;> apply ReportType.eachMember_object
  · simp [Json.IsObject]
  · simp [Json.IsObject, run]
  · simp [Json.EachItem, Json.IsObject, entry]

end ViewAudit
