import ViewAudit.Proofs.Json.Equality
import ViewAudit.Proofs.Report.RoundTrip
import ViewAudit.Report.Mask

/-!
What of a report depends on the clock. Reports of two runs on one text are the
same text for a reader, and in JSON format they are equal once they are masked,
if the runs have the same fields. Masking hides nothing else: reports that are
equal then agree in everything but the values that were masked.
-/

namespace ViewAudit

/-! ## Masked values -/

@[simp]
theorem maskTimes_object (members : List (String × Json)) :
    maskTimes (.object members) = .object (maskTimesInMembers members) := rfl

@[simp]
theorem maskTimes_string (text : String) : maskTimes (.string text) = .string text := rfl

@[simp]
theorem maskTimes_bool (value : Bool) : maskTimes (.bool value) = .bool value := rfl

@[simp]
theorem maskTimes_natural (n : Nat) : maskTimes (.natural n) = .natural n := rfl

theorem maskTimesInItems_eq_map (items : List Json) :
    maskTimesInItems items = items.map maskTimes := by
  induction items with
  | nil => rfl
  | cons item items ih => exact congrArg (maskTimes item :: ·) ih

theorem maskTimes_array_map {α : Type} {write : α → Json}
    (h : ∀ part, maskTimes (write part) = write part) (parts : List α) :
    maskTimes (.array (parts.map write)) = .array (parts.map write) := by
  change Json.array (maskTimesInItems (parts.map write)) = _
  rw [maskTimesInItems_eq_map, List.map_map]
  congr 1
  exact List.map_congr_left fun part _ => h part

theorem Finding.maskTimes_toJson (finding : Finding) :
    maskTimes finding.toJson = finding.toJson := by
  obtain ⟨severity, checkId, code, message, help, url⟩ := finding
  cases help <;> cases url <;> rfl

theorem AdviceEntry.maskTimes_toJson (entry : AdviceEntry) :
    maskTimes entry.toJson = entry.toJson := by
  cases entry <;> rfl

theorem Verdict.maskTimes_toJson (verdict : Verdict) :
    maskTimes verdict.toJson = verdict.toJson := rfl

theorem maskTimes_strings (texts : List String) :
    maskTimes (.strings texts) = .strings texts :=
  maskTimes_array_map maskTimes_string texts

/-- What is left of a time. -/
def maskedTime : Json := .string "__TIMESTAMP__"

/-- What is left of the members of a run: which of them there are. -/
def RunMeta.maskedMembers (run : RunMeta) : List (String × Json) :=
  [("started_at", maskedTime)] ++ optionalMember "ended_at" (fun _ => maskedTime) run.endedAt ++
  optionalMember "duration_ms" (fun _ => .natural 0) run.durationMs

def ToolMeta.maskedMembers (tool : ToolMeta) : List (String × Json) :=
  [("name", .string tool.name), ("version", .string "__VERSION__")]

theorem RunMeta.maskTimes_members (run : RunMeta) :
    maskTimes (.object run.members) = .object run.maskedMembers := by
  obtain ⟨startedAt, endedAt, durationMs⟩ := run
  cases endedAt <;> cases durationMs <;> rfl

theorem ToolMeta.maskTimes_maskToolVersion (tool : ToolMeta) :
    maskTimes (maskToolVersion tool.toJson) = .object tool.maskedMembers := rfl

/-- What is left of a report on a scan. -/
def ScanReport.maskedMembers (report : ScanReport) : List (String × Json) :=
  [("schema", .string report.schema), ("tool", .object report.tool.maskedMembers),
    ("run", .object report.run.maskedMembers), ("verdict", report.verdict.toJson),
    ("issues", .array (report.issues.map Finding.toJson)),
    ("warnings", .array (report.warnings.map Finding.toJson))]

/-- What is left of a report on advice. -/
def AdviceReport.maskedMembers (report : AdviceReport) : List (String × Json) :=
  [("schema", .string report.schema), ("tool", .object report.tool.maskedMembers),
    ("run", .object report.run.maskedMembers), ("topics", .strings report.topics),
    ("general", .bool report.general),
    ("recommendations", .array (report.recommendations.map AdviceEntry.toJson)),
    ("recommendations_total", .natural report.recommendationsTotal.toNat),
    ("truncated", .bool report.truncated), ("loaded_guides", .strings report.loadedGuides)]

theorem ScanReport.maskRun_members (report : ScanReport) :
    maskRun (.object report.members) = .object report.maskedMembers := by
  have hversion : maskVersion (.object report.members) = .object
      [("schema", .string report.schema), ("tool", maskToolVersion report.tool.toJson),
        ("run", .object report.run.members), ("verdict", report.verdict.toJson),
        ("issues", .array (report.issues.map Finding.toJson)),
        ("warnings", .array (report.warnings.map Finding.toJson))] := rfl
  have hfindings (findings : List Finding) :=
    maskTimes_array_map Finding.maskTimes_toJson findings
  rw [maskRun, hversion, maskTimes_object, ScanReport.maskedMembers]
  simp only [maskTimesInMembers, ToolMeta.maskTimes_maskToolVersion, RunMeta.maskTimes_members,
    Verdict.maskTimes_toJson, hfindings, maskTimes_string]
  rfl

theorem AdviceReport.maskRun_members (report : AdviceReport) :
    maskRun (.object report.members) = .object report.maskedMembers := by
  have hversion : maskVersion (.object report.members) = .object
      [("schema", .string report.schema), ("tool", maskToolVersion report.tool.toJson),
        ("run", .object report.run.members), ("topics", .strings report.topics),
        ("general", .bool report.general),
        ("recommendations", .array (report.recommendations.map AdviceEntry.toJson)),
        ("recommendations_total", .natural report.recommendationsTotal.toNat),
        ("truncated", .bool report.truncated),
        ("loaded_guides", .strings report.loadedGuides)] := rfl
  have hentries :=
    maskTimes_array_map AdviceEntry.maskTimes_toJson report.recommendations
  rw [maskRun, hversion, maskTimes_object, AdviceReport.maskedMembers]
  simp only [maskTimesInMembers, ToolMeta.maskTimes_maskToolVersion, RunMeta.maskTimes_members,
    maskTimes_strings, hentries, maskTimes_string, maskTimes_bool, maskTimes_natural]
  rfl

/-! ## Equality of what is left -/

theorem Severity.name_injective : Function.Injective Severity.name := by
  intro first second h
  have hread := Severity.ofJson?_name first
  rw [h, Severity.ofJson?_name] at hread
  exact (Option.some.inj hread).symm

theorem VerdictStatus.name_injective : Function.Injective VerdictStatus.name := by
  intro first second h
  have hread := VerdictStatus.ofJson?_name first
  rw [h, VerdictStatus.ofJson?_name] at hread
  exact (Option.some.inj hread).symm

theorem optional_eq_of_same {members others : List (String × Json)}
    (h : Json.same (.object members) (.object others) = true) {name : String}
    {value other : Option String}
    (hvalue : members.filter (·.1 == name) = optionalMember name .string value)
    (hother : others.filter (·.1 == name) = optionalMember name .string other) :
    value = other := by
  have hnames := Json.exists_name_iff_of_same h name
  have hexists (listed : List (String × Json)) :
      (∃ member ∈ listed, member.1 = name) ↔ listed.filter (·.1 == name) ≠ [] := by
    simp [List.filter_eq_nil_iff]
  rw [hexists, hexists, hvalue, hother] at hnames
  cases value with
  | none =>
      cases other with
      | none => rfl
      | some text => exact absurd rfl (hnames.mpr (List.cons_ne_nil _ _))
  | some text =>
      cases other with
      | none => exact absurd rfl (hnames.mp (List.cons_ne_nil _ _))
      | some text' => rw [Json.same_strings_iff.mp (Json.same_of_filter h hvalue hother)]

theorem Finding.eq_of_same {first second : Finding}
    (h : Json.same first.toJson second.toJson = true) : first = second := by
  have htext (name : String) {text other : String}
      (htext : first.members.filter (·.1 == name) = [(name, .string text)])
      (hother : second.members.filter (·.1 == name) = [(name, .string other)]) : text = other :=
    Json.same_strings_iff.mp (Json.same_of_filter h htext hother)
  have hoptional (name : String) {value other : Option String}
      (hvalue : first.members.filter (·.1 == name) = optionalMember name .string value)
      (hother : second.members.filter (·.1 == name) = optionalMember name .string other) :
      value = other :=
    optional_eq_of_same h hvalue hother
  have hname : first.severity.name = second.severity.name := by
    apply htext "severity" <;> simp [Finding.members, filter_optionalMember_of_ne]
  have hseverity := Severity.name_injective hname
  have hcheckId : first.checkId = second.checkId := by
    apply htext "check_id" <;> simp [Finding.members, filter_optionalMember_of_ne]
  have hcode : first.code = second.code := by
    apply htext "code" <;> simp [Finding.members, filter_optionalMember_of_ne]
  have hmessage : first.message = second.message := by
    apply htext "message" <;> simp [Finding.members, filter_optionalMember_of_ne]
  have hhelp : first.help = second.help := by
    apply hoptional "help" <;>
      simp [Finding.members, filter_optionalMember_self, filter_optionalMember_of_ne]
  have hurl : first.url = second.url := by
    apply hoptional "url" <;>
      simp [Finding.members, filter_optionalMember_self, filter_optionalMember_of_ne]
  cases first
  cases second
  rw [Finding.mk.injEq]
  exact ⟨hseverity, hcheckId, hcode, hmessage, hhelp, hurl⟩

theorem AdviceEntry.eq_of_same {first second : AdviceEntry}
    (h : Json.same first.toJson second.toJson = true) : first = second := by
  cases first <;> cases second <;> simp_all [AdviceEntry.toJson, Json.same_object_iff]

theorem Verdict.eq_of_same {first second : Verdict}
    (h : Json.same first.toJson second.toJson = true) : first = second := by
  obtain ⟨status, issues, warnings⟩ := first
  obtain ⟨status', issues', warnings'⟩ := second
  simpa [Verdict.toJson, VerdictCounts.toJson, Json.same_object_iff,
    VerdictStatus.name_injective.eq_iff, UInt32.toNat_inj] using h

theorem ToolMeta.name_eq_of_same {first second : ToolMeta}
    (h : Json.same (.object first.maskedMembers) (.object second.maskedMembers) = true) :
    first.name = second.name := by
  simpa [ToolMeta.maskedMembers, Json.same_object_iff] using h

/-- Two runs with values in the same fields, whatever the values are. -/
structure RunMeta.HasFieldsOf (run other : RunMeta) : Prop where
  endedAt : run.endedAt.isSome = other.endedAt.isSome
  durationMs : run.durationMs.isSome = other.durationMs.isSome

theorem RunMeta.exists_endedAt_iff (run : RunMeta) :
    (∃ member ∈ run.maskedMembers, member.1 = "ended_at") ↔ run.endedAt.isSome = true := by
  obtain ⟨startedAt, endedAt, durationMs⟩ := run
  cases endedAt <;> cases durationMs <;> simp [RunMeta.maskedMembers, optionalMember]

theorem RunMeta.exists_durationMs_iff (run : RunMeta) :
    (∃ member ∈ run.maskedMembers, member.1 = "duration_ms") ↔ run.durationMs.isSome = true := by
  obtain ⟨startedAt, endedAt, durationMs⟩ := run
  cases endedAt <;> cases durationMs <;> simp [RunMeta.maskedMembers, optionalMember]

theorem RunMeta.hasFieldsOf_of_same {run other : RunMeta}
    (h : Json.same (.object run.maskedMembers) (.object other.maskedMembers) = true) :
    run.HasFieldsOf other where
  endedAt := by
    rw [Bool.eq_iff_iff, ← RunMeta.exists_endedAt_iff, ← RunMeta.exists_endedAt_iff]
    exact Json.exists_name_iff_of_same h "ended_at"
  durationMs := by
    rw [Bool.eq_iff_iff, ← RunMeta.exists_durationMs_iff, ← RunMeta.exists_durationMs_iff]
    exact Json.exists_name_iff_of_same h "duration_ms"

theorem RunMeta.maskedMembers_congr {run other : RunMeta} (h : run.HasFieldsOf other) :
    run.maskedMembers = other.maskedMembers := by
  have hfield {α : Type} (name : String) (mask : Json) {value value' : Option α}
      (hsome : value.isSome = value'.isSome) :
      optionalMember name (fun _ => mask) value = optionalMember name (fun _ => mask) value' := by
    cases value <;> cases value' <;> first | rfl | cases hsome
  rw [RunMeta.maskedMembers, RunMeta.maskedMembers, hfield "ended_at" maskedTime h.endedAt,
    hfield "duration_ms" (.natural 0) h.durationMs]

/-- Two reports on scans that differ at most in the version of the tool and in
the values of the run. -/
structure ScanReport.AgreesWith (first second : ScanReport) : Prop where
  schema : first.schema = second.schema
  toolName : first.tool.name = second.tool.name
  run : first.run.HasFieldsOf second.run
  verdict : first.verdict = second.verdict
  issues : first.issues = second.issues
  warnings : first.warnings = second.warnings

/-- Two reports on advice that differ at most in the version of the tool and in
the values of the run. -/
structure AdviceReport.AgreesWith (first second : AdviceReport) : Prop where
  schema : first.schema = second.schema
  toolName : first.tool.name = second.tool.name
  run : first.run.HasFieldsOf second.run
  topics : first.topics = second.topics
  general : first.general = second.general
  recommendations : first.recommendations = second.recommendations
  recommendationsTotal : first.recommendationsTotal = second.recommendationsTotal
  truncated : first.truncated = second.truncated
  loadedGuides : first.loadedGuides = second.loadedGuides

theorem ScanReport.agreesWith_of_same {first second : ScanReport}
    (h : Json.same (.object first.maskedMembers) (.object second.maskedMembers) = true) :
    first.AgreesWith second := by
  obtain ⟨hmembers, -⟩ := Json.same_object_iff.mp h
  have hparts : first.schema = second.schema ∧
      Json.same (.object first.tool.maskedMembers) (.object second.tool.maskedMembers) = true ∧
      Json.same (.object first.run.maskedMembers) (.object second.run.maskedMembers) = true ∧
      Json.same first.verdict.toJson second.verdict.toJson = true ∧
      Json.same (.array (first.issues.map Finding.toJson))
        (.array (second.issues.map Finding.toJson)) = true ∧
      Json.same (.array (first.warnings.map Finding.toJson))
        (.array (second.warnings.map Finding.toJson)) = true := by
    simpa [ScanReport.maskedMembers] using hmembers
  obtain ⟨hschema, htool, hrun, hverdict, hissues, hwarnings⟩ := hparts
  exact
    { schema := hschema
      toolName := ToolMeta.name_eq_of_same htool
      run := RunMeta.hasFieldsOf_of_same hrun
      verdict := Verdict.eq_of_same hverdict
      issues := Json.eq_of_same_array_map (fun _ _ => Finding.eq_of_same) hissues
      warnings := Json.eq_of_same_array_map (fun _ _ => Finding.eq_of_same) hwarnings }

theorem AdviceReport.agreesWith_of_same {first second : AdviceReport}
    (h : Json.same (.object first.maskedMembers) (.object second.maskedMembers) = true) :
    first.AgreesWith second := by
  obtain ⟨hmembers, -⟩ := Json.same_object_iff.mp h
  have hparts : first.schema = second.schema ∧
      Json.same (.object first.tool.maskedMembers) (.object second.tool.maskedMembers) = true ∧
      Json.same (.object first.run.maskedMembers) (.object second.run.maskedMembers) = true ∧
      Json.same (.strings first.topics) (.strings second.topics) = true ∧
      first.general = second.general ∧
      Json.same (.array (first.recommendations.map AdviceEntry.toJson))
        (.array (second.recommendations.map AdviceEntry.toJson)) = true ∧
      first.recommendationsTotal = second.recommendationsTotal ∧
      first.truncated = second.truncated ∧
      Json.same (.strings first.loadedGuides) (.strings second.loadedGuides) = true := by
    simpa [AdviceReport.maskedMembers, UInt32.toNat_inj] using hmembers
  obtain ⟨hschema, htool, hrun, htopics, hgeneral, hentries, htotal, htruncated, hguides⟩ :=
    hparts
  exact
    { schema := hschema
      toolName := ToolMeta.name_eq_of_same htool
      run := RunMeta.hasFieldsOf_of_same hrun
      topics := Json.eq_of_same_strings htopics
      general := hgeneral
      recommendations := Json.eq_of_same_array_map (fun _ _ => AdviceEntry.eq_of_same) hentries
      recommendationsTotal := htotal
      truncated := htruncated
      loadedGuides := Json.eq_of_same_strings hguides }

theorem ScanReport.AgreesWith.maskedMembers_eq {first second : ScanReport}
    (h : first.AgreesWith second) : first.maskedMembers = second.maskedMembers := by
  rw [ScanReport.maskedMembers, ScanReport.maskedMembers, ToolMeta.maskedMembers,
    ToolMeta.maskedMembers, h.schema, h.toolName, RunMeta.maskedMembers_congr h.run, h.verdict,
    h.issues, h.warnings]

theorem AdviceReport.AgreesWith.maskedMembers_eq {first second : AdviceReport}
    (h : first.AgreesWith second) : first.maskedMembers = second.maskedMembers := by
  rw [AdviceReport.maskedMembers, AdviceReport.maskedMembers, ToolMeta.maskedMembers,
    ToolMeta.maskedMembers, h.schema, h.toolName, RunMeta.maskedMembers_congr h.run, h.topics,
    h.general, h.recommendations, h.recommendationsTotal, h.truncated, h.loadedGuides]

/-! ## Reports in JSON format -/

/-- What masking leaves of the value that a text stands for. -/
def maskText? (text : String) : Option Json := (Json.ofText? text).map maskRun

theorem WritesRun.maskText?_eq {value : Except Stamp.FormatError Json} {run : RunMeta}
    {members : List (String × Json)} (h : WritesRun value run members) {text : String}
    (htext : jsonText value = .ok text) : maskText? text = some (maskRun (.object members)) := by
  rw [maskText?, h.ofText?_eq htext, Option.map_some]

theorem ScanReport.maskText?_eq {report : ScanReport} {text : String}
    (h : report.render .json = .ok text) :
    maskText? text = some (.object report.maskedMembers) := by
  rw [report.writesRun.maskText?_eq h, ScanReport.maskRun_members]

theorem AdviceReport.maskText?_eq {report : AdviceReport} {text : String}
    (h : report.render .json = .ok text) :
    maskText? text = some (.object report.maskedMembers) := by
  rw [report.writesRun.maskText?_eq h, AdviceReport.maskRun_members]

/-- The clock shows in nothing but the values of a run. Reports on one text that
differ in their runs are the same for a reader, and equal in JSON format once
they are masked, if both can be written and have the same fields. Any two reports
that are equal as data then, in whatever order their members are taken, agree in
all that is not masked. -/
theorem clock_shows_in_run_only :
    (∀ (text : String) (run other : RunMeta),
      (ScanReport.ofText text run).render .text = (ScanReport.ofText text other).render .text ∧
      ∀ first second, (ScanReport.ofText text run).render .json = .ok first →
        (ScanReport.ofText text other).render .json = .ok second → run.HasFieldsOf other →
        ∃ masked, maskText? first = some masked ∧ maskText? second = some masked) ∧
    (∀ (text : String) (corpus : Corpus) (run other : RunMeta),
      (AdviceReport.ofText text corpus run).render .text =
        (AdviceReport.ofText text corpus other).render .text ∧
      ∀ first second, (AdviceReport.ofText text corpus run).render .json = .ok first →
        (AdviceReport.ofText text corpus other).render .json = .ok second →
        run.HasFieldsOf other →
        ∃ masked, maskText? first = some masked ∧ maskText? second = some masked) ∧
    (∀ report other : ScanReport, report.run.IsWritable → other.run.IsWritable →
      ∃ first second maskedFirst maskedSecond,
        report.render .json = .ok first ∧ other.render .json = .ok second ∧
        maskText? first = some maskedFirst ∧ maskText? second = some maskedSecond ∧
        (Json.same maskedFirst maskedSecond = true → report.AgreesWith other)) ∧
    (∀ report other : AdviceReport, report.run.IsWritable → other.run.IsWritable →
      ∃ first second maskedFirst maskedSecond,
        report.render .json = .ok first ∧ other.render .json = .ok second ∧
        maskText? first = some maskedFirst ∧ maskText? second = some maskedSecond ∧
        (Json.same maskedFirst maskedSecond = true → report.AgreesWith other)) := by
  refine ⟨?_, ?_, ?_, ?_⟩
  · intro text run other
    refine ⟨rfl, ?_⟩
    intro first second hfirst hsecond hfields
    have hagrees : (ScanReport.ofText text run).AgreesWith (ScanReport.ofText text other) :=
      ⟨rfl, rfl, hfields, rfl, rfl, rfl⟩
    refine ⟨_, ScanReport.maskText?_eq hfirst, ?_⟩
    rw [ScanReport.maskText?_eq hsecond, hagrees.maskedMembers_eq]
  · intro text corpus run other
    refine ⟨rfl, ?_⟩
    intro first second hfirst hsecond hfields
    have hagrees : (AdviceReport.ofText text corpus run).AgreesWith
        (AdviceReport.ofText text corpus other) :=
      ⟨rfl, rfl, hfields, rfl, rfl, rfl, rfl, rfl, rfl⟩
    refine ⟨_, AdviceReport.maskText?_eq hfirst, ?_⟩
    rw [AdviceReport.maskText?_eq hsecond, hagrees.maskedMembers_eq]
  · intro report other hreport hother
    have hfirst := report.writesRun.jsonText_eq hreport
    have hsecond := other.writesRun.jsonText_eq hother
    exact ⟨_, _, _, _, hfirst, hsecond, ScanReport.maskText?_eq hfirst,
      ScanReport.maskText?_eq hsecond, ScanReport.agreesWith_of_same⟩
  · intro report other hreport hother
    have hfirst := report.writesRun.jsonText_eq hreport
    have hsecond := other.writesRun.jsonText_eq hother
    exact ⟨_, _, _, _, hfirst, hsecond, AdviceReport.maskText?_eq hfirst,
      AdviceReport.maskText?_eq hsecond, AdviceReport.agreesWith_of_same⟩

/-- Masking makes a report equal to one of another day, and keeps it apart from
one that differs in whether a finding has a reference. -/
theorem later_run_is_masked :
    let early : Stamp := ⟨⟨2026, 1, 2, by decide, by decide⟩, ⟨3, 4, 5, 0⟩, 0⟩
    let late : Stamp := ⟨⟨9999, 12, 31, by decide, by decide⟩, ⟨23, 59, 59, 999999999⟩, -3600⟩
    let run : RunMeta := ⟨early, some early, some 7⟩
    let later : RunMeta := ⟨late, some late, some 0⟩
    let finding : Finding := ⟨.issue, "", "", "", none, none⟩
    let report : ScanReport := ⟨"", ⟨"", "0"⟩, run, ⟨.fail, ⟨1, 0⟩⟩, [finding], []⟩
    let other : ScanReport := { report with issues := [{ finding with url := some "" }] }
    (∃ first second masked, (ScanReport.ofText "Image(x)" run).render .json = .ok first ∧
      (ScanReport.ofText "Image(x)" later).render .json = .ok second ∧
      maskText? first = some masked ∧ maskText? second = some masked) ∧
    (∃ first second maskedFirst maskedSecond,
      report.render .json = .ok first ∧ other.render .json = .ok second ∧
      maskText? first = some maskedFirst ∧ maskText? second = some maskedSecond ∧
      Json.same maskedFirst maskedSecond = false) := by
  intro early late run later finding report other
  have hrun : run.IsWritable := by decide
  have hlater : later.IsWritable := by decide
  obtain ⟨hscans, -, hreports, -⟩ := clock_shows_in_run_only
  constructor
  · have hfirst := (ScanReport.ofText "Image(x)" run).writesRun.jsonText_eq hrun
    have hsecond := (ScanReport.ofText "Image(x)" later).writesRun.jsonText_eq hlater
    obtain ⟨-, hmasked⟩ := hscans "Image(x)" run later
    obtain ⟨masked, hmask, hmask'⟩ := hmasked _ _ hfirst hsecond ⟨rfl, rfl⟩
    exact ⟨_, _, masked, hfirst, hsecond, hmask, hmask'⟩
  · obtain ⟨first, second, maskedFirst, maskedSecond, hfirst, hsecond, hmask, hmask', hsame⟩ :=
      hreports report other hrun hrun
    refine ⟨first, second, maskedFirst, maskedSecond, hfirst, hsecond, hmask, hmask', ?_⟩
    apply eq_false_of_ne_true
    intro heq
    exact absurd (hsame heq).issues (by decide)

end ViewAudit
