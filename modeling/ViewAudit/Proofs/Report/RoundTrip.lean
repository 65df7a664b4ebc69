import ViewAudit.Proofs.Json.RoundTrip
import ViewAudit.Proofs.Time.RoundTrip
import ViewAudit.Report.Render

/-!
A report in JSON format keeps everything that is in the report: the text is read
as a value, and the value as the report.
-/

namespace ViewAudit

/-! ## Parts of values -/

theorem Json.list?_array_map {α : Type} {read : Json → Option α} {write : α → Json}
    (h : ∀ part, read (write part) = some part) (parts : List α) :
    Json.list? read (.array (parts.map write)) = some parts := by
  induction parts with
  | nil => rfl
  | cons part parts ih =>
      rw [Json.list?] at ih ⊢
      rw [List.map_cons, List.mapM_cons, h, ih]
      rfl

theorem Json.natural?_natural {last n : Nat} (h : n ≤ last) :
    (Json.natural n).natural? last = some n := by
  simp [Json.natural, Json.natural?, h]

theorem Json.readable_natural {room n : Nat} (h : n < UInt64.size) :
    Json.Readable room (Json.natural n) :=
  Json.Readable.integer ⟨by omega, Int.ofNat_lt.mpr h⟩

theorem count?_natural (count : UInt32) : count? (.natural count.toNat) = some count := by
  have hle : count.toNat ≤ UInt32.size - 1 := Nat.le_sub_one_of_lt count.toNat_lt_size
  rw [count?, Json.natural?_natural hle, Option.map_some, UInt32.ofNat_toNat]

theorem RunMeta.duration?_natural (ms : UInt64) :
    RunMeta.duration? (.natural ms.toNat) = some ms := by
  have hle : ms.toNat ≤ UInt64.size - 1 := Nat.le_sub_one_of_lt ms.toNat_lt_size
  rw [RunMeta.duration?, Json.natural?_natural hle, Option.map_some, UInt64.ofNat_toNat]

theorem Severity.ofJson?_name (severity : Severity) :
    Severity.ofJson? (.string severity.name) = some severity := by
  cases severity <;> decide

theorem VerdictStatus.ofJson?_name (status : VerdictStatus) :
    VerdictStatus.ofJson? (.string status.name) = some status := by
  cases status <;> decide

/-! ## Optional members -/

theorem filter_optionalMember_self {α : Type} (name : String) (write : α → Json)
    (value : Option α) :
    (optionalMember name write value).filter (·.1 == name) = optionalMember name write value := by
  cases value <;> simp [optionalMember]

theorem filter_optionalMember_of_ne {α : Type} {name other : String} (h : name ≠ other)
    (write : α → Json) (value : Option α) :
    (optionalMember name write value).filter (·.1 == other) = [] := by
  cases value <;> simp [optionalMember, h]

/-- A field is read from the member that is written for it, or from there being
no such member. -/
theorem Json.optional?_of_filter {α : Type} {read : Json → Option α} {write : α → Json}
    {name : String} {members : List (String × Json)} {value : Option α}
    (hmembers : members.filter (·.1 == name) = optionalMember name write value)
    (hread : ∀ part ∈ value, write part ≠ .null ∧ read (write part) = some part) :
    Json.optional? read name members = some value := by
  rw [Json.optional?, hmembers]
  cases value with
  | none => rfl
  | some part =>
      obtain ⟨hnull, hpart⟩ := hread part rfl
      rw [optionalMember]
      split
      case h_1 heq => cases heq
      case h_2 heq => exact absurd (Prod.mk.inj (List.cons.inj heq).1).2 hnull
      case h_3 heq =>
        obtain ⟨-, rfl⟩ := Prod.mk.inj (List.cons.inj heq).1
        rw [hpart, Option.map_some]
      case h_4 _ _ hone => exact absurd rfl (hone name (write part))

/-! ## Records -/

/-- What a finding is written as. -/
def Finding.members (finding : Finding) : List (String × Json) :=
  [("severity", .string finding.severity.name), ("check_id", .string finding.checkId),
    ("code", .string finding.code), ("message", .string finding.message)] ++
  optionalMember "help" .string finding.help ++ optionalMember "url" .string finding.url

theorem Finding.optional?_members {finding : Finding} {name : String} {value : Option String}
    (h : finding.members.filter (·.1 == name) = optionalMember name .string value) :
    Json.optional? Json.text? name finding.members = some value :=
  Json.optional?_of_filter h fun _ _ => ⟨nofun, rfl⟩

theorem Finding.ofJson?_toJson (finding : Finding) :
    Finding.ofJson? finding.toJson = some finding := by
  have hhelp : Json.optional? Json.text? "help" finding.members = some finding.help := by
    apply Finding.optional?_members
    simp [Finding.members, filter_optionalMember_self, filter_optionalMember_of_ne]
  have hurl : Json.optional? Json.text? "url" finding.members = some finding.url := by
    apply Finding.optional?_members
    simp [Finding.members, filter_optionalMember_self, filter_optionalMember_of_ne]
  have hrecord : finding.toJson.record?
      ["severity", "check_id", "code", "message", "help", "url"] = some finding.members := rfl
  simp only [Finding.ofJson?, hrecord, hhelp, hurl, Option.bind_eq_bind, Option.bind_some]
  simp [Finding.members, Json.required?, filter_optionalMember_of_ne, Json.text?,
    Severity.ofJson?_name]

theorem AdviceEntry.ofJson?_toJson (entry : AdviceEntry) :
    AdviceEntry.ofJson? entry.toJson = some entry := by
  cases entry <;>
    simp [AdviceEntry.ofJson?, AdviceEntry.toJson, Json.tagged?, Json.record?, Json.required?,
      Json.text?]

theorem VerdictCounts.ofJson?_toJson (counts : VerdictCounts) :
    VerdictCounts.ofJson? counts.toJson = some counts := by
  simp [VerdictCounts.ofJson?, VerdictCounts.toJson, Json.record?, Json.required?, count?_natural]

theorem Verdict.ofJson?_toJson (verdict : Verdict) :
    Verdict.ofJson? verdict.toJson = some verdict := by
  simp [Verdict.ofJson?, Verdict.toJson, Json.record?, Json.required?,
    VerdictStatus.ofJson?_name, VerdictCounts.ofJson?_toJson]

theorem ToolMeta.ofJson?_toJson (tool : ToolMeta) : ToolMeta.ofJson? tool.toJson = some tool := by
  simp [ToolMeta.ofJson?, ToolMeta.toJson, Json.record?, Json.required?, Json.text?]

/-! ## Runs -/

/-- A run whose times RFC 3339 can write. -/
structure RunMeta.IsWritable (run : RunMeta) : Prop where
  startedAt : run.startedAt.IsWritable
  endedAt : ∀ stamp ∈ run.endedAt, stamp.IsWritable

instance (run : RunMeta) : Decidable run.IsWritable :=
  decidable_of_iff (run.startedAt.IsWritable ∧ ∀ stamp ∈ run.endedAt, stamp.IsWritable)
    ⟨fun h => ⟨h.1, h.2⟩, fun h => ⟨h.startedAt, h.endedAt⟩⟩

theorem readable_optionalMember {α : Type} {room : Nat} {write : α → Json}
    (h : ∀ value, Json.Readable room (write value)) (name : String) (value : Option α) :
    ∀ member ∈ optionalMember name write value, Json.Readable room member.2 := by
  intro member hmember
  cases value with
  | none => cases hmember
  | some value =>
      rw [List.mem_singleton.mp hmember]
      exact h value

/-- The written form of a point in time that has one. -/
def writtenStamp (stamp : Stamp) : Json := .string (String.ofList stamp.writeChars)

/-- What a run is written as, if its times can be written. -/
def RunMeta.members (run : RunMeta) : List (String × Json) :=
  [("started_at", writtenStamp run.startedAt)] ++
  optionalMember "ended_at" writtenStamp run.endedAt ++
  optionalMember "duration_ms" (fun ms => .natural ms.toNat) run.durationMs

theorem RunMeta.toJson_of_isWritable {run : RunMeta} (h : run.IsWritable) :
    run.toJson = .ok (.object run.members) := by
  obtain ⟨startedAt, endedAt, durationMs⟩ := run
  have hstarted : startedAt.write = .ok (String.ofList startedAt.writeChars) :=
    Stamp.write_of_isWritable h.startedAt
  cases endedAt with
  | none =>
      rw [RunMeta.toJson, hstarted]
      rfl
  | some stamp =>
      have hended : stamp.write = .ok (String.ofList stamp.writeChars) :=
        Stamp.write_of_isWritable (h.endedAt stamp rfl)
      rw [RunMeta.toJson, hstarted, Option.mapM_some, hended]
      rfl

theorem RunMeta.isWritable_of_toJson {run : RunMeta} {value : Json} (h : run.toJson = .ok value) :
    run.IsWritable := by
  obtain ⟨startedAt, endedAt, durationMs⟩ := run
  rw [RunMeta.toJson] at h
  cases hstarted : startedAt.write with
  | error cause =>
      rw [hstarted] at h
      cases h
  | ok text =>
      rw [hstarted] at h
      refine ⟨Stamp.isWritable_of_write hstarted, ?_⟩
      rintro stamp ⟨⟩
      cases hended : stamp.write with
      | error cause =>
          rw [Option.mapM_some, hended] at h
          cases h
      | ok text => exact Stamp.isWritable_of_write hended

theorem stamp?_writtenStamp {stamp : Stamp} (h : stamp.IsWritable) :
    RunMeta.stamp? (writtenStamp stamp) = some stamp := by
  have hread := Stamp.read?_of_write (Stamp.write_of_isWritable h)
  simp only [RunMeta.stamp?, writtenStamp, Json.text?, Option.bind_eq_bind, Option.bind_some,
    hread]

theorem RunMeta.ofJson?_members {run : RunMeta} (h : run.IsWritable) :
    RunMeta.ofJson? (.object run.members) = some run := by
  have hstarted := stamp?_writtenStamp h.startedAt
  have hended : Json.optional? RunMeta.stamp? "ended_at" run.members = some run.endedAt := by
    apply Json.optional?_of_filter
    · simp [RunMeta.members, filter_optionalMember_self, filter_optionalMember_of_ne]
      rfl
    · exact fun stamp hstamp => ⟨nofun, stamp?_writtenStamp (h.endedAt stamp hstamp)⟩
  have hduration : Json.optional? RunMeta.duration? "duration_ms" run.members =
      some run.durationMs := by
    apply Json.optional?_of_filter
    · simp [RunMeta.members, filter_optionalMember_self, filter_optionalMember_of_ne]
      rfl
    · exact fun ms _ => ⟨nofun, RunMeta.duration?_natural ms⟩
  have hrecord : (Json.object run.members).record? ["started_at"] ["ended_at", "duration_ms"] =
      some run.members := rfl
  simp only [RunMeta.ofJson?, hrecord, hended, hduration, Option.bind_eq_bind, Option.bind_some]
  simp [RunMeta.members, Json.required?, filter_optionalMember_of_ne, hstarted]

theorem RunMeta.readable_members (run : RunMeta) : Json.Readable 1 (.object run.members) := by
  have hstamp (stamp : Stamp) : Json.Readable 0 (writtenStamp stamp) := .string _
  have hms (ms : UInt64) : Json.Readable 0 (Json.natural ms.toNat) :=
    Json.readable_natural ms.toNat_lt_size
  apply Json.Readable.object
  simp only [RunMeta.members, List.forall_mem_append, List.forall_mem_cons]
  exact ⟨⟨⟨hstamp _, List.forall_mem_nil _⟩, readable_optionalMember hstamp _ _⟩,
    readable_optionalMember hms _ _⟩

/-! ## Nesting -/

theorem Finding.readable_toJson (finding : Finding) : Json.Readable 1 finding.toJson := by
  have hhelp := readable_optionalMember (@Json.Readable.string 0) "help" finding.help
  have hurl := readable_optionalMember (@Json.Readable.string 0) "url" finding.url
  apply Json.Readable.object
  simp only [List.forall_mem_append, List.forall_mem_cons]
  exact ⟨⟨⟨.string _, .string _, .string _, .string _, List.forall_mem_nil _⟩, hhelp⟩, hurl⟩

theorem AdviceEntry.readable_toJson (entry : AdviceEntry) : Json.Readable 1 entry.toJson := by
  cases entry <;> apply Json.Readable.object <;> simp only [List.forall_mem_cons]
  case generalNotice => exact ⟨.string _, List.forall_mem_nil _⟩
  case guideHeader => exact ⟨.string _, .string _, List.forall_mem_nil _⟩
  case point => exact ⟨.string _, .string _, .string _, List.forall_mem_nil _⟩

theorem VerdictCounts.readable_toJson (counts : VerdictCounts) :
    Json.Readable 1 counts.toJson := by
  have hcount (count : UInt32) : Json.Readable 0 (Json.natural count.toNat) :=
    Json.readable_natural (Nat.lt_trans count.toNat_lt_size (by decide))
  apply Json.Readable.object
  simp only [List.forall_mem_cons]
  exact ⟨hcount _, hcount _, List.forall_mem_nil _⟩

theorem Verdict.readable_toJson (verdict : Verdict) : Json.Readable 2 verdict.toJson := by
  apply Json.Readable.object
  simp only [List.forall_mem_cons]
  exact ⟨.string _, verdict.counts.readable_toJson, List.forall_mem_nil _⟩

theorem ToolMeta.readable_toJson (tool : ToolMeta) : Json.Readable 1 tool.toJson := by
  apply Json.Readable.object
  simp only [List.forall_mem_cons]
  exact ⟨.string _, .string _, List.forall_mem_nil _⟩

theorem Json.readable_array_map {α : Type} {room : Nat} {write : α → Json}
    (h : ∀ part, Json.Readable room (write part)) (parts : List α) :
    Json.Readable (room + 1) (.array (parts.map write)) := by
  apply Json.Readable.array
  intro item hitem
  obtain ⟨part, -, rfl⟩ := List.mem_map.mp hitem
  exact h part

/-! ## Reports -/

/-- What a report on a scan is written as, if its times can be written. -/
def ScanReport.members (report : ScanReport) : List (String × Json) :=
  [("schema", .string report.schema), ("tool", report.tool.toJson),
    ("run", .object report.run.members), ("verdict", report.verdict.toJson),
    ("issues", .array (report.issues.map Finding.toJson)),
    ("warnings", .array (report.warnings.map Finding.toJson))]

/-- What a report on advice is written as, if its times can be written. -/
def AdviceReport.members (report : AdviceReport) : List (String × Json) :=
  [("schema", .string report.schema), ("tool", report.tool.toJson),
    ("run", .object report.run.members), ("topics", .strings report.topics),
    ("general", .bool report.general),
    ("recommendations", .array (report.recommendations.map AdviceEntry.toJson)),
    ("recommendations_total", .natural report.recommendationsTotal.toNat),
    ("truncated", .bool report.truncated), ("loaded_guides", .strings report.loadedGuides)]

theorem ScanReport.ofJson?_members {report : ScanReport} (h : report.run.IsWritable) :
    ScanReport.ofJson? (.object report.members) = some report := by
  have hrun := RunMeta.ofJson?_members h
  have hfindings (findings : List Finding) :=
    Json.list?_array_map Finding.ofJson?_toJson findings
  simp [ScanReport.ofJson?, ScanReport.members, Json.record?, Json.required?, Json.text?, hrun,
    hfindings, ToolMeta.ofJson?_toJson, Verdict.ofJson?_toJson]

theorem AdviceReport.ofJson?_members {report : AdviceReport} (h : report.run.IsWritable) :
    AdviceReport.ofJson? (.object report.members) = some report := by
  have hrun := RunMeta.ofJson?_members h
  have htext (text : String) : (Json.string text).text? = some text := rfl
  have htexts (texts : List String) : Json.list? Json.text? (Json.strings texts) = some texts :=
    Json.list?_array_map htext texts
  have hentries := Json.list?_array_map AdviceEntry.ofJson?_toJson report.recommendations
  simp [AdviceReport.ofJson?, AdviceReport.members, Json.record?, Json.required?, Json.text?,
    Json.bool?, hrun, htexts, hentries, ToolMeta.ofJson?_toJson, count?_natural]

theorem ScanReport.readable_members (report : ScanReport) :
    Json.Readable Json.nestingLimit (.object report.members) := by
  have htool := report.tool.readable_toJson.mono (Nat.le_succ 1)
  have hrun := report.run.readable_members.mono (Nat.le_succ 1)
  have hissues := Json.readable_array_map Finding.readable_toJson report.issues
  have hwarnings := Json.readable_array_map Finding.readable_toJson report.warnings
  have hthree : Json.Readable 3 (.object report.members) := by
    apply Json.Readable.object
    simp only [ScanReport.members, List.forall_mem_cons]
    exact ⟨.string _, htool, hrun, report.verdict.readable_toJson, hissues, hwarnings,
      List.forall_mem_nil _⟩
  exact hthree.mono (by decide)

theorem AdviceReport.readable_members (report : AdviceReport) :
    Json.Readable Json.nestingLimit (.object report.members) := by
  have htool := report.tool.readable_toJson.mono (Nat.le_succ 1)
  have hrun := report.run.readable_members.mono (Nat.le_succ 1)
  have hstrings (texts : List String) : Json.Readable 2 (Json.strings texts) :=
    (Json.readable_array_map Json.Readable.string texts).mono (Nat.le_succ 1)
  have hentries := Json.readable_array_map AdviceEntry.readable_toJson report.recommendations
  have htotal : report.recommendationsTotal.toNat < UInt64.size :=
    Nat.lt_trans report.recommendationsTotal.toNat_lt_size (by decide)
  have hthree : Json.Readable 3 (.object report.members) := by
    apply Json.Readable.object
    simp only [AdviceReport.members, List.forall_mem_cons]
    exact ⟨.string _, htool, hrun, hstrings _, .bool _, hentries, Json.readable_natural htotal,
      .bool _, hstrings _, List.forall_mem_nil _⟩
  exact hthree.mono (by decide)

/-! ## Texts -/

/-- A value is that of a report: it has the given members if the times of the run can
be written, and otherwise there is none. The members can be read whatever they hold. -/
structure WritesRun (value : Except Stamp.FormatError Json) (run : RunMeta)
    (members : List (String × Json)) : Prop where
  eq_ok : run.IsWritable → value = .ok (.object members)
  isWritable : ∀ written, value = .ok written → run.IsWritable
  readable : Json.Readable Json.nestingLimit (.object members)

/-- Reports are written as their runs are, with other members around them. -/
theorem writesRun_of_bind {run : RunMeta} {write : Json → List (String × Json)}
    (h : Json.Readable Json.nestingLimit (.object (write (.object run.members)))) :
    WritesRun (do return .object (write (← run.toJson))) run (write (.object run.members)) where
  eq_ok hwritable := by
    rw [RunMeta.toJson_of_isWritable hwritable]
    rfl
  isWritable written hwritten := by
    cases hrun : run.toJson with
    | error cause =>
        rw [hrun] at hwritten
        cases hwritten
    | ok value => exact RunMeta.isWritable_of_toJson hrun
  readable := h

theorem ScanReport.writesRun (report : ScanReport) :
    WritesRun report.toJson report.run report.members :=
  writesRun_of_bind report.readable_members

theorem AdviceReport.writesRun (report : AdviceReport) :
    WritesRun report.toJson report.run report.members :=
  writesRun_of_bind report.readable_members

namespace WritesRun

variable {value : Except Stamp.FormatError Json} {run : RunMeta}
  {members : List (String × Json)} (h : WritesRun value run members)

include h

theorem jsonText_eq (hwritable : run.IsWritable) :
    jsonText value = .ok ((Json.object members).pretty ++ "\n") := by
  rw [h.eq_ok hwritable, jsonText]

theorem isWritable_of_jsonText {text : String} (htext : jsonText value = .ok text) :
    run.IsWritable := by
  cases value with
  | error cause => cases htext
  | ok written => exact h.isWritable written rfl

theorem ofText?_eq {text : String} (htext : jsonText value = .ok text) :
    Json.ofText? text = some (.object members) := by
  have hpretty := h.jsonText_eq (h.isWritable_of_jsonText htext)
  rw [Except.ok.inj (htext.symm.trans hpretty), Json.ofText?_pretty h.readable]

/-- Texts tell apart what is written in them. -/
theorem members_eq (hwritable : run.IsWritable) {other : Except Stamp.FormatError Json}
    {later : RunMeta} {others : List (String × Json)} (hother : WritesRun other later others)
    (heq : jsonText value = jsonText other) : members = others := by
  have htext := h.jsonText_eq hwritable
  have hread := h.ofText?_eq htext
  rw [hother.ofText?_eq (heq.symm.trans htext)] at hread
  exact (Json.object.inj (Option.some.inj hread)).symm

end WritesRun

/-- A report whose times RFC 3339 can write loses nothing in JSON format: its text
is well-formed and is read as the report. So the text tells it from every other
report. -/
theorem json_report_loses_nothing :
    (∀ report : ScanReport, report.run.IsWritable →
      ∃ text value, report.render .json = .ok text ∧ Json.ofText? text = some value ∧
        ScanReport.ofJson? value = some report) ∧
    (∀ report : AdviceReport, report.run.IsWritable →
      ∃ text value, report.render .json = .ok text ∧ Json.ofText? text = some value ∧
        AdviceReport.ofJson? value = some report) ∧
    (∀ first second : ScanReport, first.run.IsWritable → second.run.IsWritable →
      first.render .json = second.render .json → first = second) ∧
    (∀ first second : AdviceReport, first.run.IsWritable → second.run.IsWritable →
      first.render .json = second.render .json → first = second) ∧
    (∀ (scan : ScanReport) (advice : AdviceReport), scan.run.IsWritable → advice.run.IsWritable →
      scan.render .json ≠ advice.render .json) := by
  refine ⟨?_, ?_, ?_, ?_, ?_⟩
  · intro report h
    have htext := report.writesRun.jsonText_eq h
    exact ⟨_, _, htext, report.writesRun.ofText?_eq htext, ScanReport.ofJson?_members h⟩
  · intro report h
    have htext := report.writesRun.jsonText_eq h
    exact ⟨_, _, htext, report.writesRun.ofText?_eq htext, AdviceReport.ofJson?_members h⟩
  · intro first second hfirst hsecond h
    have hmembers := first.writesRun.members_eq hfirst second.writesRun h
    have hread := ScanReport.ofJson?_members hfirst
    rw [hmembers, ScanReport.ofJson?_members hsecond] at hread
    exact (Option.some.inj hread).symm
  · intro first second hfirst hsecond h
    have hmembers := first.writesRun.members_eq hfirst second.writesRun h
    have hread := AdviceReport.ofJson?_members hfirst
    rw [hmembers, AdviceReport.ofJson?_members hsecond] at hread
    exact (Option.some.inj hread).symm
  · intro scan advice hscan hadvice h
    have hmembers := scan.writesRun.members_eq hscan advice.writesRun h
    -- The two kinds of report have different numbers of members.
    have hlength : scan.members.length = advice.members.length := congrArg List.length hmembers
    exact absurd hlength (show (6 : Nat) ≠ 9 by decide)

/-- Reports of the last times of the calendar, on clocks that are almost a day
behind and ahead, with texts of every kind of character that is escaped. -/
theorem escaped_reports_lose_nothing :
    let date : Date := ⟨9999, 12, 31, by decide, by decide⟩
    let behind : Stamp := ⟨date, ⟨23, 59, 59, 999999990⟩, -86340⟩
    let ahead : Stamp := ⟨date, ⟨0, 0, 0, 0⟩, 86340⟩
    let finding : Finding := ⟨.warning, "", "\\", "\"\x00\x1f\n\u007fé", some "", none⟩
    let scan : ScanReport :=
      ⟨"", ⟨"", ""⟩, ⟨behind, none, some 0xffffffffffffffff⟩, ⟨.pass, ⟨0xffffffff, 0⟩⟩,
        [finding], []⟩
    let advice : AdviceReport :=
      ⟨"", ⟨"", ""⟩, ⟨ahead, some behind, none⟩, ["\t", ""], true,
        [.generalNotice, .guideHeader "\"", .point "" "\r"], 0, false, []⟩
    (∃ text value, scan.render .json = .ok text ∧ Json.ofText? text = some value ∧
      ScanReport.ofJson? value = some scan) ∧
    (∃ text value, advice.render .json = .ok text ∧ Json.ofText? text = some value ∧
      AdviceReport.ofJson? value = some advice) ∧
    scan.render .json ≠ advice.render .json := by
  intro date behind ahead finding scan advice
  have hscan : scan.run.IsWritable := by decide
  have hadvice : advice.run.IsWritable := by decide
  obtain ⟨hscans, hadvices, -, -, hdiffer⟩ := json_report_loses_nothing
  exact ⟨hscans scan hscan, hadvices advice hadvice, hdiffer scan advice hscan hadvice⟩

end ViewAudit
