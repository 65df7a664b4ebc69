import ViewAudit.Proofs.Report.Revision
import ViewAudit.Proofs.Report.RoundTrip
import ViewAudit.Proofs.Time.RoundTrip

/-!
The times of reports in JSON format. Whatever is read can be written, and what is
written is the normal form of all that is read alike.
-/

namespace ViewAudit

/-! ## The members that records are read from -/

def RunMeta.membersOf? (value : Json) : Option (List (String × Json)) :=
  value.record? ["started_at"] ["ended_at", "duration_ms"]

def ScanReport.membersOf? (value : Json) : Option (List (String × Json)) :=
  value.record? ["schema", "tool", "run", "verdict", "issues", "warnings"]

def AdviceReport.membersOf? (value : Json) : Option (List (String × Json)) :=
  value.record?
    ["schema", "tool", "run", "topics", "general", "recommendations", "recommendations_total",
      "truncated", "loaded_guides"]

theorem RunMeta.ofJson?_eq (value : Json) :
    RunMeta.ofJson? value =
      (RunMeta.membersOf? value).bind fun fields => RunMeta.ofJson? (.object fields) := rfl

theorem ScanReport.ofJson?_eq (value : Json) :
    ScanReport.ofJson? value =
      (ScanReport.membersOf? value).bind fun fields => ScanReport.ofJson? (.object fields) := rfl

theorem AdviceReport.ofJson?_eq (value : Json) :
    AdviceReport.ofJson? value =
      (AdviceReport.membersOf? value).bind fun fields => AdviceReport.ofJson? (.object fields) :=
  rfl

namespace RunMeta

/-! ## Respelled runs -/

/-- The members of two runs that differ in how their times are spelled, and in
whether null stands for what is absent. -/
inductive Respelled : List (String × Json) → List (String × Json) → Prop
  | refl (fields : List (String × Json)) : Respelled fields fields
  | time (before after : List (String × Json)) (name : String) {first second : Stamp.Spelling}
      (h : first.Alike second) :
      Respelled (before ++ (name, .string first.text) :: after)
        (before ++ (name, .string second.text) :: after)
  | absent (before after : List (String × Json)) {name : String}
      (hname : name = "ended_at" ∨ name = "duration_ms")
      (h : ∀ member ∈ before ++ after, member.1 ≠ name) :
      Respelled (before ++ (name, .null) :: after) (before ++ after)
  | symm {first second : List (String × Json)} : Respelled first second → Respelled second first
  | trans {first second third : List (String × Json)} :
      Respelled first second → Respelled second third → Respelled first third

/-- Two values for runs that are given by respelled members, be it as objects or as
arrays. -/
def IsRespelling (first second : Json) : Prop :=
  ∃ fields others, membersOf? first = some fields ∧ membersOf? second = some others ∧
    Respelled fields others

theorem stamp?_string (text : String) : stamp? (.string text) = Stamp.read? text := rfl

theorem duration?_string (text : String) : duration? (.string text) = none := rfl

theorem ofJson?_eq_of_respelled {fields others : List (String × Json)}
    (h : Respelled fields others) : ofJson? (.object fields) = ofJson? (.object others) := by
  induction h with
  | refl fields => rfl
  | @time before after name first second halike =>
      have hstamp := halike.read?_eq
      rw [← stamp?_string, ← stamp?_string] at hstamp
      have hduration : duration? (.string first.text) = duration? (.string second.text) := by
        rw [duration?_string, duration?_string]
      have hnull (text : String) : Json.string text ≠ .null := nofun
      simp only [ofJson?, Json.record?, Option.bind_eq_bind, Option.bind_some]
      rw [Json.required?_replace fun _ => hstamp,
        Json.optional?_replace (fun _ => hstamp) (hnull _) (hnull _),
        Json.optional?_replace (fun _ => hduration) (hnull _) (hnull _)]
  | @absent before after name hname honly =>
      have hstarted : name ≠ "started_at" := by rcases hname with rfl | rfl <;> decide
      simp only [ofJson?, Json.record?, Option.bind_eq_bind, Option.bind_some]
      rw [Json.optional?_drop_null honly, Json.optional?_drop_null honly, Json.required?,
        Json.filter_drop_of_ne hstarted]
      rfl
  | symm _ ih => exact ih.symm
  | trans _ _ ihfirst ihsecond => exact ihfirst.trans ihsecond

theorem ofJson?_eq_of_isRespelling {first second : Json} (h : IsRespelling first second) :
    ofJson? first = ofJson? second := by
  obtain ⟨fields, others, hfirst, hsecond, hrespelled⟩ := h
  rw [ofJson?_eq, ofJson?_eq, hfirst, hsecond]
  exact ofJson?_eq_of_respelled hrespelled

/-! ## Runs that have been read -/

/-- The times of a run are written as they were given: each that was there is kept
and in normal form, and no other is added. -/
structure KeepsTimes (fields written : List (String × Json)) : Prop where
  started : ∃ text, ("started_at", Json.string text) ∈ fields
  kept : ∀ name text, name = "started_at" ∨ name = "ended_at" →
    (name, Json.string text) ∈ fields →
    ∃ spelling other : Stamp.Spelling, text = spelling.text ∧
      (name, Json.string other.text) ∈ written ∧ spelling.KeptBy other ∧ other.IsNormal
  none_added : ∀ part, ("ended_at", part) ∈ written →
    ∃ text, ("ended_at", Json.string text) ∈ fields

theorem exists_of_stamp? {value : Json} {stamp : Stamp} (h : stamp? value = some stamp) :
    ∃ text, value = .string text ∧ Stamp.read? text = some stamp := by
  obtain ⟨text, htext, hread⟩ := Option.bind_eq_some_iff.mp h
  exact ⟨text, Json.text?_eq_some_iff.mp htext, hread⟩

theorem isWritable_of_ofJson?_object {fields : List (String × Json)} {run : RunMeta}
    (h : ofJson? (.object fields) = some run) : run.IsWritable := by
  obtain ⟨hstarted, hended, -⟩ := ofJson?_object_iff.mp h
  constructor
  · obtain ⟨value, hvalue⟩ := Json.exists_of_required? hstarted
    obtain ⟨text, -, hread⟩ := exists_of_stamp? (Json.read_of_required? hstarted hvalue)
    exact Stamp.isWritable_of_read? hread
  · intro stamp hstamp
    rw [Option.mem_def.mp hstamp] at hended
    obtain ⟨value, -, hvalue⟩ := Json.exists_of_optional? hended
    obtain ⟨text, -, hread⟩ := exists_of_stamp? hvalue
    exact Stamp.isWritable_of_read? hread

theorem keepsTimes_members {fields : List (String × Json)} {run : RunMeta}
    (h : ofJson? (.object fields) = some run) : KeepsTimes fields run.members := by
  have hwritable := isWritable_of_ofJson?_object h
  have hwritten (stamp : Stamp) (hstamp : stamp.IsWritable) (other : Stamp.Spelling)
      (hother : stamp.write = .ok other.text) : writtenStamp stamp = .string other.text := by
    rw [Stamp.write_of_isWritable hstamp] at hother
    rw [writtenStamp, Except.ok.inj hother]
  obtain ⟨hstarted, hended, -⟩ := ofJson?_object_iff.mp h
  refine ⟨?_, ?_, ?_⟩
  · obtain ⟨value, hvalue⟩ := Json.exists_of_required? hstarted
    obtain ⟨text, rfl, -⟩ := exists_of_stamp? (Json.read_of_required? hstarted hvalue)
    exact ⟨text, hvalue⟩
  · rintro name text (rfl | rfl) htext
    · have hread : Stamp.read? text = some run.startedAt := Json.read_of_required? hstarted htext
      obtain ⟨spelling, other, hspelling, hwrite, hkept, hnormal⟩ :=
        Stamp.exists_keptBy_of_read? hread
      refine ⟨spelling, other, hspelling, ?_, hkept, hnormal⟩
      rw [← hwritten _ hwritable.startedAt other hwrite]
      simp [members]
    · rcases Json.read_of_optional? hended htext with ⟨hnull, -⟩ | ⟨stamp, hread, hsome⟩
      · cases hnull
      · obtain ⟨spelling, other, hspelling, hwrite, hkept, hnormal⟩ :=
          Stamp.exists_keptBy_of_read? hread
        refine ⟨spelling, other, hspelling, ?_, hkept, hnormal⟩
        rw [← hwritten _ (hwritable.endedAt stamp hsome) other hwrite]
        simp [members, hsome, optionalMember]
  · intro part hpart
    cases hsome : run.endedAt with
    | none =>
        cases hduration : run.durationMs <;>
          simp [members, hsome, hduration, optionalMember] at hpart
    | some stamp =>
        rw [hsome] at hended
        obtain ⟨value, hvalue, hread⟩ := Json.exists_of_optional? hended
        obtain ⟨text, rfl, -⟩ := exists_of_stamp? hread
        exact ⟨text, hvalue⟩

theorem exists_membersOf? {value : Json} {run : RunMeta} (h : ofJson? value = some run) :
    ∃ fields, membersOf? value = some fields ∧ ofJson? (.object fields) = some run := by
  rw [ofJson?_eq] at h
  exact Option.bind_eq_some_iff.mp h

theorem isWritable_of_ofJson? {value : Json} {run : RunMeta} (h : ofJson? value = some run) :
    run.IsWritable := by
  obtain ⟨fields, -, hfields⟩ := exists_membersOf? h
  exact isWritable_of_ofJson?_object hfields

/-- A run that has been read is written with the times that were given, and read
again as the same run. -/
theorem exists_normal_form {value : Json} {run : RunMeta} (h : ofJson? value = some run) :
    ∃ fields written, membersOf? value = some fields ∧ run.toJson = .ok (.object written) ∧
      ofJson? (.object written) = some run ∧ KeepsTimes fields written := by
  have hwritable := isWritable_of_ofJson? h
  obtain ⟨fields, hmembers, hfields⟩ := exists_membersOf? h
  exact ⟨fields, run.members, hmembers, toJson_of_isWritable hwritable, ofJson?_members hwritable,
    keepsTimes_members hfields⟩

end RunMeta

/-! ## Reports -/

/-- Two values for reports that differ in how the times of their runs are spelled,
and in whether null stands for what a run does not have. -/
def RespellsRun (membersOf? : Json → Option (List (String × Json))) (first second : Json) :
    Prop :=
  ∃ before after run other, membersOf? first = some (before ++ ("run", run) :: after) ∧
    membersOf? second = some (before ++ ("run", other) :: after) ∧ RunMeta.IsRespelling run other

/-- A report is read alike from respelled runs: nothing else of it has changed. -/
theorem ReportType.read?_eq_of_respellsRun (type : ReportType)
    {membersOf? : Json → Option (List (String × Json))}
    (hfield : ∀ fields, ("run", .reference .runMeta) ∈ type.fields fields)
    (hread : ∀ value, type.read? value =
      (membersOf? value).bind fun fields => type.read? (.object fields))
    {first second : Json} (h : RespellsRun membersOf? first second) :
    type.read? first = type.read? second := by
  obtain ⟨before, after, run, other, hfirst, hsecond, hrespelling⟩ := h
  have hrun : RunMeta.ofJson? run = RunMeta.ofJson? other :=
    RunMeta.ofJson?_eq_of_isRespelling hrespelling
  rw [hread, hread, hfirst, hsecond]
  exact read?_eq_of_field (hfield _) (Json.required?_replace fun _ => hrun)
    fun _ => readsAlike_replace_of_ne

/-- A report that has been read has a run that has been read, and so it is written
and read again. -/
theorem WritesRun.exists_normal_form {α : Type} {value : Except Stamp.FormatError Json}
    {run : RunMeta} {members : List (String × Json)} (h : WritesRun value run members)
    {found : Option (List (String × Json))} {read : List (String × Json) → Option α} {report : α}
    (hread : found.bind read = some report)
    (hrun : ∀ fields, read fields = some report →
      Json.required? RunMeta.ofJson? "run" fields = some run)
    (hagain : run.IsWritable → read members = some report) :
    ∃ fields part written text, found = some fields ∧ ("run", part) ∈ fields ∧
      RunMeta.ofJson? part = some run ∧ value = .ok (.object written) ∧
      jsonText value = .ok text ∧ Json.ofText? text = some (.object written) ∧
      read written = some report := by
  obtain ⟨fields, hfound, hfields⟩ := Option.bind_eq_some_iff.mp hread
  have hpart := hrun fields hfields
  obtain ⟨part, hmem⟩ := Json.exists_of_required? hpart
  have hgiven : RunMeta.ofJson? part = some run := Json.read_of_required? hpart hmem
  have hwritable := RunMeta.isWritable_of_ofJson? hgiven
  have htext := h.jsonText_eq hwritable
  exact ⟨fields, part, members, _, hfound, hmem, hgiven, h.eq_ok hwritable, htext,
    h.ofText?_eq htext, hagain hwritable⟩

/-! ## Times without a written form -/

/-- The year of a time has no four digits, or its offset is not made of at most 23
whole hours and of minutes. -/
def Stamp.HasNoForm (stamp : Stamp) : Prop :=
  stamp.date.year < 0 ∨ 9999 < stamp.date.year ∨
    ∀ (hours : Fin 24) (minutes : Fin 60), stamp.offset.natAbs ≠ hours * 3600 + minutes * 60

theorem Stamp.not_isWritable_iff {stamp : Stamp} : ¬ stamp.IsWritable ↔ stamp.HasNoForm := by
  constructor
  · intro h
    by_contra hform
    simp only [HasNoForm, not_or, not_lt, not_forall, ne_eq, not_not] at hform
    obtain ⟨hnonneg, hyear, hours, minutes, hoffset⟩ := hform
    exact h ⟨hnonneg, hyear, by omega, by omega⟩
  · rintro (hyear | hyear | hoffset) ⟨hnonneg, hle, hoffset_le, hminutes⟩
    · omega
    · omega
    · apply hoffset ⟨stamp.offset.natAbs / 3600, by omega⟩
        ⟨stamp.offset.natAbs / 60 % 60, by omega⟩
      dsimp only
      omega

/-- One of the times that a run has cannot be written. -/
def RunMeta.HasTimeWithoutForm (run : RunMeta) : Prop :=
  run.startedAt.HasNoForm ∨ ∃ ended ∈ run.endedAt, ended.HasNoForm

theorem RunMeta.not_isWritable_iff {run : RunMeta} :
    ¬ run.IsWritable ↔ run.HasTimeWithoutForm := by
  simp only [HasTimeWithoutForm, ← Stamp.not_isWritable_iff]
  constructor
  · intro h
    by_contra hforms
    simp only [not_or, not_exists, not_and, not_not] at hforms
    exact h ⟨hforms.1, hforms.2⟩
  · rintro (hstarted | ⟨ended, hmem, hended⟩) hwritable
    · exact hstarted hwritable.startedAt
    · exact hended (hwritable.endedAt ended hmem)

/-- What succeeds just when a condition holds fails just when it does not. -/
theorem exists_error_iff {ε α : Type} {result : Except ε α} {holds : Prop}
    (hok : holds → ∃ value, result = .ok value) (hholds : ∀ value, result = .ok value → holds) :
    (∃ error, result = .error error) ↔ ¬ holds := by
  constructor
  · rintro ⟨error, herror⟩ h
    obtain ⟨value, hvalue⟩ := hok h
    rw [hvalue] at herror
    cases herror
  · intro h
    cases hresult : result with
    | error error => exact ⟨error, rfl⟩
    | ok value => exact absurd (hholds value hresult) h

theorem WritesRun.jsonText_fails_iff {value : Except Stamp.FormatError Json} {run : RunMeta}
    {members : List (String × Json)} (h : WritesRun value run members) :
    (∃ error, jsonText value = .error error) ↔ run.HasTimeWithoutForm := by
  rw [← RunMeta.not_isWritable_iff]
  apply exists_error_iff
  · exact fun hwritable => ⟨_, h.jsonText_eq hwritable⟩
  · exact fun _ => h.isWritable_of_jsonText

/-- A time is read from its spellings and from no other text. A run that is read,
alone or in a report, is written again with its times to the nanosecond and in
normal form, which is read and written as the same; and values that spell the same
times are read alike. A report in JSON format fails only for a time that has no
written form, and in text format never. -/
theorem read_times_reach_normal_form :
    (∀ text stamp, Stamp.read? text = some stamp ↔
      ∃ spelling : Stamp.Spelling, text = spelling.text ∧ spelling.Denotes stamp) ∧
    (∀ value run, RunMeta.ofJson? value = some run →
      ∃ fields written, RunMeta.membersOf? value = some fields ∧
        run.toJson = .ok (.object written) ∧ RunMeta.ofJson? (.object written) = some run ∧
        RunMeta.KeepsTimes fields written) ∧
    (∀ value report, ScanReport.ofJson? value = some report →
      ∃ fields run written text, ScanReport.membersOf? value = some fields ∧
        ("run", run) ∈ fields ∧ RunMeta.ofJson? run = some report.run ∧
        report.toJson = .ok written ∧ report.render .json = .ok text ∧
        Json.ofText? text = some written ∧ ScanReport.ofJson? written = some report) ∧
    (∀ value report, AdviceReport.ofJson? value = some report →
      ∃ fields run written text, AdviceReport.membersOf? value = some fields ∧
        ("run", run) ∈ fields ∧ RunMeta.ofJson? run = some report.run ∧
        report.toJson = .ok written ∧ report.render .json = .ok text ∧
        Json.ofText? text = some written ∧ AdviceReport.ofJson? written = some report) ∧
    (∀ first second, RunMeta.IsRespelling first second →
      RunMeta.ofJson? first = RunMeta.ofJson? second) ∧
    (∀ first second, RespellsRun ScanReport.membersOf? first second →
      ScanReport.ofJson? first = ScanReport.ofJson? second) ∧
    (∀ first second, RespellsRun AdviceReport.membersOf? first second →
      AdviceReport.ofJson? first = AdviceReport.ofJson? second) ∧
    (∀ report : ScanReport,
      ((∃ error, report.render .json = .error error) ↔ report.run.HasTimeWithoutForm) ∧
        ∃ text, report.render .text = .ok text) ∧
    (∀ report : AdviceReport,
      ((∃ error, report.render .json = .error error) ↔ report.run.HasTimeWithoutForm) ∧
        ∃ text, report.render .text = .ok text) := by
  refine ⟨?_, ?_, ?_, ?_, ?_, ?_, ?_, ?_, ?_⟩
  · exact fun _ _ => Stamp.read?_eq_some_iff
  · intro value run h
    exact RunMeta.exists_normal_form h
  · intro value report h
    obtain ⟨fields, run, written, text, hfields, hmem, hrun, hwrite, htext, hread, hagain⟩ :=
      report.writesRun.exists_normal_form ((ScanReport.ofJson?_eq value).symm.trans h)
        (fun _ hread => (ScanReport.ofJson?_object_iff.mp hread).2.2.1) ScanReport.ofJson?_members
    exact ⟨fields, run, _, text, hfields, hmem, hrun, hwrite, htext, hread, hagain⟩
  · intro value report h
    obtain ⟨fields, run, written, text, hfields, hmem, hrun, hwrite, htext, hread, hagain⟩ :=
      report.writesRun.exists_normal_form ((AdviceReport.ofJson?_eq value).symm.trans h)
        (fun _ hread => (AdviceReport.ofJson?_object_iff.mp hread).2.2.1)
        AdviceReport.ofJson?_members
    exact ⟨fields, run, _, text, hfields, hmem, hrun, hwrite, htext, hread, hagain⟩
  · exact fun _ _ => RunMeta.ofJson?_eq_of_isRespelling
  · exact fun _ _ => ReportType.read?_eq_of_respellsRun .scanReport
      (fun _ => .tail _ (.tail _ (.head _))) ScanReport.ofJson?_eq
  · exact fun _ _ => ReportType.read?_eq_of_respellsRun .adviceReport
      (fun _ => .tail _ (.tail _ (.head _))) AdviceReport.ofJson?_eq
  · exact fun report => ⟨report.writesRun.jsonText_fails_iff, _, rfl⟩
  · exact fun report => ⟨report.writesRun.jsonText_fails_iff, _, rfl⟩

/-- A leap second on a clock behind UTC, in two spellings, of which one stands in
an object with a null and the other in an array. -/
theorem leap_second_reaches_normal_form :
    let spelling : Stamp.Spelling :=
      ⟨2016, 12, 31, 't', 18, 59, 60, ['5'], .signed true 5 0, by decide,
        List.all_eq_true.mp rfl⟩
    let respelling : Stamp.Spelling :=
      ⟨2016, 12, 31, 'T', 18, 59, 60, ['5', '0'], .signed true 5 0, by decide,
        List.all_eq_true.mp rfl⟩
    let run : Json := .object [("ended_at", .null), ("started_at", .string spelling.text)]
    let other : Json := .array [.string respelling.text]
    let tool : Json := .object [("name", .string ""), ("version", .string "")]
    let counts : Json := .object [("issues", .natural 0), ("warnings", .natural 0)]
    let verdict : Json := .object [("status", .string "pass"), ("counts", counts)]
    let scan (run : Json) : Json :=
      .object [("schema", .string ""), ("tool", tool), ("run", run), ("verdict", verdict),
        ("issues", .array []), ("warnings", .array [])]
    let advice (run : Json) : Json :=
      .array [.string "", tool, run, .array [], .bool true, .array [], .natural 0, .bool false,
        .array []]
    (∃ read written, RunMeta.ofJson? run = some read ∧ read.toJson = .ok (.object written) ∧
      RunMeta.ofJson? (.object written) = some read) ∧
    (∃ report written text, ScanReport.ofJson? (scan run) = some report ∧
      report.toJson = .ok written ∧ report.render .json = .ok text ∧
      ScanReport.ofJson? written = some report) ∧
    (∃ report written text, AdviceReport.ofJson? (advice run) = some report ∧
      report.toJson = .ok written ∧ report.render .json = .ok text ∧
      AdviceReport.ofJson? written = some report) ∧
    RunMeta.ofJson? run = RunMeta.ofJson? other ∧
    ScanReport.ofJson? (scan run) = ScanReport.ofJson? (scan other) ∧
    AdviceReport.ofJson? (advice run) = AdviceReport.ofJson? (advice other) := by
  intro spelling respelling run other tool counts verdict scan advice
  have halike : spelling.Alike respelling :=
    ⟨rfl, rfl, rfl, rfl, rfl, rfl, rfl, Or.inl rfl⟩
  have hfields : RunMeta.Respelled
      [("ended_at", .null), ("started_at", .string spelling.text)]
      [("started_at", .string respelling.text)] := by
    apply RunMeta.Respelled.trans
    · exact .absent [] [("started_at", .string spelling.text)] (Or.inl rfl) (by simp)
    · exact .time [] [] "started_at" halike
  have hrespelling : RunMeta.IsRespelling run other := ⟨_, _, rfl, rfl, hfields⟩
  obtain ⟨-, hruns, hscans, hadvices, hlike, hlikeScan, hlikeAdvice, -⟩ :=
    read_times_reach_normal_form
  refine ⟨?_, ?_, ?_, hlike run other hrespelling, ?_, ?_⟩
  · have hsome : (RunMeta.ofJson? run).isSome = true := by decide +kernel
    obtain ⟨read, hread⟩ := Option.isSome_iff_exists.mp hsome
    obtain ⟨_, written, -, hwrite, hagain, -⟩ := hruns run read hread
    exact ⟨read, written, hread, hwrite, hagain⟩
  · have hsome : (ScanReport.ofJson? (scan run)).isSome = true := by decide +kernel
    obtain ⟨report, hread⟩ := Option.isSome_iff_exists.mp hsome
    obtain ⟨_, _, written, text, -, -, -, hwrite, htext, -, hagain⟩ :=
      hscans (scan run) report hread
    exact ⟨report, written, text, hread, hwrite, htext, hagain⟩
  · have hsome : (AdviceReport.ofJson? (advice run)).isSome = true := by decide +kernel
    obtain ⟨report, hread⟩ := Option.isSome_iff_exists.mp hsome
    obtain ⟨_, _, written, text, -, -, -, hwrite, htext, -, hagain⟩ :=
      hadvices (advice run) report hread
    exact ⟨report, written, text, hread, hwrite, htext, hagain⟩
  · exact hlikeScan _ _ ⟨[_, _], _, run, other, rfl, rfl, hrespelling⟩
  · exact hlikeAdvice _ _ ⟨[_, _], _, run, other, rfl, rfl, hrespelling⟩

end ViewAudit
