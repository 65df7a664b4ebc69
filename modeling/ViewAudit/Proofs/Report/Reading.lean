import ViewAudit.Report.Record

/-!
What it means that a value has been read: the members that a reader has taken,
and what each of them held. A member may be put in the place of another that is
read alike.
-/

namespace ViewAudit

namespace Json

/-! ## Members -/

theorem required?_eq_some_iff {α : Type} {read : Json → Option α} {name : String}
    {members : List (String × Json)} {part : α} :
    required? read name members = some part ↔
      ∃ value, members.filter (·.1 == name) = [(name, value)] ∧ read value = some part := by
  have hname {found : String × Json} (h : found ∈ members.filter (·.1 == name)) :
      found.1 = name :=
    beq_iff_eq.mp (List.mem_filter.mp h).2
  rw [required?]
  constructor
  · intro h
    split at h
    case h_1 key value heq =>
      have hkey : key = name := hname (heq ▸ List.mem_singleton_self _)
      exact ⟨value, by rw [heq, hkey], h⟩
    case h_2 => cases h
  · rintro ⟨value, heq, hread⟩
    rw [heq]
    exact hread

theorem optional?_eq_some_iff {α : Type} {read : Json → Option α} {name : String}
    {members : List (String × Json)} {part : Option α} :
    optional? read name members = some part ↔
      (members.filter (·.1 == name) = [] ∧ part = none) ∨
        ∃ value, members.filter (·.1 == name) = [(name, value)] ∧
          (value = .null ∧ part = none ∨
            value ≠ .null ∧ ∃ found, read value = some found ∧ part = some found) := by
  have hname {found : String × Json} (h : found ∈ members.filter (·.1 == name)) :
      found.1 = name :=
    beq_iff_eq.mp (List.mem_filter.mp h).2
  rw [optional?]
  constructor
  · intro h
    split at h
    case h_1 heq => exact Or.inl ⟨heq, (Option.some.inj h).symm⟩
    case h_2 key heq =>
      have hkey : key = name := hname (heq ▸ List.mem_singleton_self _)
      exact Or.inr ⟨.null, by rw [heq, hkey], Or.inl ⟨rfl, (Option.some.inj h).symm⟩⟩
    case h_3 key value hnull heq =>
      have hkey : key = name := hname (heq ▸ List.mem_singleton_self _)
      obtain ⟨found, hfound, hpart⟩ := Option.map_eq_some_iff.mp h
      refine Or.inr ⟨value, by rw [heq, hkey], Or.inr ⟨?_, found, hfound, hpart.symm⟩⟩
      rintro rfl
      exact hnull rfl
    case h_4 => cases h
  · rintro (⟨heq, rfl⟩ | ⟨value, heq, h⟩)
    · rw [heq]
    · rw [heq]
      rcases h with ⟨rfl, rfl⟩ | ⟨hnull, found, hread, rfl⟩
      · rfl
      · cases value with
        | null => contradiction
        | _ => exact congrArg (Option.map some) hread

theorem value_eq_of_filter {name : String} {members : List (String × Json)} {value other : Json}
    (h : members.filter (·.1 == name) = [(name, value)]) (hother : (name, other) ∈ members) :
    other = value := by
  have hmem : (name, other) ∈ members.filter (·.1 == name) := by simp [hother]
  rw [h, List.mem_singleton] at hmem
  exact (Prod.mk.inj hmem).2

theorem exists_of_required? {α : Type} {read : Json → Option α} {name : String}
    {members : List (String × Json)} {part : α} (h : required? read name members = some part) :
    ∃ value, (name, value) ∈ members := by
  obtain ⟨value, hfilter, -⟩ := required?_eq_some_iff.mp h
  have hmem : (name, value) ∈ members.filter (·.1 == name) := by
    rw [hfilter]
    exact List.mem_singleton_self _
  exact ⟨value, (List.mem_filter.mp hmem).1⟩

/-- Whatever stands under the name of a member that has been read is what was read. -/
theorem read_of_required? {α : Type} {read : Json → Option α} {name : String}
    {members : List (String × Json)} {part : α} (h : required? read name members = some part)
    {value : Json} (hvalue : (name, value) ∈ members) : read value = some part := by
  obtain ⟨only, hfilter, hread⟩ := required?_eq_some_iff.mp h
  rwa [value_eq_of_filter hfilter hvalue]

theorem read_of_optional? {α : Type} {read : Json → Option α} {name : String}
    {members : List (String × Json)} {part : Option α}
    (h : optional? read name members = some part) {value : Json}
    (hvalue : (name, value) ∈ members) :
    value = .null ∧ part = none ∨ ∃ found, read value = some found ∧ part = some found := by
  rcases optional?_eq_some_iff.mp h with ⟨hnone, -⟩ | ⟨only, hfilter, hread⟩
  · have hmem : (name, value) ∈ members.filter (·.1 == name) := by simp [hvalue]
    rw [hnone] at hmem
    cases hmem
  · rw [value_eq_of_filter hfilter hvalue]
    exact hread.imp id And.right

theorem exists_of_optional? {α : Type} {read : Json → Option α} {name : String}
    {members : List (String × Json)} {found : α}
    (h : optional? read name members = some (some found)) :
    ∃ value, (name, value) ∈ members ∧ read value = some found := by
  rcases optional?_eq_some_iff.mp h with ⟨-, hnone⟩ | ⟨value, hfilter, hread⟩
  · cases hnone
  · have hmem : (name, value) ∈ members.filter (·.1 == name) := by
      rw [hfilter]
      exact List.mem_singleton_self _
    rcases hread with ⟨-, hnone⟩ | ⟨-, part, hpart, hsome⟩
    · cases hnone
    · cases hsome
      exact ⟨value, (List.mem_filter.mp hmem).1, hpart⟩

theorem text?_eq_some_iff {value : Json} {text : String} :
    value.text? = some text ↔ value = .string text := by
  cases value <;> simp [text?]

theorem bool?_eq_some_iff {value : Json} {answer : Bool} :
    value.bool? = some answer ↔ value = .bool answer := by
  cases value <;> simp [bool?]

/-- A list is read item by item. -/
theorem exists_of_list? {α : Type} {read : Json → Option α} {value : Json} {parts : List α}
    (h : list? read value = some parts) :
    ∃ items, value = .array items ∧ ∀ item ∈ items, ∃ part, read item = some part := by
  cases value with
  | array items =>
      refine ⟨items, rfl, ?_⟩
      rw [list?] at h
      induction items generalizing parts with
      | nil => exact List.forall_mem_nil _
      | cons item items ih =>
          rw [List.mapM_cons] at h
          obtain ⟨part, hpart, h⟩ := Option.bind_eq_some_iff.mp h
          obtain ⟨rest, hrest, -⟩ := Option.bind_eq_some_iff.mp h
          exact List.forall_mem_cons.mpr ⟨⟨part, hpart⟩, ih hrest⟩
  | _ => cases h

theorem eq_natural_of_natural? {last n : Nat} {value : Json} (h : value.natural? last = some n) :
    n ≤ last ∧ value = .natural n := by
  unfold natural? at h
  split at h
  · split at h
    case isTrue hrange =>
      obtain rfl := Option.some.inj h
      refine ⟨by omega, ?_⟩
      rw [natural, Int.toNat_of_nonneg hrange.1]
    case isFalse => cases h
  · cases h

/-! ## Members put in another's place -/

variable {α : Type} {read : Json → Option α} {name wanted : String}
  {before after : List (String × Json)} {first second : Json}

theorem filter_replace_of_ne (h : name ≠ wanted) :
    (before ++ (name, first) :: after).filter (·.1 == wanted) =
      (before ++ (name, second) :: after).filter (·.1 == wanted) := by
  have hname : (name == wanted) = false := beq_eq_false_iff_ne.mpr h
  simp [hname]

theorem required?_replace (h : name = wanted → read first = read second) :
    required? read wanted (before ++ (name, first) :: after) =
      required? read wanted (before ++ (name, second) :: after) := by
  by_cases hname : name = wanted
  · subst hname
    simp only [required?, List.filter_append, List.filter_cons, beq_self_eq_true, if_true]
    cases before.filter (·.1 == name) with
    | nil =>
        cases after.filter (·.1 == name) with
        | nil => exact h rfl
        | cons member rest => rfl
    | cons member rest => cases rest <;> rfl
  · rw [required?, filter_replace_of_ne hname, required?]

theorem optional?_eq_none_of_length {members : List (String × Json)}
    (h : 2 ≤ (members.filter (·.1 == wanted)).length) : optional? read wanted members = none := by
  rw [optional?]
  split
  case h_1 hfilter => simp [hfilter] at h
  case h_2 hfilter => simp [hfilter] at h
  case h_3 hfilter => simp [hfilter] at h
  case h_4 => rfl

theorem optional?_singleton {members : List (String × Json)}
    (hfilter : members.filter (·.1 == wanted) = [(name, first)]) (hfirst : first ≠ .null) :
    optional? read wanted members = (read first).map some := by
  rw [optional?, hfilter]
  cases first with
  | null => contradiction
  | _ => rfl

theorem optional?_replace (h : name = wanted → read first = read second) (hfirst : first ≠ .null)
    (hsecond : second ≠ .null) :
    optional? read wanted (before ++ (name, first) :: after) =
      optional? read wanted (before ++ (name, second) :: after) := by
  by_cases hname : name = wanted
  · subst hname
    have hfilter (value : Json) : (before ++ (name, value) :: after).filter (·.1 == name) =
        before.filter (·.1 == name) ++ (name, value) :: after.filter (·.1 == name) := by
      simp
    by_cases hothers : before.filter (·.1 == name) = [] ∧ after.filter (·.1 == name) = []
    · have halone (value : Json) := hfilter value
      simp only [hothers.1, hothers.2, List.nil_append] at halone
      rw [optional?_singleton (halone first) hfirst, optional?_singleton (halone second) hsecond,
        h rfl]
    · have hlength (value : Json) :
          2 ≤ ((before ++ (name, value) :: after).filter (·.1 == name)).length := by
        rw [← List.length_eq_zero_iff, ← List.length_eq_zero_iff] at hothers
        rw [hfilter, List.length_append, List.length_cons]
        omega
      rw [optional?_eq_none_of_length (hlength first), optional?_eq_none_of_length (hlength second)]
  · rw [optional?, filter_replace_of_ne hname, optional?]

theorem filter_drop_of_ne (h : name ≠ wanted) :
    (before ++ (name, first) :: after).filter (·.1 == wanted) =
      (before ++ after).filter (·.1 == wanted) := by
  have hname : (name == wanted) = false := beq_eq_false_iff_ne.mpr h
  simp [hname]

/-- Null is as good as no member, if there is no other of its name. -/
theorem optional?_drop_null (h : ∀ member ∈ before ++ after, member.1 ≠ name) :
    optional? read wanted (before ++ (name, .null) :: after) =
      optional? read wanted (before ++ after) := by
  by_cases hname : name = wanted
  · subst hname
    have hnone : (before ++ after).filter (·.1 == name) = [] := by
      rw [List.filter_eq_nil_iff]
      intro member hmember
      simpa using h member hmember
    rw [List.filter_append, List.append_eq_nil_iff] at hnone
    simp [optional?, hnone.1, hnone.2]
  · rw [optional?, filter_drop_of_ne hname, optional?]

end Json

/-! ## Records -/

theorem ToolMeta.ofJson?_object_iff {fields : List (String × Json)} {tool : ToolMeta} :
    ToolMeta.ofJson? (.object fields) = some tool ↔
      Json.required? Json.text? "name" fields = some tool.name ∧
        Json.required? Json.text? "version" fields = some tool.version := by
  cases tool
  simp [ToolMeta.ofJson?, Json.record?, Option.bind_eq_some_iff]

theorem VerdictCounts.ofJson?_object_iff {fields : List (String × Json)}
    {counts : VerdictCounts} :
    VerdictCounts.ofJson? (.object fields) = some counts ↔
      Json.required? count? "issues" fields = some counts.issues ∧
        Json.required? count? "warnings" fields = some counts.warnings := by
  cases counts
  simp [VerdictCounts.ofJson?, Json.record?, Option.bind_eq_some_iff]

theorem Verdict.ofJson?_object_iff {fields : List (String × Json)} {verdict : Verdict} :
    Verdict.ofJson? (.object fields) = some verdict ↔
      Json.required? VerdictStatus.ofJson? "status" fields = some verdict.status ∧
        Json.required? VerdictCounts.ofJson? "counts" fields = some verdict.counts := by
  cases verdict
  simp [Verdict.ofJson?, Json.record?, Option.bind_eq_some_iff]

theorem RunMeta.ofJson?_object_iff {fields : List (String × Json)} {run : RunMeta} :
    RunMeta.ofJson? (.object fields) = some run ↔
      Json.required? RunMeta.stamp? "started_at" fields = some run.startedAt ∧
        Json.optional? RunMeta.stamp? "ended_at" fields = some run.endedAt ∧
        Json.optional? RunMeta.duration? "duration_ms" fields = some run.durationMs := by
  cases run
  simp only [RunMeta.ofJson?, Json.record?, Option.bind_eq_bind, Option.bind_some,
    Option.bind_eq_some_iff, Option.some.injEq, RunMeta.mk.injEq]
  constructor
  · rintro ⟨_, hfirst, _, hsecond, _, hthird, rfl, rfl, rfl⟩
    exact ⟨hfirst, hsecond, hthird⟩
  · rintro ⟨hfirst, hsecond, hthird⟩
    exact ⟨_, hfirst, _, hsecond, _, hthird, rfl, rfl, rfl⟩

theorem Finding.ofJson?_object_iff {fields : List (String × Json)} {finding : Finding} :
    Finding.ofJson? (.object fields) = some finding ↔
      Json.required? Severity.ofJson? "severity" fields = some finding.severity ∧
        Json.required? Json.text? "check_id" fields = some finding.checkId ∧
        Json.required? Json.text? "code" fields = some finding.code ∧
        Json.required? Json.text? "message" fields = some finding.message ∧
        Json.optional? Json.text? "help" fields = some finding.help ∧
        Json.optional? Json.text? "url" fields = some finding.url := by
  cases finding
  simp only [Finding.ofJson?, Json.record?, Option.bind_eq_bind, Option.bind_some,
    Option.bind_eq_some_iff, Option.some.injEq, Finding.mk.injEq]
  grind

theorem ScanReport.ofJson?_object_iff {fields : List (String × Json)} {report : ScanReport} :
    ScanReport.ofJson? (.object fields) = some report ↔
      Json.required? Json.text? "schema" fields = some report.schema ∧
        Json.required? ToolMeta.ofJson? "tool" fields = some report.tool ∧
        Json.required? RunMeta.ofJson? "run" fields = some report.run ∧
        Json.required? Verdict.ofJson? "verdict" fields = some report.verdict ∧
        Json.required? (Json.list? Finding.ofJson?) "issues" fields = some report.issues ∧
        Json.required? (Json.list? Finding.ofJson?) "warnings" fields = some report.warnings := by
  cases report
  simp only [ScanReport.ofJson?, Json.record?, Option.bind_eq_bind, Option.bind_some,
    Option.bind_eq_some_iff, Option.some.injEq, ScanReport.mk.injEq]
  grind

theorem AdviceReport.ofJson?_object_iff {fields : List (String × Json)}
    {report : AdviceReport} :
    AdviceReport.ofJson? (.object fields) = some report ↔
      Json.required? Json.text? "schema" fields = some report.schema ∧
        Json.required? ToolMeta.ofJson? "tool" fields = some report.tool ∧
        Json.required? RunMeta.ofJson? "run" fields = some report.run ∧
        Json.required? (Json.list? Json.text?) "topics" fields = some report.topics ∧
        Json.required? Json.bool? "general" fields = some report.general ∧
        Json.required? (Json.list? AdviceEntry.ofJson?) "recommendations" fields =
          some report.recommendations ∧
        Json.required? count? "recommendations_total" fields =
          some report.recommendationsTotal ∧
        Json.required? Json.bool? "truncated" fields = some report.truncated ∧
        Json.required? (Json.list? Json.text?) "loaded_guides" fields =
          some report.loadedGuides := by
  cases report
  simp only [AdviceReport.ofJson?, Json.record?, Option.bind_eq_bind, Option.bind_some,
    Option.bind_eq_some_iff, Option.some.injEq, AdviceReport.mk.injEq]
  grind

/-- The members that an entry of each kind is read from. -/
theorem AdviceEntry.ofJson?_object_iff {fields : List (String × Json)} {entry : AdviceEntry} :
    AdviceEntry.ofJson? (.object fields) = some entry ↔
      match entry with
      | .generalNotice => Json.required? Json.text? "kind" fields = some "general_notice"
      | .guideHeader guide =>
          Json.required? Json.text? "kind" fields = some "guide_header" ∧
            Json.required? Json.text? "guide" fields = some guide
      | .point guide text =>
          Json.required? Json.text? "kind" fields = some "point" ∧
            Json.required? Json.text? "guide" fields = some guide ∧
            Json.required? Json.text? "text" fields = some text := by
  rw [AdviceEntry.ofJson?, Json.tagged?]
  cases hkind : Json.required? Json.text? "kind" fields with
  | none => cases entry <;> simp
  | some kind =>
      simp only [Option.bind_eq_bind, Option.bind_some, Option.some.injEq, Json.record?]
      split
      case isTrue hnotice => cases entry <;> simp [hnotice]
      case isFalse hnotice =>
        split
        case isTrue hheader => cases entry <;> simp [hheader, Option.bind_eq_some_iff]
        case isFalse hheader =>
          split
          case isTrue hpoint => cases entry <;> simp [hpoint, Option.bind_eq_some_iff]
          case isFalse hpoint => cases entry <;> simp [hnotice, hheader, hpoint]

end ViewAudit
