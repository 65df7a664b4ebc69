import ViewAudit.Proofs.Report.Lines

/-!
What can be read from a report on a scan that was written as text. A finding is
told by the sign at the start of its line, also where its message looks like a
title or its severity is not that of its tier. The lines are read from the last
to the first: help comes below the finding that it belongs to, and so do findings
below the title of their tier.
-/

namespace ViewAudit

/-- What is shown of a finding. -/
structure ShownFinding where
  severity : Severity
  message : String
  help : Option String
  deriving DecidableEq, Repr

def Finding.shown (finding : Finding) : ShownFinding :=
  ⟨finding.severity, finding.message, finding.help⟩

def ShownFinding.lines (finding : ShownFinding) : List String :=
  ["", finding.severity.glyph ++ " " ++ finding.message] ++
    finding.help.toList.map ("   → " ++ ·)

/-- Nothing that is shown of a finding ends a line. -/
def Finding.IsOneLine (finding : Finding) : Prop :=
  '\n' ∉ finding.message.toList ∧ ∀ help ∈ finding.help, '\n' ∉ help.toList

instance (finding : Finding) : Decidable finding.IsOneLine :=
  inferInstanceAs (Decidable (_ ∧ _))

/-- Each finding of a report can be shown line by line. -/
def ScanReport.IsOneLine (report : ScanReport) : Prop :=
  ∀ finding ∈ report.issues ++ report.warnings, finding.IsOneLine

instance (report : ScanReport) : Decidable report.IsOneLine :=
  inferInstanceAs (Decidable (∀ finding ∈ report.issues ++ report.warnings, _))

namespace ScanReport

/-- The text on a scan that found nothing. -/
def cleanText : String := joinLines (["♿ A11y Quick Scan", separator] ++ cleanLines)

/-- What was read of a scan, from its end on. -/
structure ReadLines where
  /-- The findings below the title that is still to come. -/
  findings : List ShownFinding := []
  /-- The findings below the title of the warnings. -/
  warnings : List ShownFinding := []
  /-- The help for the finding that is still to come. -/
  help : Option String := none
  deriving DecidableEq, Repr

/-- The severity and the message on a line with the sign of a finding. -/
def markedMessage? (line : String) : Option (Severity × String) :=
  match afterMark? (Severity.issue.glyph ++ " ") line with
  | some message => some (.issue, message)
  | none => (afterMark? (Severity.warning.glyph ++ " ") line).map (.warning, ·)

/-- Reads one more line, above those that were read. -/
def readLine (line : String) (read : ReadLines) : ReadLines :=
  if line = "🟡 WARNINGS (should review):" then
    { findings := [], warnings := read.findings, help := none }
  else
    match markedMessage? line, afterMark? "   → " line with
    | some (severity, message), _ =>
        { read with findings := ⟨severity, message, read.help⟩ :: read.findings, help := none }
    | none, some help => { read with help := some help }
    | none, none => read

/-- The issues and the warnings of a report that was written as text. -/
def readPlain (text : String) : List ShownFinding × List ShownFinding :=
  let read := (piecesOf text).foldr readLine {}
  (read.findings, read.warnings)

/-! ## Reading findings -/

theorem markedMessage?_glyph (severity : Severity) (message : String) :
    markedMessage? (severity.glyph ++ " " ++ message) = some (severity, message) := by
  cases severity with
  | issue => rw [markedMessage?, afterMark?_append]
  | warning =>
      have hissue : afterMark? (Severity.issue.glyph ++ " ")
          (Severity.warning.glyph ++ " " ++ message) = none := by
        apply afterMark?_eq_none (by decide)
        rw [String.toList_append]
        exact (by decide : some '⚠' ≠ some '🚨')
      rw [markedMessage?, hissue, afterMark?_append]
      rfl

theorem readLine_empty (read : ReadLines) : readLine "" read = read := rfl

theorem readLine_message (severity : Severity) (message : String) (read : ReadLines) :
    readLine (severity.glyph ++ " " ++ message) read =
      { read with findings := ⟨severity, message, read.help⟩ :: read.findings, help := none } := by
  have htitle : severity.glyph ++ " " ++ message ≠ "🟡 WARNINGS (should review):" := by
    apply ne_of_head?_ne
    rw [String.toList_append]
    cases severity with
    | issue => exact (by decide : some '🚨' ≠ some '🟡')
    | warning => exact (by decide : some '⚠' ≠ some '🟡')
  rw [readLine, if_neg htitle, markedMessage?_glyph]

theorem readLine_help (help : String) (read : ReadLines) :
    readLine ("   → " ++ help) read = { read with help := some help } := by
  have hhead : ("   → " ++ help).toList.head? = some ' ' := by
    rw [String.toList_append]
    rfl
  have htitle : "   → " ++ help ≠ "🟡 WARNINGS (should review):" := by
    apply ne_of_head?_ne
    rw [hhead]
    decide
  have hmark : markedMessage? ("   → " ++ help) = none := by
    rw [markedMessage?, afterMark?_eq_none (by decide) (by rw [hhead]; decide),
      afterMark?_eq_none (by decide) (by rw [hhead]; decide)]
    rfl
  rw [readLine, if_neg htitle, hmark, afterMark?_append]

/-- Of the lines of a finding the help is read first, then the message. -/
theorem foldr_readLine_lines (finding : ShownFinding) {read : ReadLines}
    (h : read.help = none) :
    finding.lines.foldr readLine read = { read with findings := finding :: read.findings } := by
  obtain ⟨severity, message, help⟩ := finding
  obtain ⟨findings, warnings, _⟩ := read
  cases h
  cases help with
  | none => exact readLine_message severity message _
  | some help =>
      change readLine "" (readLine (severity.glyph ++ " " ++ message)
        (readLine ("   → " ++ help) _)) = _
      rw [readLine_help, readLine_message, readLine_empty]
      rfl

theorem foldr_readLine_findings (findings : List ShownFinding) {read : ReadLines}
    (h : read.help = none) :
    (findings.flatMap ShownFinding.lines).foldr readLine read =
      { read with findings := findings ++ read.findings } := by
  induction findings with
  | nil => rfl
  | cons finding rest ih =>
      rw [List.flatMap_cons, List.foldr_append, ih]
      exact foldr_readLine_lines finding h

/-! ## Tiers -/

theorem flatMap_findingLines (findings : List Finding) :
    findings.flatMap findingLines = (findings.map Finding.shown).flatMap ShownFinding.lines := by
  rw [List.flatMap_map]
  rfl

theorem foldr_readLine_issues (findings : List Finding) {read : ReadLines}
    (h : read.help = none) :
    (tierLines "🔴 ISSUES (high priority):" findings).foldr readLine read =
      { read with findings := findings.map Finding.shown ++ read.findings } := by
  have htitle (read : ReadLines) :
      ["", "🔴 ISSUES (high priority):"].foldr readLine read = read := rfl
  rw [tierLines]
  split
  case isTrue hnil =>
    rw [List.isEmpty_iff.mp hnil]
    rfl
  case isFalse =>
    rw [flatMap_findingLines, List.foldr_append, htitle, foldr_readLine_findings _ h]

/-- What was read below the title of the warnings are the warnings. -/
theorem foldr_readLine_warnings (findings : List Finding) :
    (tierLines "🟡 WARNINGS (should review):" findings).foldr readLine {} =
      { warnings := findings.map Finding.shown } := by
  have htitle (read : ReadLines) :
      ["", "🟡 WARNINGS (should review):"].foldr readLine read = { warnings := read.findings } :=
    rfl
  rw [tierLines]
  split
  case isTrue hnil =>
    rw [List.isEmpty_iff.mp hnil]
    rfl
  case isFalse =>
    rw [flatMap_findingLines, List.foldr_append, htitle, foldr_readLine_findings _ rfl,
      List.append_nil]

theorem isEmpty_congr {findings others : List Finding}
    (h : findings.map Finding.shown = others.map Finding.shown) :
    findings.isEmpty = others.isEmpty := by
  rw [← List.isEmpty_map (f := Finding.shown), h, List.isEmpty_map]

theorem tierLines_congr {findings others : List Finding}
    (h : findings.map Finding.shown = others.map Finding.shown) (title : String) :
    tierLines title findings = tierLines title others := by
  rw [tierLines, tierLines, isEmpty_congr h, flatMap_findingLines, flatMap_findingLines, h]

/-- Nothing else of a report has an influence on its text. -/
theorem plain_congr {report other : ScanReport}
    (hissues : report.issues.map Finding.shown = other.issues.map Finding.shown)
    (hwarnings : report.warnings.map Finding.shown = other.warnings.map Finding.shown) :
    report.plain = other.plain := by
  rw [plain, plain, plainLines, plainLines, isEmpty_congr hissues, isEmpty_congr hwarnings,
    tierLines_congr hissues, tierLines_congr hwarnings]

theorem plain_of_clean {report : ScanReport} (hissues : report.issues = [])
    (hwarnings : report.warnings = []) : report.plain = cleanText := by
  rw [plain, plainLines, hissues, hwarnings]
  rfl

/-! ## The pieces of a scan -/

theorem newline_not_mem_findingLines {finding : Finding} (h : finding.IsOneLine) :
    ∀ line ∈ findingLines finding, '\n' ∉ line.toList := by
  obtain ⟨hmessage, hhelp⟩ := h
  have hglyph : '\n' ∉ finding.severity.glyph.toList := by
    cases finding.severity <;> decide
  intro line hline
  rw [findingLines] at hline
  rcases List.mem_append.mp hline with hfirst | hlast
  · rcases List.mem_cons.mp hfirst with rfl | hsecond
    · decide
    · rw [List.mem_singleton.mp hsecond]
      simp [hglyph, hmessage]
  · obtain ⟨help, hmem, rfl⟩ := List.mem_map.mp hlast
    have hnone := hhelp help (Option.mem_toList.mp hmem)
    simp [hnone]

theorem newline_not_mem_tierLines {findings : List Finding} {title : String}
    (htitle : '\n' ∉ title.toList) (h : ∀ finding ∈ findings, finding.IsOneLine) :
    ∀ line ∈ tierLines title findings, '\n' ∉ line.toList := by
  intro line hline
  rw [tierLines] at hline
  split at hline
  · cases hline
  · rcases List.mem_append.mp hline with htop | hfindings
    · rcases List.mem_cons.mp htop with rfl | hlast
      · decide
      · rwa [List.mem_singleton.mp hlast]
    · obtain ⟨finding, hmem, hlines⟩ := List.mem_flatMap.mp hfindings
      exact newline_not_mem_findingLines (h finding hmem) line hlines

theorem newline_not_mem_plainLines {report : ScanReport} (h : report.IsOneLine) :
    ∀ line ∈ report.plainLines, '\n' ∉ line.toList := by
  obtain ⟨hissues, hwarnings⟩ := List.forall_mem_append.mp h
  intro line hline
  rw [plainLines] at hline
  rcases List.mem_append.mp hline with htop | hrest
  · have htitle : ∀ line ∈ ["♿ A11y Quick Scan", separator], '\n' ∉ line.toList := by
      decide +kernel
    exact htitle line htop
  · split at hrest
    · have hclean : ∀ line ∈ cleanLines, '\n' ∉ line.toList := by decide +kernel
      exact hclean line hrest
    · have hend : ∀ line ∈ ["", separator, "📖 Learn more: " ++ Check.guidanceUrl],
          '\n' ∉ line.toList := by decide +kernel
      rcases List.mem_append.mp hrest with htiers | hlast
      · rcases List.mem_append.mp htiers with hfirst | hsecond
        · exact newline_not_mem_tierLines (by decide) hissues line hfirst
        · exact newline_not_mem_tierLines (by decide) hwarnings line hsecond
      · exact hend line hlast

/-- The findings of a report are read back from its text. -/
theorem readPlain_plain {report : ScanReport} (h : report.IsOneLine) :
    readPlain report.plain =
      (report.issues.map Finding.shown, report.warnings.map Finding.shown) := by
  have hpieces : piecesOf report.plain = report.plainLines ++ [""] :=
    piecesOf_joinLines (newline_not_mem_plainLines h)
  have htop (read : ReadLines) :
      ["♿ A11y Quick Scan", separator].foldr readLine read = read := rfl
  rw [readPlain, hpieces, plainLines]
  split
  case isTrue hempty =>
    obtain ⟨hissues, hwarnings⟩ := Bool.and_eq_true_iff.mp hempty
    rw [List.isEmpty_iff.mp hissues, List.isEmpty_iff.mp hwarnings]
    decide +kernel
  case isFalse =>
    -- nothing is read from the lines of the end, so the warnings are read first
    have hend : (["", separator, "📖 Learn more: " ++ Check.guidanceUrl] ++ [""]).foldr readLine {} =
        {} := by decide +kernel
    rw [List.append_assoc, List.append_assoc, List.append_assoc, List.foldr_append,
      List.foldr_append, List.foldr_append, hend, foldr_readLine_warnings,
      foldr_readLine_issues _ rfl, htop]
    simp

end ScanReport

/-- The text on a scan shows the issues and the warnings, each list in its order
and each finding by its severity, its message and its help. It can be read back,
and nothing else of a report has an influence on it. -/
theorem scan_text_shows_findings :
    (∀ report other : ScanReport, report.IsOneLine → other.IsOneLine →
      (report.plain = other.plain ↔
        report.issues.map Finding.shown = other.issues.map Finding.shown ∧
          report.warnings.map Finding.shown = other.warnings.map Finding.shown)) ∧
    (∀ report : ScanReport, report.IsOneLine →
      ScanReport.readPlain report.plain =
        (report.issues.map Finding.shown, report.warnings.map Finding.shown)) ∧
    (∀ report : ScanReport, report.IsOneLine →
      (report.plain = ScanReport.cleanText ↔ report.issues = [] ∧ report.warnings = [])) ∧
    ∀ report other : ScanReport,
      report.issues.map Finding.shown = other.issues.map Finding.shown →
      report.warnings.map Finding.shown = other.warnings.map Finding.shown →
        report.plain = other.plain := by
  refine ⟨fun report other hreport hother => ?_, fun report => ScanReport.readPlain_plain,
    fun report hreport => ?_, fun report other => ScanReport.plain_congr⟩
  · constructor
    · intro hplain
      have hread := ScanReport.readPlain_plain hreport
      rw [hplain, ScanReport.readPlain_plain hother] at hread
      exact Prod.mk.inj hread.symm
    · rintro ⟨hissues, hwarnings⟩
      exact ScanReport.plain_congr hissues hwarnings
  · constructor
    · intro hplain
      let clean : ScanReport := { report with issues := [], warnings := [] }
      have hclean : clean.plain = ScanReport.cleanText := ScanReport.plain_of_clean rfl rfl
      have hempty : clean.IsOneLine := fun _ hmem => absurd hmem List.not_mem_nil
      have hread := ScanReport.readPlain_plain hreport
      rw [hplain, ← hclean, ScanReport.readPlain_plain hempty] at hread
      obtain ⟨hissues, hwarnings⟩ := Prod.mk.inj hread.symm
      exact ⟨List.map_eq_nil_iff.mp hissues, List.map_eq_nil_iff.mp hwarnings⟩
    · rintro ⟨hissues, hwarnings⟩
      exact ScanReport.plain_of_clean hissues hwarnings

/-- A finding whose message is the title of the other tier and whose help begins
with the sign of another severity. -/
def confusableFinding : Finding :=
  ⟨.warning, "buttons", "A1", "🟡 WARNINGS (should review):", some "🚨 ", none⟩

theorem confusable_findings_are_shown :
    let run : RunMeta := ⟨⟨⟨1970, 1, 1, by decide, by decide⟩, ⟨0, 0, 0, 0⟩, 0⟩, none, none⟩
    let report : ScanReport :=
      ⟨"", ⟨"", ""⟩, run, ⟨.fail, ⟨1, 0⟩⟩, [confusableFinding], []⟩
    let moved : ScanReport := { report with issues := [], warnings := [confusableFinding] }
    let renamed : ScanReport :=
      ⟨"2", ⟨"scan", "1"⟩, { run with durationMs := some 7 }, ⟨.pass, ⟨0, 9⟩⟩,
        [{ confusableFinding with checkId := "", code := "\n", url := some "\n" }], []⟩
    report.IsOneLine ∧ moved.IsOneLine ∧ report.plain ≠ moved.plain ∧
      ScanReport.readPlain report.plain = ([confusableFinding.shown], []) ∧
      report.plain ≠ ScanReport.cleanText ∧ renamed ≠ report ∧ renamed.plain = report.plain := by
  intro run report moved renamed
  have hreport : report.IsOneLine := by decide
  have hmoved : moved.IsOneLine := by decide
  obtain ⟨hiff, hread, hclean, hframe⟩ := scan_text_shows_findings
  refine ⟨hreport, hmoved, fun hplain => ?_, hread report hreport, fun hplain => ?_,
    by decide, hframe renamed report rfl rfl⟩
  · exact absurd ((hiff report moved hreport hmoved).mp hplain).1 (by decide)
  · exact absurd ((hclean report hreport).mp hplain).1 (by decide)

end ViewAudit
