import ViewAudit.Proofs.Guide.Advice
import ViewAudit.Proofs.Guide.Point
import ViewAudit.Proofs.Report.Lines

/-!
What can be read from a report on advice that was written as text. The line of an
entry tells what the entry is, and the closing separator cannot be taken for one
of them. This rests on what is known of points: blanks are around none of them,
and none has a newline in it. What the guides have in them does not matter, and
neither do the names of the loaded guides, which stand below the separator.
-/

namespace ViewAudit

/-- The line that an entry is shown on. -/
def AdviceEntry.line : AdviceEntry → String
  | .generalNotice => "🔍 No specific keywords detected. Providing general HIG recommendations:"
  | .guideHeader guide => "📘 From " ++ guide ++ ".md:"
  | .point _ text => "  " ++ text

/-- The character that the line of an entry begins with. -/
def AdviceEntry.sign : AdviceEntry → Char
  | .generalNotice => '🔍'
  | .guideHeader _ => '📘'
  | .point _ _ => ' '

/-- An entry has something to show, and nothing in it ends a line. -/
def AdviceEntry.IsOneLine : AdviceEntry → Prop
  | .generalNotice => True
  | .guideHeader guide => '\n' ∉ guide.toList
  | .point _ text => '\n' ∉ text.toList ∧ ¬ IsBlankRun text.toList

namespace AdviceReport

/-- The line that stands for an empty list of entries. -/
def nothingLine : String := "✅ No specific recommendations. Code looks good!"

/-- How lines show entries, below the header of a guide if there is one above
them. Every entry has one line, an empty line comes before each header and
nowhere else, and a point is one of the guide of the last header above it. -/
inductive Shows : Option String → List String → List AdviceEntry → Prop where
  | nil {above : Option String} : Shows above [] []
  | notice {above : Option String} {lines : List String} {entries : List AdviceEntry}
      (hrest : Shows above lines entries) :
      Shows above (AdviceEntry.generalNotice.line :: lines) (.generalNotice :: entries)
  | header {above : Option String} {guide : String} {lines : List String}
      {entries : List AdviceEntry} (hrest : Shows (some guide) lines entries) :
      Shows above ("" :: (AdviceEntry.guideHeader guide).line :: lines)
        (.guideHeader guide :: entries)
  | point {guide text : String} {lines : List String} {entries : List AdviceEntry}
      (hrest : Shows (some guide) lines entries) :
      Shows (some guide) ((AdviceEntry.point guide text).line :: lines)
        (.point guide text :: entries)

/-- How the lines between the separators of a report show its entries. -/
def BodyShows (body : List String) (entries : List AdviceEntry) : Prop :=
  if entries = [] then body = [nothingLine] else Shows none body entries

/-- The entry on a line, below the header of a guide if there is one above. -/
def entryOn? (above : Option String) (line : String) : Option AdviceEntry :=
  match (afterMark? "📘 From " line).bind (beforeMark? ".md:") with
  | some guide => some (.guideHeader guide)
  | none =>
      if line = AdviceEntry.generalNotice.line then some .generalNotice
      else do return .point (← above) (← afterMark? "  " line)

/-- The guide of the points after an entry. -/
def guideAfter (above : Option String) : AdviceEntry → Option String
  | .guideHeader guide => some guide
  | .generalNotice | .point _ _ => above

/-- The entries on some lines. -/
def entriesOn? : Option String → List String → Option (List AdviceEntry)
  | _, [] => some []
  | above, line :: rest =>
      if line = "" then entriesOn? above rest
      else do
        let entry ← entryOn? above line
        return entry :: (← entriesOn? (guideAfter above entry) rest)

/-- The entries on the lines between the separators of a report. -/
def entriesIn? (body : List String) : Option (List AdviceEntry) :=
  if body = [nothingLine] then some [] else entriesOn? none body

/-- The entries of a report that was written as text. Its first two pieces are
the title and a separator, and before the next separator comes an empty line. -/
def readPlain? (text : String) : Option (List AdviceEntry) :=
  entriesIn? (((piecesOf text).drop 2).takeWhile (· ≠ separator)).dropLast

/-! ## Reading entries -/

theorem head?_line (entry : AdviceEntry) : entry.line.toList.head? = some entry.sign := by
  cases entry with
  | generalNotice => rfl
  | guideHeader guide =>
      rw [AdviceEntry.line, String.append_assoc, String.toList_append]
      rfl
  | point guide text =>
      rw [AdviceEntry.line, String.toList_append]
      rfl

theorem line_ne_empty (entry : AdviceEntry) : entry.line ≠ "" := by
  apply ne_of_head?_ne
  rw [head?_line]
  exact Option.some_ne_none _

theorem line_ne_separator (entry : AdviceEntry) : entry.line ≠ separator := by
  have hsign : entry.sign ≠ '=' := by
    cases entry <;> simp [AdviceEntry.sign]
  apply ne_of_head?_ne
  rw [head?_line]
  exact fun hsame => hsign (Option.some.inj hsame)

theorem entryOn?_notice (above : Option String) :
    entryOn? above AdviceEntry.generalNotice.line = some .generalNotice := by
  have hmark : afterMark? "📘 From " AdviceEntry.generalNotice.line = none :=
    afterMark?_eq_none (by decide) (by decide)
  rw [entryOn?, hmark]
  exact if_pos rfl

theorem entryOn?_header (above : Option String) (guide : String) :
    entryOn? above (AdviceEntry.guideHeader guide).line = some (.guideHeader guide) := by
  have hguide : (afterMark? "📘 From " (AdviceEntry.guideHeader guide).line).bind
      (beforeMark? ".md:") = some guide := by
    rw [AdviceEntry.line, String.append_assoc, afterMark?_append, Option.bind_some]
    exact beforeMark?_eq_some_iff.mpr rfl
  rw [entryOn?, hguide]

theorem entryOn?_point (guide text : String) :
    entryOn? (some guide) (AdviceEntry.point guide text).line = some (.point guide text) := by
  have hhead : (AdviceEntry.point guide text).line.toList.head? = some ' ' := head?_line _
  have hmark : afterMark? "📘 From " (AdviceEntry.point guide text).line = none := by
    apply afterMark?_eq_none (by decide)
    rw [hhead]
    decide
  have hnotice : (AdviceEntry.point guide text).line ≠ AdviceEntry.generalNotice.line := by
    apply ne_of_head?_ne
    rw [hhead, head?_line]
    decide
  rw [entryOn?, hmark, Option.bind_none]
  dsimp only
  rw [if_neg hnotice, AdviceEntry.line, afterMark?_append]
  rfl

theorem entriesOn?_line {above : Option String} {entry : AdviceEntry} {lines : List String}
    {entries : List AdviceEntry} (hentry : entryOn? above entry.line = some entry)
    (hrest : entriesOn? (guideAfter above entry) lines = some entries) :
    entriesOn? above (entry.line :: lines) = some (entry :: entries) := by
  rw [entriesOn?, if_neg (line_ne_empty entry), hentry]
  simp [hrest]

/-- Lines that show entries are read as these entries. -/
theorem Shows.entriesOn? {above : Option String} {lines : List String}
    {entries : List AdviceEntry} (h : Shows above lines entries) :
    entriesOn? above lines = some entries := by
  induction h with
  | nil => rfl
  | notice _ ih => exact entriesOn?_line (entryOn?_notice _) ih
  | header _ ih =>
      rw [AdviceReport.entriesOn?, if_pos rfl]
      exact entriesOn?_line (entryOn?_header _ _) ih
  | point _ ih => exact entriesOn?_line (entryOn?_point _ _) ih

theorem entriesIn?_of_bodyShows {body : List String} {entries : List AdviceEntry}
    (h : BodyShows body entries) : entriesIn? body = some entries := by
  rw [BodyShows] at h
  split at h
  case isTrue hnil => rw [entriesIn?, if_pos h, hnil]
  case isFalse =>
    have hread := h.entriesOn?
    have hbody : body ≠ [nothingLine] := by
      rintro rfl
      have hnone : entriesOn? none [nothingLine] = none := by decide +kernel
      rw [hnone] at hread
      cases hread
    rw [entriesIn?, if_neg hbody, hread]

/-! ## What lines show -/

section Shows

variable {above : Option String} {lines : List String} {entries : List AdviceEntry}

/-- Entries are shown on the lines that they are written on. -/
theorem Shows.lines_eq (h : Shows above lines entries) : lines = entries.flatMap entryLines := by
  induction h with
  | nil => rfl
  | notice _ ih => rw [List.flatMap_cons, ← ih]; rfl
  | header _ ih => rw [List.flatMap_cons, ← ih]; rfl
  | point _ ih => rw [List.flatMap_cons, ← ih]; rfl

theorem Shows.separator_not_mem (h : Shows above lines entries) : separator ∉ lines := by
  induction h with
  | nil => exact List.not_mem_nil
  | notice _ ih => exact List.not_mem_cons_of_ne_of_not_mem (line_ne_separator _).symm ih
  | @header _ guide _ _ _ ih =>
      have hline := (line_ne_separator (.guideHeader guide)).symm
      have hempty : separator ≠ "" := by decide
      exact List.not_mem_cons_of_ne_of_not_mem hempty
        (List.not_mem_cons_of_ne_of_not_mem hline ih)
  | point _ ih => exact List.not_mem_cons_of_ne_of_not_mem (line_ne_separator _).symm ih

theorem not_isBlankRun_line {entry : AdviceEntry} (h : entry.IsOneLine) :
    ¬ IsBlankRun entry.line.toList := by
  intro hblank
  cases entry with
  | generalNotice => exact absurd (hblank '🔍' List.mem_cons_self) (by decide)
  | guideHeader guide =>
      have hmem : '📘' ∈ (AdviceEntry.guideHeader guide).line.toList :=
        List.mem_of_head? (head?_line (.guideHeader guide))
      exact absurd (hblank _ hmem) (by decide)
  | point guide text =>
      apply h.2
      intro c hc
      apply hblank c
      rw [AdviceEntry.line, String.toList_append]
      exact List.mem_append_right _ hc

/-- Of the lines that show entries, those with more than blanks are the lines of
the entries, one for each. -/
theorem Shows.filter_eq (h : Shows above lines entries)
    (hentries : ∀ entry ∈ entries, entry.IsOneLine) :
    lines.filter (fun line => ¬ IsBlankRun line.toList) = entries.map AdviceEntry.line := by
  have hline {entry : AdviceEntry} (hone : entry.IsOneLine) (rest : List String) :
      (entry.line :: rest).filter (fun line => ¬ IsBlankRun line.toList) =
        entry.line :: rest.filter (fun line => ¬ IsBlankRun line.toList) :=
    List.filter_cons_of_pos (decide_eq_true (not_isBlankRun_line hone))
  induction h with
  | nil => rfl
  | notice _ ih =>
      obtain ⟨hone, hrest⟩ := List.forall_mem_cons.mp hentries
      rw [hline hone, ih hrest, List.map_cons]
  | header _ ih =>
      obtain ⟨hone, hrest⟩ := List.forall_mem_cons.mp hentries
      rw [List.filter_cons_of_neg (by decide), hline hone, ih hrest, List.map_cons]
  | point _ ih =>
      obtain ⟨hone, hrest⟩ := List.forall_mem_cons.mp hentries
      rw [hline hone, ih hrest, List.map_cons]

theorem Shows.take (h : Shows above lines entries) (limit : Nat) :
    ∃ kept, Shows above kept (entries.take limit) := by
  induction limit generalizing above lines entries with
  | zero => exact ⟨[], .nil⟩
  | succ limit ih =>
      cases h with
      | nil => exact ⟨[], .nil⟩
      | notice hrest =>
          obtain ⟨kept, hkept⟩ := ih hrest
          exact ⟨_, .notice hkept⟩
      | header hrest =>
          obtain ⟨kept, hkept⟩ := ih hrest
          exact ⟨_, .header hkept⟩
      | point hrest =>
          obtain ⟨kept, hkept⟩ := ih hrest
          exact ⟨_, .point hkept⟩

end Shows

theorem BodyShows.separator_not_mem {body : List String} {entries : List AdviceEntry}
    (h : BodyShows body entries) : separator ∉ body := by
  rw [BodyShows] at h
  split at h
  case isTrue =>
    rw [h]
    decide
  case isFalse => exact h.separator_not_mem

/-! ## Entries of advice -/

theorem exists_shows_points {guide : String} {lines : List String} {entries : List AdviceEntry}
    (h : Shows (some guide) lines entries) (points : List String) :
    ∃ more, Shows (some guide) more (points.map (.point guide) ++ entries) := by
  induction points with
  | nil => exact ⟨lines, h⟩
  | cons point rest ih =>
      obtain ⟨more, hmore⟩ := ih
      exact ⟨_, .point hmore⟩

theorem exists_shows_sections (above : Option String) (parts : List GuideSection) :
    ∃ lines, Shows above lines (parts.flatMap GuideSection.entries) := by
  induction parts generalizing above with
  | nil => exact ⟨[], .nil⟩
  | cons part rest ih =>
      obtain ⟨lines, hlines⟩ := ih (some part.guide)
      obtain ⟨more, hmore⟩ := exists_shows_points hlines part.points
      exact ⟨_, .header hmore⟩

theorem exists_shows_ofText (text : String) (corpus : Corpus) (limits : AdviceLimits) :
    ∃ lines, Shows none lines (Advice.ofText text corpus limits).entries := by
  obtain ⟨lines, hlines⟩ := exists_shows_sections none
    (Advice.sections (TopicMatch.ofText text) corpus limits.pointsPerGuide)
  have hall : ∃ all, Shows none all
      (Advice.allEntries (TopicMatch.ofText text) corpus limits.pointsPerGuide) := by
    rw [Advice.allEntries_eq_sections, Advice.notice]
    split
    case isTrue => exact ⟨_, .notice hlines⟩
    case isFalse => exact ⟨lines, hlines⟩
  obtain ⟨all, hshows⟩ := hall
  exact hshows.take limits.entries

theorem newline_not_mem_name (topic : Topic) : '\n' ∉ topic.name.toList := by
  cases topic <;> decide

theorem isOneLine_of_mem_ofText {text : String} {corpus : Corpus} {limits : AdviceLimits}
    {entry : AdviceEntry} (h : entry ∈ (Advice.ofText text corpus limits).entries) :
    entry.IsOneLine := by
  have hall := List.mem_of_mem_take h
  rw [Advice.allEntries_eq_sections] at hall
  rcases List.mem_append.mp hall with hnotice | hsections
  · rw [Advice.notice] at hnotice
    split at hnotice
    · rw [List.mem_singleton.mp hnotice]
      trivial
    · cases hnotice
  · obtain ⟨part, hpart, hentry⟩ := List.mem_flatMap.mp hsections
    obtain ⟨topic, -, guide, -, rfl⟩ := Advice.exists_topic_of_mem_sections hpart
    rcases List.mem_cons.mp hentry with rfl | hpoint
    · exact newline_not_mem_name topic
    · obtain ⟨point, hmem, rfl⟩ := List.mem_map.mp hpoint
      obtain ⟨hne, hnewline, htrimmed, -⟩ :=
        point_of_mem_extractPoints (List.mem_of_mem_take hmem)
      -- of blanks alone nothing is left by the trimming, but a point is not empty
      refine ⟨hnewline, fun hblank => hne ?_⟩
      rw [← String.toList_inj, ← trim_of_isTrimmed htrimmed, trim_of_isBlankRun hblank]
      rfl

/-! ## The pieces of a report -/

theorem newline_not_mem_line {entry : AdviceEntry} (h : entry.IsOneLine) :
    '\n' ∉ entry.line.toList := by
  cases entry with
  | generalNotice => decide
  | guideHeader guide =>
      have hguide : '\n' ∉ guide.toList := h
      simp [AdviceEntry.line, hguide]
  | point guide text =>
      have htext : '\n' ∉ text.toList := h.1
      simp [AdviceEntry.line, htext]

theorem newline_not_mem_bodyLines {entries : List AdviceEntry}
    (h : ∀ entry ∈ entries, entry.IsOneLine) :
    ∀ line ∈ bodyLines entries, '\n' ∉ line.toList := by
  have hentry (entry : AdviceEntry) : ∀ line ∈ entryLines entry, line = "" ∨ line = entry.line := by
    cases entry with
    | generalNotice => exact fun _ hmem => Or.inr (List.mem_singleton.mp hmem)
    | guideHeader guide => simp [entryLines, AdviceEntry.line]
    | point guide text => exact fun _ hmem => Or.inr (List.mem_singleton.mp hmem)
  intro line hline
  rw [bodyLines] at hline
  split at hline
  · rw [List.mem_singleton.mp hline]
    decide
  · obtain ⟨entry, hmem, hlines⟩ := List.mem_flatMap.mp hline
    rcases hentry entry line hlines with rfl | rfl
    · decide
    · exact newline_not_mem_line (h entry hmem)

theorem piecesOf_plain {report : AdviceReport}
    (h : ∀ entry ∈ report.recommendations, entry.IsOneLine) :
    ∃ rest, piecesOf report.plain = "🎨 HIG Advisor Analysis" :: separator ::
      (bodyLines report.recommendations ++ "" :: separator :: rest) := by
  let before := "🎨 HIG Advisor Analysis" :: separator ::
    (bodyLines report.recommendations ++ ["", separator])
  let last := "📚 Loaded guides: " ++ String.intercalate ", " report.loadedGuides
  have hlines : report.plainLines = before ++ [last] := by
    simp [plainLines, before, last]
  have hnewline : ∀ line ∈ before, '\n' ∉ line.toList := by
    have hbody := newline_not_mem_bodyLines h
    simp only [before, List.mem_cons, List.mem_append, List.not_mem_nil, or_false]
    rintro line (rfl | rfl | hline | rfl | rfl)
    · decide
    · decide
    · exact hbody line hline
    · decide
    · decide
  refine ⟨piecesOf (joinLines [last]), ?_⟩
  rw [plain, hlines, piecesOf_joinLines_append hnewline]
  simp [before]

theorem bodyShows_bodyLines {entries : List AdviceEntry} (h : ∃ lines, Shows none lines entries) :
    BodyShows (bodyLines entries) entries := by
  obtain ⟨lines, hlines⟩ := h
  rw [BodyShows, bodyLines]
  split
  case isTrue hnil =>
    rw [hnil]
    rfl
  case isFalse hne =>
    rw [if_neg (by simpa using hne), ← hlines.lines_eq]
    exact hlines

theorem readPlain?_of_pieces {text title second : String} {body rest : List String}
    {entries : List AdviceEntry}
    (hpieces : piecesOf text = title :: second :: (body ++ "" :: separator :: rest))
    (h : BodyShows body entries) : readPlain? text = some entries := by
  -- no line of the body is a separator, so the next one is the closing one
  have hbody : (body ++ "" :: separator :: rest).takeWhile (· ≠ separator) = body ++ [""] := by
    rw [List.takeWhile_append_of_pos]
    · rfl
    · intro line hline
      exact decide_eq_true fun heq => h.separator_not_mem (heq ▸ hline)
  rw [readPlain?, hpieces, List.drop_succ_cons, List.drop_succ_cons, List.drop_zero, hbody,
    List.dropLast_concat, entriesIn?_of_bodyShows h]

/-- The body of a report on advice shows its entries. -/
theorem exists_body {text : String} {corpus : Corpus} {limits : AdviceLimits}
    {report : AdviceReport}
    (h : report.recommendations = (Advice.ofText text corpus limits).entries) :
    ∃ body rest, piecesOf report.plain = "🎨 HIG Advisor Analysis" :: separator ::
        (body ++ "" :: separator :: rest) ∧
      BodyShows body report.recommendations := by
  have hentries : ∀ entry ∈ report.recommendations, entry.IsOneLine := by
    rw [h]
    exact fun _ => isOneLine_of_mem_ofText
  have hshows : ∃ lines, Shows none lines report.recommendations := by
    rw [h]
    exact exists_shows_ofText text corpus limits
  obtain ⟨rest, hpieces⟩ := piecesOf_plain hentries
  exact ⟨_, rest, hpieces, bodyShows_bodyLines hshows⟩

end AdviceReport

/-- Between the first two separators of advice that was written as text stand
the entries, which can be told from there in one way only: texts of different
entries are different, whatever the guides have in them. -/
theorem advice_text_is_unambiguous (text : String) (corpus : Corpus) (limits : AdviceLimits)
    (report : AdviceReport)
    (h : report.recommendations = (Advice.ofText text corpus limits).entries) :
    (∃ title body rest,
      piecesOf report.plain = title :: separator :: (body ++ "" :: separator :: rest) ∧
        separator ∉ body ∧
        (∀ entries, AdviceReport.BodyShows body entries ↔ entries = report.recommendations) ∧
        (report.recommendations ≠ [] → body.filter (fun line => ¬ IsBlankRun line.toList) =
          report.recommendations.map AdviceEntry.line)) ∧
      AdviceReport.readPlain? report.plain = some report.recommendations ∧
      ∀ (source : String) (guides : Corpus) (bounds : AdviceLimits) (other : AdviceReport),
        other.recommendations = (Advice.ofText source guides bounds).entries →
          other.recommendations ≠ report.recommendations → other.plain ≠ report.plain := by
  obtain ⟨body, rest, hpieces, hbody⟩ := AdviceReport.exists_body h
  have hread := AdviceReport.readPlain?_of_pieces hpieces hbody
  refine ⟨⟨_, body, rest, hpieces, hbody.separator_not_mem, fun entries => ?_, fun hne => ?_⟩,
    hread, ?_⟩
  · constructor
    · intro hentries
      have hsame := AdviceReport.entriesIn?_of_bodyShows hentries
      rw [AdviceReport.entriesIn?_of_bodyShows hbody] at hsame
      exact (Option.some.inj hsame).symm
    · rintro rfl
      exact hbody
  · rw [AdviceReport.BodyShows, if_neg hne] at hbody
    apply hbody.filter_eq
    rw [h]
    exact fun _ => AdviceReport.isOneLine_of_mem_ofText
  · intro source guides bounds other hother hne hplain
    obtain ⟨others, more, hpieces', hothers⟩ := AdviceReport.exists_body hother
    have hreadOther := AdviceReport.readPlain?_of_pieces hpieces' hothers
    rw [hplain, hread] at hreadOther
    exact hne (Option.some.inj hreadOther).symm

/-- Points that look like separators and headers, and a guide with a separator in
its name. -/
def confusableGuides : Corpus :=
  .ofList
    [⟨"actions", joinLines
        ["--------------------------------------------------",
          "* ==================================================", "- 📘 From navigation.md:"]⟩,
      ⟨"a\n==================================================\n  - b", ""⟩]

theorem confusable_guides_are_unambiguous :
    let clock : RunMeta := ⟨⟨⟨1970, 1, 1, by decide, by decide⟩, ⟨0, 0, 0, 0⟩, 0⟩, none, none⟩
    let report := AdviceReport.ofText "Button()" confusableGuides clock
    let other := AdviceReport.ofText "" confusableGuides clock
    report.recommendations = (Advice.ofText "Button()" confusableGuides).entries ∧
      report.recommendations.length = 4 ∧
      AdviceReport.readPlain? report.plain = some report.recommendations ∧
      other.recommendations = (Advice.ofText "" confusableGuides).entries ∧
      other.recommendations ≠ report.recommendations ∧ other.plain ≠ report.plain := by
  intro clock report other
  obtain ⟨-, hread, hplain⟩ :=
    advice_text_is_unambiguous "Button()" confusableGuides {} report rfl
  have hne : other.recommendations ≠ report.recommendations := by decide +kernel
  exact ⟨rfl, by decide +kernel, hread, rfl, hne, hplain "" confusableGuides {} other rfl hne⟩

end ViewAudit
