import ViewAudit.Proofs.Scan.Match
import ViewAudit.Proofs.Text.Search
import ViewAudit.Scan

/-!
The table of a scan: for every check a condition on the substrings of a text,
said without patterns and searches, and the findings that follow from the
conditions. A check fires exactly if its condition holds.
-/

namespace ViewAudit

/-! ## Parts of a text -/

/-- Two words with nothing but blanks between them. -/
def IsSpaced (first second : String) (part : List Char) : Prop :=
  ∃ blanks, IsBlankRun blanks ∧ part = first.toList ++ blanks ++ second.toList

/-- A name that begins a word, and an opening parenthesis after it. -/
def HasElement (name : String) (text : List Char) : Prop :=
  ∃ before part after, text = before ++ part ++ after ∧ EndsOutsideWord before ∧
    IsSpaced name "(" part

/-- One of the names, as a whole word. -/
def HasWholeWord (names : List String) (text : List Char) : Prop :=
  ∃ name ∈ names, ∃ before after, text = before ++ name.toList ++ after ∧
    EndsOutsideWord before ∧ BeginsOutsideWord after

/-- Consecutive characters equal to a word up to ASCII case. -/
def HasInAnyCase (word : String) (text : List Char) : Prop :=
  ∃ part, part <:+: text ∧ part.length = word.length ∧ part.map Char.toLower = word.toList

namespace Construct

/-- What it means that a construct is present in a text. -/
def StandsIn (text : List Char) : Construct → Prop
  | imageInstantiation => ∃ part, part <:+: text ∧ IsSpaced "Image" "(" part
  | accessibilityLabel =>
      (∃ part, part <:+: text ∧ IsSpaced ".accessibilityLabel" "(" part) ∨
        ∃ first second, IsBlankRun first ∧ IsBlankRun second ∧
          ".accessibility".toList ++ first ++ "(".toList ++ second ++ "label:".toList <:+: text
  | buttonInstantiation => ∃ part, part <:+: text ∧ IsSpaced "Button" "(" part
  | textElement => HasElement "Text" text
  | labelElement => HasElement "Label" text
  | customGesture => ".onTapGesture".toList <:+: text ∨ ".gesture(".toList <:+: text
  | accessibilityAction => ".accessibilityAction(".toList <:+: text
  | shapeOrIcon => HasWholeWord ["Image", "SF", "Symbol", "Circle", "Rectangle", "shape"] text

end Construct

namespace Check

/-- The condition on a text under which a check reports something. -/
def Applies (fragmentLength : Nat) (text : List Char) : Check → Prop
  | unlabeledImages =>
      Construct.imageInstantiation.StandsIn text ∧ ¬ Construct.accessibilityLabel.StandsIn text
  | unlabeledControls =>
      Construct.buttonInstantiation.StandsIn text ∧ ¬ HasInAnyCase "accessibility" text
  | noTextContent =>
      fragmentLength < text.length ∧ ¬ Construct.textElement.StandsIn text ∧
        ¬ Construct.labelElement.StandsIn text
  | inaccessibleGestures =>
      Construct.customGesture.StandsIn text ∧ ¬ Construct.accessibilityAction.StandsIn text
  | colorOnlyInformation =>
      ("color:".toList <:+: text ∨ "foregroundColor".toList <:+: text ∨
        "background(Color".toList <:+: text) ∧ ¬ Construct.shapeOrIcon.StandsIn text

end Check

/-! ## Patterns and parts -/

/-- What the pattern of a word, blanks and another word takes. -/
theorem takesAll_spaced {before : Option Char} {part after : List Char} {first second : String} :
    TakesAll before part after [.word first, .blanks, .word second] ↔
      IsSpaced first second part := by
  simp only [takesAll_word_cons, takesAll_blanks_cons, takesAll_nil]
  constructor
  · rintro ⟨_, rfl, blanks, _, rfl, hblanks, _, rfl, rfl⟩
    exact ⟨blanks, hblanks, by simp⟩
  · rintro ⟨blanks, hblanks, rfl⟩
    exact ⟨blanks ++ second.toList, by simp, blanks, second.toList, rfl, hblanks, [],
      by simp, rfl⟩

theorem takesAll_accessibility {before : Option Char} {part after : List Char} :
    TakesAll before part after
        [.word ".accessibility", .blanks, .word "(", .blanks, .word "label:"] ↔
      ∃ first second, IsBlankRun first ∧ IsBlankRun second ∧
        part = ".accessibility".toList ++ first ++ "(".toList ++ second ++ "label:".toList := by
  rw [takesAll_word_cons]
  simp only [takesAll_blanks_cons, takesAll_spaced]
  constructor
  · rintro ⟨_, rfl, first, _, rfl, hfirst, second, hsecond, rfl⟩
    exact ⟨first, second, hfirst, hsecond, by simp⟩
  · rintro ⟨first, second, hfirst, hsecond, rfl⟩
    exact ⟨first ++ ("(".toList ++ second ++ "label:".toList), by simp, first, _, rfl, hfirst,
      second, hsecond, rfl⟩

/-- A pattern that looks at nothing around its matches asks for a substring. -/
theorem exists_infix_iff {text : List Char} {P : List Char → Prop} :
    (∃ before part after, text = before ++ part ++ after ∧ P part) ↔
      ∃ part, part <:+: text ∧ P part := by
  constructor
  · rintro ⟨before, part, after, rfl, h⟩
    exact ⟨part, ⟨before, after, rfl⟩, h⟩
  · rintro ⟨part, ⟨before, after, rfl⟩, h⟩
    exact ⟨before, part, after, rfl, h⟩

theorem occurs_spaced_iff {first second : String} {text : List Char} :
    Pattern.occurs [[.word first, .blanks, .word second]] text = true ↔
      ∃ part, part <:+: text ∧ IsSpaced first second part := by
  simp only [Pattern.occurs_iff, List.mem_singleton, exists_eq_left, takesAll_spaced,
    exists_infix_iff]

theorem occurs_word_iff {word : String} {text : List Char} :
    Pattern.occurs [[.word word]] text = true ↔ word.toList <:+: text := by
  simp only [Pattern.occurs_iff, List.mem_singleton, exists_eq_left, takesAll_word_cons,
    takesAll_nil, exists_eq_right, List.append_nil, exists_infix_iff]

/-- Whether the first and the last character of a word belong to a word, so that
an edge beside it only keeps it from being a part of a longer word. -/
def IsEdged (word : String) : Prop :=
  word.toList.head?.any isWordChar = true ∧ word.toList.getLast?.any isWordChar = true

instance (word : String) : Decidable (IsEdged word) := inferInstanceAs (Decidable (_ ∧ _))

theorem edgeBetween_word_iff {word : String} (hword : IsEdged word) {before : Option Char}
    {rest : List Char} :
    EdgeBetween before (word.toList ++ rest) ↔ before.any isWordChar = false := by
  apply edgeBetween_iff_of_head
  obtain ⟨hhead, -⟩ := hword
  cases hchars : word.toList with
  | nil => simp [hchars] at hhead
  | cons c chars => simpa [hchars] using hhead

theorem edgeBetween_charBefore_iff {word : String} (hword : IsEdged word) {before : Option Char}
    {after : List Char} :
    EdgeBetween (charBefore before word.toList) after ↔ BeginsOutsideWord after := by
  apply edgeBetween_iff_of_before
  obtain ⟨-, hlast⟩ := hword
  cases hchar : word.toList.getLast? with
  | none => simp [hchar] at hlast
  | some c => simpa [charBefore, hchar] using hlast

theorem occurs_element_iff {name : String} (hname : IsEdged name) {text : List Char} :
    Pattern.occurs [[.edge, .word name, .blanks, .word "("]] text = true ↔
      HasElement name text := by
  have hedge {before : Option Char} {part after : List Char} (hpart : IsSpaced name "(" part) :
      EdgeBetween before (part ++ after) ↔ before.any isWordChar = false := by
    obtain ⟨blanks, -, rfl⟩ := hpart
    simp only [List.append_assoc, edgeBetween_word_iff hname]
  simp only [Pattern.occurs_iff, List.mem_singleton, exists_eq_left, takesAll_edge_cons,
    takesAll_spaced, HasElement]
  constructor
  · rintro ⟨before, part, after, htext, hbefore, hpart⟩
    exact ⟨before, part, after, htext, (hedge hpart).mp hbefore, hpart⟩
  · rintro ⟨before, part, after, htext, hbefore, hpart⟩
    exact ⟨before, part, after, htext, (hedge hpart).mpr hbefore, hpart⟩

theorem occurs_wholeWord_iff {names : List String} (hnames : ∀ name ∈ names, IsEdged name)
    {text : List Char} :
    Pattern.occurs [[.edge, .oneOf names, .edge]] text = true ↔ HasWholeWord names text := by
  simp only [Pattern.occurs_iff, List.mem_singleton, exists_eq_left, takesAll_edge_cons,
    takesAll_oneOf_cons, takesAll_word_cons, takesAll_nil, HasWholeWord]
  constructor
  · rintro ⟨before, _, after, rfl, hfirst, name, hname, _, rfl, hlast, rfl⟩
    rw [List.append_nil] at *
    exact ⟨name, hname, before, after, rfl, (edgeBetween_word_iff (hnames name hname)).mp hfirst,
      (edgeBetween_charBefore_iff (hnames name hname)).mp hlast⟩
  · rintro ⟨name, hname, before, after, rfl, hbefore, hafter⟩
    exact ⟨before, name.toList, after, rfl,
      (edgeBetween_word_iff (hnames name hname)).mpr hbefore, name, hname, [],
      (List.append_nil _).symm, (edgeBetween_charBefore_iff (hnames name hname)).mpr hafter, rfl⟩

/-- A search for a construct finds it exactly if it stands in the text. -/
theorem Construct.isPresent_iff {construct : Construct} {text : List Char} :
    construct.isPresent text = true ↔ construct.StandsIn text := by
  unfold Construct.isPresent
  cases construct with
  | imageInstantiation => exact occurs_spaced_iff
  | accessibilityLabel =>
      rw [Construct.pattern, Pattern.occurs_cons_iff, occurs_spaced_iff]
      simp only [Pattern.occurs_iff, List.mem_singleton, exists_eq_left, takesAll_accessibility,
        exists_infix_iff, Construct.StandsIn]
      refine or_congr_right ⟨?_, ?_⟩
      · rintro ⟨_, hinfix, first, second, hfirst, hsecond, rfl⟩
        exact ⟨first, second, hfirst, hsecond, hinfix⟩
      · rintro ⟨first, second, hfirst, hsecond, hinfix⟩
        exact ⟨_, hinfix, first, second, hfirst, hsecond, rfl⟩
  | buttonInstantiation => exact occurs_spaced_iff
  | textElement => exact occurs_element_iff (by decide)
  | labelElement => exact occurs_element_iff (by decide)
  | customGesture =>
      rw [Construct.pattern, Pattern.occurs_cons_iff, occurs_word_iff, occurs_word_iff,
        Construct.StandsIn]
  | accessibilityAction => exact occurs_word_iff
  | shapeOrIcon => exact occurs_wholeWord_iff (by decide)

/-! ## Signals and checks -/

theorem hasPlainLetters_accessibility : HasPlainLetters "accessibility".toList where
  ascii := by decide
  no_k := by decide
  no_last_i := by decide

theorem Signal.mentionsAccessibility_iff {limit : Nat} {text : List Char} :
    Signal.mentionsAccessibility.holds limit text = true ↔ HasInAnyCase "accessibility" text := by
  rw [Signal.holds, hasPlainLetters_accessibility.occursIn_lowerText_iff, HasInAnyCase]
  constructor
  · rintro ⟨part, hinfix, hmap⟩
    have hlength := congrArg List.length hmap
    rw [List.length_map, String.length_toList] at hlength
    exact ⟨part, hinfix, hlength, hmap⟩
  · rintro ⟨part, hinfix, -, hmap⟩
    exact ⟨part, hinfix, hmap⟩

/-- The mention is found in every lower-case form that the text may have. -/
theorem Signal.mentionsAccessibility_eq_lower (casing : LowerCasing) (limit : Nat)
    (text : List Char) :
    Signal.mentionsAccessibility.holds limit text =
      occursIn "accessibility".toList (casing.lower text) :=
  (casing.occursIn_lower hasPlainLetters_accessibility.ascii text).symm

theorem Signal.usesColor_iff {limit : Nat} {text : List Char} :
    Signal.usesColor.holds limit text = true ↔
      "color:".toList <:+: text ∨ "foregroundColor".toList <:+: text ∨
        "background(Color".toList <:+: text := by
  simp [Signal.holds, colorIndicators, occursIn_iff]

theorem Check.fires_iff {check : Check} {limit : Nat} {text : List Char} :
    check.fires limit text = true ↔ check.Applies limit text := by
  have hpresent (construct : Construct) :
      (Signal.present construct).holds limit text = true ↔ construct.StandsIn text :=
    Construct.isPresent_iff
  have hlength : Signal.exceedsFragmentLength.holds limit text = true ↔ limit < text.length := by
    simp [Signal.holds]
  cases check with
  | unlabeledImages =>
      simp [Check.fires, Check.trigger, Check.suppressors, Check.Applies, hpresent,
        ← Bool.not_eq_true]
  | unlabeledControls =>
      simp [Check.fires, Check.trigger, Check.suppressors, Check.Applies, hpresent,
        Signal.mentionsAccessibility_iff, ← Bool.not_eq_true]
  | noTextContent =>
      simp [Check.fires, Check.trigger, Check.suppressors, Check.Applies, hpresent, hlength,
        ← Bool.not_eq_true]
  | inaccessibleGestures =>
      simp [Check.fires, Check.trigger, Check.suppressors, Check.Applies, hpresent,
        ← Bool.not_eq_true]
  | colorOnlyInformation =>
      simp [Check.fires, Check.trigger, Check.suppressors, Check.Applies, hpresent,
        Signal.usesColor_iff, ← Bool.not_eq_true]

instance (limit : Nat) (text : List Char) (check : Check) :
    Decidable (check.Applies limit text) :=
  decidable_of_iff _ Check.fires_iff

/-! ## The scan -/

/-- What a check adds to a scan: its finding, if its condition holds. -/
def Check.reported (limit : Nat) (text : List Char) (check : Check) : List Finding :=
  if check.Applies limit text then [check.finding] else []

theorem Check.map_code_reported (limit : Nat) (text : List Char) (check : Check) :
    (check.reported limit text).map Finding.code =
      if check.Applies limit text then [check.code] else [] := by
  unfold Check.reported
  split <;> rfl

theorem Check.map_finding_filter (limit : Nat) (text : List Char) (checks : List Check) :
    (checks.filter (·.fires limit text)).map Check.finding =
      checks.flatMap (Check.reported limit text) := by
  induction checks with
  | nil => rfl
  | cons check rest ih =>
      rw [List.filter_cons, List.flatMap_cons, ← ih, Check.reported]
      by_cases h : check.fires limit text = true
      · rw [if_pos h, if_pos (Check.fires_iff.mp h)]
        rfl
      · rw [if_neg h, if_neg (fun happlies => h (Check.fires_iff.mpr happlies))]
        rfl

/-- The findings of one severity are those of the checks that have it. -/
theorem Check.filter_firing (limit : Nat) (text : List Char) (severity : Severity) :
    ((Check.firing limit text).map Check.finding).filter (·.severity = severity) =
      (Check.all.filter (·.severity = severity)).flatMap (Check.reported limit text) := by
  rw [← Check.map_finding_filter, List.filter_map, Check.firing, List.filter_filter,
    List.filter_filter]
  congr 1
  apply List.filter_congr
  intro check _
  exact Bool.and_comm _ _

namespace Scan

theorem issues_ofText (text : String) (limit : Nat) :
    (ofText text limit).issues =
      [Check.unlabeledImages, Check.noTextContent].flatMap
        (Check.reported limit text.toList) :=
  Check.filter_firing limit text.toList .issue

theorem warnings_ofText (text : String) (limit : Nat) :
    (ofText text limit).warnings =
      [Check.unlabeledControls, Check.inaccessibleGestures, Check.colorOnlyInformation].flatMap
        (Check.reported limit text.toList) :=
  Check.filter_firing limit text.toList .warning

/-- The findings of a scan are those of different checks. -/
theorem nodup_codes (text : String) (limit : Nat) :
    (((ofText text limit).issues ++ (ofText text limit).warnings).map Finding.code).Nodup := by
  rw [issues_ofText, warnings_ofText, ← List.flatMap_append, ← Check.map_finding_filter,
    List.map_map]
  have hall : ([Check.unlabeledImages, .noTextContent, .unlabeledControls,
      .inaccessibleGestures, .colorOnlyInformation].map Check.code).Nodup := by decide
  exact hall.sublist (List.filter_sublist.map Check.code)

theorem length_reported_le (limit : Nat) (text : List Char) (checks : List Check) :
    (checks.flatMap (Check.reported limit text)).length ≤ checks.length := by
  rw [← Check.map_finding_filter, List.length_map]
  exact List.length_filter_le _ _

theorem severity_of_mem_issues {text : String} {limit : Nat} {finding : Finding}
    (h : finding ∈ (ofText text limit).issues) : finding.severity = .issue := by
  simpa using (List.mem_filter.mp h).2

theorem severity_of_mem_warnings {text : String} {limit : Nat} {finding : Finding}
    (h : finding ∈ (ofText text limit).warnings) : finding.severity = .warning := by
  simpa using (List.mem_filter.mp h).2

theorem status_eq_fail_iff {issues warnings : List Finding} :
    VerdictStatus.ofFindings issues warnings = .fail ↔ issues ≠ [] := by
  cases issues <;> cases warnings <;> simp [VerdictStatus.ofFindings]

theorem status_eq_warn_iff {issues warnings : List Finding} :
    VerdictStatus.ofFindings issues warnings = .warn ↔ issues = [] ∧ warnings ≠ [] := by
  cases issues <;> cases warnings <;> simp [VerdictStatus.ofFindings]

theorem status_eq_pass_iff {issues warnings : List Finding} :
    VerdictStatus.ofFindings issues warnings = .pass ↔ issues = [] ∧ warnings = [] := by
  cases issues <;> cases warnings <;> simp [VerdictStatus.ofFindings]

/-- The counts of a verdict are exact, since no scan has more findings than
there are checks. -/
theorem verdict_counts (text : String) (limit : Nat) :
    (ofText text limit).verdict.counts.issues.toNat = (ofText text limit).issues.length ∧
      (ofText text limit).verdict.counts.warnings.toNat =
        (ofText text limit).warnings.length := by
  have hissues : (ofText text limit).issues.length ≤ 2 := by
    rw [issues_ofText]
    exact length_reported_le limit text.toList _
  have hwarnings : (ofText text limit).warnings.length ≤ 3 := by
    rw [warnings_ofText]
    exact length_reported_le limit text.toList _
  simp only [verdict, Verdict.ofFindings, UInt32.toNat_ofNat']
  omega

/-- A scan reports exactly what the table of conditions says, in the order of
the table, and its verdict counts it. -/
theorem ofText_eq_table (text : String) (limit : Nat) :
    let chars := text.toList
    let scan := ofText text limit
    scan.issues =
        Check.unlabeledImages.reported limit chars ++ Check.noTextContent.reported limit chars ∧
      scan.warnings =
        Check.unlabeledControls.reported limit chars ++
          Check.inaccessibleGestures.reported limit chars ++
          Check.colorOnlyInformation.reported limit chars ∧
      scan.issues.map Finding.code =
        (if Check.unlabeledImages.Applies limit chars then ["image_missing_label"] else []) ++
          (if Check.noTextContent.Applies limit chars then ["view_without_text"] else []) ∧
      scan.warnings.map Finding.code =
        (if Check.unlabeledControls.Applies limit chars then ["button_missing_accessibility"]
          else []) ++
        (if Check.inaccessibleGestures.Applies limit chars then ["gesture_missing_action"]
          else []) ++
        (if Check.colorOnlyInformation.Applies limit chars then ["color_without_indicator"]
          else []) ∧
      ((scan.issues ++ scan.warnings).map Finding.code).Nodup ∧
      (∀ finding ∈ scan.issues, finding.severity = .issue) ∧
      (∀ finding ∈ scan.warnings, finding.severity = .warning) ∧
      scan.verdict.counts.issues.toNat = scan.issues.length ∧
      scan.verdict.counts.warnings.toNat = scan.warnings.length ∧
      (scan.verdict.status = .fail ↔ scan.issues ≠ []) ∧
      (scan.verdict.status = .warn ↔ scan.issues = [] ∧ scan.warnings ≠ []) ∧
      (scan.verdict.status = .pass ↔ scan.issues = [] ∧ scan.warnings = []) := by
  intro chars scan
  have hissues : scan.issues = Check.unlabeledImages.reported limit chars ++
      Check.noTextContent.reported limit chars := by
    simpa using issues_ofText text limit
  have hwarnings : scan.warnings = Check.unlabeledControls.reported limit chars ++
      Check.inaccessibleGestures.reported limit chars ++
      Check.colorOnlyInformation.reported limit chars := by
    simpa using warnings_ofText text limit
  obtain ⟨hissueCount, hwarningCount⟩ := verdict_counts text limit
  refine ⟨hissues, hwarnings, ?_, ?_, nodup_codes text limit, fun _ => severity_of_mem_issues,
    fun _ => severity_of_mem_warnings, hissueCount, hwarningCount, status_eq_fail_iff,
    status_eq_warn_iff, status_eq_pass_iff⟩
  · rw [hissues, List.map_append, Check.map_code_reported, Check.map_code_reported]
    rfl
  · rw [hwarnings, List.map_append, List.map_append, Check.map_code_reported,
      Check.map_code_reported, Check.map_code_reported]
    rfl

end Scan

end ViewAudit
