import ViewAudit.Guide.Advice
import ViewAudit.Proofs.Scan.Table
import ViewAudit.Proofs.Text.Layout

/-!
Scans and advice do not depend on the layout of a text. The patterns of a scan
take blanks only between words, so a match in one text is a match in every text
that is alike. What a change of layout can change is the length of a text, and
with it the one finding that needs a text to be long.
-/

namespace ViewAudit

/-! ## Places in texts that are alike -/

/-- A run of blanks lies before any other character of a text that begins with it. -/
theorem exists_append_of_isBlankRun {run text front rest : List Char} {c : Char}
    (hrun : IsBlankRun run) (hc : isBlank c = false) (h : front ++ c :: rest = run ++ text) :
    ∃ front', front = run ++ front' ∧ text = front' ++ c :: rest := by
  rcases List.append_eq_append_iff.mp h with ⟨more, hrun', hrest⟩ | ⟨more, hfront, htext⟩
  · cases more with
    | nil => exact ⟨[], by simpa using hrun'.symm, hrest.symm⟩
    | cons d more =>
        obtain ⟨rfl, -⟩ := List.cons.inj hrest
        have hblank : isBlank c = true := hrun c (by simp [hrun'])
        simp [hblank] at hc
  · exact ⟨more, hfront, htext⟩

/-- No word goes on after a run of blanks, nor at the start of a text. -/
theorem any_charBefore_of_isBlankRun {before : Option Char} {run : List Char}
    (hrun : IsBlankRun run) (h : run ≠ [] ∨ before.any isWordChar = false) :
    (charBefore before run).any isWordChar = false := by
  rw [charBefore]
  cases hlast : run.getLast? with
  | none =>
      have hnil : run = [] := List.getLast?_eq_none_iff.mp hlast
      simpa [hnil] using h
  | some b =>
      have hb : isBlank b = true := hrun b (List.mem_of_getLast? hlast)
      simp [isWordChar_of_isBlank hb]

/-- A character that is not a blank stands in both texts, after a run of blanks
in both or in neither, and after characters that agree on where a word ends. -/
theorem Alike.cut {front rest text : List Char} {c : Char} (hc : isBlank c = false)
    (h : Alike (front ++ c :: rest) text) :
    ∃ front' rest', text = front' ++ c :: rest' ∧ Alike (c :: rest) (c :: rest') ∧
      (IsBlankRun front → IsBlankRun front') ∧
      ∀ before before' : Option Char, before.any isWordChar = before'.any isWordChar →
        (charBefore before front).any isWordChar = (charBefore before' front').any isWordChar := by
  generalize hwhole : front ++ c :: rest = whole at h
  induction h generalizing front with
  | last hfirst _ =>
      subst hwhole
      have hblank : isBlank c = true := hfirst c (by simp)
      simp [hblank] at hc
  | @char d first second hd hrest ih =>
      cases front with
      | nil =>
          obtain ⟨rfl, rfl⟩ := List.cons.inj hwhole
          exact ⟨[], second, rfl, .char hd hrest, id, fun _ _ h => h⟩
      | cons e front =>
          obtain ⟨rfl, htail⟩ := List.cons.inj hwhole
          obtain ⟨front', rest', rfl, halike, -, hbefore⟩ := ih htail
          refine ⟨e :: front', rest', rfl, halike, ?_, ?_⟩
          · intro hrun
            simp [(isBlankRun_cons.mp hrun).1] at hd
          · intro before before' _
            simpa using hbefore (some e) (some e) rfl
  | @blanks run other first second hrun hne hother hother_ne hrest ih =>
      obtain ⟨front, rfl, hfirst⟩ := exists_append_of_isBlankRun hrun hc hwhole
      obtain ⟨front', rest', rfl, halike, hblank, hbefore⟩ := ih hfirst.symm
      refine ⟨other ++ front', rest', (List.append_assoc ..).symm, halike, ?_, ?_⟩
      · intro hfront
        have hfront' := hblank fun x hx => hfront x (List.mem_append_right _ hx)
        intro x hx
        rcases List.mem_append.mp hx with hx | hx
        · exact hother x hx
        · exact hfront' x hx
      · intro before before' _
        rw [charBefore_append, charBefore_append]
        apply hbefore
        rw [any_charBefore_of_isBlankRun hrun (Or.inl hne),
          any_charBefore_of_isBlankRun hother (Or.inl hother_ne)]

/-- A character that is not a blank stands in both texts, and a word ends before
it in both or in neither. -/
theorem LayoutAlike.cut {front rest text : List Char} {c : Char} (hc : isBlank c = false)
    (h : LayoutAlike (front ++ c :: rest) text) :
    ∃ front' rest', text = front' ++ c :: rest' ∧ Alike (c :: rest) (c :: rest') ∧
      front.getLast?.any isWordChar = front'.getLast?.any isWordChar := by
  obtain ⟨run, other, first, second, hrun, hother, hfirst, rfl, halike⟩ := h
  obtain ⟨front, rfl, rfl⟩ := exists_append_of_isBlankRun hrun hc hfirst
  obtain ⟨front', rest', rfl, hrest, -, hbefore⟩ := halike.cut hc
  refine ⟨other ++ front', rest', (List.append_assoc ..).symm, hrest, ?_⟩
  rw [← charBefore_none, ← charBefore_none, charBefore_append, charBefore_append]
  apply hbefore
  rw [any_charBefore_of_isBlankRun hrun (Or.inr rfl),
    any_charBefore_of_isBlankRun hother (Or.inr rfl)]

/-- Texts that are alike begin within a word, both or neither of them. -/
theorem Alike.any_head? {first second : List Char} (h : Alike first second) :
    first.head?.any isWordChar = second.head?.any isWordChar := by
  have hblank {run : List Char} (hrun : IsBlankRun run) : run.head?.any isWordChar = false := by
    cases run with
    | nil => rfl
    | cons b run => simp [isWordChar_of_isBlank (isBlankRun_cons.mp hrun).1]
  cases h with
  | last hfirst hsecond => rw [hblank hfirst, hblank hsecond]
  | char _ _ => rfl
  | blanks hrun hne hother hother_ne _ =>
      have hfirst := hblank hrun
      have hsecond := hblank hother
      obtain ⟨b, run, rfl⟩ := List.exists_cons_of_ne_nil hne
      obtain ⟨d, other, rfl⟩ := List.exists_cons_of_ne_nil hother_ne
      exact hfirst.trans hsecond.symm

/-! ## Patterns -/

/-- Whether a word is not empty and has no blanks in it. -/
def isSolidWord (text : String) : Bool :=
  !text.toList.isEmpty && text.toList.all fun c => !isBlank c

/-- Whether the first thing that steps take is a word without blanks. -/
def opensSolid : List Piece → Bool
  | .word text :: _ => isSolidWord text
  | .oneOf words :: _ => words.all isSolidWord
  | .edge :: rest => opensSolid rest
  | _ => false

/-- Whether steps take blanks in whole runs only: no word has blanks in it, and
what follows on a run takes something else first. -/
def isSolid : List Piece → Bool
  | [] => true
  | .word text :: rest => isSolidWord text && isSolid rest
  | .oneOf words :: rest => words.all isSolidWord && isSolid rest
  | .blanks :: rest => opensSolid rest && isSolid rest
  | .edge :: rest => isSolid rest

theorem exists_cons_of_isSolidWord {text : String} (h : isSolidWord text = true) :
    ∃ c rest, text.toList = c :: rest ∧ ∀ d ∈ text.toList, isBlank d = false := by
  obtain ⟨hne, hall⟩ := Bool.and_eq_true_iff.mp h
  cases hchars : text.toList with
  | nil => simp [hchars] at hne
  | cons c rest =>
      refine ⟨c, rest, rfl, fun d hd => ?_⟩
      simpa using List.all_eq_true.mp hall d (hchars ▸ hd)

theorem exists_cons_of_opensSolid {pieces : List Piece} (hopens : opensSolid pieces = true)
    {before : Option Char} {taken after : List Char} (h : TakesAll before taken after pieces) :
    ∃ c rest, taken = c :: rest ∧ isBlank c = false := by
  induction pieces generalizing before taken with
  | nil => cases hopens
  | cons piece pieces ih =>
      have hword {text : String} {before : Option Char} {taken : List Char}
          (hsolid : isSolidWord text = true)
          (h : TakesAll before taken after (.word text :: pieces)) :
          ∃ c rest, taken = c :: rest ∧ isBlank c = false := by
        obtain ⟨more, rfl, -⟩ := takesAll_word_cons.mp h
        obtain ⟨c, rest, hchars, hall⟩ := exists_cons_of_isSolidWord hsolid
        exact ⟨c, rest ++ more, by rw [hchars, List.cons_append],
          hall c (hchars ▸ List.mem_cons_self)⟩
      cases piece with
      | word text => exact hword hopens h
      | oneOf words =>
          obtain ⟨text, hmem, htext⟩ := takesAll_oneOf_cons.mp h
          exact hword (List.all_eq_true.mp hopens text hmem) htext
      | blanks => cases hopens
      | edge => exact ih hopens (takesAll_edge_cons.mp h).2

/-- Steps that take blanks in whole runs find in one text what they find in a
text that is alike. -/
theorem Alike.exists_takesAll {pieces : List Piece} (hsolid : isSolid pieces = true)
    {before before' : Option Char} {taken after text : List Char}
    (hbefore : before.any isWordChar = before'.any isWordChar)
    (halike : Alike (taken ++ after) text) (h : TakesAll before taken after pieces) :
    ∃ taken' after', text = taken' ++ after' ∧ TakesAll before' taken' after' pieces := by
  induction pieces generalizing before before' taken text with
  | nil => exact ⟨[], text, rfl, rfl⟩
  | cons piece pieces ih =>
      have hword {word : String} (hword : isSolidWord word = true)
          (hrest : isSolid pieces = true)
          (h : TakesAll before taken after (.word word :: pieces)) :
          ∃ taken' after', text = taken' ++ after' ∧
            TakesAll before' taken' after' (.word word :: pieces) := by
        obtain ⟨more, rfl, hmore⟩ := takesAll_word_cons.mp h
        obtain ⟨c, chars, hchars, hall⟩ := exists_cons_of_isSolidWord hword
        rw [List.append_assoc] at halike
        obtain ⟨second, rfl, hsecond⟩ := halike.of_append_left hall
        have hlast : charBefore before word.toList = charBefore before' word.toList := by
          rw [hchars, charBefore_cons, charBefore_cons]
        obtain ⟨more', after', rfl, hmore'⟩ := ih hrest (by rw [hlast]) hsecond hmore
        exact ⟨word.toList ++ more', after', (List.append_assoc ..).symm,
          takesAll_word_cons.mpr ⟨more', rfl, hmore'⟩⟩
      cases piece with
      | word word =>
          obtain ⟨hsolidWord, hrest⟩ := Bool.and_eq_true_iff.mp hsolid
          exact hword hsolidWord hrest h
      | oneOf words =>
          obtain ⟨hwords, hrest⟩ := Bool.and_eq_true_iff.mp hsolid
          obtain ⟨word, hmem, htakes⟩ := takesAll_oneOf_cons.mp h
          obtain ⟨taken', after', htext, htakes'⟩ :=
            hword (List.all_eq_true.mp hwords word hmem) hrest htakes
          exact ⟨taken', after', htext, takesAll_oneOf_cons.mpr ⟨word, hmem, htakes'⟩⟩
      | blanks =>
          obtain ⟨hopens, hrest⟩ := Bool.and_eq_true_iff.mp hsolid
          obtain ⟨run, more, rfl, hrun, hmore⟩ := takesAll_blanks_cons.mp h
          obtain ⟨c, chars, rfl, hc⟩ := exists_cons_of_opensSolid hopens hmore
          rw [List.append_assoc, List.cons_append] at halike
          -- The run ends before the same character in both texts, and what comes before
          -- that character agrees on where a word ends.
          obtain ⟨run', rest', rfl, hrest', hrun', hbefore'⟩ := halike.cut hc
          obtain ⟨more', after', heq, hmore'⟩ :=
            ih hrest (hbefore' before before' hbefore) hrest' hmore
          exact ⟨run' ++ more', after', by rw [heq, List.append_assoc],
            takesAll_blanks_cons.mpr ⟨run', more', rfl, hrun' hrun, hmore'⟩⟩
      | edge =>
          obtain ⟨hedge, htaken⟩ := takesAll_edge_cons.mp h
          obtain ⟨taken', after', rfl, htaken'⟩ := ih hsolid hbefore halike htaken
          refine ⟨taken', after', rfl, takesAll_edge_cons.mpr ⟨?_, htaken'⟩⟩
          simpa only [EdgeBetween, Place.isEdge, hbefore, halike.any_head?] using hedge

/-- Whether every alternative begins with a word and takes blanks in whole runs. -/
def Pattern.ignoresLayout (pattern : Pattern) : Bool :=
  pattern.all fun pieces => opensSolid pieces && isSolid pieces

theorem Pattern.occurs_of_layoutAlike {pattern : Pattern} (hpattern : pattern.ignoresLayout = true)
    {first second : List Char} (halike : LayoutAlike first second)
    (h : pattern.occurs first = true) : pattern.occurs second = true := by
  obtain ⟨pieces, hmem, front, part, after, rfl, htakes⟩ := Pattern.occurs_iff.mp h
  obtain ⟨hopens, hsolid⟩ := Bool.and_eq_true_iff.mp (List.all_eq_true.mp hpattern pieces hmem)
  obtain ⟨c, rest, rfl, hc⟩ := exists_cons_of_opensSolid hopens htakes
  rw [List.append_assoc, List.cons_append] at halike
  obtain ⟨front', rest', rfl, hrest, hbefore⟩ := halike.cut hc
  obtain ⟨part', after', heq, htakes'⟩ := hrest.exists_takesAll hsolid hbefore htakes
  refine Pattern.occurs_iff.mpr ⟨pieces, hmem, front', part', after', ?_, htakes'⟩
  rw [List.append_assoc, heq]

theorem Pattern.occurs_eq_of_layoutAlike {pattern : Pattern}
    (hpattern : pattern.ignoresLayout = true) {first second : List Char}
    (halike : LayoutAlike first second) : pattern.occurs first = pattern.occurs second := by
  rw [Bool.eq_iff_iff]
  exact ⟨Pattern.occurs_of_layoutAlike hpattern halike,
    Pattern.occurs_of_layoutAlike hpattern halike.symm⟩

theorem occursIn_eq_of_layoutAlike {word : String} (hword : isSolidWord word = true)
    {first second : List Char} (halike : LayoutAlike first second) :
    occursIn word.toList first = occursIn word.toList second := by
  have hpattern : Pattern.ignoresLayout [[.word word]] = true := by
    simp [Pattern.ignoresLayout, opensSolid, isSolid, hword]
  rw [Bool.eq_iff_iff, occursIn_iff, occursIn_iff, ← occurs_word_iff, ← occurs_word_iff,
    Pattern.occurs_eq_of_layoutAlike hpattern halike]

theorem any_occursIn_eq_of_layoutAlike {words : List String}
    (hwords : words.all isSolidWord = true) {first second : List Char}
    (halike : LayoutAlike first second) :
    (words.any fun word => occursIn word.toList first) =
      words.any fun word => occursIn word.toList second := by
  induction words with
  | nil => rfl
  | cons word words ih =>
      obtain ⟨hword, hrest⟩ := Bool.and_eq_true_iff.mp hwords
      rw [List.any_cons, List.any_cons, occursIn_eq_of_layoutAlike hword halike, ih hrest]

/-! ## Signals and topics -/

theorem Construct.isPresent_eq_of_layoutAlike (construct : Construct) {first second : List Char}
    (halike : LayoutAlike first second) :
    construct.isPresent first = construct.isPresent second :=
  Pattern.occurs_eq_of_layoutAlike (by cases construct <;> decide +kernel) halike

/-- Only the length of a text depends on its layout. -/
theorem Signal.holds_eq_of_layoutAlike {signal : Signal} {limit : Nat}
    (hsignal : signal ≠ .exceedsFragmentLength) {first second : List Char}
    (halike : LayoutAlike first second) :
    signal.holds limit first = signal.holds limit second := by
  cases signal with
  | present construct => exact construct.isPresent_eq_of_layoutAlike halike
  | mentionsAccessibility =>
      have hword : isSolidWord "accessibility" = true := by decide
      exact occursIn_eq_of_layoutAlike hword halike.lowerText
  | usesColor => exact any_occursIn_eq_of_layoutAlike (by decide) halike
  | exceedsFragmentLength => contradiction

theorem Topic.matchesText_eq_of_layoutAlike (topic : Topic) {first second : List Char}
    (halike : LayoutAlike first second) :
    topic.matchesText first = topic.matchesText second :=
  any_occursIn_eq_of_layoutAlike (by cases topic <;> decide) halike.lowerText

theorem TopicMatch.ofText_eq_of_layoutForm_eq {first second : String}
    (h : layoutForm first.toList = layoutForm second.toList) :
    TopicMatch.ofText first = TopicMatch.ofText second := by
  have htopics : (fun topic : Topic => topic.matchesText first.toList) =
      fun topic : Topic => topic.matchesText second.toList := by
    funext topic
    exact eq_of_layoutForm_eq (fun _ _ => topic.matchesText_eq_of_layoutAlike) h
  rw [TopicMatch.ofText, TopicMatch.ofText, htopics]

/-! ## Scans -/

theorem Check.fires_eq {check : Check} {limit : Nat} {first second : List Char}
    (h : ∀ signal ∈ check.trigger :: check.suppressors,
      signal.holds limit first = signal.holds limit second) :
    check.fires limit first = check.fires limit second := by
  obtain ⟨htrigger, hsuppressors⟩ := List.forall_mem_cons.mp h
  have hany : (check.suppressors.any fun signal => signal.holds limit first) =
      check.suppressors.any fun signal => signal.holds limit second := by
    rw [Bool.eq_iff_iff, List.any_eq_true, List.any_eq_true]
    exact exists_congr fun signal => and_congr_right fun hmem => by rw [hsuppressors signal hmem]
  rw [Check.fires, Check.fires, htrigger, hany]

/-- The layout of a text decides on no check but the one that looks for text. -/
theorem Check.fires_eq_of_layoutForm_eq {check : Check} (hcheck : check ≠ .noTextContent)
    {limit : Nat} {first second : List Char} (h : layoutForm first = layoutForm second) :
    check.fires limit first = check.fires limit second := by
  have hsignals : ∀ signal ∈ check.trigger :: check.suppressors,
      signal ≠ .exceedsFragmentLength := by
    cases check <;> first | contradiction | decide
  refine Check.fires_eq fun signal hmem => ?_
  exact eq_of_layoutForm_eq (f := signal.holds limit)
    (fun _ _ => Signal.holds_eq_of_layoutAlike (hsignals signal hmem)) h

theorem Scan.ofText_eq_of_fires_eq {limit : Nat} {first second : String}
    (h : ∀ check : Check, check.fires limit first.toList = check.fires limit second.toList) :
    Scan.ofText first limit = Scan.ofText second limit := by
  have hfiring : Check.firing limit first.toList = Check.firing limit second.toList :=
    List.filter_congr fun check _ => h check
  simp only [Scan.ofText, hfiring]

theorem Check.reported_eq_of_fires_eq {check : Check} {limit : Nat} {first second : List Char}
    (h : check.fires limit first = check.fires limit second) :
    check.reported limit first = check.reported limit second := by
  simp only [Check.reported, ← Check.fires_iff, h]

/-- Scans of texts with one layout form have the same warnings, and the same
issues but for the finding that the longer text has no text elements. -/
theorem Scan.ofText_of_layoutForm_eq {first second : String} (limit : Nat)
    (h : layoutForm first.toList = layoutForm second.toList) :
    (Scan.ofText first limit).warnings = (Scan.ofText second limit).warnings ∧
      ((Scan.ofText first limit).issues = (Scan.ofText second limit).issues ∨
        (Scan.ofText first limit).issues =
          (Scan.ofText second limit).issues ++ [Check.noTextContent.finding] ∨
        (Scan.ofText second limit).issues =
          (Scan.ofText first limit).issues ++ [Check.noTextContent.finding]) := by
  have hreported (check : Check) (hcheck : check ≠ .noTextContent) :
      check.reported limit first.toList = check.reported limit second.toList :=
    Check.reported_eq_of_fires_eq (Check.fires_eq_of_layoutForm_eq hcheck h)
  constructor
  · rw [Scan.warnings_ofText, Scan.warnings_ofText]
    simp only [List.flatMap_cons, hreported .unlabeledControls (by decide),
      hreported .inaccessibleGestures (by decide),
      hreported .colorOnlyInformation (by decide), List.flatMap_nil]
  · have hone (text : List Char) : Check.noTextContent.reported limit text = [] ∨
        Check.noTextContent.reported limit text = [Check.noTextContent.finding] := by
      unfold Check.reported
      split
      · exact Or.inr rfl
      · exact Or.inl rfl
    rw [Scan.issues_ofText, Scan.issues_ofText]
    simp only [List.flatMap_cons, hreported .unlabeledImages (by decide),
      List.flatMap_nil, List.append_nil]
    rcases hone first.toList with hfirst | hfirst <;>
      rcases hone second.toList with hsecond | hsecond <;>
      simp [hfirst, hsecond]

/-- Reformatting a text changes nothing that is found in it. Scans of the two
texts can differ in one finding only, which needs a long text without text
elements, and the advice on them is the same. -/
theorem reformatting_keeps_findings (first second : String)
    (h : layoutForm first.toList = layoutForm second.toList) :
    (∀ construct : Construct,
        construct.isPresent first.toList = construct.isPresent second.toList) ∧
      (∀ limit, Signal.mentionsAccessibility.holds limit first.toList =
        Signal.mentionsAccessibility.holds limit second.toList) ∧
      (∀ limit, Signal.usesColor.holds limit first.toList =
        Signal.usesColor.holds limit second.toList) ∧
      TopicMatch.ofText first = TopicMatch.ofText second ∧
      (∀ limit,
        let scan := Scan.ofText first limit
        let other := Scan.ofText second limit
        let noText := Check.noTextContent.finding
        scan.warnings = other.warnings ∧
          (scan.issues = other.issues ∨ scan.issues = other.issues ++ [noText] ∨
            other.issues = scan.issues ++ [noText]) ∧
          (Construct.textElement.isPresent first.toList = true ∨
            Construct.labelElement.isPresent first.toList = true → scan = other) ∧
          ((limit < first.length ↔ limit < second.length) → scan = other)) ∧
      ∀ corpus limits, Advice.ofText first corpus limits = Advice.ofText second corpus limits := by
  have hpresent (construct : Construct) :
      construct.isPresent first.toList = construct.isPresent second.toList :=
    eq_of_layoutForm_eq (fun _ _ => construct.isPresent_eq_of_layoutAlike) h
  have hsignal {signal : Signal} (hne : signal ≠ .exceedsFragmentLength) (limit : Nat) :
      signal.holds limit first.toList = signal.holds limit second.toList :=
    eq_of_layoutForm_eq (fun _ _ => Signal.holds_eq_of_layoutAlike hne) h
  have htopics := TopicMatch.ofText_eq_of_layoutForm_eq h
  -- A scan is the same if the one check that depends on the length is.
  have hscan {limit : Nat} (hcheck : Check.noTextContent.fires limit first.toList =
      Check.noTextContent.fires limit second.toList) :
      Scan.ofText first limit = Scan.ofText second limit := by
    refine Scan.ofText_eq_of_fires_eq fun check => ?_
    by_cases hne : check = .noTextContent
    · rw [hne, hcheck]
    · exact Check.fires_eq_of_layoutForm_eq hne h
  refine ⟨hpresent, hsignal (by decide), hsignal (by decide), htopics, fun limit => ?_, ?_⟩
  · obtain ⟨hwarnings, hissues⟩ := Scan.ofText_of_layoutForm_eq limit h
    refine ⟨hwarnings, hissues, fun helement => hscan ?_, fun hlength => hscan ?_⟩
    · have helement' := helement
      rw [hpresent, hpresent] at helement'
      have hsilent {text : List Char} (htext : Construct.textElement.isPresent text = true ∨
          Construct.labelElement.isPresent text = true) :
          Check.noTextContent.fires limit text = false := by
        simp only [Check.fires, Check.suppressors, Signal.holds, List.any_cons, List.any_nil]
        rcases htext with htext | htext <;> simp [htext]
      rw [hsilent helement, hsilent helement']
    · refine Check.fires_eq fun signal hmem => ?_
      by_cases hne : signal = .exceedsFragmentLength
      · subst hne
        simpa only [Signal.holds, String.length_toList, decide_eq_decide] using hlength
      · exact hsignal hne limit
  · intro corpus limits
    rw [Advice.ofText, Advice.ofText, htopics]

theorem moved_parenthesis_keeps_findings :
    (∀ construct : Construct, construct.isPresent "Image\t\n (x)".toList =
      construct.isPresent "\u00a0Image (x)\n\n".toList) ∧
    TopicMatch.ofText "Image\t\n (x)" = TopicMatch.ofText "\u00a0Image (x)\n\n" := by
  have h := reformatting_keeps_findings "Image\t\n (x)" "\u00a0Image (x)\n\n" (by decide +kernel)
  exact ⟨h.1, h.2.2.2.1⟩

end ViewAudit
