import ViewAudit.Proofs.Scan.Growth
import ViewAudit.Proofs.Scan.Table

/-!
Remedies. A check that a remedy silences is silent wherever the remedy stands in
a text, also within another construct. A label for an image and an action for a
gesture mention accessibility too, so a scan that misses this word at a button
misses both of them.
-/

namespace ViewAudit

/-! ## Codes -/

namespace Scan

/-- The codes of all findings of a scan. -/
def codes (scan : Scan) : List String := (scan.issues ++ scan.warnings).map Finding.code

variable {check : Check} {text : String} {limit : Nat}

theorem code_mem_codes_iff :
    check.code ∈ (ofText text limit).codes ↔ check.fires limit text.toList = true := by
  rw [codes, issues_ofText, warnings_ofText, ← List.flatMap_append, ← Check.map_finding_filter]
  exact Check.code_mem_iff (by cases check <;> decide)

/-- One signal is enough to silence a check. -/
theorem code_not_mem_codes {signal : Signal} (hmem : signal ∈ check.suppressors)
    (h : signal.holds limit text.toList = true) : check.code ∉ (ofText text limit).codes := by
  rw [code_mem_codes_iff, Check.fires_eq_true_iff]
  rintro ⟨-, hnone⟩
  exact hnone ⟨signal, hmem, h⟩

/-- A check that one signal only can silence reports whatever triggers it, if
that signal is missing. -/
theorem code_mem_codes_iff_of_not_holds {signal : Signal} (honly : check.suppressors = [signal])
    (h : ¬ signal.holds limit text.toList = true) :
    check.code ∈ (ofText text limit).codes ↔ check.trigger.holds limit text.toList = true := by
  rw [code_mem_codes_iff, Check.fires_eq_true_iff, honly]
  apply and_iff_left
  rintro ⟨other, hmem, hother⟩
  obtain rfl : other = signal := List.mem_singleton.mp hmem
  exact h hother

end Scan

/-! ## The mention of accessibility -/

theorem Signal.mentionsAccessibility_of_isInfix {text : List Char} (limit : Nat)
    (h : "accessibility".toList <:+: text) :
    Signal.mentionsAccessibility.holds limit text = true := by
  rw [Signal.mentionsAccessibility_iff]
  exact ⟨"accessibility".toList, h, String.length_toList, by decide⟩

/-- Every label mentions accessibility. -/
theorem Signal.mentionsAccessibility_of_label {text : List Char} (limit : Nat)
    (h : (Signal.present .accessibilityLabel).holds limit text = true) :
    Signal.mentionsAccessibility.holds limit text = true := by
  apply Signal.mentionsAccessibility_of_isInfix
  rcases Construct.isPresent_iff.mp h with
    ⟨part, hpart, blanks, -, rfl⟩ | ⟨first, second, -, -, hpart⟩
  · refine List.IsInfix.trans ⟨['.'], "Label".toList ++ blanks ++ "(".toList, ?_⟩ hpart
    simp
  · refine List.IsInfix.trans ⟨['.'], first ++ "(".toList ++ second ++ "label:".toList, ?_⟩ hpart
    simp

/-- Every action mentions it. -/
theorem Signal.mentionsAccessibility_of_action {text : List Char} (limit : Nat)
    (h : (Signal.present .accessibilityAction).holds limit text = true) :
    Signal.mentionsAccessibility.holds limit text = true := by
  apply Signal.mentionsAccessibility_of_isInfix
  have haction : ".accessibilityAction(".toList <:+: text := Construct.isPresent_iff.mp h
  refine List.IsInfix.trans ⟨['.'], "Action(".toList, ?_⟩ haction
  simp

/-! ## Insertions -/

/-- A label is a label wherever it stands. -/
theorem label_holds_insert {label : List Char}
    (h : Construct.accessibilityLabel.isPresent label = true) (limit : Nat)
    (front back : List Char) :
    (Signal.present .accessibilityLabel).holds limit (front ++ label ++ back) = true := by
  have hedges : ∀ pieces ∈ Construct.accessibilityLabel.pattern, Piece.edge ∉ pieces := by decide
  exact Pattern.occurs_of_isInfix hedges ⟨front, back, rfl⟩ h

theorem action_holds_insert (limit : Nat) (front back : List Char) :
    (Signal.present .accessibilityAction).holds limit
      (front ++ ".accessibilityAction(".toList ++ back) = true :=
  Construct.isPresent_iff.mpr ⟨front, back, rfl⟩

theorem hasElement_insert {front blanks : List Char} (name : String)
    (hfront : EndsOutsideWord front) (hblanks : IsBlankRun blanks) (back : List Char) :
    HasElement name (front ++ (name.toList ++ blanks ++ "(".toList) ++ back) :=
  ⟨front, _, back, rfl, hfront, blanks, hblanks, rfl⟩

/-- Blanks and a parenthesis end the word before them. -/
theorem beginsOutsideWord_of_isBlankRun {blanks : List Char} (hblanks : IsBlankRun blanks)
    (back : List Char) : BeginsOutsideWord (blanks ++ '(' :: back) := by
  cases blanks with
  | nil =>
      have hparenthesis : isWordChar '(' = false := by decide +kernel
      exact hparenthesis
  | cons c blanks => exact isWordChar_of_isBlank (isBlankRun_cons.mp hblanks).1

/-- An image is a shape too, if no word goes on before it. -/
theorem hasWholeWord_of_image {front blanks : List Char} (hfront : EndsOutsideWord front)
    (hblanks : IsBlankRun blanks) (back : List Char) :
    HasWholeWord ["Image", "SF", "Symbol", "Circle", "Rectangle", "shape"]
      (front ++ ("Image".toList ++ blanks ++ "(".toList) ++ back) := by
  refine ⟨"Image", List.mem_cons_self, front, blanks ++ '(' :: back, ?_, hfront, ?_⟩
  · simp
  · exact beginsOutsideWord_of_isBlankRun hblanks back

/-! ## Silenced checks -/

section Silenced

variable {limit : Nat} {front back : String}

theorem label_silences_checks {label : String}
    (hlabel : Construct.accessibilityLabel.isPresent label.toList = true) :
    Check.unlabeledImages.code ∉ (Scan.ofText (front ++ label ++ back) limit).codes ∧
      Check.unlabeledControls.code ∉ (Scan.ofText (front ++ label ++ back) limit).codes := by
  have hholds : (Signal.present .accessibilityLabel).holds limit
      (front ++ label ++ back).toList = true := by
    rw [String.toList_append, String.toList_append]
    exact label_holds_insert hlabel limit _ _
  constructor
  · exact Scan.code_not_mem_codes List.mem_cons_self hholds
  · apply Scan.code_not_mem_codes List.mem_cons_self
    exact Signal.mentionsAccessibility_of_label limit hholds

theorem action_silences_checks :
    Check.inaccessibleGestures.code ∉
        (Scan.ofText (front ++ ".accessibilityAction(" ++ back) limit).codes ∧
      Check.unlabeledControls.code ∉
        (Scan.ofText (front ++ ".accessibilityAction(" ++ back) limit).codes := by
  have hholds : (Signal.present .accessibilityAction).holds limit
      (front ++ ".accessibilityAction(" ++ back).toList = true := by
    rw [String.toList_append, String.toList_append]
    exact action_holds_insert limit _ _
  constructor
  · exact Scan.code_not_mem_codes List.mem_cons_self hholds
  · apply Scan.code_not_mem_codes List.mem_cons_self
    exact Signal.mentionsAccessibility_of_action limit hholds

theorem element_silences_check {name blanks : String} {construct : Construct}
    (hmem : Signal.present construct ∈ Check.noTextContent.suppressors)
    (hname : ∀ text, HasElement name text → construct.isPresent text = true)
    (hfront : EndsOutsideWord front.toList) (hblanks : IsBlankRun blanks.toList) :
    Check.noTextContent.code ∉
      (Scan.ofText (front ++ (name ++ blanks ++ "(") ++ back) limit).codes := by
  apply Scan.code_not_mem_codes hmem
  apply hname
  simp only [String.toList_append]
  exact hasElement_insert name hfront hblanks _

/-- A shape silences the check on colors, as a word of its own. -/
theorem shape_silences_check {text : String}
    (h : HasWholeWord ["Image", "SF", "Symbol", "Circle", "Rectangle", "shape"] text.toList) :
    Check.colorOnlyInformation.code ∉ (Scan.ofText text limit).codes := by
  have hholds : (Signal.present .shapeOrIcon).holds limit text.toList = true :=
    Construct.isPresent_iff.mpr h
  exact Scan.code_not_mem_codes List.mem_cons_self hholds

/-- Where a button is reported nothing mentions accessibility, so nothing can
silence the checks on images and gestures either. -/
theorem reported_control {text : String}
    (hbutton : Check.unlabeledControls.code ∈ (Scan.ofText text limit).codes) :
    (Check.unlabeledImages.code ∈ (Scan.ofText text limit).codes ↔
        Construct.imageInstantiation.isPresent text.toList = true) ∧
      (Check.inaccessibleGestures.code ∈ (Scan.ofText text limit).codes ↔
        Construct.customGesture.isPresent text.toList = true) := by
  have hmention : ¬ Signal.mentionsAccessibility.holds limit text.toList = true :=
    fun hholds => Scan.code_not_mem_codes List.mem_cons_self hholds hbutton
  constructor
  · apply Scan.code_mem_codes_iff_of_not_holds rfl
    exact fun hlabel => hmention (Signal.mentionsAccessibility_of_label limit hlabel)
  · apply Scan.code_mem_codes_iff_of_not_holds rfl
    exact fun haction => hmention (Signal.mentionsAccessibility_of_action limit haction)

end Silenced

/-- A remedy silences its checks wherever it is inserted into a text: a label
those on images and buttons, an action those on gestures and buttons; a text
element and a shape theirs, as long as they stand as words of their own. So if
a button is reported, images and gestures are reported whenever there are any. -/
theorem remedies_silence_checks (limit : Nat) :
    (∀ front back : String,
      let codes (remedy : String) : List String :=
        (Scan.ofText (front ++ remedy ++ back) limit).codes
      (∀ label : String, Construct.accessibilityLabel.isPresent label.toList = true →
        "image_missing_label" ∉ codes label ∧ "button_missing_accessibility" ∉ codes label) ∧
      ("gesture_missing_action" ∉ codes ".accessibilityAction(" ∧
        "button_missing_accessibility" ∉ codes ".accessibilityAction(") ∧
      (EndsOutsideWord front.toList → ∀ blanks : String, IsBlankRun blanks.toList →
        "view_without_text" ∉ codes ("Text" ++ blanks ++ "(") ∧
        "view_without_text" ∉ codes ("Label" ++ blanks ++ "(") ∧
        "color_without_indicator" ∉ codes ("Image" ++ blanks ++ "(")) ∧
      (EndsOutsideWord front.toList → BeginsOutsideWord back.toList →
        ∀ word ∈ ["Image", "SF", "Symbol", "Circle", "Rectangle", "shape"],
          "color_without_indicator" ∉ codes word)) ∧
    ∀ text : String, "button_missing_accessibility" ∈ (Scan.ofText text limit).codes →
      ("image_missing_label" ∈ (Scan.ofText text limit).codes ↔
        Construct.imageInstantiation.isPresent text.toList = true) ∧
      ("gesture_missing_action" ∈ (Scan.ofText text limit).codes ↔
        Construct.customGesture.isPresent text.toList = true) := by
  refine ⟨fun front back => ⟨fun label hlabel => label_silences_checks hlabel,
    action_silences_checks, fun hfront blanks hblanks => ⟨?_, ?_, ?_⟩,
    fun hfront hback word hword => ?_⟩, fun text hbutton => reported_control hbutton⟩
  · exact element_silences_check List.mem_cons_self
      (fun _ htext => Construct.isPresent_iff.mpr htext) hfront hblanks
  · exact element_silences_check (List.mem_cons_of_mem _ List.mem_cons_self)
      (fun _ hlabel => Construct.isPresent_iff.mpr hlabel) hfront hblanks
  · apply shape_silences_check
    simp only [String.toList_append]
    exact hasWholeWord_of_image hfront hblanks _
  · apply shape_silences_check
    rw [String.toList_append, String.toList_append]
    exact ⟨word, hword, _, _, rfl, hfront, hback⟩

/-- Five findings, each silenced by a remedy in the middle of the text. A label
is no `Label`: a word goes on before it. -/
theorem inserted_remedies_silence_checks :
    let front := "UIImage(x).onTapGesture(close) + tint(color: "
    let back := ") + Button (y)"
    let label := ".accessibility (\n label:"
    let codes (remedy : String) : List String := (Scan.ofText (front ++ remedy ++ back) 10).codes
    codes "" = ["image_missing_label", "view_without_text", "button_missing_accessibility",
      "gesture_missing_action", "color_without_indicator"] ∧
    EndsOutsideWord front.toList ∧ BeginsOutsideWord back.toList ∧
    (Construct.accessibilityLabel.isPresent label.toList = true ∧
      "image_missing_label" ∉ codes label ∧ "button_missing_accessibility" ∉ codes label) ∧
    (IsBlankRun "\u3000".toList ∧ "view_without_text" ∉ codes ("Text" ++ "\u3000" ++ "(") ∧
      "view_without_text" ∉ codes ("Label" ++ "\u3000" ++ "(") ∧
      "color_without_indicator" ∉ codes ("Image" ++ "\u3000" ++ "(")) ∧
    "color_without_indicator" ∉ codes "SF" ∧
    ("image_missing_label" ∈ (Scan.ofText (front ++ "" ++ back) 10).codes ↔
      Construct.imageInstantiation.isPresent (front ++ "" ++ back).toList = true) ∧
    "view_without_text" ∈ codes ".accessibilityLabel(" := by
  intro front back label codes
  have hcodes : codes "" = ["image_missing_label", "view_without_text",
      "button_missing_accessibility", "gesture_missing_action", "color_without_indicator"] := by
    decide +kernel
  have hfront : EndsOutsideWord front.toList := by
    unfold EndsOutsideWord
    decide +kernel
  have hback : BeginsOutsideWord back.toList := by decide +kernel
  have hlabel : Construct.accessibilityLabel.isPresent label.toList = true := by decide +kernel
  have hblanks : IsBlankRun "\u3000".toList := by decide +kernel
  obtain ⟨hremedies, hbutton⟩ := remedies_silence_checks 10
  obtain ⟨hlabels, -, helements, hshapes⟩ := hremedies front back
  have hreported : "button_missing_accessibility" ∈ codes "" := by
    rw [hcodes]
    decide
  refine ⟨hcodes, hfront, hback, ⟨hlabel, hlabels label hlabel⟩,
    ⟨hblanks, helements hfront "\u3000" hblanks⟩, hshapes hfront hback "SF" (by decide),
    (hbutton _ hreported).1, ?_⟩
  decide +kernel

end ViewAudit
