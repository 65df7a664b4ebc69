import ViewAudit.Proofs.Guide.Advice
import ViewAudit.Proofs.Guide.Topic
import ViewAudit.Proofs.Scan.Remedy

/-!
Texts with which a user interacts. Whoever finds a button, a gesture or an action in a
text also finds the topic of actions in it, so such a text is never a general one, and
the advice on it comes to the guide on actions unless the limit is used up before.
-/

namespace ViewAudit

/-- Whether a text has a construct that a user interacts with. -/
def IsInteractive (text : List Char) : Prop :=
  ∃ construct ∈ [Construct.buttonInstantiation, .customGesture, .accessibilityAction],
    construct.isPresent text = true

/-! ## Constructs and keywords -/

theorem isInfix_of_isSpaced {first second : String} {part : List Char}
    (h : IsSpaced first second part) : first.toList <:+: part := by
  obtain ⟨blanks, -, rfl⟩ := h
  rw [List.append_assoc]
  exact (List.prefix_append _ _).isInfix

theorem IsInteractive.isSubjectOf {text : List Char} (h : IsInteractive text) :
    Topic.actions.IsSubjectOf text := by
  obtain ⟨construct, hmem, hpresent⟩ := h
  rw [Construct.isPresent_iff] at hpresent
  simp only [List.mem_cons, List.not_mem_nil, or_false] at hmem
  rcases hmem with rfl | rfl | rfl
  · obtain ⟨part, hpart, hspaced⟩ := hpresent
    have hword : "Button".toList <:+: text := (isInfix_of_isSpaced hspaced).trans hpart
    exact ⟨"button", by decide, "Button".toList, hword, by decide⟩
  · rcases hpresent with htap | hgesture
    · have hword : "Tap".toList <:+: ".onTapGesture".toList :=
        ⟨".on".toList, "Gesture".toList, by decide⟩
      exact ⟨"tap", by decide, "Tap".toList, hword.trans htap, by decide⟩
    · have hword : "gesture".toList <:+: ".gesture(".toList :=
        ⟨".".toList, "(".toList, by decide⟩
      exact ⟨"gesture", by decide, "gesture".toList, hword.trans hgesture, by decide⟩
  · have hword : "Action".toList <:+: ".accessibilityAction(".toList :=
      ⟨".accessibility".toList, "(".toList, by decide⟩
    exact ⟨"action", by decide, "Action".toList, hword.trans hpresent, by decide⟩

/-- What a scan has to say on buttons and gestures it says of interactive texts. -/
theorem isInteractive_of_code_mem {text : String} {limit : Nat}
    (h : "button_missing_accessibility" ∈ (Scan.ofText text limit).codes ∨
      "gesture_missing_action" ∈ (Scan.ofText text limit).codes) : IsInteractive text.toList := by
  rcases h with h | h
  · have hfires := (@Scan.code_mem_codes_iff .unlabeledControls text limit).mp h
    exact ⟨.buttonInstantiation, by decide, (Check.fires_eq_true_iff.mp hfires).1⟩
  · have hfires := (@Scan.code_mem_codes_iff .inaccessibleGestures text limit).mp h
    exact ⟨.customGesture, by decide, (Check.fires_eq_true_iff.mp hfires).1⟩

/-! ## Advice on interactive texts -/

namespace Advice

/-- The number of entries on navigation that stand in an advice before those on actions:
a header and the first points of the guide, if the text is about navigation and there is
a guide on it. -/
def navigationLength (text : String) (corpus : Corpus) (limits : AdviceLimits) : Nat :=
  if (TopicMatch.ofText text).contains .navigation then
    match corpus.get? Topic.navigation.name with
    | none => 0
    | some document => 1 + min limits.pointsPerGuide (extractPoints document).length
  else 0

/-- What precedes the entries on actions in the advice on an interactive text. -/
def navigationEntries (text : String) (corpus : Corpus) (limits : AdviceLimits) :
    List AdviceEntry :=
  if Topic.navigation.matchesText text.toList then
    topicEntries corpus limits.pointsPerGuide .navigation
  else []

theorem actions_header_not_mem_topicEntries (corpus : Corpus) (pointsPerGuide : Nat) :
    .guideHeader Topic.actions.name ∉ topicEntries corpus pointsPerGuide .navigation := by
  rw [topicEntries]
  cases corpus.get? Topic.navigation.name with
  | none => exact List.not_mem_nil
  | some document => simp [guideEntries, Topic.name]

variable {text : String}

theorem ofText_of_isSubjectOf_actions (h : Topic.actions.IsSubjectOf text.toList) :
    TopicMatch.ofText text =
      ⟨(if Topic.navigation.matchesText text.toList then [.navigation] else []) ++ [.actions],
        false⟩ := by
  rw [TopicMatch.ofText_of_isSubjectOf h, Topic.all, List.filter_cons, List.filter_cons,
    Topic.matchesText_iff.mpr h]
  cases Topic.navigation.matchesText text.toList <;> rfl

theorem length_navigationEntries (h : Topic.actions.IsSubjectOf text.toList) (corpus : Corpus)
    (limits : AdviceLimits) :
    (navigationEntries text corpus limits).length = navigationLength text corpus limits := by
  rw [navigationEntries, navigationLength, ofText_of_isSubjectOf_actions h]
  cases Topic.navigation.matchesText text.toList with
  | false => rfl
  | true =>
      rw [if_pos rfl, if_pos (by decide), topicEntries]
      cases corpus.get? Topic.navigation.name with
      | none => rfl
      | some document => simp [guideEntries, extractPoints, Nat.add_comm]

theorem allEntries_of_isSubjectOf_actions (h : Topic.actions.IsSubjectOf text.toList)
    (corpus : Corpus) (limits : AdviceLimits) :
    allEntries (TopicMatch.ofText text) corpus limits.pointsPerGuide =
      navigationEntries text corpus limits ++
        topicEntries corpus limits.pointsPerGuide .actions := by
  rw [ofText_of_isSubjectOf_actions h, allEntries, navigationEntries]
  cases Topic.navigation.matchesText text.toList <;> simp

/-- An entry that comes first after others is within a limit if these are fewer. -/
theorem mem_take_iff_of_not_mem {α : Type} {front rest : List α} {entry : α} (h : entry ∉ front)
    (limit : Nat) : entry ∈ (front ++ entry :: rest).take limit ↔ front.length < limit := by
  constructor
  · intro hmem
    by_contra hle
    rw [List.take_append_of_le_length (Nat.not_lt.mp hle)] at hmem
    exact h (List.mem_of_mem_take hmem)
  · intro hlt
    rw [List.mem_take_iff_getElem]
    refine ⟨front.length, by simpa using hlt, ?_⟩
    simp

end Advice

/-- A button, a gesture or an action in a text, and so a warning about the first two,
makes actions a topic of the text. It is not a general one then, and its advice has the
header of the guide on actions, if there is such a guide, exactly if the limit leaves a
place after the entries on navigation. -/
theorem interaction_makes_actions_topic (text : String)
    (h : IsInteractive text.toList ∨ ∃ limit,
      "button_missing_accessibility" ∈ (Scan.ofText text limit).codes ∨
        "gesture_missing_action" ∈ (Scan.ofText text limit).codes) :
    (TopicMatch.ofText text).contains .actions = true ∧
      (TopicMatch.ofText text).isGeneral = false ∧
      ∀ (corpus : Corpus) (limits : AdviceLimits),
        .generalNotice ∉ (Advice.ofText text corpus limits).entries ∧
        ((corpus.get? Topic.actions.name).isSome = true →
          (.guideHeader Topic.actions.name ∈ (Advice.ofText text corpus limits).entries ↔
            Advice.navigationLength text corpus limits < limits.entries)) := by
  have hinteractive : IsInteractive text.toList :=
    h.elim id fun ⟨_, hcode⟩ => isInteractive_of_code_mem hcode
  have hactions := hinteractive.isSubjectOf
  have hfound := Advice.ofText_of_isSubjectOf_actions hactions
  refine ⟨by simp [hfound, TopicMatch.contains], by rw [hfound], fun corpus limits => ⟨?_, ?_⟩⟩
  · intro hmem
    obtain ⟨index, hindex⟩ := List.mem_iff_getElem?.mp hmem
    have hgeneral := ((Advice.isOrderly_ofText text corpus limits).notice_iff index).mp hindex
    rw [Advice.ofText, hfound] at hgeneral
    exact Bool.false_ne_true hgeneral.2.1
  · intro hsome
    obtain ⟨document, hdocument⟩ := Option.isSome_iff_exists.mp hsome
    have hnot : .guideHeader Topic.actions.name ∉ Advice.navigationEntries text corpus limits := by
      rw [Advice.navigationEntries]
      split
      · exact Advice.actions_header_not_mem_topicEntries corpus limits.pointsPerGuide
      · exact List.not_mem_nil
    let points := extractPoints document (some limits.pointsPerGuide)
    have hentries : (Advice.ofText text corpus limits).entries =
        (Advice.navigationEntries text corpus limits ++
          AdviceEntry.guideHeader Topic.actions.name ::
            points.map (AdviceEntry.point Topic.actions.name)).take limits.entries := by
      rw [Advice.ofText, Advice.allEntries_of_isSubjectOf_actions hactions, Advice.topicEntries,
        hdocument]
      rfl
    rw [hentries, Advice.mem_take_iff_of_not_mem hnot, Advice.length_navigationEntries hactions]

/-- A text on both topics with a warning about a button: a guide on navigation without any
points leaves no place for actions among one entry, and one among two. -/
theorem one_entry_has_no_place_for_actions :
    let text := "TabView { Button (x) }"
    let corpus : Corpus := Corpus.ofList [⟨"navigation", ""⟩, ⟨"actions", "- Use verbs."⟩]
    "button_missing_accessibility" ∈ (Scan.ofText text).codes ∧
      .guideHeader "actions" ∉ (Advice.ofText text corpus ⟨3, 1⟩).entries ∧
      .guideHeader "actions" ∈ (Advice.ofText text corpus ⟨3, 2⟩).entries := by
  intro text corpus
  have hcode : "button_missing_accessibility" ∈ (Scan.ofText text).codes := by decide +kernel
  obtain ⟨-, -, hadvice⟩ := interaction_makes_actions_topic text (.inr ⟨_, .inl hcode⟩)
  obtain ⟨-, hone⟩ := hadvice corpus ⟨3, 1⟩
  obtain ⟨-, htwo⟩ := hadvice corpus ⟨3, 2⟩
  refine ⟨hcode, ?_, ?_⟩
  · rw [show "actions" = Topic.actions.name from rfl, hone (by decide +kernel)]
    decide +kernel
  · rw [show "actions" = Topic.actions.name from rfl, htwo (by decide +kernel)]
    decide +kernel

end ViewAudit
