import ViewAudit.Guide.Topic
import ViewAudit.Proofs.Text.Search

/-!
The topics of a text. A topic is chosen exactly if one of its keywords stands in
the text itself, in any case. The search goes through a copy in lower case, which
may have other characters than the text and more of them; this does not show.
Two of the keywords only repeat what a shorter one says.
-/

namespace ViewAudit

/-- Whether consecutive characters of a text are equal to a word, letter by
letter and up to ASCII case. A Kelvin sign stands for a `k` too. -/
def HasKeyword (text : List Char) (word : String) : Prop :=
  ∃ window, window <:+: text ∧ window.map foldCase = word.toList

theorem hasKeyword_iff_map {text : List Char} {word : String} :
    HasKeyword text word ↔ word.toList <:+: text.map foldCase := by
  rw [List.infix_map_iff]
  exact exists_congr fun window => and_congr_right fun _ => eq_comm

/-- Where a word is, every beginning of the word is. -/
theorem HasKeyword.of_isPrefix {text : List Char} {word longer : String}
    (h : HasKeyword text longer) (hstart : word.toList <+: longer.toList) :
    HasKeyword text word := by
  rw [hasKeyword_iff_map] at h ⊢
  exact hstart.isInfix.trans h

theorem occursIn_lowerText_iff_hasKeyword {word : String} (hword : IsSearchWord word.toList)
    {text : List Char} : occursIn word.toList (lowerText text) = true ↔ HasKeyword text word :=
  hword.occursIn_lowerText_iff text

/-! ## Letters -/

theorem toLower_eq_kelvin_iff {c : Char} : c.toLower = '\u212a' ↔ c = '\u212a' := by
  constructor
  · intro h
    by_cases hascii : c.toNat < 0x80
    · exact absurd h (forall_ascii (P := (·.toLower ≠ '\u212a')) (by decide) hascii)
    · rwa [toLower_eq_self (Nat.not_lt.mp hascii)] at h
  · rintro rfl
    rfl

/-- What a character stands for does not depend on its case. -/
theorem foldCase_eq (c : Char) :
    foldCase c = if c.toLower = '\u212a' then 'k' else c.toLower := by
  simp only [foldCase, toLower_eq_kelvin_iff]

theorem map_foldCase_eq_of_map_toLower_eq {first second : List Char}
    (h : first.map Char.toLower = second.map Char.toLower) :
    first.map foldCase = second.map foldCase := by
  let fold (c : Char) : Char := if c = '\u212a' then 'k' else c
  have hfold (text : List Char) : text.map foldCase = (text.map Char.toLower).map fold := by
    rw [List.map_map]
    exact List.map_congr_left fun c _ => foldCase_eq c
  rw [hfold, hfold, h]

/-! ## Topics -/

namespace Topic

/-- The keywords that decide on a topic. -/
def decisiveKeywords : Topic → List String
  | navigation => ["navigation", "tabview"]
  | actions => ["button", "action", "tap", "gesture", "onclick"]

/-- Whether a text has a keyword of a topic. -/
def IsSubjectOf (text : List Char) (topic : Topic) : Prop :=
  ∃ word ∈ topic.decisiveKeywords, HasKeyword text word

theorem isSearchWord_of_mem_keywords {topic : Topic} {word : String}
    (h : word ∈ topic.keywords) : IsSearchWord word.toList := by
  have hall : ∀ word ∈ topic.keywords, IsSearchWord word.toList := by
    cases topic
    · decide
    · decide
  exact hall word h

/-- Every keyword begins with a decisive one. -/
theorem exists_decisive_isPrefix {topic : Topic} {word : String} (h : word ∈ topic.keywords) :
    ∃ decisive ∈ topic.decisiveKeywords, decisive.toList <+: word.toList := by
  have hall : ∀ word ∈ topic.keywords,
      ∃ decisive ∈ topic.decisiveKeywords, decisive.toList <+: word.toList := by
    cases topic
    · decide
    · decide
  exact hall word h

/-- A search for keywords finds a topic exactly if the text is about it, as long
as the search is for the decisive keywords, with others of the topic or
without them. -/
theorem any_occursIn_iff {topic : Topic} {words : List String}
    (hdecisive : topic.decisiveKeywords ⊆ words) (hwords : words ⊆ topic.keywords)
    {text : List Char} :
    (words.any fun word => occursIn word.toList (lowerText text)) = true ↔
      topic.IsSubjectOf text := by
  rw [List.any_eq_true]
  constructor
  · rintro ⟨word, hmem, hoccurs⟩
    have hkeyword := hwords hmem
    rw [occursIn_lowerText_iff_hasKeyword (isSearchWord_of_mem_keywords hkeyword)] at hoccurs
    obtain ⟨decisive, hdecisive, hstart⟩ := exists_decisive_isPrefix hkeyword
    exact ⟨decisive, hdecisive, hoccurs.of_isPrefix hstart⟩
  · rintro ⟨word, hmem, hhas⟩
    have hsearch := isSearchWord_of_mem_keywords (hwords (hdecisive hmem))
    exact ⟨word, hdecisive hmem, (occursIn_lowerText_iff_hasKeyword hsearch).mpr hhas⟩

theorem decisiveKeywords_subset (topic : Topic) : topic.decisiveKeywords ⊆ topic.keywords := by
  cases topic
  · decide
  · decide

theorem matchesText_iff {topic : Topic} {text : List Char} :
    topic.matchesText text = true ↔ topic.IsSubjectOf text :=
  any_occursIn_iff topic.decisiveKeywords_subset (List.Subset.refl _)

instance (text : List Char) (topic : Topic) : Decidable (topic.IsSubjectOf text) :=
  decidable_of_iff _ matchesText_iff

end Topic

namespace TopicMatch

/-- The topics that a test accepts, or all of them if it accepts none. -/
def ofTest (test : Topic → Bool) : TopicMatch :=
  match Topic.all.filter test with
  | [] => ⟨Topic.all, true⟩
  | topics => ⟨topics, false⟩

theorem ofText_eq_ofTest (text : String) :
    ofText text = ofTest (·.matchesText text.toList) := rfl

theorem ofTest_congr {test other : Topic → Bool}
    (h : ∀ topic, test topic = true ↔ other topic = true) : ofTest test = ofTest other := by
  have heq : test = other := by
    funext topic
    exact Bool.eq_iff_iff.mpr (h topic)
  rw [heq]

theorem ofText_eq_ofText {first second : String}
    (h : ∀ topic : Topic, topic.IsSubjectOf first.toList ↔ topic.IsSubjectOf second.toList) :
    ofText first = ofText second := by
  rw [ofText_eq_ofTest, ofText_eq_ofTest]
  apply ofTest_congr
  intro topic
  rw [Topic.matchesText_iff, Topic.matchesText_iff, h]

theorem filter_matchesText (text : List Char) :
    Topic.all.filter (·.matchesText text) =
      (if Topic.navigation.IsSubjectOf text then [.navigation] else []) ++
        if Topic.actions.IsSubjectOf text then [.actions] else [] := by
  rw [Topic.all, List.filter_cons, List.filter_cons, List.filter_nil]
  simp only [Topic.matchesText_iff]
  split
  · rfl
  · rfl

theorem ofText_of_isSubjectOf {text : String} {topic : Topic}
    (h : topic.IsSubjectOf text.toList) :
    ofText text = ⟨Topic.all.filter (·.matchesText text.toList), false⟩ := by
  have hmem : topic ∈ Topic.all.filter (·.matchesText text.toList) := by
    rw [List.mem_filter]
    exact ⟨by cases topic <;> decide, Topic.matchesText_iff.mpr h⟩
  rw [ofText]
  split
  · rename_i hnil
    rw [hnil] at hmem
    cases hmem
  · rfl

theorem ofText_of_not_isSubjectOf {text : String}
    (h : ∀ topic : Topic, ¬ topic.IsSubjectOf text.toList) :
    ofText text = ⟨Topic.all, true⟩ := by
  have hnil : Topic.all.filter (·.matchesText text.toList) = [] := by
    rw [List.filter_eq_nil_iff]
    intro topic _ hmatches
    exact h topic (Topic.matchesText_iff.mp hmatches)
  rw [ofText, hnil]

theorem topics_ofText_ne_nil (text : String) : (ofText text).topics ≠ [] := by
  rw [ofText]
  split
  · decide
  · assumption

theorem topics_ofText_sublist (text : String) : (ofText text).topics.Sublist Topic.all := by
  rw [ofText]
  split
  · exact List.Sublist.refl _
  · exact List.filter_sublist

/-- The topics of a text are those of which it has a keyword, in any case and in
the order of the topics; without any keyword it is general and has all of them.
Neither the way in which the text is put into lower case nor the keywords
`navigationlink` and `navigationstack` make a difference, nor does the case of
ASCII letters. -/
theorem topics_are_those_with_keywords :
    (∀ text : String,
      (Topic.navigation.IsSubjectOf text.toList ∨ Topic.actions.IsSubjectOf text.toList →
        ofText text =
          ⟨(if Topic.navigation.IsSubjectOf text.toList then [.navigation] else []) ++
            (if Topic.actions.IsSubjectOf text.toList then [.actions] else []), false⟩) ∧
      (¬ Topic.navigation.IsSubjectOf text.toList ∧ ¬ Topic.actions.IsSubjectOf text.toList →
        ofText text = ⟨[.navigation, .actions], true⟩) ∧
      (ofText text).topics ≠ [] ∧ (ofText text).topics.Nodup ∧
      (ofText text).topics.Sublist [.navigation, .actions]) ∧
    (∀ (casing : LowerCasing) (dropped : List String),
      dropped ⊆ ["navigationlink", "navigationstack"] → ∀ text : String,
        ofText text = ofTest fun topic =>
          (topic.keywords.filter (· ∉ dropped)).any fun word =>
            occursIn word.toList (casing.lower text.toList)) ∧
    (∀ first second : String, first.toList.map Char.toLower = second.toList.map Char.toLower →
      ofText first = ofText second) := by
  refine ⟨?_, ?_, ?_⟩
  · intro text
    have hsublist := topics_ofText_sublist text
    have hall : Topic.all.Nodup := by decide
    refine ⟨?_, ?_, topics_ofText_ne_nil text, hall.sublist hsublist, hsublist⟩
    · intro hsubject
      rw [← filter_matchesText]
      rcases hsubject with h | h
      · exact ofText_of_isSubjectOf h
      · exact ofText_of_isSubjectOf h
    · rintro ⟨hnavigation, hactions⟩
      apply ofText_of_not_isSubjectOf
      intro topic
      cases topic with
      | navigation => exact hnavigation
      | actions => exact hactions
  · intro casing dropped hdropped text
    rw [ofText_eq_ofTest]
    apply ofTest_congr
    intro topic
    let words := topic.keywords.filter (· ∉ dropped)
    have hwords : words ⊆ topic.keywords := List.filter_sublist.subset
    have hascii : ∀ word ∈ words, IsAsciiWord word.toList := by
      intro word hmem
      exact (Topic.isSearchWord_of_mem_keywords (hwords hmem)).ascii
    have hdecisive : topic.decisiveKeywords ⊆ words := by
      intro word hmem
      rw [List.mem_filter, decide_eq_true_eq]
      refine ⟨topic.decisiveKeywords_subset hmem, fun hin => ?_⟩
      have hlonger := hdropped hin
      have hapart : ∀ word ∈ topic.decisiveKeywords,
          word ∉ ["navigationlink", "navigationstack"] := by
        cases topic
        · decide
        · decide
      exact hapart word hmem hlonger
    rw [Topic.matchesText_iff, casing.any_occursIn_lower hascii,
      Topic.any_occursIn_iff hdecisive hwords]
  · intro first second h
    apply ofText_eq_ofText
    intro topic
    have hfold := map_foldCase_eq_of_map_toLower_eq h
    simp only [Topic.IsSubjectOf, hasKeyword_iff_map, hfold]

/-- The last letter of a keyword may be a Kelvin sign, but a dotted capital is
no `i`; and a capital sigma in front is lowered as at the end of a word. -/
theorem kelvin_sign_ends_keyword :
    let casing := LowerCasing.withFinalSigma fun before _ => !before.isEmpty
    ofText "NAVIGAT\u0130ON onClic\u212a" = ⟨[.actions], false⟩ ∧
      ofText "\u03a3\u03a3" = ⟨[.navigation, .actions], true⟩ ∧
      ofText "\u03a3NavigationLink" = (ofTest fun topic =>
        (topic.keywords.filter (· ∉ ["navigationlink"])).any fun word =>
          occursIn word.toList (casing.lower "\u03a3NavigationLink".toList)) ∧
      ofText "NavigationLink" = ofText "NAVIGATIONLINK" := by
  intro casing
  obtain ⟨htopics, hdropped, hcase⟩ := topics_are_those_with_keywords
  obtain ⟨hfound, -⟩ := htopics "NAVIGAT\u0130ON onClic\u212a"
  obtain ⟨-, hgeneral, -⟩ := htopics "\u03a3\u03a3"
  exact ⟨hfound (by decide), hgeneral (by decide), hdropped casing _ (by decide) _,
    hcase _ _ (by decide)⟩

end TopicMatch

end ViewAudit
