import ViewAudit.Guide.Sample
import ViewAudit.Proofs.Guide.Loading
import ViewAudit.Report.Basic

/-!
What advice depends on. Of all that is in a directory of guides, only the files
of the guides on the topics of a text have an influence on the advice.
-/

namespace ViewAudit

/-! ## Advice and corpora -/

theorem Advice.topicEntries_congr {corpus other : Corpus} {topic : Topic}
    (h : corpus.get? topic.name = other.get? topic.name) (pointsPerGuide : Nat) :
    topicEntries corpus pointsPerGuide topic = topicEntries other pointsPerGuide topic := by
  rw [topicEntries, topicEntries, h]

theorem Advice.allEntries_congr {corpus other : Corpus} {found : TopicMatch}
    (h : ∀ topic ∈ found.topics, corpus.get? topic.name = other.get? topic.name)
    (pointsPerGuide : Nat) :
    allEntries found corpus pointsPerGuide = allEntries found other pointsPerGuide := by
  have htopics : found.topics.flatMap (topicEntries corpus pointsPerGuide) =
      found.topics.flatMap (topicEntries other pointsPerGuide) := by
    rw [List.flatMap, List.flatMap]
    apply congrArg List.flatten
    apply List.map_congr_left
    intro topic hmem
    exact topicEntries_congr (h topic hmem) pointsPerGuide
  rw [allEntries, allEntries, htopics]

/-- Corpora that agree on the topics of a text give the same advice on it, under
any limits. -/
theorem Advice.ofText_congr {corpus other : Corpus} {text : String}
    (h : ∀ topic ∈ (TopicMatch.ofText text).topics,
      corpus.get? topic.name = other.get? topic.name) (limits : AdviceLimits) :
    Advice.ofText text corpus limits = Advice.ofText text other limits := by
  have hentries := allEntries_congr h limits.pointsPerGuide
  simp only [Advice.ofText, hentries]

/-! ## Advice and files -/

/-- A directory lists the file of a topic, and the file holds a text. -/
def Files.HasTopicGuide (files : Files) (root : String) (topic : Topic) (text : String) : Prop :=
  Utf8.bytes (guideFile topic.name) ∈ (files.list root).getD [] ∧
    files.Holds (joinPath root (guideFile topic.name)) text

instance (files : Files) (root : String) (topic : Topic) (text : String) :
    Decidable (files.HasTopicGuide root topic text) :=
  inferInstanceAs (Decidable (_ ∧ _))

theorem isGuideFile_topic (topic : Topic) : isGuideFile (guideFile topic.name) = true := by
  cases topic with
  | navigation => decide
  | actions => decide

theorem hasTopicGuide_iff {files : Files} {root : String} {topic : Topic} {text : String} :
    files.HasTopicGuide root topic text ↔ files.HasGuide root topic.name text := by
  refine and_congr_left fun _ => ?_
  rw [Files.candidates, mem_candidatesIn]
  exact ⟨fun hmem => ⟨hmem, isGuideFile_topic topic⟩, And.left⟩

/-- Guides are loaded from every directory that has one on some topic. -/
theorem exists_loadGuides_of_hasTopicGuide {files : Files} {root : String} {topic : Topic}
    {text : String} (h : files.HasTopicGuide root topic text) :
    ∃ loaded, loadGuides files root = .ok loaded := by
  obtain ⟨hmem, htext⟩ := hasTopicGuide_iff.mp h
  exact loadGuides_succeeds_iff.mpr ⟨_, hmem, text, htext⟩

/-- Two directories of guides that agree on the guides on the topics of a text
give the same report on it, apart from the names of the guides and the time of
the run. A guide on a topic is what the file of the topic holds, whatever else
is in the directory. -/
theorem unmatched_guides_keep_advice (text : String) (files others : Files)
    (root otherRoot : String) (loaded other : LoadedGuides)
    (hloaded : loadGuides files root = .ok loaded)
    (hother : loadGuides others otherRoot = .ok other) :
    (∀ topic guide, loaded.corpus.get? topic.name = some guide ↔
        files.HasTopicGuide root topic guide) ∧
      (∀ topic guide, other.corpus.get? topic.name = some guide ↔
        others.HasTopicGuide otherRoot topic guide) ∧
      ((∀ topic ∈ (TopicMatch.ofText text).topics,
          loaded.corpus.get? topic.name = other.corpus.get? topic.name) →
        ∀ run later, { AdviceReport.ofText text loaded.corpus run with
            loadedGuides := other.corpus.names, run := later } =
          AdviceReport.ofText text other.corpus later) := by
  refine ⟨?_, ?_, ?_⟩
  · intro topic guide
    rw [hasTopicGuide_iff, get?_eq_some_iff_hasGuide hloaded]
  · intro topic guide
    rw [hasTopicGuide_iff, get?_eq_some_iff_hasGuide hother]
  · intro hsame run later
    have hadvice := Advice.ofText_congr hsame {}
    simp only [AdviceReport.ofText, hadvice]

/-- A directory with the sample guide on actions, another one on navigation, and
much else. -/
def crowdedGuides : FileTree where
  entries := [(Utf8.bytes "g", .directory
    [(Utf8.bytes "actions.md", .file (Utf8.bytes Sample.actionsGuide)),
      (Utf8.bytes ".actions.md", .file (Utf8.bytes "- Hidden")),
      (Utf8.bytes "actions.txt", .file (Utf8.bytes "- Another suffix")),
      (Utf8.bytes "actions.md.md", .file (Utf8.bytes "- Unrelated")),
      (Utf8.bytes "binary.md", .file [0xFF]),
      (Utf8.bytes "more", .directory [(Utf8.bytes "actions.md", .file (Utf8.bytes "- Nested"))]),
      (Utf8.bytes "navigation.md", .file (Utf8.bytes "- Unmatched"))])]

theorem crowded_guides_keep_advice :
    ∃ loaded other, loadGuides Sample.guides.files "." = .ok loaded ∧
      loadGuides crowdedGuides.files "g" = .ok other ∧
      loaded.corpus.get? "navigation" = some Sample.navigationGuide ∧
      other.corpus.get? "navigation" = some "- Unmatched" ∧
      ∀ run later, { AdviceReport.ofText "Button()" loaded.corpus run with
          loadedGuides := other.corpus.names, run := later } =
        AdviceReport.ofText "Button()" other.corpus later := by
  have hactions : Sample.guides.files.HasTopicGuide "." .actions Sample.actionsGuide := by
    decide +kernel
  have hcrowded : crowdedGuides.files.HasTopicGuide "g" .actions Sample.actionsGuide := by
    decide +kernel
  obtain ⟨loaded, hloaded⟩ := exists_loadGuides_of_hasTopicGuide hactions
  obtain ⟨other, hother⟩ := exists_loadGuides_of_hasTopicGuide hcrowded
  obtain ⟨hguide, hotherGuide, hreport⟩ :=
    unmatched_guides_keep_advice "Button()" _ _ _ _ loaded other hloaded hother
  refine ⟨loaded, other, hloaded, hother, ?_, ?_, ?_⟩
  · exact (hguide .navigation _).mpr (by decide +kernel)
  · exact (hotherGuide .navigation _).mpr (by decide +kernel)
  · apply hreport
    have htopics : (TopicMatch.ofText "Button()").topics = [.actions] := by decide
    rw [htopics]
    intro topic hmem
    obtain rfl := List.mem_singleton.mp hmem
    exact ((hguide _ _).mpr hactions).trans ((hotherGuide _ _).mpr hcrowded).symm

end ViewAudit
